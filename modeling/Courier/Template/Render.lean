import Courier.Template.Compile
import Courier.Template.Helpers

/-!
# Rendering a template

A compiled template is rendered against a JSON value, writing text into the state. A bare
`{{name}}` that is not a helper writes the value at that path, escaped for HTML unless the tag
has three braces; a name that finds nothing writes nothing. Block helpers choose which bodies to
render and may open a frame (see `Courier.Template.Scope`). `{{#*inline "p"}}` defines a partial
and `{{> p}}` renders one; a partial block renders its own body when no partial has its name.

A failure is placed at the node of the innermost body that has places. Every step spends fuel,
so that partials including each other end in a failure rather than never.
-/

namespace Courier.Template

open Courier.Json

/-- The state of a rendering. -/
structure Scope where
  frames : List Frame := [{}]
  partials : List (String × Body) := []
  partialBlocks : List Body := []
  noEscape : Bool := false
  out : String := ""

/-- Rendering: a state, and failure. -/
abbrev RenderM := StateT Scope (Except RenderError)

/-- Fails with a fault that has no place yet. -/
def fail {α : Type} (f : RenderFault) : RenderM α := throw { fault := f }

/-- Takes the result of a pure step. -/
def liftFault {α : Type} : Except RenderFault α → RenderM α
  | .ok a => pure a
  | .error f => fail f

/-- Writes text. -/
def emit (s : String) : RenderM Unit := modify fun st => { st with out := st.out ++ s }

/-- Writes text, escaped for HTML unless escaping is off. -/
def emitEscaped (s : String) : RenderM Unit := do
  let st ← get
  emit (if st.noEscape then s else htmlEscape s)

/-- Changes the innermost frame. -/
def modifyTop (g : Frame → Frame) : RenderM Unit :=
  modify fun st => { st with frames := match st.frames with
    | f :: rest => g f :: rest
    | [] => [] }

/-- Opens a frame. -/
def pushFrame (f : Frame) : RenderM Unit := modify fun st => { st with frames := f :: st.frames }

/-- Closes the innermost frame. -/
def popFrame : RenderM Unit := modify fun st => { st with frames := st.frames.drop 1 }

/-- The frame a block helper opens for its argument: at its path, or holding its value. -/
def frameFor (p : Scoped) : Frame :=
  match p.path with
  | some path => { basePath := path }
  | none => { baseValue := some p.value }

/-- Moves an `each` frame to the item `rel` of the list at `listPath`, or to the value `v`. -/
def Frame.moveTo (f : Frame) (listPath : Option (List String)) (rel : String) (isFirst : Bool)
    (v : Value) : Frame :=
  match listPath with
  | some path =>
    if isFirst then { f with basePath := path ++ [rel] }
    else { f with basePath := f.basePath.dropLast ++ [rel] }
  | none => { f with baseValue := some v }

/-- Sets the `as |item key|` names of an `each` frame. -/
def Frame.nameItem (f : Frame) (bp : Option BlockParams) (listPath : Option (List String))
    (k v : Value) : Frame :=
  let item : Holder := if listPath.isSome then .path [] else .value v
  match bp with
  | some (.single n) => { f with params := [(n, item)] }
  | some (.pair n m) => { f with params := [(n, item), (m, .value k)] }
  | none => f

/-- The flag a hash argument gives, `false` when absent or not a boolean. -/
def hashFlag (hash : List (String × Scoped)) (key : String) : Bool :=
  match hash.lookup key with
  | some s => match s.value with
    | .bool b => b
    | _ => false
  | none => false

/-- The logging levels `log` accepts, in any case. -/
def logLevels : List String := ["error", "warn", "info", "debug", "trace"]

/-- Gives a failure without a place the given one. -/
def placed {α : Type} (pl : Option Place) (act : RenderM α) : RenderM α :=
  tryCatch act fun e => throw (if e.place.isNone then { e with place := pl } else e)

mutual

/-- Evaluates an argument. -/
def expand (data : Value) : Nat → Arg → RenderM Scoped
  | 0, _ => fail .tooDeep
  | fuel + 1, a =>
    match a with
    | .name s => pure { Scoped.absent with raw := some s }
    | .path p => do
      let st ← get
      let sc ← liftFault (lookupPath data st.frames p)
      pure { sc with raw := some p.raw }
    | .literal v => pure { value := v }
    | .call n ps hs => callValue data fuel n ps hs

/-- The name a call is made by. -/
def callName (data : Value) : Nat → Arg → RenderM String
  | 0, _ => fail .tooDeep
  | fuel + 1, a =>
    match a with
    | .name s => pure s
    | .path p => pure p.raw
    | .literal v => pure v.show
    | .call .. => do pure (← expand data fuel a).value.show

/-- Calls a helper for its value, as inside `( … )`. -/
def callValue (data : Value) : Nat → Arg → List Arg → List (String × Arg) → RenderM Scoped
  | 0, _, _, _ => fail .tooDeep
  | fuel + 1, n, ps, hs => do
    let name ← callName data fuel n
    let params ← ps.mapM (expand data fuel)
    let _ ← hs.mapM fun (_, a) => expand data fuel a
    match valueHelper name params with
    | some r => liftFault r
    | none =>
      if builtinHelpers.contains name then fail .unimplemented else fail (.helperNotFound name)

/-- Renders a body. -/
def renderBody (data : Value) : Nat → Body → RenderM Unit
  | 0, _ => fail .tooDeep
  | fuel + 1, body => do
    for (n, pl) in body do
      placed pl (renderNode data fuel n)

/-- Renders a body if there is one. -/
def renderSome (data : Value) : Nat → Option Body → RenderM Unit
  | 0, _ => fail .tooDeep
  | fuel + 1, some t => renderBody data fuel t
  | _ + 1, none => pure ()

/-- Renders one node. -/
def renderNode (data : Value) : Nat → Node → RenderM Unit
  | 0, _ => fail .tooDeep
  | fuel + 1, node =>
    match node with
    | .text s => emit s
    | .comment _ => pure ()
    | .value call raw => do
      if raw then modify fun st => { st with noEscape := true }
      renderValue data fuel call
      if raw then modify fun st => { st with noEscape := false }
    | .block call body inverse => callHelper data fuel call body inverse
    | .decorator call body => runDecorator data fuel call body
    | .include call body => includePartial data fuel call body

/-- Renders `{{x}}`: a helper call, or the value at a path. -/
def renderValue (data : Value) : Nat → Call → RenderM Unit
  | 0, _ => fail .tooDeep
  | fuel + 1, call => do
    if call.isBare then
      let name ← callName data fuel call.name
      if builtinHelpers.contains name then callHelper data fuel call none none
      else
        let sc ← expand data fuel call.name
        if !sc.missing then emitEscaped sc.value.show
    else callHelper data fuel call none none

/-- Calls a helper with the bodies of its block. -/
def callHelper (data : Value) : Nat → Call → Option Body → Option Body → RenderM Unit
  | 0, _, _, _ => fail .tooDeep
  | fuel + 1, call, body, inverse => do
    let name ← callName data fuel call.name
    let params ← call.params.mapM (expand data fuel)
    let hash ← call.hash.mapM fun (k, a) => do pure (k, ← expand data fuel a)
    match name with
    | "if" | "unless" => do
      let p ← liftFault (need name params 0)
      let v := p.value.truthy (hashFlag hash "includeZero")
      renderSome data fuel (if v == (name == "if") then body else inverse)
    | "each" => do
      let p ← liftFault (need "each" params 0)
      match body with
      | none => pure ()
      | some t =>
        match p.value with
        | .arr items =>
          if !items.isEmpty || inverse.isNone then do
            pushFrame (frameFor p)
            for (v, i) in items.zipIdx do
              modifyTop fun f =>
                ((((f.setVar "first" (.bool (i == 0))).setVar "last" (.bool (i + 1 == items.length))).setVar
                  "index" (.nat i)).moveTo p.path (toString i) (i == 0) v).nameItem call.blockParams
                  p.path (.nat i) v
              renderBody data fuel t
            popFrame
          else renderSome data fuel inverse
        | .obj entries =>
          if !entries.isEmpty || inverse.isNone then do
            pushFrame (frameFor p)
            for ((k, v), i) in entries.zipIdx do
              modifyTop fun f =>
                ((((f.setVar "first" (.bool (i == 0))).setVar "last" (.bool (i + 1 == entries.length))).setVar
                  "key" (.str k)).moveTo p.path k (i == 0) v).nameItem call.blockParams p.path
                  (.str k) v
              renderBody data fuel t
            popFrame
          else renderSome data fuel inverse
        | _ => renderSome data fuel inverse
    | "with" => do
      let p ← liftFault (need "with" params 0)
      if p.value.truthy false then do
        let f := frameFor p
        let f := match call.blockParams with
          | some (.single n) =>
            { f with params := [(n, if p.path.isSome then .path [] else .value p.value)] }
          | _ => f
        pushFrame f
        renderSome data fuel body
        popFrame
      else renderSome data fuel inverse
    | "raw" => renderSome data fuel body
    | "log" =>
      let level := match hash.lookup "level" with
        | some s => match s.value with
          | .str l => l
          | _ => "info"
        | none => "info"
      if logLevels.contains level.toLower then pure () else fail (.logLevel level)
    | _ =>
      match valueHelper name params with
      | some r => do emitEscaped (← liftFault r).value.show
      | none => fail (.helperNotFound name)

/-- Runs a decorator: only `inline`, which defines a partial. -/
def runDecorator (data : Value) : Nat → Call → Option Body → RenderM Unit
  | 0, _, _ => fail .tooDeep
  | fuel + 1, call, body => do
    let name ← callName data fuel call.name
    let params ← call.params.mapM (expand data fuel)
    let _ ← call.hash.mapM fun (_, a) => expand data fuel a
    if name == "inline" then
      let p ← liftFault (need "inline" params 0)
      let key ← match p.value with
        | .str s => pure s
        | _ => fail (.paramKind "String")
      let t ← match body with
        | some t => pure t
        | none => fail .blockRequired
      modify fun st => { st with partials := (key, t) :: st.partials.filter (·.1 != key) }
    else fail (.decoratorNotFound name)

/-- Runs the decorators of a body, as a partial block does before it renders. -/
def runDecorators (data : Value) : Nat → Body → RenderM Unit
  | 0, _ => fail .tooDeep
  | fuel + 1, body => do
    for (n, pl) in body do
      match n with
      | .decorator call b => placed pl (runDecorator data fuel call b)
      | _ => pure ()

/-- Renders a partial: the one defined under its name, or else the block's own body. A path
argument moves the context there; hash arguments are added to the context. -/
def includePartial (data : Value) : Nat → Call → Option Body → RenderM Unit
  | 0, _, _ => fail .tooDeep
  | fuel + 1, call, body => do
    let name ← callName data fuel call.name
    let params ← call.params.mapM (expand data fuel)
    let hash ← call.hash.mapM fun (k, a) => do pure (k, ← expand data fuel a)
    match body with
    | some t => runDecorators data fuel t
    | none => pure ()
    let st ← get
    let defined := if name == "@partial-block" then st.partialBlocks.head?
      else st.partials.lookup name
    match defined <|> body with
    | none => fail (.partialNotFound name)
    | some t => do
      let saved := st.frames
      match params.head? >>= (·.path) with
      | some path => pushFrame { basePath := path }
      | none => pure ()
      if !hash.isEmpty then
        if (params.head? >>= (·.path)).isNone then
          let st ← get
          pushFrame (st.frames.headD {})
        let st ← get
        let here ← liftFault (lookupSteps data st.frames [])
        modifyTop fun f => { f with baseValue := some (mergeObject here.value
          (hash.map fun (k, s) => (k, s.value))) }
      match body with
      | some b => modify fun st => { st with partialBlocks := b :: st.partialBlocks }
      | none => pure ()
      renderBody data fuel t
      let keep := if body.isSome then 1 else 0
      modify fun st => { st with frames := saved, partialBlocks := st.partialBlocks.drop keep }

end

/-- Fuel enough to render a template compiled from `n` characters. -/
def renderFuel (n : Nat) : Nat := 8 * n + 512

/-- Renders a template source against a value: the text, or the message of why not. -/
def renderText (source : String) (data : Value) : Except String String :=
  match compile source with
  | .error e => .error ("Failed to parse template " ++ e.message)
  | .ok body =>
    match (renderBody data (renderFuel source.length) body).run {} with
    | .ok (_, st) => .ok st.out
    | .error e => .error e.message

end Courier.Template
