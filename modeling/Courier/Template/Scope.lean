import Courier.Template.Tree
import Courier.Template.Data

/-!
# Blocks and paths

While a template renders, each block helper that changes the context (`each`, `with`) opens a
frame. A frame says where its context is: a path from the root of the data, or a value of its
own. It also holds the block's variables (`@index`, `@key`, `@first`, `@last`) and the names
given by `as |…|`.

A path is looked up in three ways. A name given by `as |…|` in any open frame is looked up in
what it names. Otherwise a path with `..` steps starts from the frame that many levels out, and
one starting with `@root` starts from the root; any other path starts from the innermost frame.
Stepping into an array needs a number; stepping into anything but an array or an object finds
nothing.
-/

namespace Courier.Template

open Courier.Json

/-- What a block parameter names: a path from the frame's place, or a value. -/
inductive Holder where
  | path (p : List String)
  | value (v : Value)

/-- A frame of the block stack. -/
structure Frame where
  basePath : List String := []
  baseValue : Option Value := none
  vars : List (String × Value) := []
  params : List (String × Holder) := []

/-- Sets a block variable. -/
def Frame.setVar (f : Frame) (k : String) (v : Value) : Frame :=
  { f with vars := (k, v) :: f.vars.filter (·.1 != k) }

/-- An evaluated argument: its value, where in the data it was found, whether it was found at all
(`missing` values read as `null`), and the path it was written as. -/
structure Scoped where
  value : Value := .null
  path : Option (List String) := none
  missing : Bool := false
  raw : Option String := none

/-- An argument that names nothing. -/
def Scoped.absent : Scoped := { missing := true }

/-- Why rendering failed. -/
inductive RenderFault where
  | helperNotFound (name : String)
  | paramMissing (helper : String) (index : Nat)
  | paramNamedMissing (helper param : String)
  | decoratorNotFound (name : String)
  | partialNotFound (name : String)
  | stringIndex (key : String)
  | logLevel (level : String)
  | paramKind (expected : String)
  | blockRequired
  | unimplemented
  | tooDeep

/-- The text of a render fault. -/
def RenderFault.message : RenderFault → String
  | .helperNotFound n => "Helper not found " ++ n
  | .paramMissing h i =>
    "Helper/Decorator " ++ h ++ " param at index " ++ toString i ++ " required but not found"
  | .paramNamedMissing h p =>
    "Helper/Decorator " ++ h ++ " param with name " ++ p ++ " required but not found"
  | .decoratorNotFound n => "Decorator not found " ++ n
  | .partialNotFound n => "Partial not found " ++ n
  | .stringIndex k => "Cannot access array/vector with string index, " ++ k
  | .logLevel l => "Invalid logging level: " ++ l
  | .paramKind t => "Invalid param type, " ++ t ++ " expected"
  | .blockRequired => "Block content required"
  | .unimplemented => "Unimplemented"
  | .tooDeep => "Nested error: templates nested too deeply"

/-- A render fault with the place of the node that failed. -/
structure RenderError where
  fault : RenderFault
  place : Option Place := none

/-- The text of a render error. -/
def RenderError.message (e : RenderError) : String :=
  match e.place with
  | some p => "Error rendering \"Unnamed template\" line " ++ toString p.line ++ ", col " ++
      toString p.column ++ ": " ++ e.fault.message
  | none => e.fault.message

/-! ### Looking up paths -/

/-- Steps into a value by one key. -/
def stepInto (v : Option Value) (key : String) : Except RenderFault (Option Value) :=
  match v with
  | some (.arr items) =>
    match parseIndex key with
    | some i => .ok items[i]?
    | none => .error (.stringIndex key)
  | some (.obj entries) => .ok (entries.lookup key)
  | _ => .ok none

/-- Steps into a value by each key in turn. -/
def walk (v : Option Value) : List String → Except RenderFault (Option Value)
  | [] => .ok v
  | k :: rest => do walk (← stepInto v k) rest

/-- The keys of a path, without its `..`, `@root` and `@` steps. -/
def keysOf (steps : List Step) : List String :=
  steps.filterMap fun
    | .key k => some k
    | _ => none

/-- The innermost frame holding a block parameter, with what it names and the frame's path. -/
def findParam (frames : List Frame) (name : String) : Option (Holder × List String) :=
  frames.findSome? fun f => (f.params.lookup name).map (·, f.basePath)

/-- How a path starts: its number of leading `..` steps, the block parameter its first key
names, and whether it starts at `@root`. -/
def pathStart (frames : List Frame) : List Step → Nat → Nat × Option (Holder × List String) × Bool
  | [], d => (d, none, false)
  | .key n :: _, d => (d, findParam frames n, false)
  | .root :: _, d => (d, none, true)
  | .up :: rest, d => pathStart frames rest (d + 1)
  | .here :: _, d => (d, none, false)

/-- A value found by a path from the root of the data. -/
def fromRoot (data : Value) (path : List String) : Except RenderFault Scoped := do
  match ← walk (some data) path with
  | some v => .ok { value := v, path := some path }
  | none => .ok .absent

/-- A value found inside a value of a frame. -/
def fromValue (v : Value) (keys : List String) : Except RenderFault Scoped := do
  match ← walk (some v) keys with
  | some w => .ok { value := w }
  | none => .ok .absent

/-- Looks up path steps from a frame. -/
def fromFrame (data : Value) (f : Frame) (keys : List String) : Except RenderFault Scoped :=
  match f.baseValue with
  | some v => fromValue v keys
  | none => fromRoot data (f.basePath ++ keys)

/-- Looks up path steps in the data and the open frames. -/
def lookupSteps (data : Value) (frames : List Frame) (steps : List Step) :
    Except RenderFault Scoped :=
  let (depth, param, rooted) := pathStart frames steps 0
  match param with
  | some (.value v, _) => fromValue v (keysOf (steps.drop (depth + 1)))
  | some (.path p, base) => fromRoot data (base ++ p ++ keysOf (steps.drop (depth + 1)))
  | none =>
    let top := frames.headD {}
    if depth > 0 then fromFrame data (frames[depth]?.getD top) (keysOf steps)
    else if rooted then fromRoot data (keysOf steps)
    else fromFrame data top (keysOf steps)

/-- Looks up a path as written. -/
def lookupPath (data : Value) (frames : List Frame) : PathRef → Except RenderFault Scoped
  | .blockVar level name _ =>
    match frames[level]? >>= fun f => f.vars.lookup name with
    | some v => .ok { value := v }
    | none => .ok .absent
  | .steps steps _ => lookupSteps data frames steps

end Courier.Template
