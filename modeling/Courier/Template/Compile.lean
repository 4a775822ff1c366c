import Courier.Template.Peg
import Courier.Template.Tree
import Courier.Json.Read
import Courier.Text.Blank
import Courier.Text.Escaped

/-!
# Compiling a template

The tokens of a parse, in the order their rules started, are read once from left to right into
a stack of bodies under construction, with the helper and decorator blocks still open.

Two things about blanks are settled here. The grammar skips blanks between tags, so a gap
between the end of one token and the start of the next is put back as text. A block tag, an
`else`, a comment, a decorator or a partial that stands alone on its line is *standalone*: the
blanks before it on its line are dropped (a partial keeps them), and so are the blanks and the
line break after it. A `~` inside a tag drops all the blanks on its side.
-/

namespace Courier.Template

open Courier.Json Courier.Text

/-- Why a template cannot be compiled. -/
inductive TemplateFault where
  | invalidSyntax (message : String)
  | mismatchedHelper (opened closed : String)
  | mismatchedDecorator (opened closed : String)
  | invalidParam (text : String)

/-- The text of a compile fault. -/
def TemplateFault.message : TemplateFault → String
  | .invalidSyntax m => "invalid handlebars syntax: " ++ m
  | .mismatchedHelper o c =>
    "helper " ++ quoteForDiagnostic o ++ " was opened, but " ++ quoteForDiagnostic c ++ " is closing"
  | .mismatchedDecorator o c =>
    "decorator " ++ quoteForDiagnostic o ++ " was opened, but " ++ quoteForDiagnostic c ++
      " is closing"
  | .invalidParam t => "invalid parameter " ++ quoteForDiagnostic t

/-- A compile fault, with its place and the lines of the source around it. -/
structure TemplateError where
  fault : TemplateFault
  frame : Option (Place × String) := none

/-- The text of a compile error: the fault alone, or the fault shown in its source lines. -/
def TemplateError.message (e : TemplateError) : String :=
  match e.frame with
  | some (p, seg) =>
    "Template error: " ++ e.fault.message ++ "\n    --> Template error in \"Unnamed\":" ++
      toString p.line ++ ":" ++ toString p.column ++ "\n     |\n" ++ seg ++ "     |\n" ++
      "     = reason: " ++ e.fault.message ++ "\n"
  | none => e.fault.message

/-! ### Places and source lines -/

/-- Line and column of a character position: a line break is `\n` or `\r\n`, and columns count
characters from 1. -/
def placeFrom (line col : Nat) : List Char → Place
  | [] => ⟨line, col⟩
  | '\r' :: '\n' :: rest => placeFrom (line + 1) 1 rest
  | '\n' :: rest => placeFrom (line + 1) 1 rest
  | _ :: rest => placeFrom line (col + 1) rest

/-- The place of the character at `pos`. -/
def placeOf (src : Array Char) (pos : Nat) : Place := placeFrom 1 1 (src.extract 0 pos).toList

/-- Splits text into lines at `\n`, dropping a `\r` before it and the empty piece after a final
break. -/
def sourceLines (s : String) : List String :=
  if s.isEmpty then [] else
  let pieces := s.splitOn "\n"
  let pieces := if s.endsWith "\n" then pieces.dropLast else pieces
  let n := pieces.length
  (pieces.zipIdx.map fun (p, i) =>
    if i + 1 < n || s.endsWith "\n" then
      (if p.endsWith "\r" then String.ofList p.toList.dropLast else p)
    else p)

/-- A line number right-aligned in four places. -/
def padNumber (n : Nat) : String :=
  let s := toString n
  String.ofList (List.replicate (4 - s.length) ' ') ++ s

/-- The source lines from three before the given line to three after it, each numbered from 0,
with a marker line under the given line: `^` under byte `column`, `-` elsewhere. -/
def sourceFrame (source : String) (line column : Nat) : String :=
  let lines := sourceLines source
  lines.zipIdx.foldl (fun acc (text, n) =>
    if line - 3 ≤ n && n ≤ line + 3 then
      let acc := acc ++ padNumber n ++ " | " ++ text ++ "\n"
      if n + 1 == line then
        let marks := (List.range text.utf8ByteSize).map fun c => if c == column then '^' else '-'
        acc ++ "     |" ++ String.ofList marks ++ "\n"
      else acc
    else acc) ""

/-- An error at a place of the source. -/
def faultAt (source : String) (p : Place) (f : TemplateFault) : TemplateError :=
  { fault := f, frame := some (p, sourceFrame source p.line p.column) }

/-! ### Blanks around tags -/

/-- A space or a tab. -/
def isSpaceTab (c : Char) : Bool := c == ' ' || c == '\t'

/-- A line break character. -/
def isBreakChar (c : Char) : Bool := c == '\n' || c == '\r'

/-- Whether, going back from `i`, only spaces and tabs stand before a line break or the start. -/
def lineClearBefore (src : Array Char) : Nat → Bool
  | 0 => true
  | i + 1 =>
    match src[i]? with
    | some c => if isSpaceTab c then lineClearBefore src i else isBreakChar c
    | none => true

/-- Whether, from `i` on, only spaces and tabs stand before a line break; `atEnd` says what the
end of the source counts as. -/
def lineClearAfter (src : Array Char) (atEnd : Bool) (i : Nat) : (fuel : Nat) → Bool
  | 0 => atEnd
  | fuel + 1 =>
    match src[i]? with
    | some c => if isSpaceTab c then lineClearAfter src atEnd (i + 1) fuel else isBreakChar c
    | none => atEnd

/-- Drops trailing spaces and tabs. -/
def dropTrailingSpaceTab (s : String) : String :=
  String.ofList (s.toList.reverse.dropWhile isSpaceTab).reverse

/-- Drops trailing blanks. -/
def dropTrailingBlanks (s : String) : String :=
  String.ofList (s.toList.reverse.dropWhile isBlank).reverse

/-- Drops leading spaces and tabs, then one line break. -/
def dropLineStart (cs : List Char) : List Char :=
  match cs.dropWhile isSpaceTab with
  | '\r' :: '\n' :: rest => rest
  | '\n' :: rest => rest
  | rest => rest

/-- The text of `[start, stop)` without the escaping backslashes at `escapes`; `trimAll` drops
its leading blanks, `trimLine` its leading spaces and tabs and one line break. -/
def rawString (src : Array Char) (start stop : Nat) (escapes : List Nat)
    (trimAll trimLine : Bool) : String :=
  let cs := (List.range' start (stop - start)).filterMap fun i =>
    if escapes.contains i then none else src[i]?
  if trimAll then String.ofList (trimStart cs)
  else if trimLine then String.ofList (dropLineStart cs)
  else String.ofList cs

/-- The starts of the escape tokens inside `[start, stop)`. -/
def escapesWithin (all : Array Token) (start stop : Nat) : List Nat :=
  all.toList.filterMap fun t =>
    if t.rule == .escape && start ≤ t.start && t.stop ≤ stop then some t.start else none

/-! ### Reading calls from tokens -/

/-- A call read from a tag, with its `~` marks. -/
structure Spec where
  call : Call
  omitBefore : Bool := false
  omitAfter : Bool := false

/-- The text a token covers. -/
def tokenText (src : Array Char) (t : Token) : String :=
  String.ofList (src.extract t.start t.stop).toList

/-- Reads the steps of a path from the tokens that end by `limit`. -/
def readSteps (src : Array Char) (limit : Nat) : List Token → List Step × List Token
  | [] => ([], [])
  | t :: rest =>
    if t.stop > limit then ([], t :: rest)
    else
      let (steps, rest') := readSteps src limit rest
      let step : Option Step := match t.rule with
        | .pathRoot => some .root
        | .pathLocal => some .here
        | .pathUp => some .up
        | .pathId | .pathRawId =>
          let s := tokenText src t
          if s == "this" then none else some (.key s)
        | _ => none
      (step.toList ++ steps, rest')

/-- Adds a hash argument; a later one with the same key replaces the earlier. -/
def putHash (k : String) (a : Arg) : List (String × Arg) → List (String × Arg)
  | [] => [(k, a)]
  | (k', a') :: rest => if k == k' then (k, a) :: rest else (k', a') :: putHash k a rest

/-- Reads `as |a b|`: one name, or two when the second ends by `limit`. -/
def readBlockParams (src : Array Char) (limit : Nat) : List Token → Option BlockParams × List Token
  | [] => (none, [])
  | p1 :: rest =>
    match rest with
    | p2 :: rest' =>
      if p2.stop ≤ limit then (some (.pair (tokenText src p1) (tokenText src p2)), rest')
      else (some (.single (tokenText src p1)), rest)
    | [] => (some (.single (tokenText src p1)), [])

/-- Drops a leading `~` token, saying whether there was one. -/
def takeLeadingTilde : List Token → Bool × List Token
  | t :: rest => if t.rule == .leadingTilde then (true, rest) else (false, t :: rest)
  | [] => (false, [])

mutual

/-- Reads the name of a call. -/
def readName (source : String) (src : Array Char) : Nat → List Token →
    Except TemplateError (Arg × List Token)
  | 0, toks => .ok (.name "", toks)
  | _ + 1, [] => .ok (.name "", [])
  | fuel + 1, t :: rest =>
    match t.rule with
    | .identifier | .partialIdentifier | .invertTagItem => .ok (.name (tokenText src t), rest)
    | .reference =>
      let (steps, rest') := readSteps src t.stop rest
      .ok (.path (PathRef.ofSteps (tokenText src t) steps), rest')
    | .subexpression => do
      let (spec, rest') ← readSpec source src fuel t.stop rest
      .ok (.call spec.call.name spec.call.params spec.call.hash, rest')
    | _ => .ok (.name "", rest)

/-- Reads a call from the tokens of a tag that ends at `limit`. -/
def readSpec (source : String) (src : Array Char) : Nat → Nat → List Token →
    Except TemplateError (Spec × List Token)
  | 0, _, toks => .ok ({ call := { name := .name "" } }, toks)
  | fuel + 1, limit, toks => do
    let (omitBefore, toks) := takeLeadingTilde toks
    let (name, toks) ← readName source src fuel toks
    readArgs source src fuel limit toks { call := { name := name }, omitBefore := omitBefore }

/-- Reads the arguments of a call, up to the tokens that end at `limit` or later. -/
def readArgs (source : String) (src : Array Char) : Nat → Nat → List Token → Spec →
    Except TemplateError (Spec × List Token)
  | 0, _, toks, spec => .ok (spec, toks)
  | _ + 1, _, [], spec => .ok (spec, [])
  | fuel + 1, limit, t :: rest, spec =>
    if t.stop < limit then
      match t.rule with
      | .param => do
        let (a, rest') ← readParam source src fuel rest
        readArgs source src fuel limit rest'
          { spec with call := { spec.call with params := spec.call.params ++ [a] } }
      | .hash => do
        match rest with
        | k :: rest1 =>
          let (a, rest') ← readParam source src fuel rest1
          readArgs source src fuel limit rest'
            { spec with call := { spec.call with hash := putHash (tokenText src k) a spec.call.hash } }
        | [] => .ok (spec, [])
      | .blockParam =>
        let (bp, rest') := readBlockParams src t.stop rest
        readArgs source src fuel limit rest' { spec with call := { spec.call with blockParams := bp } }
      | .trailingTilde => readArgs source src fuel limit rest { spec with omitAfter := true }
      | _ => readArgs source src fuel limit rest spec
    else .ok (spec, t :: rest)

/-- Reads one parameter: a path, a literal or a nested call. -/
def readParam (source : String) (src : Array Char) : Nat → List Token →
    Except TemplateError (Arg × List Token)
  | 0, toks => .ok (.name "", toks)
  | _ + 1, [] => .ok (.name "", [])
  | fuel + 1, t0 :: rest0 => do
    let (t, rest) := if t0.rule == .param then
        (match rest0 with
          | t1 :: r => (t1, r)
          | [] => (t0, []))
      else (t0, rest0)
    let (a, rest') ← match t.rule with
      | .reference =>
        let (steps, r) := readSteps src t.stop rest
        (.ok (.path (PathRef.ofSteps (tokenText src t) steps), r) :
          Except TemplateError (Arg × List Token))
      | .literal =>
        match Value.parse (tokenText src t) with
        | .ok v => .ok (.literal v, rest.drop 1)
        | .error _ => .error { fault := .invalidParam (tokenText src t) }
      | .subexpression => do
        let (spec, r) ← readSpec source src fuel t.stop rest
        .ok (.call spec.call.name spec.call.params spec.call.hash, r)
      | _ => .ok (.name "", rest)
    .ok (a, rest'.dropWhile fun n => n.stop ≤ t.stop)

end

/-- Reads the call of an `{{else name …}}` tag, skipping the `else`. -/
def readChainSpec (source : String) (src : Array Char) (fuel limit : Nat) (toks : List Token) :
    Except TemplateError (Spec × List Token) := do
  let (omitBefore, toks) := takeLeadingTilde toks
  let toks := match toks with
    | t :: rest => if t.rule == .invertTagItem then rest else t :: rest
    | [] => []
  let (name, toks) ← readName source src fuel toks
  readArgs source src fuel limit toks { call := { name := name }, omitBefore := omitBefore }

/-! ### Blocks under construction -/

/-- A helper block whose end has not been read: its body, its `else if` branches (latest first)
and its last `else` body. -/
structure OpenHelper where
  call : Call
  place : Place
  main : Option Body := none
  chain : List (Call × Option Body) := []
  elseBody : Option Body := none

/-- Sets the body read before an `else`: the main body, or the latest branch's. -/
def OpenHelper.setBranch (h : OpenHelper) (t : Body) : OpenHelper :=
  match h.chain with
  | (c, _) :: rest => { h with chain := (c, some t) :: rest }
  | [] => { h with main := some t }

/-- Sets the body read before the end tag. -/
def OpenHelper.close (h : OpenHelper) (t : Body) : OpenHelper :=
  match h.chain with
  | (_, some _) :: _ => { h with elseBody := some t }
  | (c, none) :: rest => { h with chain := (c, some t) :: rest }
  | [] => if h.main.isSome then { h with elseBody := some t } else { h with main := some t }

/-- The `else if` branches as nested blocks, each the inverse of the one before. -/
def chainBody : List (Call × Option Body) → Option Body → Option Body
  | [], e => e
  | (c, b) :: rest, e => some [(.block c b (chainBody rest e), none)]

/-- The node of a finished helper block. -/
def OpenHelper.node (h : OpenHelper) : Node :=
  .block h.call h.main (chainBody h.chain.reverse h.elseBody)

/-- A decorator or partial block whose end has not been read. -/
structure OpenDecorator where
  call : Call
  place : Place
  isPartial : Bool

/-- The state of the compiler. -/
structure Builder where
  stack : List (Array (Node × Option Place)) := []
  helpers : List OpenHelper := []
  decorators : List OpenDecorator := []
  omitAfter : Bool := false
  trimLine : Bool := false
  lastEnd : Nat := 0

/-- Adds a node to the innermost body. -/
def Builder.push (b : Builder) (n : Node) (p : Option Place) : Builder :=
  match b.stack with
  | t :: rest => { b with stack := t.push (n, p) :: rest }
  | [] => b

/-- Changes the innermost body's last node when it is text. -/
def Builder.editLastText (b : Builder) (f : String → String) : Builder :=
  match b.stack with
  | t :: rest =>
    match t.back? with
    | some (.text s, p) => { b with stack := t.set! (t.size - 1) (.text (f s), p) :: rest }
    | _ => b
  | [] => b

/-- Takes the innermost body off the stack. -/
def Builder.popBody (b : Builder) : Body × Builder :=
  match b.stack with
  | t :: rest => (t.toList, { b with stack := rest })
  | [] => ([], b)

/-- Applies a tag's `~` marks. -/
def Builder.applyMarks (b : Builder) (spec : Spec) : Builder :=
  let b := if spec.omitBefore then b.editLastText dropTrailingBlanks else b
  { b with omitAfter := spec.omitAfter }

/-- Checks whether the tag `[start, stop)` is standalone; if so, drops the spaces before it on its
line (when `trimIndent`) and has the next text drop the rest of the line. -/
def Builder.standalone (b : Builder) (src : Array Char) (start stop : Nat) (trimIndent : Bool) :
    Builder :=
  if lineClearAfter src true stop (src.size - stop + 1) then
    let clear := lineClearBefore src start
    let b := if trimIndent && clear then b.editLastText dropTrailingSpaceTab else b
    { b with trimLine := start == 0 || clear }
  else { b with trimLine := false }

/-- Whether a token opens a block. -/
def Rule.opensBlock : Rule → Bool
  | .helperBlockStart | .rawBlockStart | .decoratorBlockStart | .partialBlockStart => true
  | _ => false

/-- Whether a token ends a block. -/
def Rule.endsBlock : Rule → Bool
  | .helperBlockEnd | .rawBlockEnd | .decoratorBlockEnd | .partialBlockEnd => true
  | _ => false

/-- The comment text between the marks of a comment tag. -/
def commentText (s : String) (isLong : Bool) : String :=
  if isLong then ((s.dropPrefix "\x7b\x7b!--").toString.dropSuffix "--\x7d\x7d").toString
  else ((s.dropPrefix "\x7b\x7b!").toString.dropSuffix "\x7d\x7d").toString

/-- Ends a block whose end tag named `closing`. -/
def Builder.endBlock (source : String) (b : Builder) (r : Rule) (closing : Arg) (place : Place) :
    Except TemplateError Builder :=
  if r == .helperBlockEnd || r == .rawBlockEnd then
    match b.helpers with
    | h :: hs =>
      if h.call.name.asName? == closing.asName? then
        let (t, b) := b.popBody
        let h := h.close t
        .ok ({ b with helpers := hs }.push h.node (some h.place))
      else .error (faultAt source place
        (.mismatchedHelper (h.call.name.asName?.getD "") (closing.asName?.getD "")))
    | [] => .ok b
  else
    match b.decorators with
    | d :: ds =>
      let (t, b) := b.popBody
      if d.call.name.asName? == closing.asName? then
        let node := if d.isPartial then Node.include d.call (some t) else .decorator d.call (some t)
        .ok ({ b with decorators := ds }.push node (some d.place))
      else .error (faultAt source place
        (.mismatchedDecorator (d.call.name.asName?.getD "") (closing.asName?.getD "")))
    | [] => .ok b

/-- Reads the tokens one by one into the builder. -/
def compileTokens (source : String) (src : Array Char) (all : Array Token) :
    Nat → List Token → Builder → Except TemplateError Body
  | 0, _, b => .ok b.popBody.1
  | _ + 1, [], b => .ok b.popBody.1
  | fuel + 1, t :: rest, b => do
    let prevEnd := b.lastEnd
    let place := placeOf src t.start
    let gap := t.rule != .template && t.start != prevEnd && !b.omitAfter && t.rule != .rawText &&
      t.rule != .rawBlockText
    let b := if gap then
        let s := rawString src prevEnd t.start [] false b.trimLine
        let b := if t.rule == .rawBlockEnd then { b with stack := #[(.text s, some place)] :: b.stack }
          else b.push (.text s) (some place)
        { b with trimLine := false }
      else b
    let (b, rest) ← match t.rule with
      | .template => .ok ({ b with stack := #[] :: b.stack }, rest)
      | .rawText =>
        let start := if t.start != prevEnd then prevEnd else t.start
        let s := rawString src start t.stop (escapesWithin all t.start t.stop) b.omitAfter b.trimLine
        .ok ({ b.push (.text s) (some place) with trimLine := false }, rest)
      | .rawBlockText =>
        let s := rawString src t.start t.stop (escapesWithin all t.start t.stop) b.omitAfter
          b.trimLine
        .ok ({ b with stack := #[(.text s, some place)] :: b.stack }, rest)
      | .invertTag | .invertChainTag => do
        let (spec, rest) ← if t.rule == .invertTag then readSpec source src fuel t.stop rest
          else readChainSpec source src fuel t.stop rest
        let b := (b.applyMarks spec).standalone src t.start t.stop true
        let (body, b) := b.popBody
        match b.helpers with
        | h :: hs =>
          let h := h.setBranch body
          let h := if t.rule == .invertChainTag then { h with chain := (spec.call, none) :: h.chain }
            else h
          .ok ({ b with helpers := h :: hs }, rest)
        | [] => .ok (b, rest)
      | .expression | .htmlExpression => do
        let (spec, rest) ← readSpec source src fuel t.stop rest
        let b := b.applyMarks spec
        .ok (b.push (.value spec.call (t.rule == .htmlExpression)) (some place), rest)
      | .decoratorExpression | .partialExpression => do
        let (spec, rest) ← readSpec source src fuel t.stop rest
        let b := (b.applyMarks spec).standalone src t.start t.stop (t.rule != .partialExpression)
        let node := if t.rule == .partialExpression then Node.include spec.call none
          else .decorator spec.call none
        .ok (b.push node (some place), rest)
      | .comment | .compactComment =>
        let b := b.standalone src t.start t.stop true
        .ok (b.push (.comment (commentText (tokenText src t) (t.rule == .comment))) (some place),
          rest)
      | r =>
        if r.opensBlock then do
          let (spec, rest) ← readSpec source src fuel t.stop rest
          let b := (b.applyMarks spec).standalone src t.start t.stop true
          if r == .helperBlockStart || r == .rawBlockStart then
            .ok ({ b with helpers := { call := spec.call, place := place } :: b.helpers }, rest)
          else
            .ok ({ b with decorators := { call := spec.call, place := place,
                                          isPartial := r == .partialBlockStart } :: b.decorators },
              rest)
        else if r.endsBlock then do
          let (spec, rest) ← readSpec source src fuel t.stop rest
          let b := (b.applyMarks spec).standalone src t.start t.stop true
          let b ← b.endBlock source r spec.call.name place
          .ok (b, rest)
        else .ok (b, rest)
    let b := if t.rule != .template then { b with lastEnd := t.stop } else b
    compileTokens source src all fuel rest b

/-- Compiles a template, or says why it cannot be. -/
def compile (source : String) : Except TemplateError Body :=
  let src := source.toList.toArray
  match parseDocument src with
  | .error f => .error (faultAt source (placeOf src f.pos) (.invalidSyntax f.message))
  | .ok toks =>
    let list := toks.toList.filter fun t => t.rule != .escape
    compileTokens source src toks (list.length + 1) list {}

end Courier.Template
