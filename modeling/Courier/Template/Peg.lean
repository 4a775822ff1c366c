import Courier.Template.Grammar

/-!
# Running the grammar

`run` matches a `Pattern` against the input, one character at a time, and returns whether it
matched with the new state. The state keeps, besides the position, the rules that matched (the
tree, in the order the rules started) and the rules tried at the farthest position reached, so
that a failed parse can say what it expected there:

* when a rule fails outside a negative look-ahead, it is noted at the position where it started;
* a rule that matches inside a negative look-ahead is noted as unexpected there;
* a note is kept only for the farthest position: a farther one clears the older notes;
* when the rules tried inside a rule left exactly one note, that note stands for the rule;
  otherwise the notes made inside it are replaced by the rule itself;
* rules inside an atomic rule are never noted and leave nothing in the tree.

Every step spends fuel; `Parse.fuelFor` gives enough for a whole input.
-/

namespace Courier.Template

/-- Whether a pattern is being matched inside a look-ahead, and of which sign. -/
inductive Lookahead where
  | none
  | positive
  | negative
  deriving DecidableEq

/-- Whether blanks are skipped, and whether rules leave a trace. -/
inductive Atomicity where
  | atomic
  | compound
  | nonAtomic
  deriving DecidableEq

/-- A matched rule: its name and the characters `[start, stop)` it covers. -/
structure Token where
  rule : Rule
  start : Nat
  stop : Nat
  deriving Inhabited

/-- The state of a run over an input. -/
structure PegState where
  pos : Nat := 0
  attemptPos : Nat := 0
  expected : Array Rule := #[]
  unexpected : Array Rule := #[]
  lookahead : Lookahead := .none
  atomicity : Atomicity := .nonAtomic
  tokens : Array Token := #[]

/-- Whether `cs` is written at `pos` of the input. -/
def litAt (input : Array Char) (pos : Nat) : List Char → Bool
  | [] => true
  | c :: rest => input[pos]? == some c && litAt input (pos + 1) rest

/-- The blanks a plain context skips between the parts of a sequence. -/
def skipBlanks (input : Array Char) (pos : Nat) : (fuel : Nat) → Nat
  | 0 => pos
  | fuel + 1 =>
    match input[pos]? with
    | some c => if c == ' ' || c == '\t' || c == '\n' || c == '\r' then
        skipBlanks input (pos + 1) fuel else pos
    | none => pos

/-- Skips blanks when the context is plain. -/
def PegState.skip (input : Array Char) (st : PegState) : PegState :=
  if st.atomicity == .nonAtomic then { st with pos := skipBlanks input st.pos input.size }
  else st

/-- Goes back to a position, dropping the tokens added since. -/
def PegState.restore (st : PegState) (pos size : Nat) : PegState :=
  { st with pos := pos, tokens := st.tokens.shrink size }

/-- The number of notes kept at a position. -/
def PegState.notesAt (st : PegState) (pos : Nat) : Nat :=
  if st.attemptPos == pos then st.expected.size + st.unexpected.size else 0

/-- Notes that `r`, started at `pos`, failed (or matched inside a negative look-ahead). The
counts are those of the notes at `pos` when the rule started. -/
def PegState.track (st : PegState) (r : Rule) (pos expectedAt unexpectedAt before : Nat) :
    PegState :=
  if st.atomicity == .atomic then st
  else
    let now := st.notesAt pos
    if now > before && now - before == 1 then st
    else
      let st := if pos == st.attemptPos then
          { st with expected := st.expected.shrink expectedAt,
                    unexpected := st.unexpected.shrink unexpectedAt }
        else st
      let st := if pos > st.attemptPos then
          { st with expected := #[], unexpected := #[], attemptPos := pos }
        else st
      if pos == st.attemptPos then
        if st.lookahead != .negative then { st with expected := st.expected.push r }
        else { st with unexpected := st.unexpected.push r }
      else st

mutual

/-- Matches a pattern at the current position. -/
def run (input : Array Char) : (fuel : Nat) → Pattern → PegState → Bool × PegState
  | 0, _, st => (false, st)
  | fuel + 1, p, st =>
    match p with
    | .lit s =>
      let cs := s.toList
      if litAt input st.pos cs then (true, { st with pos := st.pos + cs.length }) else (false, st)
    | .cls k =>
      match input[st.pos]? with
      | some c => if k.test c then (true, { st with pos := st.pos + 1 }) else (false, st)
      | none => (false, st)
    | .any => if st.pos < input.size then (true, { st with pos := st.pos + 1 }) else (false, st)
    | .atEnd => (st.pos == input.size, st)
    | .call r => runRule input fuel r st
    | .seq a b =>
      let pos := st.pos
      let size := st.tokens.size
      let (ok, st1) := run input fuel a st
      if !ok then (false, st1.restore pos size)
      else
        let (ok2, st2) := run input fuel b (st1.skip input)
        if ok2 then (true, st2) else (false, st2.restore pos size)
    | .alt a b =>
      let (ok, st1) := run input fuel a st
      if ok then (true, st1) else run input fuel b st1
    | .opt a => (true, (run input fuel a st).2)
    | .star a =>
      let (ok, st1) := run input fuel a st
      if ok then (true, repeatRest input fuel a st1) else (true, st1)
    | .plus a =>
      let (ok, st1) := run input fuel a st
      if ok then (true, repeatRest input fuel a st1) else (false, st1)
    | .ahead a => look input fuel true a st
    | .notAhead a => look input fuel false a st

/-- Repeats `skip` then `a` while that matches. -/
def repeatRest (input : Array Char) : (fuel : Nat) → Pattern → PegState → PegState
  | 0, _, st => st
  | fuel + 1, a, st =>
    let pos := st.pos
    let size := st.tokens.size
    let (ok, st1) := run input fuel a (st.skip input)
    if ok then repeatRest input fuel a st1 else st1.restore pos size

/-- A look-ahead: matches `a` without consuming, then keeps or flips the answer. -/
def look (input : Array Char) : (fuel : Nat) → Bool → Pattern → PegState → Bool × PegState
  | 0, _, _, st => (false, st)
  | fuel + 1, positive, a, st =>
    let outer := st.lookahead
    let inner : Lookahead :=
      if positive then (if outer == .negative then .negative else .positive)
      else (if outer == .negative then .positive else .negative)
    let (ok, st1) := run input fuel a { st with lookahead := inner }
    let st1 := { st1 with pos := st.pos, lookahead := outer }
    (if positive then ok else !ok, st1)

/-- Matches a rule, keeping its token and noting its failure. -/
def runRule (input : Array Char) : (fuel : Nat) → Rule → PegState → Bool × PegState
  | 0, _, st => (false, st)
  | fuel + 1, r, st =>
    match r.kind with
    | .compound =>
      let outer := st.atomicity
      let (ok, st1) := ruleCore input fuel r false { st with atomicity := .compound }
      (ok, { st1 with atomicity := outer })
    | .atomic => ruleCore input fuel r true st
    | .plain => ruleCore input fuel r false st

/-- The bookkeeping around a rule's body; `atomic` runs the body in an atomic context. -/
def ruleCore (input : Array Char) : (fuel : Nat) → Rule → Bool → PegState → Bool × PegState
  | 0, _, _, st => (false, st)
  | fuel + 1, r, atomic, st =>
    let start := st.pos
    let (expectedAt, unexpectedAt) :=
      if start == st.attemptPos then (st.expected.size, st.unexpected.size) else (0, 0)
    let keep := st.lookahead == .none && st.atomicity != .atomic
    let slot := st.tokens.size
    let st := if keep then { st with tokens := st.tokens.push ⟨r, start, start⟩ } else st
    let before := st.notesAt start
    let outer := st.atomicity
    let (ok, st1) := run input fuel r.body (if atomic then { st with atomicity := .atomic } else st)
    let st1 := { st1 with atomicity := outer }
    if ok then
      let st1 := if st1.lookahead == .negative then
          st1.track r start expectedAt unexpectedAt before else st1
      let st1 := if keep then { st1 with tokens := st1.tokens.set! slot ⟨r, start, st1.pos⟩ }
        else st1
      (true, st1)
    else
      let st1 := if st1.lookahead != .negative then
          st1.track r start expectedAt unexpectedAt before else st1
      let st1 := if keep then { st1 with tokens := st1.tokens.shrink slot } else st1
      (false, { st1 with pos := start })

end

/-! ### Whole inputs -/

/-- Why a template could not be read: the farthest position reached (in characters) and the rules
expected and not expected there, each sorted by `Rule` order without repeats. -/
structure ParseFailure where
  pos : Nat
  expected : List Rule
  unexpected : List Rule

/-- Sorts rules by their order and drops repeats. -/
def sortRules (rs : Array Rule) : List Rule :=
  let sorted := rs.toList.mergeSort (fun a b => compare a b != .gt)
  sorted.foldr (fun r acc => match acc with
    | r' :: _ => if r == r' then acc else r :: acc
    | [] => [r]) []

/-- Lists rule names as `a`, `a or b`, or `a, b, or c`. -/
def enumerateRules (rs : List Rule) : String :=
  match rs with
  | [] => ""
  | [a] => a.name
  | [a, b] => a.name ++ " or " ++ b.name
  | _ =>
    let names := rs.map Rule.name
    String.intercalate ", " names.dropLast ++ ", or " ++ names.getLast!

/-- The message of a failed parse. -/
def ParseFailure.message (f : ParseFailure) : String :=
  match f.unexpected.isEmpty, f.expected.isEmpty with
  | false, false =>
    "unexpected " ++ enumerateRules f.unexpected ++ "; expected " ++ enumerateRules f.expected
  | false, true => "unexpected " ++ enumerateRules f.unexpected
  | true, false => "expected " ++ enumerateRules f.expected
  | true, true => "unknown parsing error"

/-- Fuel enough for every step of a run over `n` characters. -/
def fuelFor (n : Nat) : Nat := 64 * (n + 16)

/-- Reads a whole template: the tokens of its rules in the order they started, or why not. -/
def parseDocument (input : Array Char) : Except ParseFailure (Array Token) :=
  let (ok, st) := run input (fuelFor input.size) document {}
  if ok then .ok st.tokens
  else .error ⟨st.attemptPos, sortRules st.expected, sortRules st.unexpected⟩

end Courier.Template
