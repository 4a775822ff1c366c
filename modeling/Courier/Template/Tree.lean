import Courier.Json.Value

/-!
# Compiled templates

A compiled template is a list of nodes, each with the place in the source where it starts (the
nodes of an `else if` branch list have none). Text is kept as it will be written; values,
blocks, decorators and partials keep the call that names them and their arguments.
-/

namespace Courier.Template

open Courier.Json

/-- A step of a path as written: a key, `..`, `@root` or the `@` of a block variable. -/
inductive Step where
  | key (name : String)
  | up
  | root
  | here
  deriving DecidableEq

/-- A path as written in a template, with its text. -/
inductive PathRef where
  /-- `@name`, or `@../name` some blocks up: a variable of a block such as `@index`. -/
  | blockVar (level : Nat) (name : String) (raw : String)
  /-- Steps from the current block, from the root, or from an enclosing block. -/
  | steps (segs : List Step) (raw : String)

/-- The path as written. -/
def PathRef.raw : PathRef → String
  | .blockVar _ _ r => r
  | .steps _ r => r

/-- Counts the `..` steps right after the first step. -/
def countUps : List Step → Nat
  | .up :: rest => countUps rest + 1
  | _ => 0

/-- Reads the steps of a path: `@` followed by `..` steps and a key is a block variable. -/
def PathRef.ofSteps (raw : String) (segs : List Step) : PathRef :=
  match segs with
  | .here :: rest =>
    let level := countUps rest
    match rest.drop level with
    | .key name :: _ => .blockVar level name raw
    | _ => .steps segs raw
  | _ => .steps segs raw

/-- An argument of a call: a bare name, a path, a literal value or a nested call. -/
inductive Arg where
  | name (s : String)
  | path (p : PathRef)
  | literal (v : Value)
  | call (name : Arg) (params : List Arg) (hash : List (String × Arg))

/-- How a call names its subject: its name, or `none` for a nested call. -/
def Arg.asName? : Arg → Option String
  | .name s => some s
  | .path p => some p.raw
  | _ => none

/-- The names given to a block's item (and index or key) by `as |item index|`. -/
inductive BlockParams where
  | single (item : String)
  | pair (item second : String)

/-- A call: a name with parameters, hash arguments and block parameters. -/
structure Call where
  name : Arg
  params : List Arg := []
  hash : List (String × Arg) := []
  blockParams : Option BlockParams := none

/-- Whether a call is a bare name with no arguments. -/
def Call.isBare (c : Call) : Bool := c.params.isEmpty && c.hash.isEmpty

/-- A place in the source: line and column, both from 1. -/
structure Place where
  line : Nat
  column : Nat

/-- A node of a compiled template. -/
inductive Node where
  /-- Text written as is. -/
  | text (s : String)
  /-- `{{x}}`, or `{{{x}}}` (`raw`) whose output is not escaped. -/
  | value (call : Call) (raw : Bool)
  /-- `{{#h}}body{{else}}inverse{{/h}}`. -/
  | block (call : Call) (body : Option (List (Node × Option Place)))
      (inverse : Option (List (Node × Option Place)))
  /-- `{{*d}}` or `{{#*d}}body{{/d}}`. -/
  | decorator (call : Call) (body : Option (List (Node × Option Place)))
  /-- `{{> p}}` or `{{#> p}}body{{/p}}`. -/
  | include (call : Call) (body : Option (List (Node × Option Place)))
  /-- A comment, which writes nothing. -/
  | comment (s : String)

instance : Inhabited Node := ⟨.text ""⟩

/-- A compiled template: its nodes with their places. -/
abbrev Body := List (Node × Option Place)

end Courier.Template
