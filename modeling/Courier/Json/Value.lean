/-!
# JSON values

The dynamic values that requests, templates and stored records are made of. A number keeps the
class it was read with: an integer in the range of a signed or unsigned 64-bit word, or a binary64
float. An object is a list of entries kept sorted by key with no key twice, so that writing a
value lists its keys in byte order and a later entry for a key replaces the earlier one.
-/

namespace Courier.Json

/-- A JSON number: an integer (between `-2^63` and `2^64 - 1`) or a binary64 float. -/
inductive Number where
  | int (i : Int)
  | float (f : Float)

/-- A JSON value. Object entries are sorted by key, each key once (see `Value.set`). -/
inductive Value where
  | null
  | bool (b : Bool)
  | num (n : Number)
  | str (s : String)
  | arr (items : List Value)
  | obj (entries : List (String × Value))

instance : Inhabited Value := ⟨.null⟩

/-- A natural number as a JSON integer. -/
def Value.nat (n : Nat) : Value := .num (.int n)

/-! ### Objects as sorted entry lists -/

/-- Puts `v` under `k` in a sorted entry list, replacing an entry with the same key. -/
def setEntry (k : String) (v : Value) : List (String × Value) → List (String × Value)
  | [] => [(k, v)]
  | (k', v') :: rest =>
    if k < k' then (k, v) :: (k', v') :: rest
    else if k = k' then (k, v) :: rest
    else (k', v') :: setEntry k v rest

/-- The entries in sorted order, a later entry for a key winning over an earlier one. -/
def sortEntries (kvs : List (String × Value)) : List (String × Value) :=
  kvs.foldl (fun acc (k, v) => setEntry k v acc) []

/-- An object from entries in any order. -/
def Value.object (kvs : List (String × Value)) : Value := .obj (sortEntries kvs)

/-- The value under a key of an object, if there is one. -/
def Value.get? (v : Value) (k : String) : Option Value :=
  match v with
  | .obj kvs => kvs.lookup k
  | _ => none

/-- The value under a key, `null` when absent or when `v` is no object. -/
def Value.field (v : Value) (k : String) : Value := (v.get? k).getD .null

/-- The text of a string value. -/
def Value.str? : Value → Option String
  | .str s => some s
  | _ => none

/-- The items of an array value. -/
def Value.arr? : Value → Option (List Value)
  | .arr xs => some xs
  | _ => none

/-- The entries of an object value. -/
def Value.obj? : Value → Option (List (String × Value))
  | .obj kvs => some kvs
  | _ => none

/-- The truth value of a boolean value. -/
def Value.bool? : Value → Option Bool
  | .bool b => some b
  | _ => none

/-- Whether the value is an object. -/
def Value.isObject : Value → Bool
  | .obj _ => true
  | _ => false

/-- Whether the value is `null`. -/
def Value.isNull : Value → Bool
  | .null => true
  | _ => false

/-- An option as a value: `none` is `null`. -/
def Value.ofOption {α : Type} (f : α → Value) : Option α → Value
  | some a => f a
  | none => .null

/-- A string option as a value. -/
def Value.optStr (s : Option String) : Value := Value.ofOption Value.str s

/-- A list of strings as an array value. -/
def Value.strs (xs : List String) : Value := .arr (xs.map Value.str)

end Courier.Json
