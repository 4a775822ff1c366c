import Courier.Json.Scan
import Courier.Json.Shape
import Courier.Time.Instant

/-!
# Reading JSON text against a shape

`Shape.readText` reads a whole text as data of a shape, and `Value.parse` reads it as any value.
Containers nest at most 127 deep. Objects read as records take each field once, skip the syntax
of unknown fields, and then fill in or report the fields left out; read as maps, a later entry
for a key replaces an earlier one. Arrays read as records take the fields in order.

Every failure carries the path to the part being read: keys, indices, and the name of an
option written as a one-entry object; a failure while looking for a key has an unknown step.
-/

namespace Courier.Json

/-- Expects the colon after an object key. -/
def readColon : Scan Unit := do
  match ← blank with
  | some ':' => advance
  | some _ => failAhead .expectedColon
  | none => failAhead .eofObject

/-- Whether another array item follows; `first` is whether none has been read yet. -/
def hasNextItem (first : Bool) : Scan Bool := do
  let p ← match ← blank with
    | some ']' => return false
    | some ',' => if first then pure (some ',') else do advance; blank
    | some b => if first then pure (some b) else failAhead .expectedListCommaOrEnd
    | none => failAhead .eofList
  match p with
  | some ']' => failAhead .trailingComma
  | some _ => pure true
  | none => failAhead .eofValue

/-- Whether another object key follows; `first` is whether none has been read yet. -/
def hasNextKey (first : Bool) : Scan Bool := do
  let p ← match ← blank with
    | some '}' => return false
    | some ',' => if first then pure (some ',') else do advance; blank
    | some b => if first then pure (some b) else failAhead .expectedObjectCommaOrEnd
    | none => failAhead .eofObject
  match p with
  | some '"' => pure true
  | some '}' => failAhead .trailingComma
  | some _ => failAhead .keyMustBeString
  | none => failAhead .eofValue

/-- Reads the closing bracket of an array. -/
def closeArray : Scan Unit := do
  match ← blank with
  | some ']' => advance
  | some ',' => do
    advance
    match ← blank with
    | some ']' => failAhead .trailingComma
    | _ => failAhead .trailingCharacters
  | some _ => failAhead .trailingCharacters
  | none => failAhead .eofList

/-- Reads the closing brace of an object. -/
def closeObject : Scan Unit := do
  match ← blank with
  | some '}' => advance
  | some ',' => failAhead .trailingComma
  | some _ => failAhead .trailingCharacters
  | none => failAhead .eofObject

/-- Enters a container: fails when `depth` allows no further nesting. -/
def nest {α : Type} (depth : Nat) (body : Nat → Scan α) : Scan α :=
  if depth ≤ 1 then failAhead .recursionLimit else body (depth - 1)

/-- A number as a found item. -/
def Found.ofNumber : Number → Found
  | .int i => if i < 0 then .signed i else .unsigned i.toNat
  | .float f => .float f

/-- Fails because the next item is not what `expected` names; the item is read if it is a
scalar, so that the failure is placed after it. -/
def wrongItem {α : Type} (expected : String) : Scan α := placed do
  let found ← match ← peekChar with
    | some 'n' => do advance; readWord "ull".toList; pure Found.null
    | some 't' => do advance; readWord "rue".toList; pure (Found.bool true)
    | some 'f' => do advance; readWord "alse".toList; pure (Found.bool false)
    | some '-' => do advance; Found.ofNumber <$> readNumber false
    | some '"' => do advance; Found.str <$> readStringBody
    | some '[' => pure Found.seq
    | some '{' => pure Found.map
    | some c => if c.isDigit then Found.ofNumber <$> readNumber true else failAhead .expectedValue
    | none => failAhead .expectedValue
  mismatch (.invalidType found expected)

/-- Skips one value of any kind, checking only its syntax; it has no nesting limit. -/
def skipValue : Scan Unit := do
  -- `open?` is the container just entered, `stack` the enclosing ones, innermost first
  let rec closeAll (acceptComma : Bool) (frame : Char) (stack : List Char) :
      Nat → Scan (Option (Char × List Char))
    | 0 => pure none
    | fuel + 1 => do
      match ← blank with
      | some ',' =>
        if acceptComma then do advance; pure (some (frame, stack))
        else pure (some (frame, stack))
      | some c =>
        if (c == ']' && frame == '[') || (c == '}' && frame == '{') then do
          advance
          match stack with
          | f :: rest => closeAll true f rest fuel
          | [] => pure none
        else if acceptComma then
          failAhead (if frame == '[' then .expectedListCommaOrEnd else .expectedObjectCommaOrEnd)
        else pure (some (frame, stack))
      | none => failAhead (if frame == '[' then .eofList else .eofObject)
  let rec go (enclosing : Option Char) (stack : List Char) : Nat → Scan Unit
    | 0 => pure ()
    | fuel + 1 => do
      let opened ← match ← blank with
        | none => failAhead .eofValue
        | some 'n' => do advance; readWord "ull".toList; pure none
        | some 't' => do advance; readWord "rue".toList; pure none
        | some 'f' => do advance; readWord "alse".toList; pure none
        | some '-' => do advance; skipNumber; pure none
        | some '"' => do advance; skipStringBody; pure none
        | some '[' => do advance; pure (some '[')
        | some '{' => do advance; pure (some '{')
        | some c => if c.isDigit then do skipNumber; pure none else failAhead .expectedValue
      let stack := match opened with
        | some _ => enclosing.toList ++ stack
        | none => stack
      let next ← match opened, enclosing with
        | some f, _ => pure (some (false, f, stack))
        | none, some f => pure (some (true, f, stack))
        | none, none => match stack with
          | f :: rest => pure (some (true, f, rest))
          | [] => pure none
      match next with
      | none => pure ()
      | some (acceptComma, frame, stack) =>
        match ← closeAll acceptComma frame stack (← budget) with
        | none => pure ()
        | some (frame, stack) => do
          if frame == '{' then
            match ← blank with
            | some '"' => advance
            | some _ => failAhead .keyMustBeString
            | none => failAhead .eofObject
            skipStringBody
            readColon
          go (some frame) stack fuel
  go none [] (← budget)

mutual

/-- Reads any value; `depth` bounds the nesting still allowed, `chain` is the path so far. -/
def readAny (fuel depth : Nat) (chain : List Segment) : Scan Value :=
  match fuel with
  | 0 => failHere .recursionLimit
  | fuel + 1 => framed chain <| placed do
    match ← blank with
    | none => failAhead .eofValue
    | some 'n' => do advance; readWord "ull".toList; pure .null
    | some 't' => do advance; readWord "rue".toList; pure (.bool true)
    | some 'f' => do advance; readWord "alse".toList; pure (.bool false)
    | some '-' => do advance; .num <$> readNumber false
    | some '"' => do advance; .str <$> readStringBody
    | some '[' => nest depth fun d => do
      advance
      let r ← attempt (readItems fuel d chain true 0 [])
      let e ← attempt closeArray
      Value.arr <$> settle r e
    | some '{' => nest depth fun d => do
      advance
      let r ← attempt (readMembers fuel d chain true [])
      let e ← attempt closeObject
      Value.obj <$> settle r e
    | some c => if c.isDigit then .num <$> readNumber true else failAhead .expectedValue

/-- Reads the items of an array of any values. -/
def readItems (fuel depth : Nat) (chain : List Segment) (first : Bool) (idx : Nat)
    (acc : List Value) : Scan (List Value) :=
  match fuel with
  | 0 => failHere .recursionLimit
  | fuel + 1 => do
    let more ← framed (.index idx :: chain) (hasNextItem first)
    if !more then return acc.reverse
    let v ← readAny fuel depth (.index idx :: chain)
    readItems fuel depth chain false (idx + 1) (v :: acc)

/-- Reads the entries of an object of any values; a later entry for a key wins. -/
def readMembers (fuel depth : Nat) (chain : List Segment) (first : Bool)
    (acc : List (String × Value)) : Scan (List (String × Value)) :=
  match fuel with
  | 0 => failHere .recursionLimit
  | fuel + 1 => do
    let more ← framed (.unknown :: chain) (hasNextKey first)
    if !more then return acc
    let k ← framed (.unknown :: chain) (do advance; readStringBody)
    let v ← framed (.key k :: chain) (do readColon; readAny fuel depth (.key k :: chain))
    readMembers fuel depth chain false (setEntry k v acc)

end

/-- Reads the name of one of `variants`, or fails. -/
def readVariantName (variants : List String) : Scan String := placed do
  match ← blank with
  | none => failAhead .eofValue
  | some '"' => do
    advance
    let s ← readStringBody
    if variants.contains s then pure s else mismatch (.unknownVariant s variants)
  | some _ => wrongItem "variant identifier"

/-- Reads one of `variants`: its name as a string, or a one-entry object from the name to
`null`. -/
def readChoice (depth : Nat) (chain : List Segment) (variants : List String) : Scan Value := do
  match ← blank with
  | some '{' => nest depth fun _ => do
    advance
    let v ← readVariantName variants
    readColon
    framed (.variant v :: chain) <| placed do
      match ← blank with
      | none => failAhead .eofValue
      | some 'n' => do advance; readWord "ull".toList
      | some _ => wrongItem "unit"
    match ← blank with
    | some '}' => do advance; pure (.str v)
    | some _ => failHere .expectedValue
    | none => failHere .eofObject
  | some '"' => Value.str <$> readVariantName variants
  | some _ => failAhead .expectedValue
  | none => failAhead .eofValue

/-- Checks that a number fits the natural shape bounded by `max` and called `name`. -/
def fitNatural (max : Nat) (name : String) : Number → Scan Value
  | .int i =>
    if i < 0 then mismatch (.invalidValue (.signed i) name)
    else if i.toNat ≤ max then pure (.nat i.toNat)
    else mismatch (.invalidValue (.unsigned i.toNat) name)
  | .float f => mismatch (.invalidType (.float f) name)

mutual

/-- Reads data of a shape; `depth` bounds the nesting still allowed, `chain` is the path. -/
def readShape (fuel depth : Nat) (chain : List Segment) (shape : Shape) : Scan Value :=
  match fuel with
  | 0 => failHere .recursionLimit
  | fuel + 1 =>
    match shape with
    | .any => readAny fuel depth chain
    | .text => framed chain <| placed do
      match ← blank with
      | none => failAhead .eofValue
      | some '"' => do advance; .str <$> readStringBody
      | some _ => wrongItem "a string"
    | .flag => framed chain <| placed do
      match ← blank with
      | none => failAhead .eofValue
      | some 't' => do advance; readWord "rue".toList; pure (.bool true)
      | some 'f' => do advance; readWord "alse".toList; pure (.bool false)
      | some _ => wrongItem "a boolean"
    | .natural max name => framed chain <| placed do
      match ← blank with
      | none => failAhead .eofValue
      | some '-' => do advance; fitNatural max name (← readNumber false)
      | some c => if c.isDigit then do fitNatural max name (← readNumber true) else wrongItem name
    | .optional inner => framed chain do
      match ← blank with
      | some 'n' => do advance; readWord "ull".toList; pure .null
      | _ => readShape fuel depth chain inner
    | .list item => framed chain <| placed do
      match ← blank with
      | none => failAhead .eofValue
      | some '[' => nest depth fun d => do
        advance
        let r ← attempt (readList fuel d chain item true 0 [])
        let e ← attempt closeArray
        Value.arr <$> settle r e
      | some _ => wrongItem "a sequence"
    | .dict item => framed chain <| placed do
      match ← blank with
      | none => failAhead .eofValue
      | some '{' => nest depth fun d => do
        advance
        let r ← attempt (readDict fuel d chain item true [])
        let e ← attempt closeObject
        Value.obj <$> settle r e
      | some _ => wrongItem "a map"
    | .record name fields => framed chain <| placed do
      match ← blank with
      | none => failAhead .eofValue
      | some '[' => nest depth fun d => do
        advance
        let r ← attempt (readFieldsInOrder fuel d chain name fields.length fields 0 [])
        let e ← attempt closeArray
        settle r e
      | some '{' => nest depth fun d => do
        advance
        let r ← attempt (do
          let seen ← readFieldEntries fuel d chain fields true []
          match completeFields fields seen with
          | .ok v => pure v
          | .error missing => mismatch (.missingField missing))
        let e ← attempt closeObject
        settle r e
      | some _ => wrongItem ("struct " ++ name)
    | .choice variants => framed chain (readChoice depth chain variants)
    | .instant => framed chain <| placed do
      match ← blank with
      | none => failAhead .eofValue
      | some '"' => do
        advance
        let s ← readStringBody
        match Time.Instant.parse s with
        | .ok t => pure (.str t.render)
        | .error f => mismatch (.custom f.message)
      | some _ => wrongItem "an RFC 3339 formatted date and time string"

/-- Reads the items of an array of one shape. -/
def readList (fuel depth : Nat) (chain : List Segment) (item : Shape) (first : Bool) (idx : Nat)
    (acc : List Value) : Scan (List Value) :=
  match fuel with
  | 0 => failHere .recursionLimit
  | fuel + 1 => do
    let more ← framed (.index idx :: chain) (hasNextItem first)
    if !more then return acc.reverse
    let v ← readShape fuel depth (.index idx :: chain) item
    readList fuel depth chain item false (idx + 1) (v :: acc)

/-- Reads the entries of a map with items of one shape; a later entry for a key wins. -/
def readDict (fuel depth : Nat) (chain : List Segment) (item : Shape) (first : Bool)
    (acc : List (String × Value)) : Scan (List (String × Value)) :=
  match fuel with
  | 0 => failHere .recursionLimit
  | fuel + 1 => do
    let more ← framed (.unknown :: chain) (hasNextKey first)
    if !more then return acc
    let k ← framed (.unknown :: chain) (do advance; readStringBody)
    let v ← framed (.key k :: chain) (do readColon; readShape fuel depth (.key k :: chain) item)
    readDict fuel depth chain item false (setEntry k v acc)

/-- Reads the entries of an object as the fields of a record: each known field once, unknown
ones skipped. -/
def readFieldEntries (fuel depth : Nat) (chain : List Segment) (fields : List (String × Shape × Bool))
    (first : Bool) (seen : List (String × Value)) : Scan (List (String × Value)) :=
  match fuel with
  | 0 => failHere .recursionLimit
  | fuel + 1 => do
    let more ← framed (.unknown :: chain) (hasNextKey first)
    if !more then return seen
    let k ← framed (.unknown :: chain) (do advance; readStringBody)
    match fields.find? (fun f => f.1 == k) with
    | some (_, s, _) =>
      if (seen.lookup k).isSome then mismatch (.duplicateField k)
      let v ← framed (.key k :: chain) (do readColon; readShape fuel depth (.key k :: chain) s)
      readFieldEntries fuel depth chain fields false ((k, v) :: seen)
    | none => do
      framed (.key k :: chain) (do readColon; skipValue)
      readFieldEntries fuel depth chain fields false seen

/-- Reads the items of an array as the fields of a record, in order; a missing item takes the
field's empty value if it may be left out, and is a length fault otherwise. -/
def readFieldsInOrder (fuel depth : Nat) (chain : List Segment) (name : String) (count : Nat)
    (fields : List (String × Shape × Bool)) (idx : Nat) (acc : List (String × Value)) :
    Scan Value :=
  match fuel with
  | 0 => failHere .recursionLimit
  | fuel + 1 =>
    match fields with
    | [] => pure (Value.object acc)
    | (k, s, hasDefault) :: rest => do
      let more ← framed (.index idx :: chain) (hasNextItem (idx == 0))
      let v ← if more then readShape fuel depth (.index idx :: chain) s
        else if hasDefault then pure s.empty
        else mismatch (.invalidLength idx
          ("struct " ++ name ++ " with " ++ toString count ++ " elements"))
      readFieldsInOrder fuel depth chain name count rest (idx + 1) ((k, v) :: acc)

end

/-- The work bound for reading a text against a shape: every step of a loop reads at least one
character, and every step into a shape goes one level down. -/
def readFuel (text : String) (shape : Shape) : Nat := 2 * (text.length + 2) + 2 * shape.depth + 8

/-- The deepest nesting of containers allowed, plus one. -/
def nestingLimit : Nat := 128

/-- Reads a whole text as data of a shape; only blanks may follow the data. -/
def Shape.readText (shape : Shape) (text : String) : Except ReadError Value :=
  let prog : Scan Value := do
    let v ← readShape (readFuel text shape) nestingLimit [] shape
    match ← blank with
    | some _ => failAhead .trailingCharacters
    | none => pure v
  (prog.run.run (Cursor.ofString text)).1

/-- Reads a whole text as a JSON value. -/
def Value.parse (text : String) : Except ReadError Value := Shape.any.readText text

end Courier.Json
