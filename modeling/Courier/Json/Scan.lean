import Courier.Json.ReadError
import Courier.Decimal.Binary

/-!
# Scanning JSON text

A `Cursor` is the unread rest of a text with the place it starts at; `Scan` reads from it and
may fail with a `ReadError`. A failed scan keeps the cursor where the failure left it, because a
failure found by a reader of data (a missing field, say) is placed where the text stands once the
enclosing object has been closed.

Places follow one convention: a fault found at the current character is reported either at the
bytes read so far (`failHere`) or one byte further (`failAhead`), and the column counts bytes
since the last line break.

This module holds the scanners of the scalar tokens: literal words, strings with their escapes,
and numbers, which are kept as integers while they fit 64 bits and are otherwise converted to
floats by scaling the leading digits with an exact power of ten.
-/

namespace Courier.Json

/-- The unread rest of a text and where it starts. -/
structure Cursor where
  rest : List Char
  index : Nat := 0
  line : Nat := 1
  lineStart : Nat := 0

/-- A cursor at the start of a text. -/
def Cursor.ofString (s : String) : Cursor := { rest := s.toList }

/-- The place after the bytes read so far. -/
def Cursor.here (c : Cursor) : TextPos := ⟨c.line, c.index - c.lineStart⟩

/-- The place one byte after the bytes read so far. -/
def Cursor.ahead (c : Cursor) : TextPos :=
  match c.rest with
  | [] => c.here
  | ch :: _ => if ch == '\n' then ⟨c.line + 1, 0⟩ else ⟨c.line, c.index + 1 - c.lineStart⟩

/-- The cursor after one more character. -/
def Cursor.bump (c : Cursor) : Cursor :=
  match c.rest with
  | [] => c
  | ch :: r =>
    if ch == '\n' then { rest := r, index := c.index + 1, line := c.line + 1, lineStart := c.index + 1 }
    else { c with rest := r, index := c.index + ch.utf8Size }

/-- Whether a character is a JSON blank: space, line feed, tab or carriage return. -/
def isJsonBlank (c : Char) : Bool := c == ' ' || c == '\n' || c == '\t' || c == '\r'

/-- The cursor after the blanks at its start. -/
def Cursor.skipBlank (c : Cursor) : Cursor :=
  let rec go (c : Cursor) : Nat → Cursor
    | 0 => c
    | n + 1 =>
      match c.rest with
      | ch :: _ => if isJsonBlank ch then go c.bump n else c
      | [] => c
  go c c.rest.length

/-- The cursor `n` bytes further, or at the end; it may stop inside a character. -/
def Cursor.advanceBytes (c : Cursor) (n : Nat) : Cursor :=
  let rec go (c : Cursor) (n : Nat) : Nat → Cursor
    | 0 => c
    | fuel + 1 =>
      if n == 0 then c
      else match c.rest with
        | [] => c
        | ch :: r =>
          if ch.utf8Size ≤ n then go c.bump (n - ch.utf8Size) fuel
          else { c with rest := r, index := c.index + n }
  go c n (n + 1)

/-- The cursor at the end of its text. -/
def Cursor.toEnd (c : Cursor) : Cursor :=
  let rec go (c : Cursor) : Nat → Cursor
    | 0 => c
    | n + 1 => go c.bump n
  go c c.rest.length

/-- Reading from a cursor, with failures that keep the cursor. -/
abbrev Scan := ExceptT ReadError (StateM Cursor)

/-- The next character, unread. -/
def peekChar : Scan (Option Char) := return (← get).rest.head?

/-- Reads one character. -/
def advance : Scan Unit := modify Cursor.bump

/-- Reads one character and returns it. -/
def nextChar : Scan (Option Char) := do
  let c ← peekChar
  advance
  return c

/-- Skips blanks and shows the next character. -/
def blank : Scan (Option Char) := do
  modify Cursor.skipBlank
  peekChar

/-- How many characters are left, a bound for loops that read one or more per round. -/
def budget : Scan Nat := return (← get).rest.length + 1

/-- Fails with a syntax fault placed after the bytes read so far. -/
def failHere {α : Type} (f : SyntaxFault) : Scan α := do
  throw { problem := .malformed f, pos := some (← get).here }

/-- Fails with a syntax fault placed one byte further. -/
def failAhead {α : Type} (f : SyntaxFault) : Scan α := do
  throw { problem := .malformed f, pos := some (← get).ahead }

/-- Fails with a data mismatch, placed later by `placed`. -/
def mismatch {α : Type} (p : Problem) : Scan α := throw { problem := p }

/-- Runs a scan and keeps its failure as a value. -/
def attempt {α : Type} (m : Scan α) : Scan (Except ReadError α) :=
  tryCatch (do let a ← m; pure (.ok a)) (fun e => pure (.error e))

/-- Gives a failure without a place the place where the text then stands. -/
def placed {α : Type} (m : Scan α) : Scan α :=
  tryCatch m fun e => do
    if e.pos.isSome then throw e else throw { e with pos := some (← get).here }

/-- Gives a failure without a path the path `chain` (kept innermost first). -/
def framed {α : Type} (chain : List Segment) (m : Scan α) : Scan α :=
  tryCatch m fun e => throw (if e.path.isSome then e else { e with path := some chain.reverse })

/-- The result of a body and of the closing step after it: the body's failure first. -/
def settle {α : Type} (r : Except ReadError α) (close : Except ReadError Unit) : Scan α :=
  match r, close with
  | .ok a, .ok _ => pure a
  | .error e, _ => throw e
  | .ok _, .error e => throw e

/-! ### Words and strings -/

/-- Reads the rest of a literal word, its first letter already read. -/
def readWord (expected : List Char) : Scan Unit :=
  expected.forM fun e => do
    match ← nextChar with
    | none => failHere .eofValue
    | some c => if c != e then failHere .expectedIdent

/-- The value of an ASCII hex digit. -/
def hexValue? (c : Char) : Option Nat :=
  if '0' ≤ c && c ≤ '9' then some (c.toNat - 48)
  else if 'a' ≤ c && c ≤ 'f' then some (c.toNat - 87)
  else if 'A' ≤ c && c ≤ 'F' then some (c.toNat - 55)
  else none

/-- Reads the four hex digits of a `\u` escape. -/
def readHex4 : Scan Nat := do
  let c ← get
  let four := c.rest.take 4
  match four.mapM hexValue? with
  | some [a, b, d, e] =>
    set (c.advanceBytes 4)
    pure (((a * 16 + b) * 16 + d) * 16 + e)
  | _ =>
    if four.foldl (fun n c => n + c.utf8Size) 0 ≥ 4 then
      set (c.advanceBytes 4)
      failHere .invalidEscape
    else
      set c.toEnd
      failHere .eofString

/-- Reads the rest of a `\u` escape, a surrogate pair included; pushes the character. -/
def readUnicodeEscape (acc : List Char) : Scan (List Char) := do
  let n ← readHex4
  if 0xDC00 ≤ n && n ≤ 0xDFFF then failHere .loneSurrogate
  if n < 0xD800 || n > 0xDBFF then return Char.ofNat n :: acc
  match ← peekChar with
  | none => failHere .eofString
  | some '\\' => advance
  | some _ => do advance; failHere .unexpectedEndOfHexEscape
  match ← peekChar with
  | none => failHere .eofString
  | some 'u' => advance
  | some _ => do advance; failHere .unexpectedEndOfHexEscape
  let n2 ← readHex4
  if n2 < 0xDC00 || n2 > 0xDFFF then failHere .loneSurrogate
  return Char.ofNat ((((n - 0xD800) * 1024) ||| (n2 - 0xDC00)) + 0x10000) :: acc

/-- Reads an escape after its backslash; pushes the character it stands for. -/
def readEscape (acc : List Char) : Scan (List Char) := do
  match ← nextChar with
  | none => failHere .eofString
  | some '"' => pure ('"' :: acc)
  | some '\\' => pure ('\\' :: acc)
  | some '/' => pure ('/' :: acc)
  | some 'b' => pure ('\x08' :: acc)
  | some 'f' => pure ('\x0c' :: acc)
  | some 'n' => pure ('\n' :: acc)
  | some 'r' => pure ('\r' :: acc)
  | some 't' => pure ('\t' :: acc)
  | some 'u' => readUnicodeEscape acc
  | some _ => failHere .invalidEscape

/-- Reads the rest of a string after its opening quote. -/
def readStringBody : Scan String := do
  let rec go (acc : List Char) : Nat → Scan String
    | 0 => failHere .eofString
    | fuel + 1 => do
      match ← peekChar with
      | none => failHere .eofString
      | some '"' => do advance; pure (String.ofList acc.reverse)
      | some '\\' => do advance; let acc ← readEscape acc; go acc fuel
      | some c =>
        if c.toNat < 0x20 then do advance; failHere .controlCharacter
        else do advance; go (c :: acc) fuel
  go [] (← budget)

/-- Skips an escape after its backslash. -/
def skipEscape : Scan Unit := do
  match ← nextChar with
  | none => failHere .eofString
  | some c =>
    if c == 'u' then discard readHex4
    else if "\"\\/bfnrt".toList.contains c then pure ()
    else failHere .invalidEscape

/-- Skips the rest of a string after its opening quote. -/
def skipStringBody : Scan Unit := do
  let rec go : Nat → Scan Unit
    | 0 => failHere .eofString
    | fuel + 1 => do
      match ← peekChar with
      | none => failHere .eofString
      | some '"' => advance
      | some '\\' => do advance; skipEscape; go fuel
      | some c => if c.toNat < 0x20 then failHere .controlCharacter else do advance; go fuel
  go (← budget)

/-! ### Numbers -/

/-- Whether appending a digit to `n` would pass the bound `max`. -/
def overflows (n d max : Nat) : Bool := n ≥ max / 10 && (n > max / 10 || d > max % 10)

/-- The value of an ASCII digit. -/
def digitOf (c : Char) : Nat := c.toNat - 48

/-- Whether the next character is an ASCII digit. -/
def peekDigit : Scan (Option Nat) := do
  match ← peekChar with
  | some c => pure (if c.isDigit then some (digitOf c) else none)
  | none => pure none

/-- Skips ASCII digits. -/
def skipDigits : Scan Unit := do
  let rec go : Nat → Scan Unit
    | 0 => pure ()
    | fuel + 1 => do
      match ← peekDigit with
      | some _ => do advance; go fuel
      | none => pure ()
  go (← budget)

/-- An exponent kept within the range of a signed 32-bit word. -/
def clampExponent (e : Int) : Int := max (-2147483648) (min 2147483647 e)

/-- `significand * 10^exponent` as a float: the significand is rounded first, then multiplied
or divided by the nearest float to a power of ten, in steps of `10^308` beyond that power. -/
def fromParts (positive : Bool) (significand : Nat) (exponent : Int) : Scan Float := do
  let rec go (f : Float) (e : Int) : Nat → Scan Float
    | 0 => pure f
    | fuel + 1 =>
      if e.natAbs ≤ 308 then
        if e ≥ 0 then
          let g := f * Decimal.pow10 e.natAbs
          if g.isInf then failHere .numberOutOfRange else pure g
        else pure (f / Decimal.pow10 e.natAbs)
      else if f == 0 then pure f
      else if e ≥ 0 then failHere .numberOutOfRange
      else go (f / Decimal.pow10 308) (e + 308) fuel
  let f ← go (Decimal.natToFloat significand) exponent 8
  pure (if positive then f else -f)

/-- Reads an exponent after its `e`, and builds the float. -/
def readExponent (positive : Bool) (significand : Nat) (start : Int) : Scan Float := do
  advance
  let positiveExp ← match ← peekChar with
    | some '+' => do advance; pure true
    | some '-' => do advance; pure false
    | _ => pure true
  let first ← match ← nextChar with
    | none => failHere .eofValue
    | some c => if c.isDigit then pure (digitOf c) else failHere .invalidNumber
  let rec go (e : Nat) : Nat → Scan (Option Nat)
    | 0 => pure (some e)
    | fuel + 1 => do
      match ← peekDigit with
      | some d => do
        advance
        if overflows e d 2147483647 then pure none else go (e * 10 + d) fuel
      | none => pure (some e)
  match ← go first (← budget) with
  | some e =>
    let final := clampExponent (if positiveExp then start + e else start - e)
    fromParts positive significand final
  | none =>
    if significand != 0 && positiveExp then failHere .numberOutOfRange
    else do
      skipDigits
      pure (if positive then 0.0 else -0.0)

/-- Skips the digits that no longer fit the significand, then reads an exponent if one follows. -/
def readAfterOverflow (positive : Bool) (significand : Nat) (exponent : Int) : Scan Float := do
  skipDigits
  match ← peekChar with
  | some 'e' | some 'E' => readExponent positive significand exponent
  | _ => fromParts positive significand exponent

/-- Reads the fraction after the point (not yet read), then an exponent if one follows. -/
def readFractionPart (positive : Bool) (significand : Nat) (before : Int) : Scan Float := do
  advance
  let rec go (sig : Nat) (after : Int) : Nat → Scan (Sum Float (Nat × Int))
    | 0 => pure (.inr (sig, after))
    | fuel + 1 => do
      match ← peekDigit with
      | some d =>
        if overflows sig d 18446744073709551615 then
          .inl <$> readAfterOverflow positive sig (before + after)
        else do advance; go (sig * 10 + d) (after - 1) fuel
      | none => pure (.inr (sig, after))
  match ← go significand 0 (← budget) with
  | .inl f => pure f
  | .inr (sig, after) =>
    if after == 0 then
      match ← peekChar with
      | some _ => failAhead .invalidNumber
      | none => failAhead .eofValue
    match ← peekChar with
    | some 'e' | some 'E' => readExponent positive sig (before + after)
    | _ => fromParts positive sig (before + after)

/-- Reads a number's integer digits beyond what 64 bits hold, counting them as an exponent. -/
def readLongInteger (positive : Bool) (significand : Nat) : Scan Float := do
  let rec go (e : Int) : Nat → Scan Float
    | 0 => fromParts positive significand e
    | fuel + 1 => do
      match ← peekChar with
      | some '.' => readFractionPart positive significand e
      | some 'e' | some 'E' => readExponent positive significand e
      | some c => if c.isDigit then do advance; go (e + 1) fuel else fromParts positive significand e
      | none => fromParts positive significand e
  go 0 (← budget)

/-- What follows the integer digits: a fraction, an exponent, or nothing. An integer without
either is kept exactly if it fits 64 bits; a negative zero is the float `-0.0`. -/
def readNumberTail (positive : Bool) (significand : Nat) : Scan Number := do
  match ← peekChar with
  | some '.' => .float <$> readFractionPart positive significand 0
  | some 'e' | some 'E' => .float <$> readExponent positive significand 0
  | _ =>
    if positive then pure (.int significand)
    else if significand == 0 then pure (.float (-0.0))
    else if significand ≤ Nat.pow 2 63 then pure (.int (-(significand : Int)))
    else pure (.float (-(Decimal.natToFloat significand)))

/-- Reads a number, its sign already read. -/
def readNumber (positive : Bool) : Scan Number := do
  match ← nextChar with
  | none => failHere .eofValue
  | some '0' =>
    match ← peekDigit with
    | some _ => failAhead .invalidNumber
    | none => readNumberTail positive 0
  | some c =>
    if c.isDigit then
      let rec go (sig : Nat) : Nat → Scan Number
        | 0 => readNumberTail positive sig
        | fuel + 1 => do
          match ← peekDigit with
          | some d =>
            if overflows sig d 18446744073709551615 then .float <$> readLongInteger positive sig
            else do advance; go (sig * 10 + d) fuel
          | none => readNumberTail positive sig
      go (digitOf c) (← budget)
    else failHere .invalidNumber

/-- Skips an exponent after its `e`. -/
def skipExponent : Scan Unit := do
  advance
  match ← peekChar with
  | some '+' | some '-' => advance
  | _ => pure ()
  match ← nextChar with
  | some c => if c.isDigit then skipDigits else failHere .invalidNumber
  | none => failHere .invalidNumber

/-- Skips a number, its sign already read; the checks are those of syntax only. -/
def skipNumber : Scan Unit := do
  match ← nextChar with
  | some '0' =>
    if (← peekDigit).isSome then failAhead .invalidNumber
  | some c => if c.isDigit && c != '0' then skipDigits else failHere .invalidNumber
  | none => failHere .invalidNumber
  match ← peekChar with
  | some '.' => do
    advance
    if (← peekDigit).isNone then failAhead .invalidNumber
    skipDigits
    match ← peekChar with
    | some 'e' | some 'E' => skipExponent
    | _ => pure ()
  | some 'e' | some 'E' => skipExponent
  | _ => pure ()

end Courier.Json
