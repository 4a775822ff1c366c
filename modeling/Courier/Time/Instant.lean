import Courier.Text.Blank

/-!
# Instants and their RFC 3339 text

An `Instant` is a moment on the UTC time line. It is read from RFC 3339 text in a relaxed form
(a `T`, `t` or space between date and time, blanks allowed before each number and before the
offset, `UTC` or `Z` for a zero offset, an offset of `+hh:mm`, `+hhmm` or `+hh mm`, and at most
nine fraction digits counted), and written back in UTC with `Z`, the fraction shortened to
milliseconds or microseconds when that loses nothing.
-/

namespace Courier.Time

open Courier.Text

/-- Why a date and time could not be read. -/
inductive ReadFault where
  | outOfRange
  | impossible
  | invalid
  | tooShort
  | tooLong

/-- The text of a reading failure. -/
def ReadFault.message : ReadFault → String
  | .outOfRange => "input is out of range"
  | .impossible => "no possible date and time matching input"
  | .invalid => "input contains invalid characters"
  | .tooShort => "premature end of input"
  | .tooLong => "trailing input"

/-- A moment: whole seconds since 1970-01-01T00:00:00Z and nanoseconds past them. During a leap
second the nanoseconds run from `10^9` up. -/
structure Instant where
  secs : Int
  nanos : Nat

/-! ### The proleptic Gregorian calendar -/

/-- Whether a year is a leap year. -/
def isLeapYear (y : Int) : Bool := (y % 4 == 0 && y % 100 != 0) || y % 400 == 0

/-- The number of days of a month. -/
def daysInMonth (y : Int) (m : Nat) : Nat :=
  match m with
  | 2 => if isLeapYear y then 29 else 28
  | 4 | 6 | 9 | 11 => 30
  | _ => 31

/-- Days from 1970-01-01 to a date (month and day counted from 1). -/
def daysFromCivil (y : Int) (m d : Nat) : Int :=
  let y' := if m ≤ 2 then y - 1 else y
  let era := Int.fdiv y' 400
  let yoe := y' - era * 400
  let mp : Int := ((m + 9) % 12 : Nat)
  let doy := (153 * mp + 2) / 5 + d - 1
  let doe := yoe * 365 + yoe / 4 - yoe / 100 + doy
  era * 146097 + doe - 719468

/-- The date that lies a number of days after 1970-01-01: year, month and day. -/
def civilFromDays (z : Int) : Int × Nat × Nat :=
  let z := z + 719468
  let era := Int.fdiv z 146097
  let doe := z - era * 146097
  let yoe := (doe - doe / 1460 + doe / 36524 - doe / 146096) / 365
  let y := yoe + era * 400
  let doy := doe - (365 * yoe + yoe / 4 - yoe / 100)
  let mp := (5 * doy + 2) / 153
  let d := doy - (153 * mp + 2) / 5 + 1
  let m := if mp < 10 then mp + 3 else mp - 9
  (if m ≤ 2 then y + 1 else y, m.toNat, d.toNat)

/-! ### Reading -/

/-- The value of a list of ASCII digits. -/
def digitValue (ds : List Char) : Nat := ds.foldl (fun acc d => acc * 10 + (d.toNat - 48)) 0

/-- Reads one to `max` ASCII digits, refusing values beyond a signed 64-bit word. -/
def readDigits (max : Nat) (cs : List Char) : Except ReadFault (Nat × List Char) :=
  match cs with
  | [] => .error .tooShort
  | c :: _ =>
    if !c.isDigit then .error .invalid
    else
      let ds := (cs.take max).takeWhile Char.isDigit
      let v := digitValue ds
      if v ≥ Nat.pow 2 63 then .error .outOfRange else .ok (v, cs.drop ds.length)

/-- Reads a number after leading blanks and checks it against a closed range. -/
def readField (width lo hi : Nat) (cs : List Char) : Except ReadFault (Nat × List Char) := do
  let (v, rest) ← readDigits width (trimStart cs)
  if lo ≤ v && v ≤ hi then pure (v, rest) else throw .outOfRange

/-- Reads a year: four digits, or any number of digits after an explicit sign. -/
def readYear (cs : List Char) : Except ReadFault (Int × List Char) := do
  let cs := trimStart cs
  let (y, rest) ← match cs with
    | '-' :: r => do let (v, r') ← readDigits (r.length + 1) r; pure (-(v : Int), r')
    | '+' :: r => do let (v, r') ← readDigits (r.length + 1) r; pure ((v : Int), r')
    | _ => do let (v, r') ← readDigits 4 cs; pure ((v : Int), r')
  if -2147483648 ≤ y && y ≤ 2147483647 then pure (y, rest) else throw .outOfRange

/-- Expects one character after leading blanks. -/
def expectChar (ch : Char) (cs : List Char) : Except ReadFault (List Char) :=
  match trimStart cs with
  | [] => .error .tooShort
  | c :: rest => if c == ch then .ok rest else .error .invalid

/-- Reads an optional fraction of a second: its nanoseconds and the rest. -/
def readFraction (cs : List Char) : Except ReadFault (Nat × List Char) :=
  match cs with
  | '.' :: rest => do
    let (v, r) ← readDigits 9 rest
    let used := rest.length - r.length
    pure (v * Nat.pow 10 (9 - used), r.dropWhile Char.isDigit)
  | _ => .ok (0, cs)

/-- Two leading characters that must be ASCII digits. -/
def twoDigits (cs : List Char) : Except ReadFault (Char × Char × List Char) :=
  match cs with
  | [] => .error .tooShort
  | [c] => if c.utf8Size ≥ 2 then .ok (c, c, []) else .error .tooShort
  | c1 :: c2 :: rest => .ok (c1, c2, rest)

/-- Reads an offset from UTC in seconds: `Z`, or a sign, hours and minutes. -/
def readOffset (cs : List Char) : Except ReadFault (Int × List Char) := do
  match cs with
  | 'Z' :: rest | 'z' :: rest => pure (0, rest)
  | [] => throw .tooShort
  | s :: rest =>
    let negative ← if s == '+' then pure false
      else if s == '-' || s == '−' then pure true
      else throw .invalid
    let (h1, h2, rest) ← twoDigits rest
    if !(h1.isDigit && h2.isDigit) then throw .invalid
    let hours := (h1.toNat - 48) * 10 + (h2.toNat - 48)
    let rest := rest.dropWhile fun c => c == ':' || isBlank c
    let (m1, m2, rest) ← twoDigits rest
    let minutes ← if '0' ≤ m1 && m1 ≤ '5' && m2.isDigit then pure ((m1.toNat - 48) * 10 + (m2.toNat - 48))
      else if '6' ≤ m1 && m1 ≤ '9' && m2.isDigit then throw .outOfRange
      else throw .invalid
    let secs : Int := hours * 3600 + minutes * 60
    pure (if negative then -secs else secs, rest)

/-- Whether the text starts with `UTC` in any case. -/
def startsWithUtc (cs : List Char) : Bool :=
  match cs with
  | a :: b :: c :: _ => a.toLower == 'u' && b.toLower == 't' && c.toLower == 'c'
  | _ => false

/-- Reads an RFC 3339 date and time in the relaxed form described above. -/
def Instant.parse (s : String) : Except ReadFault Instant := do
  let (year, cs) ← readYear s.toList
  let cs ← expectChar '-' cs
  let (month, cs) ← readField 2 1 12 cs
  let cs ← expectChar '-' cs
  let (day, cs) ← readField 2 1 31 cs
  let cs ← match cs with
    | c :: rest => if c == 'T' || c == 't' || c == ' ' then pure rest else throw .invalid
    | [] => throw .tooShort
  let (hour, cs) ← readField 2 0 23 cs
  let cs ← expectChar ':' cs
  let (minute, cs) ← readField 2 0 59 cs
  let cs ← expectChar ':' cs
  let (second, cs) ← readField 2 0 60 cs
  let (nanos, cs) ← readFraction cs
  let cs := trimStart cs
  let (offset, cs) ← if startsWithUtc cs then pure (0, cs.drop 3) else readOffset cs
  if !(trimStart cs).isEmpty then throw .tooLong
  if year < -262143 || year > 262142 || day > daysInMonth year month then throw .outOfRange
  if offset ≤ -86400 || offset ≥ 86400 then throw .outOfRange
  let (second, nanos) := if second == 60 then (59, nanos + 1000000000) else (second, nanos)
  let secs := daysFromCivil year month day * 86400 + hour * 3600 + minute * 60 + second - offset
  let utcDays := Int.fdiv secs 86400
  let (utcYear, _, _) := civilFromDays utcDays
  if utcYear < -262143 || utcYear > 262142 then throw .impossible
  pure ⟨secs, nanos⟩

/-! ### Writing -/

/-- A number written with at least `w` digits. -/
def padded (w : Nat) (n : Nat) : String :=
  let s := toString n
  String.ofList (List.replicate (w - s.length) '0') ++ s

/-- The RFC 3339 text of an instant in UTC: `Z` as offset, and the fraction as milliseconds,
microseconds or nanoseconds, whichever is the shortest exact one, or none when it is zero. -/
def Instant.render (t : Instant) : String :=
  let days := Int.fdiv t.secs 86400
  let sod := (t.secs - days * 86400).toNat
  let (y, m, d) := civilFromDays days
  let (sec, nanos) := if t.nanos ≥ 1000000000 then (sod % 60 + 1, t.nanos - 1000000000)
    else (sod % 60, t.nanos)
  let yearText :=
    if 0 ≤ y && y ≤ 9999 then padded 4 y.toNat
    else (if y < 0 then "-" else "+") ++ padded 4 y.natAbs
  let frac :=
    if nanos == 0 then ""
    else if nanos % 1000000 == 0 then "." ++ padded 3 (nanos / 1000000)
    else if nanos % 1000 == 0 then "." ++ padded 6 (nanos / 1000)
    else "." ++ padded 9 nanos
  yearText ++ "-" ++ padded 2 m ++ "-" ++ padded 2 d ++ "T" ++ padded 2 (sod / 3600) ++ ":" ++
    padded 2 (sod / 60 % 60) ++ ":" ++ padded 2 sec ++ frac ++ "Z"

end Courier.Time
