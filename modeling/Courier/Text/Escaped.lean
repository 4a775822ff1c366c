/-!
# Quoted text in diagnostics

Diagnostics quote a piece of text between double quotes with backslash escapes: `\0`, `\t`,
`\r`, `\n`, `\\` and `\"` for those characters, and `\u{..}` (lower-case hex) for characters
that do not print, namely the control characters, the format characters, the separators other
than the plain space, private-use and non-characters, and the combining marks that would attach
to the quote before them. Every other character, the apostrophe included, stands as it is.
-/

namespace Courier.Text

/-- Whether `n` lies in one of the closed ranges. -/
def inRanges (n : Nat) : List (Nat × Nat) → Bool
  | [] => false
  | (lo, hi) :: rest => (lo ≤ n && n ≤ hi) || inRanges n rest

/-- Code points that do not print: controls, format characters, separators other than the
space, private use and the non-characters at the end of the basic plane. -/
def hiddenRanges : List (Nat × Nat) :=
  [(0x0, 0x1F), (0x7F, 0xA0), (0xAD, 0xAD), (0x600, 0x605), (0x61C, 0x61C), (0x6DD, 0x6DD),
   (0x70F, 0x70F), (0x1680, 0x1680), (0x180E, 0x180E), (0x2000, 0x200F), (0x2028, 0x202F),
   (0x205F, 0x206F), (0x3000, 0x3000), (0xD800, 0xF8FF), (0xFEFF, 0xFEFF), (0xFFF9, 0xFFFB),
   (0xFFFE, 0xFFFF), (0xE0000, 0xE007F), (0xF0000, 0x10FFFF)]

/-- Combining marks, which are escaped so that they do not join the character before them. -/
def combiningRanges : List (Nat × Nat) :=
  [(0x300, 0x36F), (0x483, 0x489), (0x591, 0x5BD), (0x5BF, 0x5BF), (0x5C1, 0x5C2),
   (0x5C4, 0x5C5), (0x5C7, 0x5C7), (0x610, 0x61A), (0x64B, 0x65F), (0x670, 0x670),
   (0x6D6, 0x6DC), (0x6DF, 0x6E4), (0x6E7, 0x6E8), (0x6EA, 0x6ED), (0x1AB0, 0x1AFF),
   (0x1DC0, 0x1DFF), (0x20D0, 0x20F0), (0xFE00, 0xFE0F), (0xFE20, 0xFE2F), (0xE0100, 0xE01EF)]

/-- The lower-case hex digits of a number. -/
def hexText (n : Nat) : String :=
  String.ofList ((Nat.toDigits 16 n).map Char.toLower)

/-- One character as it stands inside diagnostic quotes. -/
def escapeForDiagnostic (c : Char) : String :=
  match c with
  | '\x00' => "\\0"
  | '\t' => "\\t"
  | '\r' => "\\r"
  | '\n' => "\\n"
  | '\\' => "\\\\"
  | '"' => "\\\""
  | c =>
    if inRanges c.toNat hiddenRanges || inRanges c.toNat combiningRanges then
      "\\u\x7b" ++ hexText c.toNat ++ "\x7d"
    else String.singleton c

/-- A text between double quotes, escaped for a diagnostic. -/
def quoteForDiagnostic (s : String) : String :=
  "\"" ++ String.join (s.toList.map escapeForDiagnostic) ++ "\""

end Courier.Text
