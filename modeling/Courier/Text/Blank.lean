/-!
# Blank characters

The characters with the Unicode White_Space property: the ASCII blanks and line breaks, the
next-line control, the no-break spaces, the typographic spaces, the line and paragraph
separators and the ideographic space. The zero-width space U+200B is not among them. Trimming a
request field and reading a date and time both skip exactly these.
-/

namespace Courier.Text

/-- Whether a character has the Unicode White_Space property. -/
def isBlank (c : Char) : Bool :=
  let n := c.toNat
  (9 ≤ n && n ≤ 13) || n == 32 || n == 0x85 || n == 0xA0 || n == 0x1680
    || (0x2000 ≤ n && n ≤ 0x200A) || n == 0x2028 || n == 0x2029 || n == 0x202F
    || n == 0x205F || n == 0x3000

/-- Drops the leading blanks of a character list. -/
def trimStart (cs : List Char) : List Char := cs.dropWhile isBlank

/-- A string without its leading and trailing blanks. -/
def trim (s : String) : String :=
  String.ofList ((trimStart (trimStart s.toList).reverse).reverse)

/-- Whether a string holds nothing but blanks. -/
def isBlankText (s : String) : Bool := s.toList.all isBlank

end Courier.Text
