/-!
# Long texts in logs

A statement is shown whole up to 497 bytes. A longer one is cut at the last character boundary within that length,
loses the blanks at its end, and is followed by three points.
-/

namespace SqlMapper.Text

/-- White space of any script. -/
def isBlank (c : Char) : Bool :=
  let n := c.toNat
  (9 ≤ n && n ≤ 13) || n = 0x20 || n = 0x85 || n = 0xa0 || n = 0x1680 || (0x2000 ≤ n && n ≤ 0x200a) ||
    n = 0x2028 || n = 0x2029 || n = 0x202f || n = 0x205f || n = 0x3000

/-- The longest run of leading characters that fits into `budget` bytes. -/
def fitting : (budget : Nat) → List Char → List Char
  | _, [] => []
  | budget, c :: cs => if c.utf8Size ≤ budget then c :: fitting (budget - c.utf8Size) cs else []

/-- The characters without the blanks at their end. -/
def withoutTrailingBlanks (cs : List Char) : List Char := (cs.reverse.dropWhile isBlank).reverse

/-- Bytes of a text that a log line shows. -/
def shownBytes : Nat := 497

/-- The text as a log line shows it. -/
def truncated (s : String) : String :=
  if s.utf8ByteSize ≤ shownBytes then s
  else String.ofList (withoutTrailingBlanks (fitting shownBytes s.toList)) ++ "..."

end SqlMapper.Text
