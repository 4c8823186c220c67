/-!
Blank characters: the ones that do not count when a predicate text is asked whether it says
anything at all, or that may surround a number.
-/

namespace CheckConstraints.Text

/-- Tabs and line ends, the four information separators, the space, the next-line mark and the
space separators of the character database. Zero-width characters are not blank. -/
def isBlank (c : Char) : Bool :=
  let n := c.toNat
  (decide (0x09 ≤ n) && decide (n ≤ 0x0D)) || (decide (0x1C ≤ n) && decide (n ≤ 0x20))
    || n == 0x85 || n == 0xA0 || n == 0x1680 || (decide (0x2000 ≤ n) && decide (n ≤ 0x200A))
    || n == 0x2028 || n == 0x2029 || n == 0x202F || n == 0x205F || n == 0x3000

/-- The blank characters that the character database counts as white space, which leaves the four
information separators out. -/
def isWhiteSpace (c : Char) : Bool :=
  isBlank c && !(decide (0x1C ≤ c.toNat) && decide (c.toNat ≤ 0x1F))

/-- The characters between the outermost ones that `strip` does not hold of. -/
def trimmed (strip : Char → Bool) (cs : List Char) : List Char :=
  ((cs.dropWhile strip).reverse.dropWhile strip).reverse

/-- Whether a text is empty or made of blank characters alone. -/
def allBlank (text : String) : Bool := text.toList.all isBlank

end CheckConstraints.Text
