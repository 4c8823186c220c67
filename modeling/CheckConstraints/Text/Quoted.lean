import CheckConstraints.Text.Printable

/-!
Quoted texts: how a message shows a text so that a migration author can paste it back into a
script. The quote is `'` unless the text holds one and no `"`. A backslash and the quote in use are
escaped, line ends and tabs have their short escapes, and every other character that is not shown
as it is becomes the shortest hexadecimal escape that fits.
-/

namespace CheckConstraints.Text

/-- The lower-case hexadecimal digits of the lowest `width` places of a number. -/
def hexDigits : (width n : Nat) → List Char
  | 0, _ => []
  | width + 1, n => hexDigits width (n / 16) ++ [Nat.digitChar (n % 16)]

@[simp] theorem length_hexDigits (width n : Nat) : (hexDigits width n).length = width := by
  induction width generalizing n with
  | zero => rfl
  | succ width ih => simp [hexDigits, ih]

/-- The hexadecimal escape of a character: two, four or eight digits. -/
def hexEscape (c : Char) : List Char :=
  if c.toNat < 0x100 then '\\' :: 'x' :: hexDigits 2 c.toNat
  else if c.toNat < 0x10000 then '\\' :: 'u' :: hexDigits 4 c.toNat
  else '\\' :: 'U' :: hexDigits 8 c.toNat

/-- One character between quotes; `shown` tells which characters stand for themselves. -/
def quotedChar (shown : Char → Bool) (quote c : Char) : List Char :=
  if c = '\\' then ['\\', '\\']
  else if c = quote then ['\\', quote]
  else if c = '\n' then ['\\', 'n']
  else if c = '\r' then ['\\', 'r']
  else if c = '\t' then ['\\', 't']
  else if shown c then [c]
  else hexEscape c

/-- The quote that needs no escape, if there is one; otherwise `'`. -/
def quoteFor (cs : List Char) : Char :=
  if cs.contains '\'' && !cs.contains '"' then '"' else '\''

theorem quoteFor_eq_or (cs : List Char) : quoteFor cs = '\'' ∨ quoteFor cs = '"' := by
  simp only [quoteFor]
  split
  · exact Or.inr rfl
  · exact Or.inl rfl

def quotedChars (shown : Char → Bool) (cs : List Char) : List Char :=
  quoteFor cs :: (cs.flatMap (quotedChar shown (quoteFor cs)) ++ [quoteFor cs])

def quoted (text : String) : String := String.ofList (quotedChars isPrintable text.toList)

/-- Octets between quotes, each read as the character of its number; only ASCII is shown. -/
def quotedBytes (octets : List UInt8) : String :=
  String.ofList ('b' :: quotedChars (fun c => decide (0x20 ≤ c.toNat) && decide (c.toNat < 0x7F))
    (octets.map fun octet => Char.ofNat octet.toNat))

end CheckConstraints.Text
