import CheckConstraints.Text.Literal
import CheckConstraints.Text.Quoted
import Mathlib.Algebra.Ring.Nat
import Mathlib.Tactic.SplitIfs

/-!
Quoted texts as literals. Whatever a text holds, a script that contains its quoted form reads the
text back and goes on right after the closing quote: no character of the text ends the literal or
the line, and every escape takes in exactly the characters that were written for it.
-/

namespace CheckConstraints.Text

namespace Literal

variable {names : String → Option Char} {quote c : Char} {cs rest : List Char}

theorem hexValue?_digitChar : ∀ n < 16, hexValue? (Nat.digitChar n) = some n := by decide

theorem hexNumber?_append (digits : List Char) (c : Char) :
    hexNumber? (digits ++ [c]) =
      (hexNumber? digits).bind fun n => (hexValue? c).map (16 * n + ·) := by
  simp [hexNumber?, List.foldlM_append]

/-- Hexadecimal digits that suffice for a number are read as that number. -/
theorem hexNumber?_hexDigits {width n : Nat} (fits : n < 16 ^ width) :
    hexNumber? (hexDigits width n) = some n := by
  induction width generalizing n with
  | zero =>
      obtain rfl : n = 0 := by simpa using fits
      rfl
  | succ width ih =>
      have shorter : n / 16 < 16 ^ width := by
        rw [Nat.pow_succ] at fits
        exact Nat.div_lt_of_lt_mul (Nat.mul_comm _ _ ▸ fits)
      have digit := hexValue?_digitChar (n % 16) (Nat.mod_lt n (by decide))
      rw [hexDigits, hexNumber?_append, ih shorter, digit]
      exact congrArg some (Nat.div_add_mod n 16)

theorem character?_toNat (c : Char) : character? c.toNat = some c := by
  have valid : c.toNat.isValidChar := c.valid
  rw [character?, if_pos valid, Char.ofNat_toNat]

/-- The escape with enough hexadecimal digits for a character stands for the character. -/
theorem escape?_hexDigits {letter : Char} {width : Nat} (escape : hexWidth? letter = some width)
    (fits : c.toNat < 16 ^ width) (rest : List Char) :
    escape? names (letter :: hexDigits width c.toNat ++ rest) = some ([c], width + 1) := by
  have taken : (hexDigits width c.toNat ++ rest).take width = hexDigits width c.toNat :=
    List.take_left' (length_hexDigits _ _)
  simp [escape?, escape, taken, hexNumber?_hexDigits fits, character?_toNat]

theorem body_close : body names quote (quote :: rest) = some ([], rest) := by
  rw [body, if_pos rfl]

/-- An escape is read as what it stands for, and the literal goes on after its characters. -/
theorem body_escape (escape text : List Char) (other : quote ≠ '\\')
    (stands : escape? names (escape ++ rest) = some (text, escape.length)) :
    body names quote ('\\' :: escape ++ rest) =
      (body names quote rest).map fun (more, rest) => (text ++ more, rest) := by
  rw [List.cons_append, body, if_neg other.symm, if_pos rfl]
  simp [stands]

theorem body_plain (other : c ≠ quote) (unescaped : c ≠ '\\') (inLine : breaksLine c = false) :
    body names quote (c :: cs) =
      (body names quote cs).map fun (more, rest) => (c :: more, rest) := by
  rw [body, if_neg other, if_neg unescaped, inLine]
  rfl

end Literal

open Literal (read? text? body escape? breaksLine)

variable {names : String → Option Char} {quote : Char}

theorem breaksLine_of_isPrintable {c : Char} (shown : isPrintable c = true) :
    breaksLine c = false := by
  rw [Bool.eq_false_iff]
  intro breaks
  simp only [breaksLine, Bool.or_eq_true, beq_iff_eq] at breaks
  obtain (rfl | rfl) | rfl := breaks <;> exact absurd shown (by decide)

theorem backslash_not_quote (isQuote : quote = '\'' ∨ quote = '"') : quote ≠ '\\' := by
  rintro rfl
  simp at isQuote

/-- A character is quoted by an escape of one letter, by itself or by its number. -/
theorem quotedChar_cases (names : String → Option Char) (isQuote : quote = '\'' ∨ quote = '"')
    (c : Char) :
    (∃ letter, quotedChar isPrintable quote c = ['\\', letter] ∧
      ∀ rest, escape? names (letter :: rest) = some ([c], 1)) ∨
    (quotedChar isPrintable quote c = [c] ∧ c ≠ quote ∧ c ≠ '\\' ∧ breaksLine c = false) ∨
    quotedChar isPrintable quote c = hexEscape c := by
  rw [quotedChar]
  split_ifs with backslash closing lineFeed carriageReturn tab shown
  · subst c
    exact .inl ⟨'\\', rfl, fun _ => rfl⟩
  · subst c
    obtain rfl | rfl := isQuote
    · exact .inl ⟨'\'', rfl, fun _ => rfl⟩
    · exact .inl ⟨'"', rfl, fun _ => rfl⟩
  · subst c
    exact .inl ⟨'n', rfl, fun _ => rfl⟩
  · subst c
    exact .inl ⟨'r', rfl, fun _ => rfl⟩
  · subst c
    exact .inl ⟨'t', rfl, fun _ => rfl⟩
  · exact .inr (.inl ⟨rfl, closing, backslash, breaksLine_of_isPrintable shown⟩)
  · exact .inr (.inr rfl)

theorem hexEscape_cases (c : Char) : ∃ letter width, Literal.hexWidth? letter = some width ∧
    c.toNat < 16 ^ width ∧ hexEscape c = '\\' :: letter :: hexDigits width c.toNat := by
  have valid : c.toNat.isValidChar := c.valid
  rw [hexEscape]
  split_ifs with octet basic
  · exact ⟨'x', 2, rfl, by omega, rfl⟩
  · exact ⟨'u', 4, rfl, by omega, rfl⟩
  · exact ⟨'U', 8, rfl, by omega, rfl⟩

/-- A character of a quoted text is read as that character. -/
theorem body_quotedChar (isQuote : quote = '\'' ∨ quote = '"') (c : Char) (cs : List Char) :
    body names quote (quotedChar isPrintable quote c ++ cs) =
      (body names quote cs).map fun (more, rest) => (c :: more, rest) := by
  have other := backslash_not_quote isQuote
  obtain ⟨letter, written, stands⟩ | ⟨written, closing, backslash, inLine⟩ | written :=
    quotedChar_cases names isQuote c <;> rw [written]
  · exact Literal.body_escape [letter] [c] other (stands cs)
  · exact Literal.body_plain closing backslash inLine
  · obtain ⟨letter, width, escape, fits, digits⟩ := hexEscape_cases c
    rw [digits]
    refine Literal.body_escape (letter :: hexDigits width c.toNat) [c] other ?_
    rw [Literal.escape?_hexDigits escape fits, List.length_cons, length_hexDigits]

theorem body_quotedChars (isQuote : quote = '\'' ∨ quote = '"') (text rest : List Char) :
    body names quote (text.flatMap (quotedChar isPrintable quote) ++ quote :: rest) =
      some (text, rest) := by
  induction text with
  | nil => exact Literal.body_close
  | cons c text ih =>
      rw [List.flatMap_cons, List.append_assoc, body_quotedChar isQuote, ih]
      rfl

/-- No character of a quoted text begins with the quote. -/
theorem head?_quotedChar (isQuote : quote = '\'' ∨ quote = '"') (c : Char) (cs : List Char) :
    (quotedChar isPrintable quote c ++ cs).head? ≠ some quote := by
  have other := backslash_not_quote isQuote
  obtain ⟨letter, written, _⟩ | ⟨written, closing, _⟩ | written :=
    quotedChar_cases (fun _ => none) isQuote c <;> rw [written]
  · simpa using other.symm
  · simpa using closing
  · obtain ⟨letter, width, _, _, digits⟩ := hexEscape_cases c
    simpa [digits] using other.symm

/-- The opening quote of a text is not taken for one that is written three times. -/
theorem not_tripled (isQuote : quote = '\'' ∨ quote = '"') (text : List Char) {rest : List Char}
    (unquoted : rest.head? ≠ some quote) :
    ¬ [quote, quote] <+: text.flatMap (quotedChar isPrintable quote) ++ quote :: rest := by
  rintro ⟨after, same⟩
  cases text with
  | nil =>
      have next : quote :: after = rest := by simpa using same
      exact unquoted (next ▸ rfl)
  | cons c text =>
      rw [List.flatMap_cons, List.append_assoc] at same
      exact head?_quotedChar isQuote c _ (congrArg List.head? same).symm

/-- A quoted text is read up to its closing quote, unless a quote comes right after it. -/
theorem read?_quoted (names : String → Option Char) (text : String) {rest : List Char}
    (unquoted : ∀ q ∈ rest.head?, q ≠ '\'' ∧ q ≠ '"') :
    read? names ((quoted text).toList ++ rest) = some (text, rest) := by
  generalize opening : quoteFor text.toList = quote
  have isQuote : quote = '\'' ∨ quote = '"' := opening ▸ quoteFor_eq_or text.toList
  have written : (quoted text).toList ++ rest =
      quote :: (text.toList.flatMap (quotedChar isPrintable quote) ++ quote :: rest) := by
    simp [quoted, quotedChars, opening]
  have next : rest.head? ≠ some quote := by
    intro same
    obtain ⟨single, double⟩ := unquoted quote same
    exact isQuote.elim single double
  rw [written, read?, if_pos ⟨isQuote, not_tripled isQuote _ next⟩, body_quotedChars isQuote]
  simp

/-- A quoted text is one literal, and it is read as the text. -/
theorem text?_quoted (names : String → Option Char) (text : String) :
    text? names (quoted text) = some text := by
  have unquoted : ∀ q ∈ ([] : List Char).head?, q ≠ '\'' ∧ q ≠ '"' := by simp
  have read := read?_quoted names text unquoted
  rw [List.append_nil] at read
  simp [text?, read]

end CheckConstraints.Text
