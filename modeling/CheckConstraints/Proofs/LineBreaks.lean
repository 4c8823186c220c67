import CheckConstraints.Proofs.LiteralReading
import CheckConstraints.Text.Line

/-!
Line breaks in predicates. What a predicate puts around its texts stays on one line, and so does
every number and every truth value. The breaks of a predicate are therefore those of the texts that
its descriptor is made of: raw texts, columns and the texts in its sets.
-/

namespace CheckConstraints

open Text (breaks breaks_append breaks_eq_zero_iff breaks_intercalate)

namespace Number

theorem break_not_mem_toDigits (n : Nat) : '\n' ∉ Nat.toDigits 10 n := by
  intro member
  have digit := isDigit_of_mem_toDigits '\n' member
  simp at digit

theorem breaks_toString_int (n : Int) : breaks (toString n) = 0 := by
  rw [breaks_eq_zero_iff, toList_toString_int]
  split <;> simp [break_not_mem_toDigits]

theorem break_ne_sign (power : Int) : '\n' ≠ if power < 0 then '-' else '+' := by
  split <;> decide

/-- A point among digits stays on their line. -/
theorem break_not_mem_point {digits : List Char} (oneLine : '\n' ∉ digits) (places : Nat) :
    '\n' ∉ digits.take places ++ '.' :: digits.drop places := by
  have before : '\n' ∉ digits.take places := fun inside => oneLine (List.mem_of_mem_take inside)
  have after : '\n' ∉ digits.drop places := fun inside => oneLine (List.mem_of_mem_drop inside)
  simp [before, after]

namespace Decimal

theorem break_not_mem_pointed {digits : List Char} (oneLine : '\n' ∉ digits) (places : Nat) :
    '\n' ∉ pointed digits places := by
  rw [pointed]
  split
  · exact oneLine
  · split
    · exact break_not_mem_point oneLine _
    · simp [oneLine]

theorem breaks_text (d : Decimal) : breaks d.text = 0 := by
  have unsigned : '\n' ∉ d.unsigned := by
    rw [Decimal.unsigned]
    split
    · exact break_not_mem_pointed (break_not_mem_toDigits _) _
    · simp only [scientific, List.mem_append, List.mem_cons, not_or]
      exact ⟨break_not_mem_pointed (break_not_mem_toDigits _) _, by decide, break_ne_sign _,
        break_not_mem_toDigits _⟩
  rw [breaks_eq_zero_iff, text, String.toList_ofList, chars]
  split <;> simp [unsigned]

end Decimal

namespace Binary64

theorem break_not_mem_shortest (x : Binary64) : '\n' ∉ x.shortest.digits := by
  intro member
  simp only [shortest, List.mem_reverse] at member
  have written := (List.dropWhile_sublist _).mem member
  exact break_not_mem_toDigits _ (List.mem_reverse.mp written)

theorem break_not_mem_write {layout : Layout} {d : ShortestDecimal}
    (mark : '\n' ∉ layout.integerMark) (oneLine : '\n' ∉ d.digits) : '\n' ∉ layout.write d := by
  simp only [Layout.write]
  split
  · split
    · simp [oneLine]
    · split
      · simp [oneLine, mark]
      · exact break_not_mem_point oneLine _
  · simp only [List.mem_append, List.mem_cons, not_or]
    refine ⟨?_, by decide, break_ne_sign _, by simp [break_not_mem_toDigits]⟩
    split
    · exact List.not_mem_nil
    · rename_i c digits
      rwa [← digits]
    · rename_i c rest _ digits
      rw [digits] at oneLine
      simpa using oneLine

theorem breaks_text (x : Binary64) : breaks x.text = 0 := by
  have signed : ∀ size : List Char, '\n' ∉ size →
      '\n' ∉ if x.negative then '-' :: size else size := by
    intro size oneLine
    split <;> simp [oneLine]
  rw [breaks_eq_zero_iff, text, String.toList_ofList, write]
  split
  · decide
  · refine signed _ ?_
    split
    · decide
    · split
      · decide
      · exact break_not_mem_write (by decide) x.break_not_mem_shortest

end Binary64

end Number

namespace Scalar

/-- The line breaks in the text of a scalar, if it is one. -/
def breaks : Scalar → Nat
  | .text s => Text.breaks s
  | .bool _ | .int _ | .float _ | .decimal _ => 0

theorem count_doubleQuotes (cs : List Char) : (doubleQuotes cs).count '\n' = cs.count '\n' := by
  induction cs with
  | nil => rfl
  | cons c cs ih =>
      rw [doubleQuotes] at ih ⊢
      rw [List.flatMap_cons, List.count_append, ih, List.count_cons]
      by_cases quote : c = '\''
      · simp [quote]
      · by_cases lineBreak : c = '\n'
        · simp [lineBreak, Nat.add_comm]
        · simp [quote, lineBreak]

theorem breaks_of_literal {v : Scalar} {l : String} (written : v.literal = .ok l) :
    Text.breaks l = v.breaks := by
  cases v with
  | bool b => cases b <;> obtain rfl := Except.ok.inj written <;> rfl
  | int n =>
      obtain rfl := Except.ok.inj written
      exact Number.breaks_toString_int n
  | float x =>
      simp only [literal] at written
      split at written
      · obtain rfl := Except.ok.inj written
        exact x.breaks_text
      · cases written
  | decimal d =>
      obtain rfl := Except.ok.inj written
      exact d.breaks_text
  | text s =>
      obtain rfl := Except.ok.inj written
      simp [Text.breaks, breaks, textLiteral, count_doubleQuotes]

end Scalar

namespace Descriptor

mutual

/-- The line breaks in the texts of a descriptor. -/
def breaks : Descriptor → Nat
  | .raw text => Text.breaks text
  | .inSet column values => Text.breaks column + (values.map Scalar.breaks).sum
  | .all parts => breaksParts parts

def breaksParts : List Descriptor → Nat
  | [] => 0
  | p :: ps => p.breaks + breaksParts ps

end

theorem breaks_of_literals {vs : List Scalar} {ls : List String}
    (written : literals vs = .ok ls) :
    (ls.map Text.breaks).sum = (vs.map Scalar.breaks).sum := by
  induction vs generalizing ls with
  | nil =>
      obtain rfl := Except.ok.inj written
      rfl
  | cons v vs ih =>
      obtain ⟨l, ls', rfl, first, later⟩ := literals_cons_ok.mp written
      simp [Scalar.breaks_of_literal first, ih later]

theorem breaks_conjoin (q : String) (qs : List String) :
    Text.breaks (conjoin (q :: qs)) = ((q :: qs).map Text.breaks).sum := by
  have opening : Text.breaks "(" = 0 := rfl
  have separator : Text.breaks " AND " = 0 := rfl
  have closing : Text.breaks ")" = 0 := rfl
  rw [conjoin, breaks_append, breaks_append, breaks_intercalate _ (by simp), opening, separator,
    closing]
  simp

theorem breaks_memberPredicate (column l : String) (ls : List String) :
    Text.breaks (memberPredicate column (l :: ls)) =
      Text.breaks column + ((l :: ls).map Text.breaks).sum := by
  have opening : Text.breaks "(" = 0 := rfl
  have middle : Text.breaks " = ANY (ARRAY[" = 0 := rfl
  have separator : Text.breaks ", " = 0 := rfl
  have closing : Text.breaks "]))" = 0 := rfl
  rw [memberPredicate, breaks_append, breaks_append, breaks_append, breaks_append,
    breaks_intercalate _ (by simp), opening, middle, separator, closing]
  simp

mutual

/-- A predicate has the line breaks of the texts that it is made of. -/
theorem breaks_of_compile (d : Descriptor) {predicate : String}
    (compiled : d.compile = .ok predicate) : Text.breaks predicate = d.breaks := by
  cases d with
  | raw text =>
      obtain ⟨_, same, _, rfl⟩ | ⟨_, _, _, _, _, same, _⟩ | ⟨_, _, _, _, same, _⟩ :=
        compile_ok_cases compiled <;> cases same
      have opening : Text.breaks "(" = 0 := rfl
      have closing : Text.breaks ")" = 0 := rfl
      rw [rawPredicate, breaks_append, breaks_append, opening, closing, breaks, Nat.zero_add,
        Nat.add_zero]
  | inSet column values =>
      obtain ⟨_, same, _⟩ | ⟨_, v, vs, l, ls, same, first, later, rfl⟩ | ⟨_, _, _, _, same, _⟩ :=
        compile_ok_cases compiled <;> cases same
      have written := breaks_of_literals (literals_cons_ok.mpr ⟨l, ls, rfl, first, later⟩)
      rw [breaks_memberPredicate, written, breaks]
  | all parts =>
      obtain ⟨_, same, _⟩ | ⟨_, _, _, _, _, same, _⟩ | ⟨p, ps, q, qs, same, first, later, rfl⟩ :=
        compile_ok_cases compiled <;> cases same
      have written := breaks_of_compileParts (p :: ps)
        (compileParts_cons_ok.mpr ⟨q, qs, rfl, first, later⟩)
      rw [breaks_conjoin, written, breaks]

theorem breaks_of_compileParts (ps : List Descriptor) {qs : List String}
    (compiled : compileParts ps = .ok qs) : (qs.map Text.breaks).sum = breaksParts ps := by
  cases ps with
  | nil =>
      rw [compileParts] at compiled
      obtain rfl := Except.ok.inj compiled
      rfl
  | cons p ps =>
      obtain ⟨q, qs', rfl, first, later⟩ := compileParts_cons_ok.mp compiled
      rw [List.map_cons, List.sum_cons, breaks_of_compile p first, breaks_of_compileParts ps later,
        breaksParts]

end

end Descriptor

end CheckConstraints
