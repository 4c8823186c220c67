import CheckConstraints.Proofs.Template
import CheckConstraints.Text.Scan

/-!
Templates by their matches. A parameter is a colon with a name at a place where none of some
characters comes before and none of some others after, and writing a template out replaces the
escapes that are found from the left. The two functions on templates are compared with these rules,
for any text; the template of a predicate then has no parameter and stands for the predicate alone.
-/

namespace CheckConstraints.Sql

namespace Template

variable {text name rest out : List Char} {before : Option Char}

/-- The character before a parameter, if there is one, is no colon, backslash or word character. -/
def Unattached (before : Option Char) : Prop :=
  ∀ c ∈ before, c ≠ ':' ∧ c ≠ '\\' ∧ Text.isWord c = false

/-- The character after a name, if there is one, is no colon and belongs to no name. -/
def Ends (rest : List Char) : Prop := ∀ c ∈ rest.head?, c ≠ ':' ∧ isNameChar c = false

/-- The text has a parameter of the given name, when a character comes before the whole text. -/
def HasParameter (before : Option Char) (text name : List Char) : Prop :=
  ∃ front after, text = front ++ ':' :: (name ++ after) ∧
    Unattached (front.getLast?.or before) ∧
    name ≠ [] ∧ (∀ c ∈ name, isNameChar c = true) ∧ Ends after

/-- The text begins with an escaped colon and a name, which may be empty. -/
def EscapeAt (text : List Char) : Prop :=
  ∃ name rest, text = '\\' :: ':' :: (name ++ rest) ∧ (∀ c ∈ name, isNameChar c = true) ∧ Ends rest

/-- Each escape loses its backslash: the first one from the left, and so on in the text after it. -/
inductive Expands : List Char → List Char → Prop
  | done : Expands [] []
  | escape {name rest out : List Char} (named : ∀ c ∈ name, isNameChar c = true) (ends : Ends rest)
      (later : Expands rest out) :
      Expands ('\\' :: ':' :: (name ++ rest)) (':' :: (name ++ out))
  | other {c : Char} {rest out : List Char} (plain : ¬ EscapeAt (c :: rest))
      (later : Expands rest out) : Expands (c :: rest) (c :: out)

theorem dropWhile_name (named : ∀ c ∈ name, isNameChar c = true) (ends : Ends rest) :
    (name ++ rest).dropWhile isNameChar = rest :=
  Text.dropWhile_run named fun c next => (ends c next).2

theorem takeWhile_name (named : ∀ c ∈ name, isNameChar c = true) (ends : Ends rest) :
    (name ++ rest).takeWhile isNameChar = name :=
  Text.takeWhile_run named fun c next => (ends c next).2

theorem named_takeWhile (cs : List Char) :
    ∀ c ∈ cs.takeWhile isNameChar, isNameChar c = true :=
  List.all_eq_true.mp List.all_takeWhile

/-- A run of name characters goes as far as it can, so only a colon may keep a name from ending. -/
theorem ends_dropWhile {cs : List Char} :
    Ends (cs.dropWhile isNameChar) ↔ (cs.dropWhile isNameChar).head? ≠ some ':' := by
  constructor
  · intro ends colon
    exact (ends ':' colon).1 rfl
  · intro other c next
    refine ⟨fun colon => other (colon ▸ next), ?_⟩
    have stopped := List.head?_dropWhile_not isNameChar cs
    rw [next] at stopped
    exact stopped

theorem expand_cons_of_ne {c : Char} {cs : List Char} (other : c ≠ '\\') :
    expand (c :: cs) = c :: expand cs := by
  rw [expand]
  rintro cs' rfl
  exact absurd rfl other

theorem expand_name (named : ∀ c ∈ name, isNameChar c = true) (cs : List Char) :
    expand (name ++ cs) = name ++ expand cs := by
  induction name with
  | nil => rfl
  | cons c name ih =>
      obtain ⟨head, tail⟩ := List.forall_mem_cons.mp named
      have other : c ≠ '\\' := by
        rintro rfl
        simp [not_isNameChar_backslash] at head
      rw [List.cons_append, expand_cons_of_ne other, ih tail, List.cons_append]

theorem expand_escapeAt (named : ∀ c ∈ name, isNameChar c = true) (ends : Ends rest) :
    expand ('\\' :: ':' :: (name ++ rest)) = ':' :: (name ++ expand rest) := by
  have whole := dropWhile_name named ends
  have stops : ((name ++ rest).dropWhile isNameChar).head? ≠ some ':' :=
    ends_dropWhile.mp (whole.symm ▸ ends)
  rw [expand_colon stops, expand_name named]

theorem expand_other {c : Char} {cs : List Char} (plain : ¬ EscapeAt (c :: cs)) :
    expand (c :: cs) = c :: expand cs := by
  by_cases backslash : c = '\\'
  · subst backslash
    by_cases colon : cs.head? = some ':'
    · obtain ⟨cs, rfl⟩ := List.head?_eq_some_iff.mp colon
      have follows : (cs.dropWhile isNameChar).head? = some ':' := by
        refine Decidable.byContradiction fun stops => plain ?_
        refine ⟨cs.takeWhile isNameChar, cs.dropWhile isNameChar, ?_, ?_, ?_⟩
        · rw [List.takeWhile_append_dropWhile]
        · exact named_takeWhile cs
        · exact ends_dropWhile.mpr stops
      rw [expand, if_pos follows, expand_cons_of_ne (by decide)]
    · exact expand_cons colon
  · exact expand_cons_of_ne backslash

theorem exists_expands (text : List Char) : ∃ out, Expands text out := by
  induction h : text.length using Nat.strongRecOn generalizing text with
  | ind n ih =>
      by_cases escaped : EscapeAt text
      · obtain ⟨name, rest, rfl, named, ends⟩ := escaped
        obtain ⟨out, later⟩ := ih rest.length (by simp at h; omega) rest rfl
        exact ⟨_, .escape named ends later⟩
      · cases text with
        | nil => exact ⟨[], .done⟩
        | cons c rest =>
            obtain ⟨out, later⟩ := ih rest.length (by simp at h; omega) rest rfl
            exact ⟨_, .other escaped later⟩

/-- Writing a template out replaces each escape, from the left. -/
theorem expands_iff : Expands text out ↔ out = expand text := by
  have result : ∀ {text out : List Char}, Expands text out → out = expand text := by
    intro text out expands
    induction expands with
    | done => rfl
    | escape named ends _ ih => rw [expand_escapeAt named ends, ih]
    | other plain _ ih => rw [expand_other plain, ih]
  constructor
  · exact result
  · rintro rfl
    obtain ⟨out, expands⟩ := exists_expands text
    exact result expands ▸ expands

theorem getLast?_cons_or (c : Char) (front : List Char) :
    (c :: front).getLast?.or before = front.getLast?.or (some c) := by
  rw [List.getLast?_cons]
  cases front.getLast? <;> rfl

/-- A parameter starts at a colon that is not attached to what comes before, if a name comes next
and no second colon after it. -/
def Starts (before : Option Char) (c : Char) (cs : List Char) : Prop :=
  c = ':' ∧ Unattached before ∧ cs.takeWhile isNameChar ≠ [] ∧
    (cs.dropWhile isNameChar).head? ≠ some ':'

/-- A parameter is at the start or further on. -/
theorem hasParameter_cons {c : Char} {cs : List Char} : HasParameter before (c :: cs) name ↔
    (Starts before c cs ∧ name = cs.takeWhile isNameChar) ∨ HasParameter (some c) cs name := by
  constructor
  · rintro ⟨front, after, split, unattached, nonempty, named, ends⟩
    cases front with
    | nil =>
        obtain ⟨rfl, rfl⟩ := List.cons.inj split
        have whole := dropWhile_name named ends
        have first := takeWhile_name named ends
        refine .inl ⟨⟨rfl, unattached, first.symm ▸ nonempty, ?_⟩, first.symm⟩
        exact ends_dropWhile.mp (whole.symm ▸ ends)
    | cons d front =>
        obtain ⟨rfl, rfl⟩ := List.cons.inj split
        refine .inr ⟨front, after, rfl, ?_, nonempty, named, ends⟩
        rwa [← getLast?_cons_or]
  · rintro (⟨⟨rfl, unattached, nonempty, stops⟩, rfl⟩ | ⟨front, after, rfl, unattached, rest⟩)
    · refine ⟨[], cs.dropWhile isNameChar, ?_, unattached, nonempty, ?_, ends_dropWhile.mpr stops⟩
      · rw [List.takeWhile_append_dropWhile, List.nil_append]
      · exact named_takeWhile cs
    · refine ⟨c :: front, after, rfl, ?_, rest⟩
      rwa [getLast?_cons_or]

theorem parameters_of_starts {c : Char} {cs : List Char} (starts : Starts before c cs) :
    parameters before (c :: cs) = cs.takeWhile isNameChar :: parameters (some c) cs := by
  obtain ⟨rfl, unattached, filled, stops⟩ := starts
  cases before with
  | none => simp [parameters, filled, stops]
  | some b =>
      obtain ⟨colon, backslash, word⟩ := unattached b rfl
      simp [parameters, filled, stops, colon, backslash, word]

theorem parameters_of_not_starts {c : Char} {cs : List Char} (absent : ¬ Starts before c cs) :
    parameters before (c :: cs) = parameters (some c) cs := by
  cases before with
  | none =>
      refine if_neg fun here => absent ?_
      simpa [Starts, Unattached, and_assoc] using here
  | some b =>
      refine if_neg fun here => absent ?_
      simpa [Starts, Unattached, and_assoc] using here

/-- The parameters that are listed are those of the text. -/
theorem mem_parameters : name ∈ parameters before text ↔ HasParameter before text name := by
  induction text generalizing before with
  | nil => simp [parameters, HasParameter]
  | cons c cs ih =>
      rw [hasParameter_cons, ← ih]
      by_cases starts : Starts before c cs
      · rw [parameters_of_starts starts, List.mem_cons]
        simp [starts]
      · rw [parameters_of_not_starts starts]
        simp [starts]

end Template

open Template (HasParameter Expands)

/-- No part of the template of a predicate is taken for a parameter, and written out it is the
predicate, whatever colons, backslashes and words that holds. A dialect that doubles percent signs
in between finds no parameter either and ends with the predicate whose percent signs are doubled. -/
theorem template_stands_for_predicate (predicate : String) :
    let text := (template predicate).toList
    (∀ name, ¬ HasParameter none text name) ∧ Template.parameters none text = [] ∧
    (∀ out, Expands text out ↔ out = predicate.toList) ∧
    Template.expand text = predicate.toList ∧
    ∀ d : Dialect, (∀ name, ¬ HasParameter none (d.percents text) name) ∧
      ∀ out, Expands (d.percents text) out ↔ out = d.percents predicate.toList := by
  intro text
  have written : text = Template.escape predicate.toList := String.toList_ofList
  have silent : ∀ cs name, ¬ HasParameter none (Template.escape cs) name := by
    intro cs name parameter
    have listed := Template.mem_parameters.mpr parameter
    rw [Template.parameters_escape] at listed
    cases listed
  have expands : ∀ cs out, Expands (Template.escape cs) out ↔ out = cs := by
    intro cs out
    rw [Template.expands_iff, Template.expand_escape]
  rw [written]
  refine ⟨silent _, Template.parameters_escape none _, expands _, Template.expand_escape _, ?_⟩
  intro d
  rw [percents_escape]
  exact ⟨silent _, expands _⟩

/-- A cast, a backslash before a colon and a colon at the end. -/
example : template "a::text <> '\\:b:'" = "a\\:\\:text <> '\\\\:b\\:'" := by rfl

end CheckConstraints.Sql
