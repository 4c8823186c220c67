import CheckConstraints.Sql.Rendering

/-!
Templates of predicates. An escaped text has a backslash before each of its colons, so that no colon
starts a parameter and none follows a name: the template has no parameters, and to write it out gives
the text back. Percent signs are neither colons nor backslashes and may be doubled before or after.
-/

namespace CheckConstraints.Sql

namespace Template

theorem escape_cons (c : Char) (cs : List Char) :
    escape (c :: cs) = if c = ':' then '\\' :: ':' :: escape cs else c :: escape cs := by
  simp only [escape, List.flatMap_cons]
  split <;> rfl

theorem not_isNameChar_backslash : isNameChar '\\' = false := by
  simp [isNameChar, Text.not_isWord_backslash]

theorem head?_escape_ne_colon (cs : List Char) : (escape cs).head? ≠ some ':' := by
  cases cs with
  | nil => simp [escape]
  | cons c cs =>
      rw [escape_cons]
      split
      · simp
      · simpa using ‹¬ c = ':'›

/-- Where a name ends in an escaped text, no colon comes next. -/
theorem head?_dropWhile_escape_ne_colon (cs : List Char) :
    ((escape cs).dropWhile isNameChar).head? ≠ some ':' := by
  induction cs with
  | nil => simp [escape]
  | cons c cs ih =>
      rw [escape_cons]
      split
      · simp [not_isNameChar_backslash]
      · rename_i other
        cases named : isNameChar c with
        | true => simpa [named] using ih
        | false => simpa [named] using other

theorem expand_colon {cs : List Char} (ends : (cs.dropWhile isNameChar).head? ≠ some ':') :
    expand ('\\' :: ':' :: cs) = ':' :: expand cs := by
  rw [expand, if_neg ends]

theorem expand_cons {c : Char} {cs : List Char} (next : cs.head? ≠ some ':') :
    expand (c :: cs) = c :: expand cs := by
  rw [expand]
  rintro rest rfl rfl
  simp at next

theorem expand_escape (cs : List Char) : expand (escape cs) = cs := by
  induction cs with
  | nil => rfl
  | cons c cs ih =>
      rw [escape_cons]
      split
      · rename_i colon
        rw [expand_colon (head?_dropWhile_escape_ne_colon cs), ih, colon]
      · rw [expand_cons (head?_escape_ne_colon cs), ih]

/-- The backslash before a colon keeps it from starting a parameter, whatever comes before. -/
theorem parameters_escape (before : Option Char) (cs : List Char) :
    parameters before (escape cs) = [] := by
  induction cs generalizing before with
  | nil => rfl
  | cons c cs ih =>
      rw [escape_cons]
      split
      · simp [parameters, ih]
      · rename_i other
        simp [parameters, other, ih]

end Template

theorem percents_escape (d : Dialect) (cs : List Char) :
    d.percents (Template.escape cs) = Template.escape (d.percents cs) := by
  cases doubles : d.doublesPercent with
  | false => simp [Dialect.percents, doubles]
  | true =>
      simp only [Dialect.percents, doubles, if_true]
      induction cs with
      | nil => rfl
      | cons c cs ih =>
          by_cases colon : c = ':'
          · subst colon
            simpa [doubled, Template.escape] using ih
          · by_cases percent : c = '%'
            · subst percent
              simpa [doubled, Template.escape] using ih
            · simpa [doubled, Template.escape, colon, percent] using ih

/-- A predicate as it is written: its percent signs as the dialect has them, all else unchanged. -/
theorem condition_eq (d : Dialect) (predicate : String) :
    condition d predicate = d.percents predicate.toList := by
  simp only [condition, template, String.toList_ofList]
  rw [percents_escape, Template.expand_escape]

end CheckConstraints.Sql
