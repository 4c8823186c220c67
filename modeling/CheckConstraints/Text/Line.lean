import Mathlib.Algebra.Ring.Nat
import Mathlib.Data.List.Infix

/-!
The lines of a text. A line break ends a line and begins the next one, so that a text has one line
more than it has line breaks, and a text that is joined of others by line breaks has their lines.
-/

namespace CheckConstraints.Text

/-- The number of line breaks in a text. -/
def breaks (s : String) : Nat := s.toList.count '\n'

/-- What stands between the line breaks of a text. -/
def lines (s : String) : List String := (s.toList.splitOn '\n').map String.ofList

theorem breaks_eq_zero_iff {s : String} : breaks s = 0 ↔ '\n' ∉ s.toList := List.count_eq_zero

@[simp] theorem breaks_append (s t : String) : breaks (s ++ t) = breaks s + breaks t := by
  simp [breaks]

/-- Between texts there is one separator less than there are texts. -/
theorem breaks_intercalate (separator : String) {texts : List String} (filled : texts ≠ []) :
    breaks (separator.intercalate texts) =
      (texts.map breaks).sum + (texts.length - 1) * breaks separator := by
  obtain ⟨s, texts, rfl⟩ := List.exists_cons_of_ne_nil filled
  induction texts generalizing s with
  | nil => simp
  | cons t texts ih =>
      rw [String.intercalate_cons_cons, breaks_append, breaks_append, ih t (by simp)]
      simp only [List.map_cons, List.sum_cons, List.length_cons, Nat.add_sub_cancel, Nat.succ_mul]
      omega

theorem lines_append (s t : String) : lines (s ++ "\n" ++ t) = lines s ++ lines t := by
  have characters : (s ++ "\n" ++ t).toList = s.toList ++ '\n' :: t.toList := by simp
  have split : (s.toList ++ '\n' :: t.toList).splitOn '\n' =
      s.toList.splitOn '\n' ++ t.toList.splitOn '\n' := List.splitOnP_append_cons _ _ rfl
  rw [lines, characters, split, List.map_append]
  rfl

theorem lines_intercalate {texts : List String} (filled : texts ≠ []) :
    lines ("\n".intercalate texts) = texts.flatMap lines := by
  obtain ⟨s, texts, rfl⟩ := List.exists_cons_of_ne_nil filled
  induction texts generalizing s with
  | nil => simp
  | cons t texts ih =>
      rw [String.intercalate_cons_cons, lines_append, ih t (by simp)]
      rfl

theorem length_lines (s : String) : (lines s).length = breaks s + 1 := by
  rw [lines, List.length_map, breaks]
  induction s.toList with
  | nil => rfl
  | cons c cs ih =>
      rw [List.splitOn] at ih ⊢
      rw [List.splitOnP_cons_eq_if_modifyHead]
      by_cases lineBreak : c = '\n'
      · simp [lineBreak, ih]
      · simp [lineBreak, ih]

theorem length_lines_intercalate {texts : List String} (filled : texts ≠ []) :
    (lines ("\n".intercalate texts)).length = texts.length + (texts.map breaks).sum := by
  have separator : breaks "\n" = 1 := rfl
  have some_text := List.length_pos_of_ne_nil filled
  rw [length_lines, breaks_intercalate _ filled, separator]
  omega

theorem lines_of_breaks_eq_zero {s : String} (oneLine : breaks s = 0) : lines s = [s] := by
  have absent : ∀ l ∈ [s.toList], '\n' ∉ l := by simpa using breaks_eq_zero_iff.mp oneLine
  have split := List.splitOn_intercalate '\n' absent (by simp)
  rw [List.intercalate_singleton] at split
  simp [lines, split]

/-- The lines of a joined text are the texts that it is joined of exactly if each is one line. -/
theorem lines_intercalate_eq_iff {texts : List String} (filled : texts ≠ []) :
    lines ("\n".intercalate texts) = texts ↔ ∀ s ∈ texts, breaks s = 0 := by
  constructor
  · intro same s member
    have count := length_lines_intercalate filled
    rw [same] at count
    have none_inside : (texts.map breaks).sum = 0 := by omega
    exact List.sum_eq_zero_iff_forall_eq_nat.mp none_inside _ (List.mem_map_of_mem member)
  · intro oneLine
    have each : texts.flatMap lines = texts.flatMap fun s => [s] :=
      List.flatMap_congr fun s member => lines_of_breaks_eq_zero (oneLine s member)
    rw [lines_intercalate filled, each, List.flatMap_singleton']

end CheckConstraints.Text
