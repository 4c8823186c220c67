/-!
Scans over a text: a run of characters of one kind is taken as far as it goes, and what comes after
it begins with a character of another kind.
-/

namespace CheckConstraints.Text

variable {kind : Char → Bool} {run rest : List Char}

theorem takeWhile_run (inside : ∀ c ∈ run, kind c = true)
    (stops : ∀ c ∈ rest.head?, kind c = false) : (run ++ rest).takeWhile kind = run := by
  rw [List.takeWhile_append_of_pos inside]
  cases rest with
  | nil => simp
  | cons c rest => simp [stops c rfl]

theorem dropWhile_run (inside : ∀ c ∈ run, kind c = true)
    (stops : ∀ c ∈ rest.head?, kind c = false) : (run ++ rest).dropWhile kind = rest := by
  rw [List.dropWhile_append_of_pos inside]
  cases rest with
  | nil => rfl
  | cons c rest => simp [stops c rfl]

end CheckConstraints.Text
