import CheckConstraints.Proofs.Directory

/-!
Edits in another order. Edits at places that are all different lead to the same registry whatever
their order is, and a directory, which holds its tables and names in the order in which they came,
shows the same after them.
-/

namespace CheckConstraints

namespace Edit

variable {e : Edit} {table name : String}

theorem isAt_iff : e.IsAt table name ↔ e.place = (table, name) := by
  cases e <;> simp [IsAt, place, Constraint.IsAt]

end Edit

namespace Registry

variable {r : Registry} {e e' : Edit} {es es' : List Edit}

theorem edit_eq_step (e : Edit) (r : Registry) : r.edit e = (step e r).2 := by
  cases e with
  | add c =>
      cases added : r.add c <;> simp [edit, step, added]
  | discard table name => rfl

theorem get?_edit (e : Edit) (r : Registry) : (r.edit e).get? = (Contents.step e r.get?).2 := by
  rw [edit_eq_step]
  exact (step_eq e r).2

/-- Edits at different places can be made in either order. -/
theorem edit_comm (apart : e.place ≠ e'.place) (r : Registry) :
    (r.edit e).edit e' = (r.edit e').edit e := by
  apply eq_of_get?
  intro table name
  have both := (Contents.step_comm apart r.get?).2
  rw [get?_edit, get?_edit, get?_edit, get?_edit, both]

/-- Whether an edit fits is not changed by an edit elsewhere. -/
theorem fits_edit_iff (apart : e.place ≠ e'.place) : e'.Fits (r.edit e) ↔ e'.Fits r := by
  cases e' with
  | add c =>
      have away : ¬ e.IsAt c.table c.name := fun here => apart (Edit.isAt_iff.mp here)
      simp only [Edit.Fits, get?_edit_of_away away]
  | discard table name => rfl

/-- Edits at places that are all different can be made in any order. -/
theorem edited_perm (perm : es.Perm es') (apart : es.Pairwise (·.place ≠ ·.place))
    (r : Registry) : r.edited es = r.edited es' := by
  induction perm generalizing r with
  | nil => rfl
  | cons e perm ih => exact ih (List.pairwise_cons.mp apart).2 (r.edit e)
  | swap e e' es =>
      have first : e'.place ≠ e.place := (List.pairwise_cons.mp apart).1 e List.mem_cons_self
      simp only [edited, List.foldl_cons, edit_comm first]
  | trans front back ih ih' =>
      have still := (front.pairwise_iff Ne.symm).mp apart
      exact (ih apart r).trans (ih' still r)

end Registry

namespace Directory

/-- A directory in which constraints were held from the start shows what a registry shows after the
same edits, whatever the order in which its tables and names came. -/
theorem edited_readings {d : Directory} {r : Registry} (wellFormed : d.WellFormed)
    (same : d.get? = r.get?) (es : List Edit) :
    (Edit.run step es d).2.readings = (r.edited es).readings := by
  have shown : (Edit.run step es d).2.WellFormed ∧
      (Edit.run step es d).2.get? = (r.edited es).get? := by
    induction es generalizing d r with
    | nil => exact ⟨wellFormed, same⟩
    | cons e es ih =>
        obtain ⟨_, still, look_ups⟩ := step_eq e wellFormed
        exact ih still (by rw [look_ups, same, Registry.get?_edit])
  have described := readings_describe shown.1
  rw [shown.2] at described
  exact described.unique (r.edited es).readings_describe

end Directory

end CheckConstraints
