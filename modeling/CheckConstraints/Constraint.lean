import CheckConstraints.Descriptor

/-!
Check constraints as they live in a schema: a name on a table, a predicate, and the descriptor that
the predicate was made from, where one is known. Constraints are listed by table and then by name.
Texts are sequences of Unicode scalar values, so that a constraint is made of any three of them.
-/

namespace CheckConstraints

structure Constraint where
  name : String
  table : String
  predicate : String
  source : Option Descriptor
deriving DecidableEq, Repr

namespace Constraint

def IsAt (c : Constraint) (table name : String) : Prop := c.table = table ∧ c.name = name

instance (c : Constraint) (table name : String) : Decidable (c.IsAt table name) :=
  inferInstanceAs (Decidable (_ ∧ _))

def Before (c d : Constraint) : Prop :=
  c.table < d.table ∨ c.table = d.table ∧ c.name < d.name

instance (c d : Constraint) : Decidable (c.Before d) := inferInstanceAs (Decidable (_ ∨ _))

theorem Before.trans {c d e : Constraint} (hcd : c.Before d) (hde : d.Before e) : c.Before e := by
  rcases hcd with h | ⟨h, hn⟩
  · rcases hde with h' | ⟨h', _⟩
    · exact Or.inl (String.lt_trans h h')
    · exact Or.inl (h' ▸ h)
  · rcases hde with h' | ⟨h', hn'⟩
    · exact Or.inl (h ▸ h')
    · exact Or.inr ⟨h.trans h', String.lt_trans hn hn'⟩

theorem Before.irrefl (c : Constraint) : ¬ c.Before c := by
  rintro (h | ⟨_, h⟩) <;> exact String.lt_irrefl _ h

/-- Two constraints that come neither before nor after each other share table and name. -/
theorem isAt_of_not_before {c d : Constraint} (hcd : ¬ c.Before d) (hdc : ¬ d.Before c) :
    d.IsAt c.table c.name := by
  have table : d.table = c.table := by
    apply String.le_antisymm
    · exact String.not_lt.1 fun h => hcd (Or.inl h)
    · exact String.not_lt.1 fun h => hdc (Or.inl h)
  refine ⟨table, ?_⟩
  apply String.le_antisymm
  · exact String.not_lt.1 fun h => hcd (Or.inr ⟨table.symm, h⟩)
  · exact String.not_lt.1 fun h => hdc (Or.inr ⟨table, h⟩)

theorem not_before_of_isAt {c d : Constraint} (h : d.IsAt c.table c.name) : ¬ c.Before d := by
  rintro (h' | ⟨_, h'⟩)
  · exact String.lt_irrefl _ (h.1 ▸ h')
  · exact String.lt_irrefl _ (h.2 ▸ h')

end Constraint

end CheckConstraints
