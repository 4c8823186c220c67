import CheckConstraints.Registry.Lemmas
import CheckConstraints.Statement

/-!
Edits of a registry: a constraint is added or discarded. A list of edits is made one after the
other, and an add that is refused changes nothing. What a list of edits makes of a registry does not
depend on the places that the list first clears, so that edits which were taken back can be made
once more, even if taking them back did not lead to the registry at the start.
-/

namespace CheckConstraints

inductive Edit where
  | add (c : Constraint)
  | discard (table name : String)

namespace Edit

def IsAt : Edit → String → String → Prop
  | .add c, table, name => c.IsAt table name
  | .discard t n, table, name => t = table ∧ n = name

/-- A constraint is added where its name is free; a discard always goes through. -/
def Fits : Edit → Registry → Prop
  | .add c, r => r.get? c.table c.name = none
  | .discard _ _, _ => True

def statement : Edit → Statement
  | .add c => .create c.table c.name c.predicate
  | .discard table name => .drop table name

/-- One of the two takes back what the other did to their place, as far as its being in use goes. -/
def Opposes : Edit → Edit → Prop
  | .add c, .discard table name | .discard table name, .add c => c.IsAt table name
  | _, _ => False

/-- The first of the edits at a place is a discard. -/
def ClearedFirst : List Edit → String → String → Prop
  | [], _, _ => False
  | .add c :: es, table, name => ¬ c.IsAt table name ∧ ClearedFirst es table name
  | .discard t n :: es, table, name => (t = table ∧ n = name) ∨ ClearedFirst es table name

end Edit

namespace Registry

def edit (r : Registry) : Edit → Registry
  | .add c =>
    match r.add c with
    | .error _ => r
    | .ok r' => r'
  | .discard table name => (r.discard table name).2

def edited (r : Registry) (es : List Edit) : Registry := es.foldl edit r

/-- Every edit fits the registry that the earlier ones made. -/
def FitsAll : List Edit → Registry → Prop
  | [], _ => True
  | e :: es, r => e.Fits r ∧ FitsAll es (r.edit e)

variable {r s : Registry} {e : Edit} {es : List Edit} {table name : String}

theorem fits_add_iff {c : Constraint} : (Edit.add c).Fits r ↔ c.name ∉ r.names c.table := by
  rw [mem_names, ← Option.ne_none_iff_exists', Decidable.not_not]
  rfl

theorem edit_add {c : Constraint} (fits : (Edit.add c).Fits r) : r.edit (.add c) = r.put c := by
  simp only [edit, add_eq_ok (fits_add_iff.mp fits)]

theorem get?_edit_of_away (away : ¬ e.IsAt table name) :
    (r.edit e).get? table name = r.get? table name := by
  cases e with
  | add c =>
      cases taken : r.get? c.table c.name with
      | none =>
          rw [edit_add taken]
          exact get?_put_of_ne away
      | some d =>
          have refused : r.contains c.table c.name = true := contains_iff.mpr ⟨d, taken⟩
          simp [edit, add, refused]
  | discard t n => exact get?_erase_of_ne away

theorem get?_edit_add {c : Constraint} (fits : (Edit.add c).Fits r) (here : c.IsAt table name) :
    (r.edit (.add c)).get? table name = some c := by
  obtain ⟨rfl, rfl⟩ := here
  rw [edit_add fits, get?_put_self]

theorem get?_edit_discard (r : Registry) {t n : String} (here : t = table ∧ n = name) :
    (r.edit (.discard t n)).get? table name = none := by
  obtain ⟨rfl, rfl⟩ := here
  exact get?_erase_self r t n

theorem edited_append (r : Registry) (es more : List Edit) :
    r.edited (es ++ more) = (r.edited es).edited more :=
  List.foldl_append

/-- The registries differ at most at the places that the edits first clear. -/
def Agree (es : List Edit) (r s : Registry) : Prop :=
  ∀ table name, ¬ Edit.ClearedFirst es table name → s.get? table name = r.get? table name

theorem Agree.refl (es : List Edit) (r : Registry) : Agree es r r := fun _ _ _ => rfl

theorem Agree.edit (agree : Agree (e :: es) r s) (fits : e.Fits r) :
    e.Fits s ∧ Agree es (r.edit e) (s.edit e) := by
  cases e with
  | add c =>
      have free : s.get? c.table c.name = none :=
        (agree c.table c.name fun cleared => cleared.1 ⟨rfl, rfl⟩).trans fits
      refine ⟨free, fun table name kept => ?_⟩
      by_cases here : c.IsAt table name
      · rw [get?_edit_add free here, get?_edit_add fits here]
      · have away : ¬ (Edit.add c).IsAt table name := here
        rw [get?_edit_of_away away, get?_edit_of_away away]
        exact agree table name fun cleared => kept cleared.2
  | discard t n =>
      refine ⟨True.intro, fun table name kept => ?_⟩
      by_cases here : (Edit.discard t n).IsAt table name
      · rw [get?_edit_discard s here, get?_edit_discard r here]
      · rw [get?_edit_of_away here, get?_edit_of_away here]
        exact agree table name fun cleared => kept (cleared.resolve_left here)

/-- Where the edits fit one registry they fit every registry that agrees with it, and lead to the
same one. -/
theorem Agree.edited (agree : Agree es r s) (fits : FitsAll es r) :
    FitsAll es s ∧ s.edited es = r.edited es := by
  induction es generalizing r s with
  | nil => exact ⟨True.intro, eq_of_get? fun table name => agree table name id⟩
  | cons e es ih =>
      obtain ⟨head, later⟩ := agree.edit fits.1
      obtain ⟨tail, same⟩ := ih later fits.2
      exact ⟨⟨head, tail⟩, same⟩

end Registry

/-- An edit together with one that takes it back. -/
structure Turn where
  forth : Edit
  back : Edit
  opposed : forth.Opposes back

namespace Turn

def creating (c : Constraint) : Turn := ⟨.add c, .discard c.table c.name, ⟨rfl, rfl⟩⟩

def clearing (c : Constraint) : Turn := ⟨.discard c.table c.name, .add c, ⟨rfl, rfl⟩⟩

/-- The edits that take the turns back, the newest first. -/
def backs (turns : List Turn) : List Edit := (turns.map back).reverse

open Registry

variable {turns : List Turn} {r s : Registry}

/-- Taking back what was made on a registry leads to one that agrees with it, if what came later
was taken back so far that it agrees with what was made. -/
theorem agree_back (turn : Turn) {es : List Edit} (fits : turn.forth.Fits r)
    (agree : Agree es (r.edit turn.forth) s) : Agree (turn.forth :: es) r (s.edit turn.back) := by
  obtain ⟨forth, back, opposed⟩ := turn
  intro table name kept
  cases forth with
  | add c =>
      cases back with
      | add d => exact opposed.elim
      | discard t n =>
          obtain ⟨rfl, rfl⟩ := opposed
          by_cases here : c.IsAt table name
          · obtain ⟨rfl, rfl⟩ := here
            exact (get?_edit_discard s ⟨rfl, rfl⟩).trans fits.symm
          · have made : ¬ (Edit.add c).IsAt table name := here
            have undone : ¬ (Edit.discard c.table c.name).IsAt table name := here
            rw [get?_edit_of_away undone, agree table name fun cleared => kept ⟨here, cleared⟩,
              get?_edit_of_away made]
  | discard t n =>
      cases back with
      | add d =>
          obtain ⟨rfl, rfl⟩ := opposed
          have made : ¬ (Edit.discard d.table d.name).IsAt table name :=
            fun here => kept (Or.inl here)
          have undone : ¬ (Edit.add d).IsAt table name := made
          rw [get?_edit_of_away undone, agree table name fun cleared => kept (Or.inr cleared),
            get?_edit_of_away made]
      | discard _ _ => exact opposed.elim

theorem agree_backs (forth : FitsAll (turns.map Turn.forth) r) :
    Agree (turns.map Turn.forth) r ((r.edited (turns.map Turn.forth)).edited (backs turns)) := by
  induction turns generalizing r with
  | nil => exact Agree.refl [] r
  | cons turn turns ih =>
      have last : backs (turn :: turns) = backs turns ++ [turn.back] := by simp [backs]
      rw [last, edited_append]
      exact turn.agree_back forth.1 (ih forth.2)

/-- Turns that were made and taken back can be made again, and lead to where they led first. -/
theorem edited_again (forth : FitsAll (turns.map Turn.forth) r) :
    let back := (r.edited (turns.map Turn.forth)).edited (backs turns)
    FitsAll (turns.map Turn.forth) back ∧
      back.edited (turns.map Turn.forth) = r.edited (turns.map Turn.forth) :=
  (agree_backs forth).edited forth

end Turn

end CheckConstraints
