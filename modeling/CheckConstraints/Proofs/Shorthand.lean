import CheckConstraints.Proofs.Compilation
import CheckConstraints.Proofs.Conversion
import CheckConstraints.Proofs.SetOrder

/-!
The authoring shorthand accepts its grammar. Acceptance is in two places: a conversion looks at the
types of keys and elements and at the order of sets, and a compilation finds what is empty, blank or
not finite. A value passes both if and only if its parts do.
-/

namespace CheckConstraints

open Script (Value)

theorem Text.allBlank_eq_false {s : String} : Text.allBlank s = false ↔ Text.Says s := by
  simp [Text.allBlank, Text.Says]

theorem Scalar.exists_literal {s : Scalar} : (∃ l, s.literal = .ok l) ↔ s.IsFinite := by
  cases s with
  | bool b => cases b <;> simp [literal, IsFinite]
  | float x => cases finite : x.isFinite <;> simp [literal, IsFinite, finite]
  | _ => simp [literal, IsFinite]

/-- A value without octets is read as a finite scalar exactly if it is a choice. -/
theorem Scalar.exists_ofValue? {v : Value} (plain : v.bytesFree = true) :
    (∃ s, ofValue? v = some s ∧ s.IsFinite) ↔ v.IsChoice := by
  cases v with
  | bytes octets => cases plain
  | decimal d =>
      cases d with
      | finite q => simp [ofValue?, IsFinite]
      | infinity negative => simp [ofValue?, IsFinite]
      | nan negative signaling payload =>
          cases signaling <;> simp [ofValue?, IsFinite]
  | _ => simp [ofValue?, IsFinite, Value.IsChoice]

namespace Descriptor

theorem exists_map_ok {ε α β : Type} {x : Except ε α} {f : α → β} {P : β → Prop} :
    (∃ b, x.map f = .ok b ∧ P b) ↔ ∃ a, x = .ok a ∧ P (f a) := by
  cases x <;> simp [Except.map]

/-- A list with a wanted head and a wanted rest, all of whose members are of a kind. -/
theorem exists_cons {α : Type} {Q Y : List α → Prop} {X P : α → Prop}
    (split : ∀ l, Q l ↔ ∃ a as, l = a :: as ∧ X a ∧ Y as) :
    (∃ l, Q l ∧ ∀ a ∈ l, P a) ↔ (∃ a, X a ∧ P a) ∧ ∃ as, Y as ∧ ∀ a ∈ as, P a := by
  constructor
  · rintro ⟨l, wanted, each⟩
    obtain ⟨a, as, rfl, first, later⟩ := (split l).mp wanted
    obtain ⟨head, tail⟩ := List.forall_mem_cons.mp each
    exact ⟨⟨a, first, head⟩, as, later, tail⟩
  · rintro ⟨⟨a, first, head⟩, as, later, tail⟩
    have wanted := (split (a :: as)).mpr ⟨a, as, rfl, first, later⟩
    exact ⟨a :: as, wanted, List.forall_mem_cons.mpr ⟨head, tail⟩⟩

theorem exists_literals (vs : List Scalar) :
    (∃ ls, literals vs = .ok ls) ↔ ∀ v ∈ vs, v.IsFinite := by
  induction vs with
  | nil => simp [literals]
  | cons v vs ih =>
      rw [List.forall_mem_cons, ← Scalar.exists_literal, ← ih]
      simpa [literals] using exists_cons (P := fun _ => True) fun _ => literals_cons_ok

mutual

/-- A descriptor has a predicate exactly if its texts say something, its lists are filled and its
numbers are finite. -/
theorem exists_compile (d : Descriptor) : (∃ predicate, d.compile = .ok predicate) ↔ d.Sound := by
  cases d with
  | raw text =>
      rw [sound_raw, ← Text.allBlank_eq_false]
      cases blank : Text.allBlank text <;> simp [compile, blank]
  | inSet column values =>
      cases values with
      | nil => simp [compile]
      | cons v vs =>
          have written := exists_literals (v :: vs)
          rw [sound_inSet, ← written, compile]
          cases literals (v :: vs) <;> simp [Except.map]
  | all parts =>
      cases parts with
      | nil => simp [compile]
      | cons p ps =>
          have written := exists_compileParts (p :: ps)
          rw [sound_all, ← written, compile]
          cases compileParts (p :: ps) <;> simp [Except.map]

theorem exists_compileParts (ps : List Descriptor) :
    (∃ predicates, compileParts ps = .ok predicates) ↔ ∀ p ∈ ps, p.Sound := by
  cases ps with
  | nil => simp [compileParts]
  | cons p ps =>
      rw [List.forall_mem_cons, ← exists_compile p, ← exists_compileParts ps]
      simpa [compileParts] using exists_cons (P := fun _ => True) fun _ => compileParts_cons_ok

end

theorem sound_single {ds : List Descriptor} :
    (single ds).Sound ↔ ds ≠ [] ∧ ∀ d ∈ ds, d.Sound := by
  cases ds with
  | nil => exact sound_all
  | cons d ds =>
      cases ds with
      | nil => simp [single]
      | cons d' ds => exact sound_all

theorem scalars?_cons {v : Value} {vs : List Value} {ss : List Scalar} :
    scalars? (v :: vs) = some ss ↔
      ∃ s rest, ss = s :: rest ∧ Scalar.ofValue? v = some s ∧ scalars? vs = some rest := by
  cases first : Scalar.ofValue? v with
  | none => simp [scalars?, first]
  | some s => cases later : scalars? vs <;> simp [scalars?, first, later, eq_comm]

theorem exists_scalars? {vs : List Value} (plain : ∀ v ∈ vs, v.bytesFree = true) :
    (∃ ss, scalars? vs = some ss ∧ ∀ s ∈ ss, s.IsFinite) ↔ ∀ v ∈ vs, v.IsChoice := by
  induction vs with
  | nil => simp [scalars?]
  | cons v vs ih =>
      obtain ⟨head, tail⟩ := List.forall_mem_cons.mp plain
      rw [List.forall_mem_cons, ← Scalar.exists_ofValue? head, ← ih tail]
      exact exists_cons fun _ => scalars?_cons

theorem scalars?_eq_nil {vs : List Value} {ss : List Scalar} (read : scalars? vs = some ss) :
    ss = [] ↔ vs = [] := by
  cases vs with
  | nil => simpa [scalars?, eq_comm] using read
  | cons v vs =>
      obtain ⟨s, rest, rfl, _⟩ := scalars?_cons.mp read
      simp

theorem choices_plain {column : String} {v : Value} {items : List Value}
    (chosen : choices column v = .ok items) (plain : v.bytesFree = true) :
    ∀ w ∈ items, w.bytesFree = true := by
  cases v with
  | list vs | tuple vs =>
      cases chosen
      exact Value.bytesFreeItems_iff.mp plain
  | set vs | frozenSet vs =>
      cases listed : Value.listed? vs with
      | none => simp [choices, listed] at chosen
      | some sorted =>
          simp only [choices, listed, Except.ok.injEq] at chosen
          subst chosen
          intro w member
          have among : w ∈ vs := (Value.listed?_perm listed).mem_iff.mp member
          exact Value.bytesFreeItems_iff.mp plain w among
  | _ =>
      cases chosen
      simpa using plain

theorem exists_choices (column : String) (v : Value) :
    (∃ items, choices column v = .ok items ∧ items ≠ [] ∧ ∀ w ∈ items, w.IsChoice) ↔
      v.IsChoices := by
  cases v with
  | list vs | tuple vs =>
      rw [Value.isChoices_of_items rfl]
      simp only [choices, Except.ok.injEq, exists_eq_left']
  | set vs | frozenSet vs =>
      rw [Value.isChoices_of_items rfl, ← Value.exists_listed?_choices]
      cases listed : Value.listed? vs <;>
        simp only [choices, listed, Except.ok.injEq, Option.some.injEq, reduceCtorEq]
  | _ =>
      rw [Value.isChoices_of_single rfl]
      simp only [choices, Except.ok.injEq, exists_eq_left', ne_eq, List.cons_ne_self,
        List.mem_singleton, forall_eq, not_false_eq_true, true_and]

/-- The entry of a column is accepted exactly if its key is a text and choices are under it. -/
theorem exists_ofColumn {e : Value × Value} (plain : e.2.bytesFree = true) :
    (∃ d, ofColumn e = .ok d ∧ d.Sound) ↔ ∃ column, e.1 = .text column ∧ e.2.IsChoices := by
  obtain ⟨key, v⟩ := e
  cases key with
  | text column =>
      simp only [Value.text.injEq, exists_eq_left', ← exists_choices column v]
      cases chosen : choices column v with
      | error cause => simp [ofColumn, chosen, bind, Except.bind]
      | ok items =>
          -- what was chosen may be empty or not finite: only the compilation would find that
          have finite := exists_scalars? (choices_plain chosen plain)
          simp only [Except.ok.injEq, exists_eq_left', ← finite]
          cases read : scalars? items with
          | none => simp [ofColumn, chosen, read, bind, Except.bind, throw, throwThe,
              MonadExceptOf.throw]
          | some ss =>
              simp [ofColumn, chosen, read, bind, Except.bind, pure, Except.pure,
                scalars?_eq_nil read]
  | _ => simp [ofColumn]

theorem exists_ofColumns {entries : List (Value × Value)}
    (plain : ∀ e ∈ entries, e.2.bytesFree = true) :
    (∃ ds, ofColumns entries = .ok ds ∧ ∀ d ∈ ds, d.Sound) ↔
      ∀ e ∈ entries, ∃ column, e.1 = .text column ∧ e.2.IsChoices := by
  induction entries with
  | nil => simp [ofColumns]
  | cons e es ih =>
      obtain ⟨head, tail⟩ := List.forall_mem_cons.mp plain
      rw [List.forall_mem_cons, ← exists_ofColumn head, ← ih tail]
      exact exists_cons fun _ => cons_ok

theorem ofColumns_eq_nil {entries : List (Value × Value)} {ds : List Descriptor}
    (read : ofColumns entries = .ok ds) : ds = [] ↔ entries = [] := by
  cases entries with
  | nil => simpa [ofColumns, eq_comm] using read
  | cons e es =>
      rw [ofColumns] at read
      obtain ⟨d, rest, rfl, _⟩ := cons_ok.mp read
      simp

theorem ofItems_eq_nil {vs : List Value} {ds : List Descriptor} (read : ofItems vs = .ok ds) :
    ds = [] ↔ vs = [] := by
  cases vs with
  | nil => simpa [ofItems, eq_comm] using read
  | cons v vs =>
      rw [ofItems] at read
      obtain ⟨d, rest, rfl, _⟩ := cons_ok.mp read
      simp

mutual

/-- A value is converted to a descriptor with a predicate exactly if the grammar has it. -/
theorem exists_ofShorthand (v : Value) (plain : v.bytesFree = true) :
    (∃ d, ofShorthand v = .ok d ∧ d.Sound) ↔ v.Authored := by
  cases v with
  | descriptor d => simp [ofShorthand]
  | text s => simp [ofShorthand]
  | mapping entries =>
      have columns := exists_ofColumns fun e member =>
        (Value.bytesFreeEntries_iff.mp plain e member).2
      cases entries with
      | nil => simp [ofShorthand]
      | cons e es =>
          rw [Value.authored_mapping, ← columns, ofShorthand, exists_map_ok]
          cases read : ofColumns (e :: es) with
          | error cause => simp
          | ok ds => simp [sound_single, ofColumns_eq_nil read]
  | list items | tuple items =>
      have each := exists_ofItems items (Value.bytesFreeItems_iff.mp plain)
      simp only [Value.authored_list, Value.authored_tuple, ← each, ofShorthand, exists_map_ok]
      cases read : ofItems items with
      | error cause => simp
      | ok ds => simp [ofItems_eq_nil read]
  | _ =>
      simp only [ofShorthand, reduceCtorEq, false_and, exists_false, false_iff]
      rintro ⟨⟩

theorem exists_ofItems (vs : List Value) (plain : ∀ v ∈ vs, v.bytesFree = true) :
    (∃ ds, ofItems vs = .ok ds ∧ ∀ d ∈ ds, d.Sound) ↔ ∀ v ∈ vs, v.Authored := by
  cases vs with
  | nil => simp [ofItems]
  | cons v vs =>
      obtain ⟨head, tail⟩ := List.forall_mem_cons.mp plain
      rw [List.forall_mem_cons, ← exists_ofShorthand v head, ← exists_ofItems vs tail, ofItems]
      exact exists_cons fun _ => cons_ok

end

theorem bind_compile_ok {x : Except Malformed Descriptor} :
    (∃ predicate, (x >>= compile) = .ok predicate) ↔ ∃ d, x = .ok d ∧ d.Sound := by
  simp only [← exists_compile]
  cases x <;> simp [bind, Except.bind]

/-- A value without octets has a predicate if and only if it is in the grammar of the shorthand. Any
other value is refused as malformed, by its conversion or by the compilation of what it was converted
to, and no other failure of their steps gets out. -/
theorem predicate_iff_authored (v : Value) (plain : v.bytesFree = true) :
    ((∃ predicate, (ofShorthand v >>= compile) = .ok predicate) ↔ v.Authored) ∧
    Conversion.predicate v = (ofShorthand v >>= compile).mapError .malformed ∧
    (¬ v.Authored → ∃ cause, Conversion.predicate v = .error (.malformed cause)) := by
  have accepted : (∃ predicate, (ofShorthand v >>= compile) = .ok predicate) ↔ v.Authored :=
    bind_compile_ok.trans (exists_ofShorthand v plain)
  refine ⟨accepted, Conversion.predicate_eq v, fun other => ?_⟩
  rw [Conversion.predicate_eq]
  cases result : ofShorthand v >>= compile with
  | error cause => exact ⟨cause, rfl⟩
  | ok predicate => exact absurd (accepted.mp ⟨predicate, result⟩) other

/-- A conjunction with a set of values of three types, and one with a set that has no order because a
diagnostic is in it. -/
theorem predicate_iff_authored_of_sets :
    let unordered : List Value :=
      [.decimal (.nan false false 0), .decimal (.finite ⟨false, 15, -1⟩)]
    let v : Value := .list [.text "price > 50", .tuple [.mapping
      [(.text "price", .frozenSet [.text "a", .int 90, .bool true, .int 10]),
        (.text "rate", .decimal (.finite ⟨false, 15, -1⟩))]]]
    let w : Value := .list [.text "price > 50", .mapping [(.text "price", .set unordered)]]
    (∃ predicate, (ofShorthand v >>= compile) = .ok predicate) ∧
      Conversion.sorted unordered = .error .incomparable ∧
      ∃ cause, Conversion.predicate w = .error (.malformed cause) := by
  intro unordered v w
  have visible : Text.Says "price > 50" := ⟨'p', by decide, by decide⟩
  have authored : v.Authored := by
    simp [v, visible, Value.IsChoices, Value.items?, Value.IsChoice]
  have other : ¬ w.Authored := by
    simp [w, unordered, Value.IsChoices, Value.items?, Value.IsChoice]
  have unlisted : Value.listed? unordered = none := by
    simp [unordered, Value.listed?, Value.insertListed?, Value.listedBefore?, Value.typeName,
      Value.same, Value.sameAtom, Value.less?, Value.lessNumber?, Value.parts?, Value.number?,
      Number.Exact.ofDecimal, Number.Exact.same]
  obtain ⟨accepted, _⟩ := predicate_iff_authored v (by decide)
  obtain ⟨_, _, refused⟩ := predicate_iff_authored w (by decide)
  refine ⟨accepted.mpr authored, ?_, refused other⟩
  rw [Conversion.sorted, unlisted]

end Descriptor

end CheckConstraints
