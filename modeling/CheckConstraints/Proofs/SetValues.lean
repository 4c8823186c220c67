import CheckConstraints.Descriptor.Predicate
import CheckConstraints.Proofs.Shorthand
import Mathlib.Data.List.Forall2

/-!
What becomes of the elements of a value set. A scalar stays what it is. Octets and the decimals that
are not finite become scalars of another type without a word, and anything else is refused. So a set
keeps its length and its order, and it keeps its elements exactly if all of them are scalars.
-/

namespace CheckConstraints

open Number (Binary64)
open Script (Value)

namespace Scalar

/-- The readings that change a value. Octets are taken for the first of a truth value, an integer, a
number and a text that they spell, and a decimal that is not finite for a binary number. -/
inductive Coerced : Value → Scalar → Prop
  | truth {octets : List UInt8} {s : String} {b : Bool} (decoded : Text.ofUtf8? octets = some s)
      (spelled : Text.truthValue? s.toList = some b) : Coerced (.bytes octets) (.bool b)
  | integer {octets : List UInt8} {s : String} {n : Int} (decoded : Text.ofUtf8? octets = some s)
      (noTruth : Text.truthValue? s.toList = none)
      (spelled : Text.integer? s.toList = some n) : Coerced (.bytes octets) (.int n)
  | number {octets : List UInt8} {s : String} {x : Binary64}
      (decoded : Text.ofUtf8? octets = some s) (noTruth : Text.truthValue? s.toList = none)
      (noInteger : Text.integer? s.toList = none)
      (spelled : Text.number? s.toList = some x) : Coerced (.bytes octets) (.float x)
  | text {octets : List UInt8} {s : String} (decoded : Text.ofUtf8? octets = some s)
      (noTruth : Text.truthValue? s.toList = none) (noInteger : Text.integer? s.toList = none)
      (noNumber : Text.number? s.toList = none) : Coerced (.bytes octets) (.text s)
  | infinity (negative : Bool) :
      Coerced (.decimal (.infinity negative)) (.float (Binary64.infinity negative))
  | diagnostic (negative : Bool) (payload : Nat) :
      Coerced (.decimal (.nan negative false payload)) (.float Binary64.nan)

variable {v : Value} {s : Scalar}

theorem ofBytes?_eq_some_iff {octets : List UInt8} :
    ofBytes? octets = some s ↔ Coerced (.bytes octets) s := by
  constructor
  · intro read
    obtain ⟨text, decoded, rfl⟩ := Option.map_eq_some_iff.mp read
    cases truth : Text.truthValue? text.toList with
    | some b => exact .truth decoded truth
    | none =>
        cases integer : Text.integer? text.toList with
        | some n => exact .integer decoded truth integer
        | none =>
            cases number : Text.number? text.toList with
            | some x => exact .number decoded truth integer number
            | none => exact .text decoded truth integer number
  · intro coerced
    cases coerced with
    | truth decoded spelled => simp [ofBytes?, decoded, spelled]
    | integer decoded noTruth spelled => simp [ofBytes?, decoded, noTruth, spelled]
    | number decoded noTruth noInteger spelled =>
        simp [ofBytes?, decoded, noTruth, noInteger, spelled]
    | text decoded noTruth noInteger noNumber =>
        simp [ofBytes?, decoded, noTruth, noInteger, noNumber]

/-- The value became the scalar, as it is or by a coercion. -/
def Became (v : Value) (s : Scalar) : Prop := v = Script.ofScalar s ∨ Coerced v s

theorem ofValue?_eq_some_iff : ofValue? v = some s ↔ Became v s := by
  constructor
  · intro read
    cases v with
    | bool b | int n | float x | text s =>
        cases read
        exact .inl rfl
    | decimal d =>
        cases d with
        | finite q =>
            cases read
            exact .inl rfl
        | infinity negative =>
            cases read
            exact .inr (.infinity negative)
        | nan negative signaling payload =>
            cases signaling with
            | false =>
                cases read
                exact .inr (.diagnostic negative payload)
            | true => cases read
    | bytes octets => exact .inr (ofBytes?_eq_some_iff.mp read)
    | _ => cases read
  · rintro (rfl | coerced)
    · exact ofValue?_ofScalar s
    · cases v with
      | bytes octets => exact ofBytes?_eq_some_iff.mpr coerced
      | decimal d => cases coerced <;> rfl
      | _ => cases coerced

/-- A reading that changes a value changes its type. -/
theorem Coerced.typeName_ne (coerced : Coerced v s) :
    v.typeName ≠ (Script.ofScalar s).typeName := by
  cases coerced <;> simp [Value.typeName, Script.ofScalar]

end Scalar

namespace Script.Value

/-- A truth value, an integer, a number, a finite decimal or a text. -/
def IsScalar (v : Value) : Prop := ∃ s, v = ofScalar s

theorem not_isScalar_of_coerced {v : Value} {s : Scalar} (coerced : Scalar.Coerced v s) :
    ¬ v.IsScalar := by
  rintro ⟨other, rfl⟩
  cases other <;> cases coerced

/-- What is read, is a scalar or is coerced, which its type tells. -/
theorem typeName_of_read {v : Value} {s : Scalar} (read : Scalar.ofValue? v = some s) :
    v.typeName ∈ ["bool", "int", "float", "Decimal", "str", "bytes"] := by
  obtain rfl | coerced := Scalar.ofValue?_eq_some_iff.mp read
  · cases s <;> simp [ofScalar, typeName]
  · cases coerced <;> simp [typeName]

end Script.Value

namespace Descriptor

open Scalar (Became Coerced)

theorem scalars?_eq_some_iff {vs : List Value} {ss : List Scalar} :
    scalars? vs = some ss ↔ List.Forall₂ Became vs ss := by
  induction vs generalizing ss with
  | nil => simp [scalars?, eq_comm]
  | cons v vs ih =>
      rw [scalars?_cons, List.forall₂_cons_left_iff]
      constructor
      · rintro ⟨s, rest, rfl, first, later⟩
        exact ⟨s, rest, Scalar.ofValue?_eq_some_iff.mp first, ih.mp later, rfl⟩
      · rintro ⟨s, rest, first, later, rfl⟩
        exact ⟨s, rest, rfl, Scalar.ofValue?_eq_some_iff.mpr first, ih.mpr later⟩

theorem scalars?_eq_none_iff {vs : List Value} :
    scalars? vs = none ↔ ∃ v ∈ vs, Scalar.ofValue? v = none := by
  induction vs with
  | nil => simp [scalars?]
  | cons v vs ih =>
      simp only [List.mem_cons, exists_eq_or_imp, ← ih]
      cases first : Scalar.ofValue? v <;> cases later : scalars? vs <;>
        simp [scalars?, first, later]

/-- The values are the elements exactly if no element was coerced. -/
theorem kept_iff {vs : List Value} {ss : List Scalar} (became : List.Forall₂ Became vs ss) :
    ss.map Script.ofScalar = vs ↔ ∀ v ∈ vs, v.IsScalar := by
  induction became with
  | nil => simp
  | @cons v s vs ss head tail ih =>
      rw [List.forall_mem_cons, ← ih, List.map_cons, List.cons.injEq]
      have first : Script.ofScalar s = v ↔ v.IsScalar := by
        constructor
        · intro same
          exact ⟨s, same.symm⟩
        · intro scalar
          obtain same | coerced := head
          · exact same.symm
          · exact absurd scalar (Value.not_isScalar_of_coerced coerced)
      rw [first]

theorem ofShorthand_column (column : String) (items : List Value) :
    ofShorthand (.mapping [(.text column, .list items)]) =
      match scalars? items with
      | some values => .ok (.inSet column values)
      | none => .error (.unsupportedValue column) := by
  simp only [ofShorthand, ofColumns, ofColumn, choices, Bind.bind, Except.bind]
  cases scalars? items <;> rfl

/-- A list and a tuple of elements are read alike. Either an element cannot be read and the value is
refused, or there is one value for each element, in their order, and the values are the elements if
and only if all of them are scalars. The others that can be read come out with another type. -/
theorem set_values_kept_iff (column : String) (items : List Value) :
    let read := ofShorthand (.mapping [(.text column, .list items)])
    ofShorthand (.mapping [(.text column, .tuple items)]) = read ∧
    (read = .error (.unsupportedValue column) ∧ (∃ v ∈ items, ∀ s, ¬ Became v s) ∨
      ∃ values, read = .ok (.inSet column values) ∧ values.length = items.length ∧
        List.Forall₂ Became items values ∧
        (values.map Script.ofScalar = items ↔ ∀ v ∈ items, v.IsScalar)) ∧
    (∀ v ∈ items, v.typeName ∉ ["bool", "int", "float", "Decimal", "str", "bytes"] →
      read = .error (.unsupportedValue column)) ∧
    ∀ v s, Coerced v s → v.typeName ≠ (Script.ofScalar s).typeName := by
  intro read
  have decided := ofShorthand_column column items
  refine ⟨rfl, ?_, ?_, fun _ _ coerced => coerced.typeName_ne⟩
  · cases each : scalars? items with
    | none =>
        rw [each] at decided
        obtain ⟨v, member, unread⟩ := scalars?_eq_none_iff.mp each
        refine .inl ⟨decided, v, member, fun s became => ?_⟩
        rw [Scalar.ofValue?_eq_some_iff.mpr became] at unread
        cases unread
    | some values =>
        rw [each] at decided
        have became := scalars?_eq_some_iff.mp each
        exact .inr ⟨values, decided, became.length_eq.symm, became, kept_iff became⟩
  · intro v member other
    have unread : Scalar.ofValue? v = none :=
      Option.eq_none_iff_forall_ne_some.mpr fun s found => other (Value.typeName_of_read found)
    have each : scalars? items = none := scalars?_eq_none_iff.mpr ⟨v, member, unread⟩
    rw [each] at decided
    exact decided

/-- Scalars of all five types are kept, and next to them a null is refused. -/
theorem set_values_kept_iff_on_five_types :
    let scalars : List Scalar := [.bool true, .int 1, .float (Binary64.zero true),
      .decimal ⟨false, 10, -1⟩, .text "1"]
    let items := scalars.map Script.ofScalar
    (∃ values, ofShorthand (.mapping [(.text "c", .list items)]) = .ok (.inSet "c" values) ∧
      values.map Script.ofScalar = items) ∧
    ofShorthand (.mapping [(.text "c", .tuple (items ++ [.null]))]) =
      .error (.unsupportedValue "c") := by
  intro scalars items
  have all : ∀ v ∈ items, v.IsScalar := by
    intro v member
    obtain ⟨s, _, rfl⟩ := List.mem_map.mp member
    exact ⟨s, rfl⟩
  constructor
  · obtain ⟨_, ⟨refused, _⟩ | ⟨values, read, _, _, kept⟩, _⟩ := set_values_kept_iff "c" items
    · cases refused
    · exact ⟨values, read, kept.mpr all⟩
  · obtain ⟨same, _, refused, _⟩ := set_values_kept_iff "c" (items ++ [.null])
    exact same.trans (refused .null (by simp) (by decide))

/-- The octets of the digit one are not refused: the column is compared with a truth value. -/
theorem octets_become_truth_value :
    let items := [Value.bytes [49]]
    let read := ofShorthand (.mapping [(.text "price", .list items)])
    read = .ok (.inSet "price" [.bool true]) ∧ read ≠ .error (.unsupportedValue "price") ∧
      [Scalar.bool true].map Script.ofScalar ≠ items ∧
      (read >>= compile) = .ok "(price = ANY (ARRAY[true]))" := by
  intro items read
  have accepted : read = .ok (.inSet "price" [.bool true]) := rfl
  refine ⟨accepted, ?_, ?_, ?_⟩
  · rw [accepted]
    nofun
  · simp [items, Script.ofScalar]
  · rw [accepted]
    rfl

end Descriptor

end CheckConstraints
