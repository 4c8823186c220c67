import CheckConstraints.Script.Value
import CheckConstraints.Text.Blank

/-!
The grammar of the authoring shorthand: which script values describe a constraint that has a
predicate. It is about the values alone, not about how they are converted.
-/

namespace CheckConstraints

open Number (DecimalDatum)
open Script (Value)

/-- A text with a character that is not blank. -/
def Text.Says (text : String) : Prop := ∃ c ∈ text.toList, Text.isBlank c = false

def Scalar.IsFinite : Scalar → Prop
  | .float x => x.isFinite = true
  | _ => True

namespace Descriptor

inductive Sound : Descriptor → Prop
  | raw {text : String} (visible : Text.Says text) : Sound (.raw text)
  | inSet {column : String} {values : List Scalar} (filled : values ≠ [])
      (finite : ∀ v ∈ values, v.IsFinite) : Sound (.inSet column values)
  | all {parts : List Descriptor} (filled : parts ≠ []) (sound : ∀ p ∈ parts, Sound p) :
      Sound (.all parts)

variable {text column : String} {values : List Scalar} {parts : List Descriptor}

@[simp] theorem sound_raw : (raw text).Sound ↔ Text.Says text :=
  ⟨fun (.raw visible) => visible, .raw⟩

@[simp] theorem sound_inSet :
    (inSet column values).Sound ↔ values ≠ [] ∧ ∀ v ∈ values, v.IsFinite :=
  ⟨fun (.inSet filled finite) => ⟨filled, finite⟩, fun h => .inSet h.1 h.2⟩

@[simp] theorem sound_all : (all parts).Sound ↔ parts ≠ [] ∧ ∀ p ∈ parts, p.Sound :=
  ⟨fun (.all filled sound) => ⟨filled, sound⟩, fun h => .all h.1 h.2⟩

end Descriptor

namespace Script.Value

/-- What a column can be compared with: a truth value, an integer, a text, a finite number. -/
def IsChoice : Value → Prop
  | .bool _ | .int _ | .text _ | .decimal (.finite _) => True
  | .float x => x.isFinite = true
  | _ => False

@[simp] theorem isChoice_decimal {d : DecimalDatum} :
    (Value.decimal d).IsChoice ↔ ∃ q, d = .finite q := by
  cases d <;> simp [IsChoice]

/-- A choice, or a list, a tuple or a set of choices with at least one of them. -/
def IsChoices (v : Value) : Prop :=
  v.IsChoice ∨ ∃ items, v.items? = some items ∧ items ≠ [] ∧ ∀ w ∈ items, w.IsChoice

theorem isChoices_of_items {v : Value} {items : List Value} (held : v.items? = some items) :
    v.IsChoices ↔ items ≠ [] ∧ ∀ w ∈ items, w.IsChoice := by
  have several : ¬ v.IsChoice := by
    cases v <;> simp_all [items?, IsChoice]
  simp [IsChoices, several, held]

theorem isChoices_of_single {v : Value} (single : v.items? = none) : v.IsChoices ↔ v.IsChoice := by
  simp [IsChoices, single]

inductive Authored : Value → Prop
  | text {s : String} (visible : Text.Says s) : Authored (.text s)
  | descriptor {d : Descriptor} (sound : d.Sound) : Authored (.descriptor d)
  | mapping {entries : List (Value × Value)} (filled : entries ≠ [])
      (columns : ∀ e ∈ entries, ∃ column, e.1 = .text column ∧ e.2.IsChoices) :
      Authored (.mapping entries)
  | list {items : List Value} (filled : items ≠ []) (authored : ∀ v ∈ items, Authored v) :
      Authored (.list items)
  | tuple {items : List Value} (filled : items ≠ []) (authored : ∀ v ∈ items, Authored v) :
      Authored (.tuple items)

variable {s : String} {d : Descriptor} {items : List Value} {entries : List (Value × Value)}

@[simp] theorem authored_text : (text s).Authored ↔ Text.Says s :=
  ⟨fun (.text visible) => visible, .text⟩

@[simp] theorem authored_descriptor : (descriptor d).Authored ↔ d.Sound :=
  ⟨fun (.descriptor sound) => sound, .descriptor⟩

@[simp] theorem authored_mapping : (mapping entries).Authored ↔
    entries ≠ [] ∧ ∀ e ∈ entries, ∃ column, e.1 = text column ∧ e.2.IsChoices :=
  ⟨fun (.mapping filled columns) => ⟨filled, columns⟩, fun h => .mapping h.1 h.2⟩

@[simp] theorem authored_list : (list items).Authored ↔ items ≠ [] ∧ ∀ v ∈ items, v.Authored :=
  ⟨fun (.list filled authored) => ⟨filled, authored⟩, fun h => .list h.1 h.2⟩

@[simp] theorem authored_tuple : (tuple items).Authored ↔ items ≠ [] ∧ ∀ v ∈ items, v.Authored :=
  ⟨fun (.tuple filled authored) => ⟨filled, authored⟩, fun h => .tuple h.1 h.2⟩

mutual

/-- Whether a value holds no octets, at any depth. -/
def bytesFree : Value → Bool
  | .bytes _ => false
  | .list items | .tuple items | .set items | .frozenSet items => bytesFreeItems items
  | .mapping entries => bytesFreeEntries entries
  | _ => true

def bytesFreeItems : List Value → Bool
  | [] => true
  | v :: vs => bytesFree v && bytesFreeItems vs

def bytesFreeEntries : List (Value × Value) → Bool
  | [] => true
  | (key, v) :: entries => bytesFree key && bytesFree v && bytesFreeEntries entries

end

theorem bytesFreeItems_iff : bytesFreeItems items = true ↔ ∀ v ∈ items, v.bytesFree = true := by
  induction items with
  | nil => simp [bytesFreeItems]
  | cons v vs ih => simp [bytesFreeItems, ih]

theorem bytesFreeEntries_iff : bytesFreeEntries entries = true ↔
    ∀ e ∈ entries, e.1.bytesFree = true ∧ e.2.bytesFree = true := by
  induction entries with
  | nil => simp [bytesFreeEntries]
  | cons e es ih => simp [bytesFreeEntries, ih]

end Script.Value

end CheckConstraints
