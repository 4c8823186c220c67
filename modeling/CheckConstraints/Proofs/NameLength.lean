import CheckConstraints.Operation
import CheckConstraints.Proofs.Emission

/-!
Names that can be given again. A resolved name is free and not empty, and an explicit one was
checked for its length as well. An anonymous one was not: it is as long as its table and its suffix
make it. Where that is more than the settings allow, the name is refused when it comes back as an
explicit one, which is what happens to an add that is applied again after its rollback.
-/

namespace CheckConstraints

namespace Naming

variable {settings : Settings} {table name : String} {taken : List String}

/-- Wherever the name is free on its table, it is accepted as an explicit one. -/
def Usable (settings : Settings) (table name : String) : Prop :=
  ∀ taken source position, name ∉ taken →
    (resolve settings table (some name) taken source position).result = .ok name

theorem usable_iff (nonempty : name ≠ "") :
    Usable settings table name ↔ (name.length : Int) ≤ settings.maxNameLength := by
  constructor
  · intro usable
    have accepted := usable [] ⟨0, fun _ => .ok 0⟩ 0 List.not_mem_nil
    exact (validate_eq_ok_iff.mp accepted).2.2.1
  · intro short taken source position free
    exact validate_eq_ok_iff.mpr ⟨rfl, nonempty, short, free⟩

theorem length_anonymous (table : String) (suffix : Int) :
    (anonymous table suffix).length = table.length + 1 + (toString suffix).length := by
  simp only [anonymous, String.length_append]
  rfl

/-- Of two natural numbers the greater one is not written with fewer digits. -/
theorem length_toDigits_mono {m n : Nat} (h : m ≤ n) :
    (Nat.toDigits 10 m).length ≤ (Nat.toDigits 10 n).length := by
  have written : 0 < (Nat.toDigits 10 n).length := Nat.length_toDigits_pos
  rw [Nat.length_toDigits_le_iff (by decide) written]
  have fits : n < 10 ^ (Nat.toDigits 10 n).length :=
    (Nat.length_toDigits_le_iff (by decide) written).mp (Nat.le_refl _)
  exact Nat.lt_of_le_of_lt h fits

theorem length_toString_mono {m n : Int} (nonneg : 0 ≤ m) (h : m ≤ n) :
    (toString m).length ≤ (toString n).length := by
  obtain ⟨m, rfl⟩ := Int.eq_ofNat_of_zero_le nonneg
  obtain ⟨n, rfl⟩ := Int.eq_ofNat_of_zero_le (Int.le_trans nonneg h)
  have digits : ∀ k : Nat, (toString (k : Int)).length = (Nat.toDigits 10 k).length := by
    intro k
    rw [← String.length_toList, ← Nat.toList_repr]
    rfl
  rw [digits, digits]
  exact length_toDigits_mono (Int.ofNat_le.mp h)

/-- Only the length stands between a resolved name and its use as an explicit one. An explicit name
has passed that check. The length of an anonymous one lies between what the table takes with the
least and with the greatest suffix, so that on a table with a long name no anonymous name can be
given again, and on one with a short name all of them can. -/
theorem resolve_usable_iff {explicit : Option String} {source : SuffixSource} {position : Nat}
    (found : (resolve settings table explicit taken source position).result = .ok name)
    (range : ∀ k suffix, source.draw k = .ok suffix →
      settings.suffixMin ≤ suffix ∧ suffix ≤ settings.suffixMax) :
    name ≠ "" ∧ name ∉ taken ∧
    (Usable settings table name ↔ (name.length : Int) ≤ settings.maxNameLength) ∧
    (∀ given, explicit = some given → name = given ∧ Usable settings table name) ∧
    (explicit = none → ∃ suffix, settings.suffixMin ≤ suffix ∧ suffix ≤ settings.suffixMax ∧
      name = anonymous table suffix ∧
      (0 ≤ settings.suffixMin →
        table.length + 1 + (toString settings.suffixMin).length ≤ name.length ∧
        name.length ≤ table.length + 1 + (toString settings.suffixMax).length)) := by
  have nonempty := resolve_nonempty found
  refine ⟨nonempty, resolve_free found, usable_iff nonempty, ?_, ?_⟩
  · rintro given rfl
    obtain ⟨rfl, _, short, _⟩ := validate_eq_ok_iff.mp found
    exact ⟨rfl, (usable_iff nonempty).mpr short⟩
  · rintro rfl
    obtain ⟨_, k, suffix, drawn, rfl⟩ := search_found _ _ _ found
    obtain ⟨least, greatest⟩ := range k suffix drawn
    refine ⟨suffix, least, greatest, rfl, fun nonneg => ?_⟩
    have lower := length_toString_mono nonneg least
    have upper := length_toString_mono (Int.le_trans nonneg least) greatest
    rw [length_anonymous]
    omega

/-- A table with a name of six characters leaves room for every suffix of the default settings. -/
theorem resolve_usable_iff_on_prices :
    let source : SuffixSource := .random id SuffixSource.defaultKey 1000000 999999999
    let name := "prices_1000001"
    (resolve {} "prices" none ["prices_1000000"] source 0).result = .ok name ∧
    Usable {} "prices" name := by
  intro source name
  have found : (resolve {} "prices" none ["prices_1000000"] source 0).result = .ok name := by rfl
  have range : ∀ k suffix, source.draw k = .ok suffix → 1000000 ≤ suffix ∧ suffix ≤ 999999999 := by
    intro k suffix drawn
    simp only [source, SuffixSource.random] at drawn
    split at drawn
    · cases drawn
    · cases drawn
      omega
  obtain ⟨_, _, usable, _, anonymous⟩ := resolve_usable_iff found range
  obtain ⟨suffix, _, _, _, bounds⟩ := anonymous rfl
  have longest : name.length ≤ 16 := (bounds (by decide)).2
  refine ⟨found, usable.mpr ?_⟩
  change (name.length : Int) ≤ 63
  omega

set_option maxRecDepth 4000 in
/-- On a table with a name of 57 characters the anonymous name is too long to be given again: the
add that created it is refused after its rollback, though the name is free. -/
theorem anonymous_add_refused_again :
    let table := "subscription_renewal_price_adjustments_by_sales_region_id"
    let name := "subscription_renewal_price_adjustments_by_sales_region_id_1000000"
    let add : AddOperation :=
      { table, descriptor := .raw "price > 0", source := some (.sequential 1 1000000) }
    let first := add.apply .standard {}
    let back := first.subject.reverse .standard first.world
    let again := back.subject.apply .standard back.world
    first.result = .ok ⟨name, table, "(price > 0)", some (.raw "price > 0")⟩ ∧
    back.result = .ok () ∧
    name ∉ back.world.registry.names table ∧
    again.result = .error (.invalidName table name (.tooLong 63)) := by
  refine ⟨?_, ?_, ?_, ?_⟩
  · rfl
  · rfl
  · decide +kernel
  · rfl

end Naming

end CheckConstraints
