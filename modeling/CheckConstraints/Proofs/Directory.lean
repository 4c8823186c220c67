import CheckConstraints.Proofs.Listings

/-!
Directories show what registries show. An add opens the entry of its table before it is known to be
accepted, but an add is only refused on a table that has constraints and hence an entry already, and a
discard closes an entry that it empties. So no entry is empty between edits, and the tables listed are
those with constraints.
-/

namespace CheckConstraints

namespace Dictionary

variable {α : Type}

theorem lookup_insert (s : Dictionary α) (key other : String) (a : α) :
    (AList.insert key a s).lookup other = if other = key then some a else s.lookup other := by
  split
  · rename_i same
    rw [same, AList.lookup_insert]
  · rename_i away
    exact AList.lookup_insert_ne away

theorem lookup_erase (s : Dictionary α) (key other : String) :
    (AList.erase key s).lookup other = if other = key then none else s.lookup other := by
  split
  · rename_i same
    rw [same, AList.lookup_erase]
  · rename_i away
    exact AList.lookup_erase_ne away

end Dictionary

namespace Directory

variable {d : Directory} {table table' name : String}

/-- What the entry of a table is like between edits: it has a constraint, and each of its constraints
is on the table and has the name that it is found by. -/
structure IsEntry (table : String) (byName : Dictionary Constraint) : Prop where
  filled : byName.entries ≠ []
  placed : ∀ name c, byName.lookup name = some c → c.IsAt table name

def WellFormed (d : Directory) : Prop :=
  ∀ table byName, d.byTable.lookup table = some byName → IsEntry table byName

theorem onTable_insert (byTable : Dictionary (Dictionary Constraint))
    (byName : Dictionary Constraint) (table table' : String) :
    (⟨byTable.insert table byName⟩ : Directory).onTable table' =
      if table' = table then byName else (⟨byTable⟩ : Directory).onTable table' := by
  simp only [onTable, Dictionary.lookup_insert]
  split <;> rfl

theorem onTable_erase (byTable : Dictionary (Dictionary Constraint)) (table table' : String) :
    (⟨byTable.erase table⟩ : Directory).onTable table' =
      if table' = table then ∅ else (⟨byTable⟩ : Directory).onTable table' := by
  simp only [onTable, Dictionary.lookup_erase]
  split <;> rfl

/-- The entry that a table is given has no constraints. -/
theorem onTable_opened (d : Directory) (table table' : String) :
    (d.opened table).onTable table' = d.onTable table' := by
  simp only [opened]
  split
  · rfl
  · rename_i unopened
    rw [onTable_insert]
    split
    · rename_i same
      rw [same, onTable, AList.lookup_eq_none.mpr unopened, Option.getD_none]
    · rfl

/-- A table with a constraint has its entry already. -/
theorem opened_of_mem (used : name ∈ d.onTable table) : d.opened table = d := by
  rw [opened, if_pos]
  by_contra unopened
  rw [onTable, AList.lookup_eq_none.mpr unopened] at used
  exact AList.notMem_empty name used

theorem mem_onTable_iff : name ∈ d.onTable table ↔ ∃ c, d.get? table name = some c := by
  rw [← AList.lookup_isSome, Option.isSome_iff_exists]
  rfl

theorem lookup_opened_of_ne (other : table' ≠ table) :
    (d.opened table).byTable.lookup table' = d.byTable.lookup table' := by
  simp only [opened]
  split
  · rfl
  · exact AList.lookup_insert_ne other

theorem wellFormed_empty : empty.WellFormed := by
  intro table byName found
  simp [empty, AList.lookup_empty] at found

/-- Only the entry of the table that is written matters. -/
theorem wellFormed_insert {byTable : Dictionary (Dictionary Constraint)}
    {byName : Dictionary Constraint} (written : IsEntry table byName)
    (others : ∀ t, t ≠ table → ∀ entry, byTable.lookup t = some entry → IsEntry t entry) :
    (⟨byTable.insert table byName⟩ : Directory).WellFormed := by
  intro t entry found
  rw [Dictionary.lookup_insert] at found
  split at found
  · rename_i same
    rw [same, ← Option.some.inj found]
    exact written
  · rename_i other
    exact others t other entry found

theorem WellFormed.erase (h : d.WellFormed) (table : String) :
    (⟨d.byTable.erase table⟩ : Directory).WellFormed := by
  intro t entry found
  rw [Dictionary.lookup_erase] at found
  split at found
  · cases found
  · exact h t entry found

theorem WellFormed.placed {c : Constraint} (h : d.WellFormed)
    (found : d.get? table name = some c) : c.IsAt table name := by
  cases entry : d.byTable.lookup table with
  | none => simp [get?, onTable, entry, AList.lookup_empty] at found
  | some byName =>
      simp only [get?, onTable, entry, Option.getD_some] at found
      exact (h table byName entry).placed name c found

theorem add_of_taken {c : Constraint} (taken : c.name ∈ d.onTable c.table) :
    d.add c = (.error (.duplicateName c.table c.name .alreadyExists), d) := by
  simp only [add, opened_of_mem taken, if_pos taken]

/-- A constraint whose name is free is put in, whether or not its table had an entry before. -/
theorem add_of_free {c : Constraint} (h : d.WellFormed) (free : c.name ∉ d.onTable c.table) :
    (d.add c).1 = .ok () ∧ (d.add c).2.WellFormed ∧
    ∀ table, (d.add c).2.onTable table =
      if table = c.table then (d.onTable c.table).insert c.name c else d.onTable table := by
  have opened_free : c.name ∉ (d.opened c.table).onTable c.table := by rwa [onTable_opened]
  have added : d.add c =
      (.ok (), ⟨(d.opened c.table).byTable.insert c.table
        ((d.onTable c.table).insert c.name c)⟩) := by
    rw [add, if_neg opened_free, onTable_opened]
  rw [added]
  refine ⟨rfl, wellFormed_insert ⟨by simp, ?_⟩ ?_, fun table => ?_⟩
  · intro name e found
    rw [Dictionary.lookup_insert] at found
    split at found
    · rename_i same
      rw [same, ← Option.some.inj found]
      exact ⟨rfl, rfl⟩
    · exact h.placed found
  · intro t other entry found
    rw [lookup_opened_of_ne other] at found
    exact h t entry found
  · rw [onTable_insert]
    split
    · rfl
    · exact onTable_opened d c.table table

/-- A discard leaves the other constraints of the table, and no entry if there are none. -/
theorem discard_eq (h : d.WellFormed) (table name : String) :
    (d.discard table name).1 = d.get? table name ∧ (d.discard table name).2.WellFormed ∧
    ∀ t, (d.discard table name).2.onTable t =
      if t = table then (d.onTable table).erase name else d.onTable t := by
  cases found : d.byTable.lookup table with
  | none =>
      have empty : d.onTable table = ∅ := by rw [onTable, found, Option.getD_none]
      simp only [discard, found, get?, empty, AList.lookup_empty, true_and]
      refine ⟨h, fun t => ?_⟩
      split
      · rename_i same
        rw [same, empty]
        rfl
      · rfl
  | some byName =>
      have entry := h table byName found
      have current : d.onTable table = byName := by rw [onTable, found, Option.getD_some]
      have filled : byName.entries.isEmpty = false := by simpa using entry.filled
      simp only [discard, found, filled, AList.extract_eq_lookup_erase, get?, current,
        Bool.false_eq_true, if_false, true_and]
      by_cases last : (byName.erase name).entries = []
      · have gone : byName.erase name = ∅ := AList.ext last
        simp only [last, List.isEmpty_nil, if_true]
        refine ⟨h.erase table, fun t => ?_⟩
        rw [onTable_erase, gone]
      · have remain : (byName.erase name).entries.isEmpty = false := by simpa using last
        simp only [remain, Bool.false_eq_true, if_false]
        refine ⟨wellFormed_insert ⟨last, ?_⟩ fun t _ => h t, fun t => onTable_insert ..⟩
        intro n c kept
        rw [Dictionary.lookup_erase] at kept
        split at kept
        · cases kept
        · exact entry.placed n c kept

/-- An edit does to the look-ups what it does to a map, and leaves no entry empty. -/
theorem step_eq (e : Edit) (h : d.WellFormed) :
    (step e d).1 = (Contents.step e d.get?).1 ∧ (step e d).2.WellFormed ∧
    (step e d).2.get? = (Contents.step e d.get?).2 := by
  cases e with
  | add c =>
      by_cases taken : c.name ∈ d.onTable c.table
      · obtain ⟨other, found⟩ := mem_onTable_iff.mp taken
        simp only [step, add_of_taken taken, Contents.step_add, found, Edit.outcome]
        exact ⟨rfl, h, (Contents.set_of_eq found).symm⟩
      · have free : d.get? c.table c.name = none := AList.lookup_eq_none.mpr taken
        obtain ⟨answer, wellFormed, onTable⟩ := add_of_free h taken
        simp only [step, answer, Contents.step_add, free, Edit.outcome]
        refine ⟨rfl, wellFormed, ?_⟩
        funext table name
        simp only [get?, onTable, Contents.set]
        by_cases same : table = c.table
        · simp [same, Dictionary.lookup_insert]
        · simp [same]
  | discard table name =>
      obtain ⟨answer, wellFormed, onTable⟩ := discard_eq h table name
      simp only [step, answer, Contents.step_discard]
      refine ⟨trivial, wellFormed, ?_⟩
      funext t n
      simp only [get?, onTable, Contents.set]
      by_cases same : t = table
      · simp [same, Dictionary.lookup_erase]
      · simp [same]

theorem run_eq (es : List Edit) :
    (Edit.run step es empty).1 = (Edit.run Contents.step es .empty).1 ∧
    (Edit.run step es empty).2.WellFormed ∧
    (Edit.run step es empty).2.get? = (Edit.run Contents.step es .empty).2 := by
  refine Edit.run_simulates (R := fun (d : Directory) (m : Contents) => d.WellFormed ∧ d.get? = m) ?_ es ?_
  · rintro e d m ⟨wellFormed, rfl⟩
    exact step_eq e wellFormed
  · exact ⟨wellFormed_empty, rfl⟩

/-- The constraints of a table in the order in which the table holds them. -/
def held (d : Directory) (table : String) : List Constraint :=
  (d.onTable table).entries.map Sigma.snd

theorem mem_held {c : Constraint} : c ∈ d.held table ↔ ∃ name, d.get? table name = some c := by
  simp only [held, List.mem_map, get?, ← Option.mem_def, AList.mem_lookup_iff]
  constructor
  · rintro ⟨⟨name, e⟩, member, rfl⟩
    exact ⟨name, member⟩
  · rintro ⟨name, member⟩
    exact ⟨⟨name, c⟩, member, rfl⟩

/-- Constraints of one table differ in their names, since they are found by them. -/
theorem held_names_ne (h : d.WellFormed) (table : String) :
    (d.held table).Pairwise (·.name ≠ ·.name) := by
  have named : (d.held table).map Constraint.name = (d.onTable table).keys := by
    rw [held, List.map_map]
    refine List.map_congr_left fun entry member => ?_
    exact (h.placed (AList.mem_lookup_iff.mpr member)).2
  refine List.pairwise_map.mp ?_
  rw [named]
  exact (d.onTable table).keys_nodup

/-- The tables and names that constraints are found by. -/
def places (d : Directory) : List (String × String) :=
  d.byTable.entries.flatMap fun entry => entry.2.keys.map fun name => (entry.1, name)

theorem mem_places : (table, name) ∈ d.places ↔ d.get? table name ≠ none := by
  have through : (table, name) ∈ d.places ↔
      ∃ byName, d.byTable.lookup table = some byName ∧ name ∈ byName := by
    simp only [places, List.mem_flatMap, List.mem_map, Prod.mk.injEq, ← Option.mem_def,
      AList.mem_lookup_iff, AList.mem_keys]
    constructor
    · rintro ⟨⟨t, byName⟩, member, n, named, rfl, rfl⟩
      exact ⟨byName, member, named⟩
    · rintro ⟨byName, member, named⟩
      exact ⟨⟨table, byName⟩, member, name, named, rfl, rfl⟩
  rw [through, Option.ne_none_iff_exists', ← mem_onTable_iff, onTable]
  cases d.byTable.lookup table with
  | none => simp
  | some byName => simp

theorem places_nodup (d : Directory) : d.places.Nodup := by
  refine List.pairwise_flatMap.mpr ⟨fun entry _ => ?_, ?_⟩
  · exact entry.2.keys_nodup.map fun _ _ same => (Prod.mk.inj same).2
  · refine (List.nodupKeys_iff_pairwise.mp d.byTable.nodupKeys).imp ?_
    intro entry entry' other place listed place' listed'
    obtain ⟨name, _, rfl⟩ := List.mem_map.mp listed
    obtain ⟨name', _, rfl⟩ := List.mem_map.mp listed'
    exact fun same => other (Prod.mk.inj same).1

theorem length_places (d : Directory) : d.places.length = d.size := by
  rw [places, size]
  induction d.byTable.entries with
  | nil => rfl
  | cons entry entries ih =>
      rw [List.flatMap_cons, List.length_append, ih, List.length_map, AList.keys, List.keys,
        List.length_map, List.foldr_cons]

theorem mem_keys_iff (h : d.WellFormed) :
    table ∈ d.byTable.keys ↔ ∃ name, d.get? table name ≠ none := by
  rw [← AList.mem_keys, ← AList.lookup_isSome, Option.isSome_iff_exists]
  constructor
  · rintro ⟨byName, found⟩
    obtain ⟨⟨name, c⟩, others, entries⟩ :=
      List.exists_cons_of_ne_nil (h table byName found).filled
    have first : byName.lookup name = some c :=
      AList.mem_lookup_iff.mpr (entries ▸ List.mem_cons_self)
    exact ⟨name, by simp [get?, onTable, found, first]⟩
  · rintro ⟨name, used⟩
    refine Option.ne_none_iff_exists'.mp fun missing => used ?_
    rw [get?, onTable, missing, Option.getD_none, AList.lookup_empty]

/-- A well-formed directory shows the map that its look-ups are. -/
theorem readings_describe (h : d.WellFormed) : d.readings.Describe d.get? where
  get _ _ := rfl
  contains table name := by
    rw [Option.ne_none_iff_exists', ← mem_onTable_iff]
    exact decide_eq_true_iff
  names table name := by
    rw [Option.ne_none_iff_exists', ← mem_onTable_iff]
    exact List.mem_toFinset.trans AList.mem_keys.symm
  constraints_sorted table := pairwise_mergeSort Constraint.name (held_names_ne h table)
  constraints table c := List.mem_mergeSort.trans mem_held
  tables_sorted := pairwise_mergeSort id d.byTable.keys_nodup
  tables table := List.mem_mergeSort.trans (mem_keys_iff h)
  size := by
    refine ⟨d.places.toFinset, fun table name => List.mem_toFinset.trans mem_places, ?_⟩
    rw [List.toFinset_card_of_nodup d.places_nodup, length_places]
    rfl

end Directory

/-- After any adds and discards a registry shows the map that they make, in answers and readings
alike, and so does a directory. Two edits at different places can be made in either order, whatever
came before and whatever comes later. -/
theorem Registry.shows_contents (es : List Edit) :
    let map := Edit.run Contents.step es .empty
    let registry := Edit.run Registry.step es .empty
    let directory := Edit.run Directory.step es .empty
    (registry.1 = map.1 ∧ registry.2.readings.Describe map.2) ∧
    (directory.1 = map.1 ∧ directory.2.WellFormed ∧
      directory.2.readings = registry.2.readings) ∧
    ∀ e e' later, e.place ≠ e'.place →
      let one := Edit.run Registry.step (es ++ e :: e' :: later) .empty
      let other := Edit.run Registry.step (es ++ e' :: e :: later) .empty
      one.2.readings = other.2.readings ∧
      ∃ a a' answers, one.1 = registry.1 ++ a :: a' :: answers ∧
        other.1 = registry.1 ++ a' :: a :: answers := by
  intro map registry directory
  obtain ⟨answers, look_ups⟩ := run_eq es
  obtain ⟨answers', wellFormed, look_ups'⟩ := Directory.run_eq es
  have shown : registry.2.readings.Describe map.2 := look_ups ▸ registry.2.readings_describe
  have shown' : directory.2.readings.Describe map.2 :=
    look_ups' ▸ Directory.readings_describe wellFormed
  refine ⟨⟨answers, shown⟩, ⟨answers', wellFormed, shown'.unique shown⟩, ?_⟩
  intro e e' later apart one other
  obtain ⟨same, a, a', rest, first, second⟩ := Contents.run_comm apart es later .empty
  obtain ⟨one_answers, one_look_ups⟩ := run_eq (es ++ e :: e' :: later)
  obtain ⟨other_answers, other_look_ups⟩ := run_eq (es ++ e' :: e :: later)
  have registries : one.2 = other.2 := by
    apply eq_of_get?
    intro table name
    rw [one_look_ups, other_look_ups, same]
  refine ⟨congrArg readings registries, a, a', rest, ?_, ?_⟩
  · rw [one_answers, first, answers]
  · rw [other_answers, second, answers]

/-- A refused add, and then a discard and an add at different places in both orders. -/
theorem Registry.shows_contents_of_refused_add :
    let c : Constraint := ⟨"positive", "prices", "(p > 0)", none⟩
    let again : Constraint := ⟨"positive", "prices", "(p > 1)", none⟩
    let d : Constraint := ⟨"positive", "rates", "(r > 0)", none⟩
    let es := [Edit.add c, .add again]
    let one := Edit.run Registry.step (es ++ [.discard "prices" "positive", .add d]) .empty
    let other := Edit.run Registry.step (es ++ [.add d, .discard "prices" "positive"]) .empty
    (Edit.run Directory.step es .empty).2.readings.constraints "prices" = [c] ∧
    one.1 = [.ok none, .error (.duplicateName "prices" "positive" .alreadyExists), .ok (some c),
      .ok none] ∧
    one.2.readings = other.2.readings ∧ other.2.readings.tables = ["rates"] := by
  intro c again d es one other
  obtain ⟨_, ⟨_, _, alike⟩, either⟩ := shows_contents es
  obtain ⟨same, _⟩ := either (.discard "prices" "positive") (.add d) [] (by decide)
  refine ⟨?_, rfl, same, ?_⟩
  · rw [alike]
    rfl
  · rw [← same]
    rfl

end CheckConstraints
