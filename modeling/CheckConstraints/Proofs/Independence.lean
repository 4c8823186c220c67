import CheckConstraints.Proofs.EditOrder
import CheckConstraints.Proofs.Inversion
import CheckConstraints.Proofs.SnapshotCatalog
import CheckConstraints.Proofs.Turns

/-!
Operations at different places are independent. An operation whose name is known makes one edit when
it is applied, or fails, and which of the two depends on nothing but itself and what is live at its
place. So where no two operations of a migration share a place, the order in which they are applied
does not matter, neither for whether the run completes nor for what it leaves.
-/

namespace CheckConstraints

theorem AddOperation.perform_short {env : Env} {op : AddOperation} {name : String}
    (named : op.knownName? = some name) {w : World} {c : Constraint}
    (done : (op.perform env w).result = .ok c) :
    (name.length : Int) ≤ env.settings.maxNameLength := by
  have made := create_of_perform done
  rw [named] at made
  exact World.create_short made

namespace Operation

/-- The edit that an application of the operation makes, if it makes one. -/
def edit? : Operation → Option Edit
  | .add op =>
    match op.knownName?, op.descriptor.compile with
    | some name, .ok predicate => some (.add ⟨name, op.table, predicate, some op.descriptor⟩)
    | _, _ => none
  | .remove op =>
    match op.checkDescriptor with
    | .ok () => some (.discard op.table op.name)
    | .error _ => none

/-- Nothing keeps the operation from being applied to the registry. -/
def Ready (op : Operation) (settings : Settings) (r : Registry) : Prop :=
  ∃ e, op.edit? = some e ∧ e.Fits r ∧ e.Nameable settings

section
variable {env : Env} {op : Operation} {w : World} {answer : Option Constraint} {e : Edit}
  {settings : Settings} {r : Registry}

/-- What the edit of an operation says about it. -/
inductive Edits : Operation → Edit → Prop where
  | add {op : AddOperation} {name predicate : String} (named : op.knownName? = some name)
      (compiled : op.descriptor.compile = .ok predicate) :
      Edits (.add op) (.add ⟨name, op.table, predicate, some op.descriptor⟩)
  | remove {op : RemoveOperation} (checked : op.checkDescriptor = .ok ()) :
      Edits (.remove op) (.discard op.table op.name)

theorem edits_of_edit? (found : op.edit? = some e) : op.Edits e := by
  cases op with
  | add op =>
      simp only [edit?] at found
      split at found
      · rename_i name predicate named compiled
        cases found
        exact .add named compiled
      · cases found
  | remove op =>
      simp only [edit?] at found
      split at found
      · rename_i checked
        cases found
        exact .remove checked
      · cases found

/-- An operation edits its own place. -/
theorem place_of_edit? (found : op.edit? = some e) :
    op.table = e.place.1 ∧ op.knownName? = some e.place.2 := by
  cases edits_of_edit? found with
  | add named compiled => exact ⟨rfl, named⟩
  | remove checked => exact ⟨rfl, rfl⟩

theorem apply_edits (named : op.knownName? ≠ none) (done : (op.apply env w).result = .ok answer) :
    ∃ e, op.edit? = some e ∧ e.Nameable env.settings ∧ w.Edited e (op.apply env w).world := by
  cases op with
  | add op =>
      obtain ⟨name, known⟩ : ∃ name, op.knownName? = some name :=
        Option.ne_none_iff_exists'.mp named
      simp only [apply, Outcome.map, add_apply_eq] at done ⊢
      by_cases pending : (Operation.add op).pending = true
      · rw [if_pos pending] at done ⊢
        obtain ⟨_, failed, _⟩ | ⟨c, made, _, created⟩ := op.perform_cases env w
        · rw [failed] at done
          cases done
        · have short := AddOperation.perform_short known made
          obtain rfl : c.name = name := created.named name known
          refine ⟨.add c, ?_, ⟨created.nonempty, short⟩, created.edited⟩
          simp only [edit?, known, created.compiled]
          rw [← created.whole created.compiled]
      · rw [if_neg pending] at done
        cases done
  | remove op =>
      have took := applied_of_ok done
      generalize ((Operation.remove op).apply env w).subject = op' at took
      cases took with
      | remove pending compiles dropped =>
          exact ⟨.discard op.table op.name, by simp only [edit?, compiles], True.intro,
            dropped.edited⟩

theorem apply_of_ready (pending : op.pending = true) (ready : op.Ready env.settings w.registry)
    (accepting : ∀ call s, env.executor call s = none) :
    ∃ answer, (op.apply env w).result = .ok answer := by
  obtain ⟨e, found, fits, nameable⟩ := ready
  cases edits_of_edit? found with
  | add named compiled => exact apply_goes (.add named compiled) pending fits nameable accepting
  | @remove op checked =>
      obtain ⟨done, _⟩ := op.perform_drops checked accepting (w := w)
      simp only [apply, Outcome.map, remove_apply_eq, pending, if_true, done]
      exact ⟨_, rfl⟩

/-- The operations are on different tables or use different names. -/
def Apart (op op' : Operation) : Prop := ¬ (op.table = op'.table ∧ op.knownName? = op'.knownName?)

theorem Apart.symm {op op' : Operation} (apart : op.Apart op') : op'.Apart op :=
  fun same => apart ⟨same.1.symm, same.2.symm⟩

theorem Apart.places {op op' : Operation} {e e' : Edit} (apart : op.Apart op')
    (edits : op.edit? = some e) (edits' : op'.edit? = some e') : e.place ≠ e'.place := by
  intro same
  obtain ⟨table, name⟩ := place_of_edit? edits
  obtain ⟨table', name'⟩ := place_of_edit? edits'
  exact apart ⟨by rw [table, table', same], by rw [name, name', same]⟩

/-- What an operation needs is not touched by another one elsewhere. -/
theorem Apart.ready_iff {op op' : Operation} (apart : op.Apart op') (edits : op.edit? = some e) :
    op'.Ready settings (r.edit e) ↔ op'.Ready settings r := by
  constructor
  · rintro ⟨e', edits', fits, nameable⟩
    exact ⟨e', edits', (Registry.fits_edit_iff (apart.places edits edits')).mp fits, nameable⟩
  · rintro ⟨e', edits', fits, nameable⟩
    exact ⟨e', edits', (Registry.fits_edit_iff (apart.places edits edits')).mpr fits, nameable⟩

end

/-- An operation that was given a name uses it all along. -/
theorem Reached.keeps_name {op : Operation} (reached : op.Reached) (given : op.name? ≠ none) :
    op.knownName? = op.name? := by
  induction reached with
  | @declared op new =>
      cases op with
      | add op =>
          cases phase : op.phase with
          | declared =>
              simp [knownName?, AddOperation.knownName?, AddOperation.constraint?, phase, name?]
          | applied c | reversed c => simp [state, AddOperation.state, phase] at new
      | remove op => rfl
  | @applied op before env w ih =>
      obtain ⟨_, _, subject, _⟩ | ⟨_, _, took⟩ := op.apply_cases env w
      · rw [subject] at given ⊢
        exact ih given
      · generalize (op.apply env w).subject = op' at took given
        cases took with
        | @add op c w' pending created =>
            obtain ⟨name, named⟩ := Option.ne_none_iff_exists'.mp given
            have used := created.named name ((ih given).trans named)
            exact (congrArg some used).trans named.symm
        | remove pending compiles dropped => rfl
  | @reversed op before env w ih =>
      obtain ⟨_, _, subject, _⟩ | ⟨_, _, took⟩ := op.reverse_cases env w
      · rw [subject] at given ⊢
        cases op with
        | add op => exact ih given
        | remove op =>
            simp only [afterFailure]
            split <;> rfl
      · generalize (op.reverse env w).subject = op' at took given
        cases took with
        | @add op c w' phase dropped =>
            have used := ih given
            simp only [knownName?, AddOperation.knownName?_of_applied phase] at used
            exact used
        | remove phase described created => rfl

/-- The edits that an upgrade of the operations makes. -/
def pendingEdits (ops : List Operation) : List Edit := (ops.filter pending).filterMap edit?

end Operation

open Operation (pendingEdits)

section Run
variable {env : Env} {ops ops' : List Operation} {w : World}

theorem upgrade_edits (named : ∀ op ∈ ops, op.knownName? ≠ none)
    (completes : (runOperations Operation.pending (Operation.apply env) ops w).result = .ok ()) :
    w.EditedAll (pendingEdits ops)
      (runOperations Operation.pending (Operation.apply env) ops w).world := by
  induction ops generalizing w with
  | nil => exact .nil w
  | cons op ops ih =>
      have rest := fun op member => named op (List.mem_cons_of_mem _ member)
      cases picked : op.pending with
      | false =>
          rw [runOperations_pass _ _ picked, Outcome.map_eq] at completes ⊢
          have none_made : pendingEdits (op :: ops) = pendingEdits ops := by
            simp [pendingEdits, picked]
          rw [none_made]
          exact ih rest completes
      | true =>
          cases taken : (op.apply env w).result with
          | error fault =>
              rw [runOperations_error _ _ picked taken] at completes
              cases completes
          | ok answer =>
              obtain ⟨e, edits, _, edited⟩ :=
                Operation.apply_edits (named op List.mem_cons_self) taken
              rw [runOperations_ok _ _ picked taken, Outcome.map_eq] at completes ⊢
              have first : pendingEdits (op :: ops) = e :: pendingEdits ops := by
                simp [pendingEdits, picked, edits]
              rw [first]
              exact edited.cons (ih rest completes)

/-- The run completes if each of its operations could be applied first. -/
theorem upgrade_completes_iff (accepting : ∀ call s, env.executor call s = none)
    (named : ∀ op ∈ ops, op.knownName? ≠ none) (apart : ops.Pairwise Operation.Apart) :
    (runOperations Operation.pending (Operation.apply env) ops w).result = .ok () ↔
      ∀ op ∈ ops, op.pending = true → op.Ready env.settings w.registry := by
  induction ops generalizing w with
  | nil => simp [runOperations]
  | cons op ops ih =>
      have rest := fun op member => named op (List.mem_cons_of_mem _ member)
      obtain ⟨head, tail⟩ := List.pairwise_cons.mp apart
      cases picked : op.pending with
      | false =>
          rw [runOperations_pass _ _ picked, Outcome.map_result, ih rest tail]
          simp [picked]
      | true =>
          cases taken : (op.apply env w).result with
          | error fault =>
              rw [runOperations_error _ _ picked taken]
              have stuck : ¬ op.Ready env.settings w.registry := by
                intro ready
                obtain ⟨answer, done⟩ := Operation.apply_of_ready picked ready accepting
                rw [done] at taken
                cases taken
              simp [Outcome.failed, picked, stuck]
          | ok answer =>
              obtain ⟨e, edits, nameable, edited⟩ :=
                Operation.apply_edits (named op List.mem_cons_self) taken
              have ready : op.Ready env.settings w.registry := ⟨e, edits, edited.fits, nameable⟩
              rw [runOperations_ok _ _ picked taken, Outcome.map_result, ih rest tail,
                edited.registry, List.forall_mem_cons]
              have elsewhere : ∀ op' ∈ ops, op'.Ready env.settings (w.registry.edit e) ↔
                  op'.Ready env.settings w.registry :=
                fun op' member => (head op' member).ready_iff edits
              constructor
              · intro later
                exact ⟨fun _ => ready, fun op' member pending =>
                  (elsewhere op' member).mp (later op' member pending)⟩
              · rintro ⟨_, all⟩ op' member pending
                exact (elsewhere op' member).mpr (all op' member pending)

theorem pendingEdits_apart (apart : ops.Pairwise Operation.Apart) :
    (pendingEdits ops).Pairwise (·.place ≠ ·.place) :=
  (apart.filter Operation.pending).filterMap Operation.edit? fun _ _ apart _ edits _ edits' =>
    apart.places edits edits'

theorem pendingEdits_perm (perm : ops.Perm ops') : (pendingEdits ops).Perm (pendingEdits ops') :=
  (perm.filter Operation.pending).filterMap Operation.edit?

end Run

namespace Migration

/-- Two migrations with the same operations in different orders, each under a name of its own,
complete on the same registries. Where they do, they make the same edits. Nothing that can be read
off a registry afterwards tells the order, even if the registry holds its constraints as they came. -/
theorem upgrade_reordered {env : Env} (accepting : ∀ call s, env.executor call s = none)
    {m m' : Migration} (perm : m.operations.Perm m'.operations)
    (reached : ∀ op ∈ m.operations, op.Reached) (named : ∀ op ∈ m.operations, op.name? ≠ none)
    (distinct : (m.operations.map fun op => (op.table, op.name?)).Nodup) {w w' : World}
    (same : w'.registry = w.registry) :
    let up := m.upgrade env w
    let up' := m'.upgrade env w'
    (up.result = .ok () ↔ up'.result = .ok ()) ∧
    (up.result = .ok () →
      (∀ table name, up'.world.registry.get? table name = up.world.registry.get? table name) ∧
      (∀ indent, Snapshot.render up'.world.registry indent =
        Snapshot.render up.world.registry indent) ∧
      ∃ es es', up.world.emitted = w.emitted ++ es.map Edit.statement ∧
        up'.world.emitted = w'.emitted ++ es'.map Edit.statement ∧
        (es.map Edit.statement).Perm (es'.map Edit.statement) ∧
        ∀ d d' : Directory, d.WellFormed → d'.WellFormed → d.get? = w.registry.get? →
          d'.get? = w.registry.get? →
          (Edit.run Directory.step es d).2.readings = up.world.registry.readings ∧
          (Edit.run Directory.step es' d').2.readings = up.world.registry.readings) := by
  intro up up'
  have known : ∀ op ∈ m.operations, op.knownName? = op.name? :=
    fun op member => (reached op member).keeps_name (named op member)
  have named : ∀ op ∈ m.operations, op.knownName? ≠ none :=
    fun op member => known op member ▸ named op member
  have named' : ∀ op ∈ m'.operations, op.knownName? ≠ none :=
    fun op member => named op (perm.mem_iff.mpr member)
  have apart : m.operations.Pairwise Operation.Apart := by
    refine (List.pairwise_map.mp distinct).imp_of_mem ?_
    intro op op' member member' other shared
    rw [known op member, known op' member'] at shared
    exact other (Prod.ext shared.1 shared.2)
  have apart' : m'.operations.Pairwise Operation.Apart :=
    (perm.pairwise_iff Operation.Apart.symm).mp apart
  have goes : up.result = .ok () ↔ ∀ op ∈ m.operations, op.pending = true →
      op.Ready env.settings w.registry := by
    simp only [up, upgrade, Outcome.map_result]
    exact upgrade_completes_iff accepting named apart
  have goes' : up'.result = .ok () ↔ ∀ op ∈ m'.operations, op.pending = true →
      op.Ready env.settings w.registry := by
    simp only [up', upgrade, Outcome.map_result]
    rw [← same]
    exact upgrade_completes_iff accepting named' apart'
  have either : up.result = .ok () ↔ up'.result = .ok () := by
    simp only [goes, goes', perm.mem_iff]
  refine ⟨either, fun completes => ?_⟩
  have edited : w.EditedAll (pendingEdits m.operations) up.world :=
    upgrade_edits named ((Outcome.map_result _ _).symm.trans completes)
  have edited' : w'.EditedAll (pendingEdits m'.operations) up'.world :=
    upgrade_edits named' ((Outcome.map_result _ _).symm.trans (either.mp completes))
  have edits := pendingEdits_perm perm
  have registries : up'.world.registry = up.world.registry := by
    rw [edited'.registry, edited.registry, same]
    exact (Registry.edited_perm edits (pendingEdits_apart apart) w.registry).symm
  refine ⟨?_, ?_, _, _, edited.emitted, edited'.emitted, edits.map Edit.statement, ?_⟩
  · intro table name
    rw [registries]
  · intro indent
    rw [registries]
  · intro d d' wellFormed wellFormed' held held'
    refine ⟨?_, ?_⟩
    · rw [edited.registry]
      exact Directory.edited_readings wellFormed held _
    · rw [← registries, edited'.registry, same]
      exact Directory.edited_readings wellFormed' held' _

/-- A constraint is removed from a table and another one added to it, with an add to a second table,
in both orders. -/
theorem upgrade_reordered_on_two_tables :
    let w : World := { registry := Registry.empty.put ⟨"old", "t", "(a > 0)", none⟩ }
    let w' : World := { w with calls := 4 }
    let m : Migration := { operations := [.remove { table := "t", name := "old" },
      .add { table := "t", descriptor := .raw "b > 0", name := some "ck" },
      .add { table := "rates", descriptor := .raw "r > 0", name := some "ck" }] }
    let m' : Migration := { name := "other", operations := m.operations.reverse }
    let up := m.upgrade .standard w
    let up' := m'.upgrade .standard w'
    up'.result = .ok () ∧ up'.world.emitted ≠ up.world.emitted ∧
    Snapshot.render up'.world.registry 2 = Snapshot.render up.world.registry 2 := by
  intro w w' m m' up up'
  have accepting : ∀ call s, Env.standard.executor call s = none := fun _ _ => rfl
  have perm : m.operations.Perm m'.operations := (List.reverse_perm m.operations).symm
  have declared : ∀ op ∈ m.operations, op.state = .declared := by decide
  have completes : up.result = .ok () := up.result_of_isOk (by decide +kernel)
  have same : w'.registry = w.registry := rfl
  obtain ⟨either, alike⟩ := upgrade_reordered accepting perm
    (fun op member => .declared (declared op member)) (by decide) (by decide) same
  obtain ⟨_, snapshots, _⟩ := alike completes
  exact ⟨either.mp completes, by decide +kernel, snapshots 2⟩

end Migration

end CheckConstraints
