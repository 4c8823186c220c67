import CheckConstraints.Proofs.Rollback

/-!
A rollback ends at the newest removal without a descriptor. What came after it is rolled back, what
came before it stays applied, and the refusal shows the predicate that the removal took out, even
if its name was used again since. Asking once more changes nothing and gives the same refusal.
Nothing is assumed about the operations before the removal.
-/

namespace CheckConstraints

theorem IrreversibleRemoval.of_eq (table name : String) (predicate : Option String) :
    IrreversibleRemoval.of table name predicate =
      ⟨table, name, (predicate.filter (· ≠ "")).getD placeholder⟩ := by
  cases predicate with
  | none => rfl
  | some p => by_cases empty : p = "" <;> simp [IrreversibleRemoval.of, Option.filter, empty]

namespace RemoveOperation

/-- The refusal shows the predicate that was live when the removal was applied. -/
theorem irreversible_eq {op : RemoveOperation} {r : Registry}
    (took : op.removed? = r.get? op.table op.name) :
    op.irreversible = .irreversible
      ⟨op.table, op.name, ((r.catalog op.table op.name).filter (· ≠ "")).getD
        IrreversibleRemoval.placeholder⟩ := by
  rw [irreversible, took, IrreversibleRemoval.of_eq]
  rfl

end RemoveOperation

section Passage
variable {env : Env} {older newer : List Operation} {k : RemoveOperation} {w : World}

/-- A removal that an upgrade performs takes out what is live under its name. -/
theorem remove_applied {answer : Option Constraint}
    (done : ((Operation.remove k).apply env w).result = .ok answer) :
    ((Operation.remove k).apply env w).subject =
      .remove { k with phase := .applied (w.registry.get? k.table k.name) } := by
  obtain ⟨_, failed, _⟩ | ⟨_, _, took⟩ := (Operation.remove k).apply_cases env w
  · rw [done] at failed
    cases failed
  · generalize ((Operation.remove k).apply env w).subject = op' at took
    cases took
    rfl

/-- A completed upgrade that starts with a removal: what comes after it stands on the world that
the removal left. -/
theorem upgrade_passes_first (pending : ∀ op ∈ .remove k :: newer, op.pending = true)
    (completes : (runOperations Operation.pending (Operation.apply env)
      (.remove k :: newer) w).result = .ok ())
    (finds : ∀ s ∈ (completedSteps Operation.pending (Operation.apply env)
      (.remove k :: newer) w).drop 1, s.1.Finds s.2.registry.catalog) :
    let o := runOperations Operation.pending (Operation.apply env) (.remove k :: newer) w
    let after := (runOperations Operation.pending (Operation.apply env) [.remove k] w).world
    ∃ newer' forward,
      o.subject =
        .remove { k with phase := .applied (w.registry.get? k.table k.name) } :: newer' ∧
      newer'.map Operation.declaration = newer.map Operation.declaration ∧
      Stacked after.registry.catalog newer'.reverse forward o.world.registry.catalog := by
  intro o after
  have head : (Operation.remove k).pending = true := pending _ List.mem_cons_self
  cases taken : ((Operation.remove k).apply env w).result with
  | error fault =>
      rw [runOperations_error _ _ head taken] at completes
      cases completes
  | ok answer =>
      have left : after = ((Operation.remove k).apply env w).world := by
        simp only [after]
        rw [runOperations_ok _ _ head taken]
        rfl
      have run : runOperations Operation.pending (Operation.apply env) (.remove k :: newer) w = _ :=
        runOperations_ok _ _ head taken
      rw [run, Outcome.map_result] at completes
      rw [completedSteps_ok _ _ head taken, List.drop_one, List.tail_cons] at finds
      obtain ⟨newer', rest, forward, raised⟩ := upgrade_raises env newer .base
        (fun op member => pending op (List.mem_cons_of_mem _ member)) finds
      obtain rfl := raised.complete completes
      have subject := raised.split
      rw [List.append_nil] at subject
      have stacked := raised.stacked
      rw [List.append_nil, List.nil_append] at stacked
      have declarations := raised.declarations
      rw [subject] at declarations
      refine ⟨newer', forward, ?_, declarations, ?_⟩
      · simp only [o]
        rw [run, Outcome.map_eq, subject, remove_applied taken]
      · simp only [o]
        rw [run, Outcome.map_eq, left]
        exact stacked

/-- A completed upgrade seen from one of its removals: what came before it is applied, it remembers
what was live where it was applied, and what came after it stands on the world that it left. -/
theorem upgrade_passes (pending : ∀ op ∈ older ++ .remove k :: newer, op.pending = true)
    (completes : (runOperations Operation.pending (Operation.apply env)
      (older ++ .remove k :: newer) w).result = .ok ())
    (finds : ∀ s ∈ (completedSteps Operation.pending (Operation.apply env)
      (older ++ .remove k :: newer) w).drop (older.length + 1), s.1.Finds s.2.registry.catalog) :
    let o := runOperations Operation.pending (Operation.apply env) (older ++ .remove k :: newer) w
    let before := (runOperations Operation.pending (Operation.apply env) older w).world
    let after :=
      (runOperations Operation.pending (Operation.apply env) (older ++ [.remove k]) w).world
    ∃ older' newer' forward,
      o.subject = older' ++
        .remove { k with phase := .applied (before.registry.get? k.table k.name) } :: newer' ∧
      older'.map Operation.state = List.replicate older.length .applied ∧
      older'.map Operation.declaration = older.map Operation.declaration ∧
      newer'.map Operation.declaration = newer.map Operation.declaration ∧
      Stacked after.registry.catalog newer'.reverse forward o.world.registry.catalog := by
  intro o before after
  have first : (runOperations Operation.pending (Operation.apply env) older w).result = .ok () :=
    completes_of_append completes
  have pendingOlder : ∀ op ∈ older, op.pending = true :=
    fun op member => pending op (List.mem_append_left _ member)
  obtain ⟨states, declarations⟩ := upgrade_applies env pendingOlder first
  -- the older operations come through the run on their own, so that it goes on at the removal
  have whole := runOperations_append (.remove k :: newer) first
  have upto := runOperations_append [.remove k] first
  have count := length_completedSteps pendingOlder first
  rw [whole, Outcome.map_result] at completes
  rw [completedSteps_append _ first, ← count, ← List.drop_drop, List.drop_left] at finds
  obtain ⟨newer', forward, subject, kept, stacked⟩ := upgrade_passes_first
    (fun op member => pending op (List.mem_append_right _ member)) completes finds
  refine ⟨_, newer', forward, ?_, states, declarations, kept, ?_⟩
  · simp only [o]
    rw [whole, Outcome.map_eq, subject]
  · simp only [o, after]
    rw [whole, upto, Outcome.map_eq, Outcome.map_eq]
    exact stacked

end Passage

section Stop
variable {env : Env} {start : Catalog} {newer older : List Operation} {ss : List Statement}
  {k : RemoveOperation} {removed : Option Constraint} {w : World}

/-- A rollback on top of a removal without a descriptor comes down to it and no further. -/
theorem downgrade_stops (env : Env) (older : List Operation)
    (stacked : Stacked start newer ss w.registry.catalog)
    (restorable : ∀ op ∈ newer, op.Restorable env.settings)
    (accepting : ∀ call s, env.executor call s = none)
    (phase : k.phase = .applied removed) (blind : k.descriptor = none) :
    let o := runOperations Operation.live (Operation.reverse env) (newer ++ .remove k :: older) w
    o.result = .error k.irreversible ∧ o.world.registry.catalog = start ∧
    ∃ back, o.subject = back ++ .remove { k with phase := .reversalFailed removed } :: older ∧
      (∀ op ∈ back, op.state = .reversed) ∧
      back.map Operation.declaration = newer.map Operation.declaration := by
  have completed := downgrade_completes env stacked rfl restorable accepting
  obtain ⟨back, kept, left, undone, backs, lowered⟩ := downgrade_lowers env stacked rfl
  -- the newer operations come off the stack whole, down to what the removal left
  obtain rfl := lowered.complete completed
  obtain ⟨_, restored⟩ := lowered.stacked.eq_base
  have reversed := lowered.split
  rw [List.append_nil] at reversed
  have live : (Operation.remove k).live = true := by
    simp [Operation.live, Operation.state, RemoveOperation.state, phase]
  have refused : ∀ w, (Operation.remove k).reverse env w = .failed k.irreversible
      (.remove { k with phase := .reversalFailed removed })
      (w.report env (.irreversible k.table k.name)) := by
    intro w
    rw [Operation.reverse, RemoveOperation.reverse_blind env phase blind]
    rfl
  rw [runOperations_append _ completed,
    runOperations_error _ _ live (congrArg Outcome.result (refused _)), refused]
  refine ⟨rfl, restored, back, ?_, lowered.reversed, ?_⟩
  · simp [Outcome.map_eq, Outcome.failed, reversed]
  · rw [← reversed]
    exact lowered.declarations

end Stop

namespace Migration

section Halt
variable {m : Migration} {older newer : List Operation} {k : RemoveOperation}
  {removed : Option Constraint}

theorem downgrade_stops_at (env : Env) {start : Catalog} {ss : List Statement} {w : World}
    (whole : m.operations = older ++ .remove k :: newer)
    (stacked : Stacked start newer.reverse ss w.registry.catalog)
    (restorable : ∀ op ∈ newer, op.Restorable env.settings)
    (accepting : ∀ call s, env.executor call s = none)
    (phase : k.phase = .applied removed) (blind : k.descriptor = none) :
    let down := m.downgrade env w
    down.result = .error k.irreversible ∧ down.world.registry.catalog = start ∧
    ∃ back, down.subject.operations =
        older ++ .remove { k with phase := .reversalFailed removed } :: back ∧
      (∀ op ∈ back, op.state = .reversed) ∧
      back.map Operation.declaration = newer.map Operation.declaration := by
  have fits : ∀ op ∈ newer.reverse, op.Restorable env.settings :=
    fun op member => restorable op (List.mem_reverse.mp member)
  have newestFirst : m.operations.reverse = newer.reverse ++ .remove k :: older.reverse := by
    simp [whole]
  obtain ⟨refused, restored, back, stopped, reversed, declarations⟩ :=
    downgrade_stops (m.env env) older.reverse stacked fits accepting phase blind
  rw [← newestFirst] at refused restored stopped
  refine ⟨?_, restored, back.reverse, ?_, ?_, ?_⟩
  · rw [downgrade, Outcome.map_result]
    exact refused
  · simp [downgrade, Outcome.map, stopped]
  · exact fun op member => reversed op (List.mem_reverse.mp member)
  · rw [List.map_reverse, declarations, List.map_reverse, List.reverse_reverse]

/-- Where a rollback was refused, asking again gives the same refusal and touches nothing. -/
theorem downgrade_stays (env : Env) (w : World)
    (whole : m.operations = older ++ .remove k :: newer)
    (reversed : ∀ op ∈ newer, op.state = .reversed) (phase : k.phase = .reversalFailed removed) :
    m.downgrade env w = .failed k.irreversible m w := by
  have newestFirst : m.operations.reverse = newer.reverse ++ .remove k :: older.reverse := by
    simp [whole]
  have skip : ∀ op ∈ newer.reverse, op.live = false := by
    intro op member
    simp [Operation.live, reversed op (List.mem_reverse.mp member)]
  have live : (Operation.remove k).live = true := by
    simp [Operation.live, Operation.state, RemoveOperation.state, phase]
  have refused : (Operation.remove k).reverse (m.env env) w =
      .failed k.irreversible (.remove k) w := by
    rw [Operation.reverse, RemoveOperation.reverse_failed _ phase]
    rfl
  rw [downgrade, newestFirst, runOperations_skip _ _ skip,
    runOperations_error _ _ live (congrArg Outcome.result refused), refused]
  simp [Outcome.map, Outcome.failed, Except.map, ← whole]

end Halt

/-- The world to which an upgrade comes with the first `n` operations of the migration. -/
def reached (env : Env) (m : Migration) (n : Nat) (w : World) : World :=
  ({ m with operations := m.operations.take n }.upgrade env w).world

theorem reached_length (env : Env) (m : Migration) {ops more : List Operation}
    (whole : m.operations = ops ++ more) (w : World) :
    m.reached env ops.length w =
      (runOperations Operation.pending (Operation.apply (m.env env)) ops w).world := by
  rw [reached, whole, List.take_left]
  rfl

theorem upgrade_passes_at (env : Env) {m : Migration} {older newer : List Operation}
    {k : RemoveOperation} {w : World} (whole : m.operations = older ++ .remove k :: newer)
    (pending : ∀ op ∈ m.operations, op.pending = true)
    (completes : (m.upgrade env w).result = .ok ())
    (finds : ∀ s ∈ (m.applications env w).drop (older.length + 1),
      s.1.Finds s.2.registry.catalog) :
    ∃ older' newer' forward,
      (m.upgrade env w).subject.operations = older' ++ .remove { k with
        phase := .applied ((m.reached env older.length w).registry.get? k.table k.name) } ::
          newer' ∧
      older'.map Operation.state = List.replicate older.length .applied ∧
      older'.map Operation.declaration = older.map Operation.declaration ∧
      newer'.map Operation.declaration = newer.map Operation.declaration ∧
      Stacked (m.reached env (older.length + 1) w).registry.catalog newer'.reverse forward
        (m.upgrade env w).world.registry.catalog := by
  have regrouped : m.operations = (older ++ [.remove k]) ++ newer := by simp [whole]
  have before := m.reached_length env whole w
  have after := m.reached_length env regrouped w
  rw [List.length_append, List.length_singleton] at after
  rw [whole] at pending
  simp only [upgrade, Outcome.map_result, whole] at completes
  simp only [applications, whole] at finds
  rw [before, after]
  simp only [upgrade, whole]
  exact upgrade_passes pending completes finds

theorem exists_around {op : Operation} {ops : List Operation} {i : Nat}
    (place : ops[i]? = some op) :
    ∃ older newer, ops = older ++ op :: newer ∧ older.length = i ∧ ops.drop (i + 1) = newer := by
  obtain ⟨within, here⟩ := List.getElem?_eq_some_iff.mp place
  refine ⟨ops.take i, ops.drop (i + 1), ?_, by simp; omega, rfl⟩
  rw [← here, ← List.drop_eq_getElem_cons within, List.take_append_drop]

/-- `i` is the place of the newest removal without a descriptor, since the ones after it are
restorable. The last part is about any later rollback, in whatever world. -/
theorem downgrade_refused (upEnv downEnv : Env) {m : Migration} {i : Nat} {k : RemoveOperation}
    {w w' : World} (place : m.operations[i]? = some (.remove k)) (blind : k.descriptor = none)
    (pending : ∀ op ∈ m.operations, op.pending = true)
    (completes : (m.upgrade upEnv w).result = .ok ())
    (finds : ∀ s ∈ (m.applications upEnv w).drop (i + 1), s.1.Finds s.2.registry.catalog)
    (restorable : ∀ op ∈ m.operations.drop (i + 1), op.Restorable downEnv.settings)
    (accepting : ∀ call s, downEnv.executor call s = none)
    (same : w'.registry = (m.upgrade upEnv w).world.registry) :
    let down := (m.upgrade upEnv w).subject.downgrade downEnv w'
    let live := (m.reached upEnv i w).registry.catalog k.table k.name
    let refusal : IrreversibleRemoval :=
      ⟨k.table, k.name, (live.filter (· ≠ "")).getD IrreversibleRemoval.placeholder⟩
    down.result = .error (.irreversible refusal) ∧
    down.subject.operations.map Operation.declaration =
      m.operations.map Operation.declaration ∧
    down.subject.operations.map Operation.state = List.replicate i .applied ++
      .reversalFailed :: List.replicate (m.operations.length - (i + 1)) .reversed ∧
    down.world.registry.catalog = (m.reached upEnv (i + 1) w).registry.catalog ∧
    ∀ env w'', down.subject.downgrade env w'' =
      .failed (.irreversible refusal) down.subject w'' := by
  intro down live refusal
  obtain ⟨older, newer, whole, rfl, rest⟩ := exists_around place
  obtain ⟨older', newer', forward, operations, states, kept, declarations, stacked⟩ :=
    upgrade_passes_at upEnv whole pending completes finds
  rw [← same] at stacked
  rw [rest] at restorable
  have fits := Operation.restorable_of_declarations declarations restorable
  obtain ⟨refused, restored, back, stopped, reversed, undone⟩ :=
    downgrade_stops_at downEnv operations stacked fits accepting rfl blind
  have count : back.length = newer.length := by
    simpa using congrArg List.length (undone.trans declarations)
  have left : m.operations.length - (older.length + 1) = back.length := by
    rw [whole, List.length_append, List.length_cons, count]
    omega
  refine ⟨refused.trans (congrArg _ (RemoveOperation.irreversible_eq rfl)), ?_, ?_, restored, ?_⟩
  · simp only [down, stopped, whole, List.map_append, List.map_cons, kept, undone, declarations]
    rfl
  · have ends : back.map Operation.state = List.replicate back.length .reversed := by
      simpa [List.eq_replicate_iff] using reversed
    rw [left, ← states, ← ends]
    simp only [down, stopped, List.map_append, List.map_cons]
    rfl
  · intro env w''
    have again := downgrade_stays env w'' stopped reversed rfl
    exact again.trans (congrArg (Outcome.failed · _ _) (RemoveOperation.irreversible_eq rfl))

/-- The name is used again after the removal, and even then the refusal shows what was removed. -/
theorem downgrade_refused_at_reused_name :
    let w : World := { registry := Registry.empty.put ⟨"ck", "t", "(a > 0)", none⟩ }
    let m : Migration := { operations := [
      .add { table := "t", descriptor := .raw "b > 0", name := some "lower" },
      .remove { table := "t", name := "ck" },
      .add { table := "t", descriptor := .raw "c > 0", name := some "ck" },
      .remove { table := "t", name := "ck", descriptor := some (.raw "c > 0") }] }
    let up := m.upgrade .standard w
    let down := up.subject.downgrade .standard up.world
    down.result = .error (.irreversible ⟨"t", "ck", "(a > 0)"⟩) ∧
    down.subject.operations.map Operation.state =
      [.applied, .reversalFailed, .reversed, .reversed] := by
  intro w m up down
  have completes : up.result = .ok () := by rfl
  obtain ⟨refused, _, states, _⟩ :=
    downgrade_refused .standard .standard (m := m) (i := 1) (k := { table := "t", name := "ck" })
      (w := w) rfl rfl (by decide) completes (by decide) (by decide) (fun _ _ => rfl) rfl
  exact ⟨refused, states⟩

end Migration

end CheckConstraints
