import CheckConstraints.Proofs.Turns

/-!
Migrate, roll back, and migrate again. A downgrade need not lead back to the registry at the start:
a removal whose target was unknown, or had another predicate, is rolled back by a creation all the
same. Still the second upgrade leads to where the first one led, with the same statements, and so
does every later one. At each place the edits are in turn an add and a discard, so that whether they
fit is settled by what they did there before.
-/

namespace CheckConstraints.Migration

/-- The operations are in the given state and make the turns. -/
def Makes (m : Migration) (state : State) (turns : List Turn) : Prop :=
  List.Forall₂ (Operation.MakesIn state) m.operations turns

variable {settings : Settings} {env upEnv downEnv : Env} {m m' : Migration} {w w' : World}
  {turns : List Turn} {r : Registry}

theorem upgrade_makes (made : m.Makes .reversed turns)
    (completes : (m.upgrade env w).result = .ok ()) :
    (m.upgrade env w).subject.Makes .applied turns ∧
      w.EditedAll (turns.map Turn.forth) (m.upgrade env w).world := by
  rw [upgrade, Outcome.map_result] at completes
  exact (Turning.forth (m.env env)).run made completes

theorem upgrade_goes (made : m.Makes .reversed turns)
    (fits : Registry.FitsAll (turns.map Turn.forth) w.registry)
    (nameable : ∀ turn ∈ turns, turn.forth.Nameable env.settings)
    (accepting : ∀ call s, env.executor call s = none) :
    (m.upgrade env w).result = .ok () := by
  rw [upgrade, Outcome.map_result]
  exact (Turning.forth (m.env env)).completes accepting made fits nameable

theorem downgrade_makes (made : m.Makes .applied turns)
    (completes : (m.downgrade env w).result = .ok ()) :
    (m.downgrade env w).subject.Makes .reversed turns ∧
      w.EditedAll (Turn.backs turns) (m.downgrade env w).world := by
  rw [downgrade, Outcome.map_result] at completes
  obtain ⟨back, edited⟩ :=
    (Turning.back (m.env env)).run (List.forall₂_reverse_iff.mpr made) completes
  rw [List.map_reverse] at edited
  refine ⟨?_, edited⟩
  rw [Makes, ← List.forall₂_reverse_iff]
  simpa [downgrade, Outcome.map] using back

theorem downgrade_goes (made : m.Makes .applied turns)
    (fits : Registry.FitsAll (Turn.backs turns) w.registry)
    (nameable : ∀ turn ∈ turns, turn.back.Nameable env.settings)
    (accepting : ∀ call s, env.executor call s = none) :
    (m.downgrade env w).result = .ok () := by
  rw [Turn.backs, ← List.map_reverse] at fits
  rw [downgrade, Outcome.map_result]
  refine (Turning.back (m.env env)).completes accepting (List.forall₂_reverse_iff.mpr made) fits ?_
  exact fun turn member => nameable turn (List.mem_reverse.mp member)

/-- What an upgrade made on some registry, a downgrade and one more upgrade make again. -/
theorem cycle_makes (made : m.Makes .applied turns)
    (fits : Registry.FitsAll (turns.map Turn.forth) r)
    (here : w.registry = r.edited (turns.map Turn.forth))
    (nameable : ∀ turn ∈ turns, turn.forth.Nameable upEnv.settings)
    (undone : (m.downgrade downEnv w).result = .ok ())
    (accepting : ∀ call s, upEnv.executor call s = none) :
    let down := m.downgrade downEnv w
    let again := down.subject.upgrade upEnv down.world
    again.result = .ok () ∧ again.subject.Makes .applied turns ∧
      again.world.registry = w.registry ∧
      again.world.emitted = down.world.emitted ++ (turns.map Turn.forth).map Edit.statement := by
  intro down again
  obtain ⟨back, taken⟩ := downgrade_makes made undone
  obtain ⟨fitsAgain, leads⟩ := Turn.edited_again fits
  rw [← here, ← taken.registry] at fitsAgain leads
  have completes : again.result = .ok () := upgrade_goes back fitsAgain nameable accepting
  obtain ⟨forth, edited⟩ := upgrade_makes back completes
  exact ⟨completes, forth, edited.registry.trans leads, edited.emitted⟩

/-- What cycles make of a migration and of a world, each of them a downgrade that completes and an
upgrade whose executor takes every statement. -/
inductive Cycled (settings : Settings) (m₀ : Migration) (w₀ : World) :
    Migration → World → Prop where
  | start : Cycled settings m₀ w₀ m₀ w₀
  | cycle {m : Migration} {w : World} {upEnv downEnv : Env} (before : Cycled settings m₀ w₀ m w)
      (alike : upEnv.settings = settings)
      (undone : (m.downgrade downEnv w).result = .ok ())
      (accepting : ∀ call s, upEnv.executor call s = none) :
      Cycled settings m₀ w₀
        ((m.downgrade downEnv w).subject.upgrade upEnv (m.downgrade downEnv w).world).subject
        ((m.downgrade downEnv w).subject.upgrade upEnv (m.downgrade downEnv w).world).world

theorem Cycled.makes (cycled : Cycled settings m w m' w') (made : m.Makes .applied turns)
    (fits : Registry.FitsAll (turns.map Turn.forth) r)
    (here : w.registry = r.edited (turns.map Turn.forth))
    (nameable : ∀ turn ∈ turns, turn.forth.Nameable settings) :
    m'.Makes .applied turns ∧ w'.registry = w.registry := by
  induction cycled with
  | start => exact ⟨made, rfl⟩
  | cycle before alike undone accepting ih =>
      obtain ⟨standing, same⟩ := ih
      rw [← alike] at nameable
      obtain ⟨_, again, returned, _⟩ :=
        cycle_makes standing fits (same.trans here) nameable undone accepting
      exact ⟨again, returned.trans same⟩

/-- A migration whose upgrade completes, and whose downgrade completes after it, makes turns. -/
theorem first_cycle (declared : ∀ op ∈ m.operations, op.state = .declared)
    (completes : (m.upgrade upEnv w).result = .ok ())
    (returns : ((m.upgrade upEnv w).subject.downgrade downEnv
      (m.upgrade upEnv w).world).result = .ok ())
    (short : ∀ op ∈ (m.upgrade upEnv w).subject.operations, ∀ name ∈ op.resolvedName?,
      (name.length : Int) ≤ upEnv.settings.maxNameLength) :
    ∃ turns, (m.upgrade upEnv w).subject.Makes .applied turns ∧
      (∀ turn ∈ turns,
        turn.forth.Nameable upEnv.settings ∧ turn.back.Nameable downEnv.settings) ∧
      w.EditedAll (turns.map Turn.forth) (m.upgrade upEnv w).world := by
  have pending : ∀ op ∈ m.operations, op.pending = true :=
    fun op member => Operation.pending_of_declared (declared op member)
  rw [upgrade, Outcome.map_result] at completes
  rw [downgrade, Outcome.map_result] at returns
  have applied := (upgrade_applies (m.env upEnv) pending completes).1
  refine upgrade_turns pending completes ?_ short
  intro op member
  have live : op.live = true := by
    have state : op.state = .applied :=
      List.eq_of_mem_replicate (applied ▸ List.mem_map_of_mem member)
    simp [Operation.live, state]
  -- the rollback of the operation went through, which tells that it carries a descriptor
  obtain ⟨_, _, reversed⟩ := each_succeeds returns op (List.mem_reverse.mpr member) live
  have restorable := Operation.restorable_of_reversed reversed
  exact restorable

/-- After the first upgrade, and after every cycle: the downgrade goes through if the executor takes
its statements, and after any downgrade that went through the upgrade does the same as the first
one. Only the names have to fit, since those of the anonymous adds are given the second time. -/
theorem upgrade_again (upEnv downEnv : Env) (declared : ∀ op ∈ m.operations, op.state = .declared)
    (completes : (m.upgrade upEnv w).result = .ok ())
    (returns : ((m.upgrade upEnv w).subject.downgrade downEnv
      (m.upgrade upEnv w).world).result = .ok ())
    (short : ∀ op ∈ (m.upgrade upEnv w).subject.operations, ∀ name ∈ op.resolvedName?,
      (name.length : Int) ≤ upEnv.settings.maxNameLength) :
    let up := m.upgrade upEnv w
    ∃ forward, up.world.emitted = w.emitted ++ forward ∧
      ∀ m' w', Cycled upEnv.settings up.subject up.world m' w' →
        (∀ env : Env, env.settings = downEnv.settings → (∀ call s, env.executor call s = none) →
          (m'.downgrade env w').result = .ok ()) ∧
        ∀ backEnv forthEnv : Env, (m'.downgrade backEnv w').result = .ok () →
          forthEnv.settings = upEnv.settings → (∀ call s, forthEnv.executor call s = none) →
          let down := m'.downgrade backEnv w'
          let again := down.subject.upgrade forthEnv down.world
          again.result = .ok () ∧ again.world.registry = up.world.registry ∧
            again.world.emitted = down.world.emitted ++ forward := by
  intro up
  obtain ⟨turns, made, nameable, edited⟩ := first_cycle declared completes returns short
  obtain ⟨_, taken⟩ := downgrade_makes made returns
  refine ⟨_, edited.emitted, ?_⟩
  intro m' w' cycled
  obtain ⟨standing, same⟩ := cycled.makes made edited.fits edited.registry
    fun turn member => (nameable turn member).1
  refine ⟨?_, ?_⟩
  · intro env alike accepting
    refine downgrade_goes standing ?_ ?_ accepting
    · rw [same]
      exact taken.fits
    · rw [alike]
      exact fun turn member => (nameable turn member).2
  · intro backEnv forthEnv undone alike accepting
    rw [← alike] at nameable
    obtain ⟨done, _, registry, emitted⟩ := cycle_makes standing edited.fits
      (same.trans edited.registry) (fun turn member => (nameable turn member).1) undone accepting
    exact ⟨done, registry.trans same, emitted⟩

/-- The first removal has no target and the second one another predicate than it says, so that the
downgrade does not lead back to the registry at the start. Next to them are an anonymous add and one
under the name that was just removed. -/
theorem upgrade_again_after_mismatch :
    let w : World := { registry := Registry.empty.put ⟨"ck", "t", "(a > 0)", none⟩ }
    let m : Migration := { operations := [
      .remove { table := "t", name := "gone", descriptor := some (.raw "b > 0") },
      .add { table := "t", descriptor := .raw "c > 0" },
      .remove { table := "t", name := "ck", descriptor := some (.raw "d > 0") },
      .add { table := "t", descriptor := .raw "e > 0", name := some "ck" }] }
    let up := m.upgrade .standard w
    let down := up.subject.downgrade .standard up.world
    let again := down.subject.upgrade .standard down.world
    down.world.registry ≠ w.registry ∧ again.world.registry = up.world.registry ∧
    (again.subject.downgrade .standard again.world).result = .ok () := by
  intro w m up down again
  have completes : up.result = .ok () := up.result_of_isOk (by decide +kernel)
  have returns : down.result = .ok () := down.result_of_isOk (by decide +kernel)
  obtain ⟨_, _, cycles⟩ :=
    upgrade_again .standard .standard (by decide) completes returns (by decide +kernel)
  obtain ⟨_, stable⟩ := cycles _ _ .start
  obtain ⟨_, registry, _⟩ := stable .standard .standard returns rfl fun _ _ => rfl
  have cycled : Cycled Env.standard.settings up.subject up.world again.subject again.world :=
    .cycle .start rfl returns fun _ _ => rfl
  obtain ⟨downAgain, _⟩ := cycles _ _ cycled
  refine ⟨by decide +kernel, ?_, downAgain .standard rfl fun _ _ => rfl⟩
  -- the two sides are the same but for the names of the runs, which need not be carried out
  with_reducible exact registry

end CheckConstraints.Migration
