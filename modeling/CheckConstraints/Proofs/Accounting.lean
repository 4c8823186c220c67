import CheckConstraints.Event.Reading
import CheckConstraints.Proofs.Inversion
import Mathlib.Algebra.Order.Group.Multiset

/-!
What a step logs. A statement that was emitted is reported after nothing else can fail; what comes
before it in the log are the names that were found on the way, which tell of no statement. A warning
is logged when a removal comes to its end, and an operation that is over logs nothing more.
-/

namespace CheckConstraints

open LogEntry (told warned)

namespace World

/-- Nothing was reported between the worlds but names that were found. -/
def FindsNames (w w' : World) : Prop :=
  ∃ entries, w'.log = w.log ++ entries ∧ ∀ entry ∈ entries, entry.event.reporter = .naming

/-- What was logged between the worlds tells of the statements emitted there and has the given
warnings. -/
def Accounted (w w' : World) (warnings : Multiset (String × String)) : Prop :=
  ∃ entries, w'.log = w.log ++ entries ∧ w'.emitted = w.emitted ++ told entries ∧
    warned entries = warnings

variable {env : Env} {table name : String} {explicit : Option String} {descriptor : Descriptor}
  {source : Option SuffixSource} {taken : List String} {w w₁ w' : World} {s : Statement}
  {event : Event} {warnings more : Multiset (String × String)}

theorem FindsNames.refl (w : World) : w.FindsNames w := ⟨[], by simp, by simp⟩

theorem FindsNames.accounted (finds : w.FindsNames w') (same : w'.emitted = w.emitted) :
    w.Accounted w' 0 := by
  obtain ⟨entries, log, naming⟩ := finds
  obtain ⟨untold, unwarned⟩ := LogEntry.silent_of_naming naming
  exact ⟨entries, log, by simp [same, untold], unwarned⟩

theorem Accounted.refl (w : World) : w.Accounted w 0 := (FindsNames.refl w).accounted rfl

theorem Accounted.trans (first : w.Accounted w₁ warnings) (later : w₁.Accounted w' more) :
    w.Accounted w' (warnings + more) := by
  obtain ⟨entries, log, emitted, rfl⟩ := first
  obtain ⟨entries', log', emitted', rfl⟩ := later
  exact ⟨entries ++ entries', by simp [log, log'], by simp [emitted, emitted'], by simp⟩

/-- A statement that was emitted on the way is reported in the end. -/
theorem FindsNames.report (finds : w.FindsNames w₁) (sent : w₁.emitted = w.emitted ++ [s])
    (tells : event.statement? = some s) : w.Accounted (w₁.report env event) 0 := by
  obtain ⟨entries, log, naming⟩ := finds
  obtain ⟨untold, unwarned⟩ := LogEntry.silent_of_naming naming
  have last := Event.warning?_of_tells (by rw [event.tells_eq, tells]; rfl)
  refine ⟨entries ++ [⟨event, env.migration⟩], ?_, ?_, ?_⟩
  · simp [World.report, log]
  · simp [World.report, sent, untold, tells]
  · simp [unwarned, last]

theorem emit_log (env : Env) (s : Statement) (w : World) : (w.emit env s).2.log = w.log := by
  simp only [emit]
  split <;> rfl

theorem resolve_findsNames (env : Env) (table : String) (explicit : Option String)
    (taken : List String) (source : Option SuffixSource) (w : World) :
    w.FindsNames (w.resolve env table explicit taken source).2 := by
  simp only [resolve]
  split
  · exact ⟨_, rfl, by simp [Event.reporter]⟩
  · exact FindsNames.refl w

theorem create_findsNames (env : Env) (table : String) (explicit : Option String)
    (descriptor : Descriptor) (source : Option SuffixSource) (w : World) :
    w.FindsNames (w.create env table explicit descriptor source).2 := by
  simp only [create]
  split
  · exact FindsNames.refl w
  · rename_i predicate _
    have finds := resolve_findsNames env table explicit (w.registry.names table) source w
    cases resolved : w.resolve env table explicit (w.registry.names table) source with
    | mk answer w₁ =>
        rw [resolved] at finds
        cases answer with
        | error fault => exact finds
        | ok name =>
            dsimp only
            have kept := emit_log env (.create table name predicate) w₁
            cases sent : w₁.emit env (.create table name predicate) with
            | mk reply w₂ =>
                rw [sent] at kept
                obtain ⟨entries, log, naming⟩ := finds
                have found : w₂.log = w.log ++ entries := kept.trans log
                cases reply with
                | error fault => exact ⟨entries, found, naming⟩
                | ok _ =>
                    dsimp only
                    split <;> exact ⟨entries, found, naming⟩

theorem drop_findsNames (env : Env) (table name : String) (w : World) :
    w.FindsNames (w.drop env table name).2 := by
  have kept := emit_log env (.drop table name) w
  simp only [drop]
  cases sent : w.emit env (.drop table name) with
  | mk reply w₁ =>
      rw [sent] at kept
      cases reply <;> exact ⟨[], by simpa using kept, by simp⟩

/-- A creation that fails is not in the log, and one that goes through is accounted for by any event
that tells of its statement. -/
theorem create_accounted (env : Env) (table : String) (explicit : Option String)
    (descriptor : Descriptor) (source : Option SuffixSource) (w : World) :
    (∃ fault, (w.create env table explicit descriptor source).1 = .error fault ∧
      w.Accounted (w.create env table explicit descriptor source).2 0) ∨
    ∃ c, (w.create env table explicit descriptor source).1 = .ok c ∧
      (∀ name, explicit = some name → c.name = name) ∧
      ∀ event : Event, event.statement? = some (.create table c.name c.predicate) →
        w.Accounted ((w.create env table explicit descriptor source).2.report env event) 0 := by
  have finds := create_findsNames env table explicit descriptor source w
  obtain ⟨fault, failed, same⟩ | ⟨c, made, created⟩ :=
    create_cases env table explicit descriptor source w
  · exact .inl ⟨fault, failed, finds.accounted same.emitted⟩
  · exact .inr ⟨c, made, created.named, fun _ tells => finds.report created.emitted tells⟩

theorem drop_accounted (env : Env) (table name : String) (w : World) :
    (∃ fault, (w.drop env table name).1 = .error fault ∧
      w.Accounted (w.drop env table name).2 0) ∨
    ∃ removed, (w.drop env table name).1 = .ok removed ∧
      ∀ event : Event, event.statement? = some (.drop table name) →
        w.Accounted ((w.drop env table name).2.report env event) 0 := by
  have finds := drop_findsNames env table name w
  obtain ⟨fault, failed, same⟩ | ⟨made, dropped⟩ := drop_cases env table name w
  · exact .inl ⟨fault, failed, finds.accounted same.emitted⟩
  · exact .inr ⟨_, made, fun _ tells => finds.report dropped.emitted tells⟩

end World

namespace Operation

/-- The place of a removal that is over. -/
def ending : Operation → Multiset (String × String)
  | .add _ => 0
  | .remove op => if op.state = .reversalFailed then {(op.table, op.name)} else 0

theorem ending_eq_zero {op : Operation} (going : op.state ≠ .reversalFailed) : op.ending = 0 := by
  cases op with
  | add op => rfl
  | remove op => exact if_neg going

/-- The step is accounted for: the warnings that it logs are the endings that it leads to. -/
def AccountedStep (op : Operation) (w : World) (o : Outcome Operation (Option Constraint)) : Prop :=
  ∃ warnings, w.Accounted o.world warnings ∧ o.subject.ending = op.ending + warnings

theorem apply_accounted (env : Env) (op : Operation) (w : World) :
    op.AccountedStep w (op.apply env w) := by
  cases op with
  | add op =>
      simp only [apply, Outcome.map, add_apply_eq]
      by_cases pending : (Operation.add op).pending = true
      · rw [if_pos pending, AddOperation.perform]
        have spec := w.create_accounted env op.table op.knownName? op.descriptor op.source
        cases made : w.create env op.table op.knownName? op.descriptor op.source with
        | mk answer w₁ =>
            rw [made] at spec
            obtain ⟨fault, rfl, quiet⟩ | ⟨c, rfl, _, reported⟩ := spec
            · exact ⟨0, quiet, rfl⟩
            · exact ⟨0, reported _ Event.statement?_added, rfl⟩
      · rw [if_neg pending]
        exact ⟨0, .refl w, rfl⟩
  | remove op =>
      simp only [apply, Outcome.map, remove_apply_eq]
      by_cases pending : (Operation.remove op).pending = true
      · rw [if_pos pending, RemoveOperation.perform]
        have going : (Operation.remove op).ending = 0 := by
          apply ending_eq_zero
          intro ended
          simp [Operation.pending, ended] at pending
        cases checked : op.checkDescriptor with
        | error cause => exact ⟨0, .refl w, (add_zero _).symm⟩
        | ok _ =>
            dsimp only
            have spec := w.drop_accounted env op.table op.name
            cases made : w.drop env op.table op.name with
            | mk answer w₁ =>
                rw [made] at spec
                obtain ⟨fault, rfl, quiet⟩ | ⟨removed, rfl, reported⟩ := spec
                · exact ⟨0, quiet, (add_zero _).symm⟩
                · refine ⟨0, reported _ Event.statement?_removed, ?_⟩
                  rw [going]
                  exact ending_eq_zero (by simp [state, RemoveOperation.state])
      · rw [if_neg pending]
        exact ⟨0, .refl w, (add_zero _).symm⟩

theorem reverse_accounted (env : Env) (op : Operation) (w : World) :
    op.AccountedStep w (op.reverse env w) := by
  cases op with
  | add op =>
      cases phase : op.phase with
      | declared | reversed c =>
          simp only [reverse, Outcome.map, AddOperation.reverse, phase]
          exact ⟨0, .refl w, rfl⟩
      | applied c =>
          have spec := w.drop_accounted env op.table c.name
          simp only [reverse, Outcome.map, AddOperation.reverse, phase]
          cases made : w.drop env op.table c.name with
          | mk answer w₁ =>
              rw [made] at spec
              obtain ⟨fault, rfl, quiet⟩ | ⟨removed, rfl, reported⟩ := spec
              · exact ⟨0, quiet, rfl⟩
              · exact ⟨0, reported _ Event.statement?_addReversed, rfl⟩
  | remove op =>
      cases phase : op.phase with
      | declared | reversed removed | reversalFailed removed =>
          simp only [reverse, Outcome.map, RemoveOperation.reverse, phase]
          exact ⟨0, .refl w, (add_zero _).symm⟩
      | applied removed =>
          have going : (Operation.remove op).ending = 0 :=
            ending_eq_zero (by simp [state, RemoveOperation.state, phase])
          cases described : op.descriptor with
          | none =>
              -- the one step that brings an operation to its end, and the one warning of it
              have warning : w.Accounted
                  (w.report env (.irreversible op.table op.name)) {(op.table, op.name)} :=
                ⟨[⟨.irreversible op.table op.name, env.migration⟩], rfl,
                  (List.append_nil _).symm, rfl⟩
              simp only [reverse, Outcome.map, RemoveOperation.reverse, phase, described]
              refine ⟨_, warning, ?_⟩
              rw [going, zero_add]
              simp [Outcome.failed, ending, RemoveOperation.state]
          | some descriptor =>
              simp only [reverse, Outcome.map, RemoveOperation.reverse, phase, described,
                RemoveOperation.restore]
              have spec := w.create_accounted env op.table (some op.name) descriptor none
              cases made : w.create env op.table (some op.name) descriptor none with
              | mk answer w₁ =>
                  rw [made] at spec
                  obtain ⟨fault, rfl, quiet⟩ | ⟨c, rfl, named, reported⟩ := spec
                  · exact ⟨0, quiet, (add_zero _).symm⟩
                  · rw [named op.name rfl] at reported
                    refine ⟨0, reported _ Event.statement?_removeReversed, ?_⟩
                    rw [going]
                    exact ending_eq_zero (by simp [state, RemoveOperation.state])

/-- What is over stays as it is, and so does the world. -/
theorem step_of_ended {op : Operation} (ended : op.state = .reversalFailed) (env : Env)
    (w : World) :
    (op.apply env w).subject = op ∧ (op.apply env w).world = w ∧
      (op.reverse env w).subject = op ∧ (op.reverse env w).world = w := by
  cases op with
  | add op => cases phase : op.phase <;> simp [state, AddOperation.state, phase] at ended
  | remove op =>
      cases phase : op.phase with
      | declared | applied removed | reversed removed =>
          simp [state, RemoveOperation.state, phase] at ended
      | reversalFailed removed =>
          simp only [apply, reverse, Outcome.map, RemoveOperation.apply, phase,
            op.reverse_failed env phase]
          exact ⟨rfl, rfl, rfl, rfl⟩

theorem inverse_ending {op inverse : Operation} (inverts : op.inverse = .ok inverse) :
    inverse.ending = 0 := by
  cases op with
  | add op =>
      cases named : op.knownName? with
      | none => simp [Operation.inverse, AddOperation.inverse, named, Except.map] at inverts
      | some name =>
          rw [inverse_add named] at inverts
          cases inverts
          rfl
  | remove op =>
      cases described : op.descriptor with
      | none =>
          rw [inverse_blind described] at inverts
          cases inverts
      | some descriptor =>
          rw [inverse_remove described] at inverts
          cases inverts
          rfl

end Operation

end CheckConstraints
