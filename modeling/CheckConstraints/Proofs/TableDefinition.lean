import CheckConstraints.Proofs.Steps
import CheckConstraints.TableDefinition

/-!
Two ways to create a constraint: inside the definition of a table, or by an add. Each compiles the
descriptor, finds a name and enters the constraint in the registry; an add emits a statement in
between. Where the statement is accepted the two agree, in their answer as well as in what they do
to the registry and to the sources of suffixes. What else is in the world does not matter to either.
-/

namespace CheckConstraints

/-- An add of what a script value describes, applied at once. -/
def AddOperation.run (env : Env) (table : String) (value : Script.Value) (name : Option String)
    (source : Option SuffixSource) (w : World) : Except Fault Constraint × World :=
  match AddOperation.ofShorthand table value name source with
  | .error cause => (.error (.malformed cause), w)
  | .ok op => ((op.apply env w).result, (op.apply env w).world)

namespace World

/-- The same constraints are live and as many suffixes were drawn; statements and log may differ. -/
structure Alike (w w' : World) : Prop where
  registry : w'.registry = w.registry
  drawn : w'.drawn = w.drawn

section
variable {env : Env} {w w' : World}

theorem Alike.trans {w'' : World} (first : w.Alike w') (later : w'.Alike w'') : w.Alike w'' :=
  ⟨later.registry.trans first.registry, later.drawn.trans first.drawn⟩

theorem emit_alike (env : Env) (s : Statement) (w : World) : w.Alike (w.emit env s).2 := by
  simp only [emit]
  split <;> exact ⟨rfl, rfl⟩

/-- The search for a name reads nothing of a world but the positions of the sources. -/
theorem Alike.resolve (alike : w.Alike w') (env : Env) (table : String) (explicit : Option String)
    (taken : List String) (source : Option SuffixSource) :
    (w'.resolve env table explicit taken source).1 = (w.resolve env table explicit taken source).1 ∧
      (w.resolve env table explicit taken source).2.Alike
        (w'.resolve env table explicit taken source).2 := by
  simp only [World.resolve, alike.drawn]
  split <;> refine ⟨rfl, ?_, ?_⟩ <;> simp [report, advance, alike.registry, alike.drawn]

/-- The definition of a table does what a creation does, but for the statement. -/
theorem Alike.define_create (alike : w.Alike w')
    (accepting : ∀ call s, env.executor call s = none) {value : Script.Value}
    {descriptor : Descriptor} (read : Descriptor.ofShorthand value = .ok descriptor)
    (table : String) (explicit : Option String) (source : Option SuffixSource) :
    (w'.create env table explicit descriptor source).1 =
        (w.define env table value explicit true source).1 ∧
      (w.define env table value explicit true source).2.Alike
        (w'.create env table explicit descriptor source).2 := by
  simp only [define, create, read]
  cases compiled : descriptor.compile with
  | error cause => exact ⟨rfl, alike⟩
  | ok predicate =>
      have found := alike.resolve env table explicit (w.registry.names table) source
      simp only [if_true, alike.registry]
      cases here : w.resolve env table explicit (w.registry.names table) source with
      | mk answer w₁ =>
          cases there : w'.resolve env table explicit (w.registry.names table) source with
          | mk answer' w₁' =>
              rw [here, there] at found
              obtain ⟨rfl, later⟩ := found
              cases answer' with
              | error fault => exact ⟨rfl, later⟩
              | ok name =>
                  dsimp only
                  have accepted : (w₁'.emit env (.create table name predicate)).1 = .ok () :=
                    emit_accepted (fun call => accepting call _) w₁'
                  have quiet := emit_alike env (.create table name predicate) w₁'
                  cases sent : w₁'.emit env (.create table name predicate) with
                  | mk reply w₂ =>
                      rw [sent] at accepted quiet
                      obtain rfl : reply = .ok () := accepted
                      have last := later.trans quiet
                      dsimp only
                      rw [last.registry]
                      -- both ask one registry for one constraint
                      cases w₁.registry.add ⟨name, table, predicate, some descriptor⟩ with
                      | error fault => exact ⟨rfl, last⟩
                      | ok registry => exact ⟨rfl, rfl, last.drawn⟩

end

end World

namespace AddOperation

/-- An add that is applied at once creates its constraint, and reports it. -/
theorem run_create {value : Script.Value} {descriptor : Descriptor}
    (read : Descriptor.ofShorthand value = .ok descriptor) (env : Env) (table : String)
    (explicit : Option String) (source : Option SuffixSource) (w : World) :
    (run env table value explicit source w).1 = (w.create env table explicit descriptor source).1 ∧
      (w.create env table explicit descriptor source).2.Alike
        (run env table value explicit source w).2 := by
  have made : AddOperation.ofShorthand table value explicit source =
      .ok { table, descriptor, name := explicit, source } := by
    simp only [AddOperation.ofShorthand, read]
    rfl
  simp only [run, made, apply, perform, knownName?, constraint?]
  cases w.create env table explicit descriptor source with
  | mk answer w₁ =>
      cases answer with
      | error fault => exact ⟨rfl, rfl, rfl⟩
      | ok c => exact ⟨rfl, rfl, rfl⟩

end AddOperation

namespace World

/-- A definition of a table and an add at once fail alike or create the same constraint. -/
theorem define_agrees_with_add {env : Env} (accepting : ∀ call s, env.executor call s = none)
    {w w' : World} (alike : w.Alike w') (table : String) (value : Script.Value)
    (explicit : Option String) (source : Option SuffixSource) :
    let defined := w.define env table value explicit true source
    let added := AddOperation.run env table value explicit source w'
    ((∃ fault, defined.1 = .error fault ∧ added.1 = .error fault ∧
        defined.2.registry = w.registry ∧ added.2.registry = w.registry) ∨
      ∃ c descriptor, defined.1 = .ok c ∧ added.1 = .ok c ∧
        Descriptor.ofShorthand value = .ok descriptor ∧ c.source = some descriptor ∧
        descriptor.compile = .ok c.predicate ∧ c.table = table ∧
        c.name ∉ w.registry.names table ∧
        defined.2.registry = w.registry.put c ∧ added.2.registry = w.registry.put c) ∧
    ∀ key, added.2.drawn key = defined.2.drawn key := by
  intro defined added
  cases read : Descriptor.ofShorthand value with
  | error cause =>
      have answer : defined = (.error (.malformed cause), w) := by simp [defined, define, read]
      have answer' : added = (.error (.malformed cause), w') := by
        simp [added, AddOperation.run, AddOperation.ofShorthand, read, Bind.bind, Except.bind]
      rw [answer, answer']
      exact ⟨.inl ⟨_, rfl, rfl, rfl, alike.registry⟩, fun key => congrFun alike.drawn key⟩
  | ok descriptor =>
      obtain ⟨same, between⟩ := alike.define_create accepting read table explicit source
      obtain ⟨same', reported⟩ := AddOperation.run_create read env table explicit source w'
      have worlds := between.trans reported
      have answers := same'.trans same
      refine ⟨?_, fun key => congrFun worlds.drawn key⟩
      obtain ⟨fault, failed, quiet⟩ | ⟨c, done, created⟩ :=
        create_cases env table explicit descriptor source w'
      · have kept : (w'.create env table explicit descriptor source).2.registry = w.registry :=
          quiet.registry.trans alike.registry
        exact .inl ⟨fault, same.symm.trans failed, same'.trans failed,
          between.registry.symm.trans kept, reported.registry.trans kept⟩
      · have put : (w'.create env table explicit descriptor source).2.registry =
            w.registry.put c := by
          rw [created.registry, alike.registry]
        have free : c.name ∉ w.registry.names table := alike.registry ▸ created.free
        exact .inr ⟨c, descriptor, same.symm.trans done, same'.trans done, rfl, created.source_eq,
          created.compiled, created.table_eq, free, between.registry.symm.trans put,
          reported.registry.trans put⟩

/-- The first suffix is taken, and the add comes after statements that were emitted before. -/
theorem define_agrees_with_add_on_taken_suffix :
    let first : Constraint := ⟨"prices_1000000", "prices", "(a > 0)", none⟩
    let w : World := { registry := Registry.empty.put first }
    let w' : World := { w with emitted := [.create "prices" first.name "(a > 0)"], calls := 1 }
    let value : Script.Value := .mapping [(.text "state", .list [.text "new", .int 1])]
    let defined := w.define .standard "prices" value none true none
    let added := AddOperation.run .standard "prices" value none none w'
    added.1 = defined.1 ∧ added.2.registry = defined.2.registry ∧
      added.2.registry ≠ w.registry ∧ added.2.drawn SuffixSource.defaultKey = 2 := by
  intro first w w' value defined added
  have alike : w.Alike w' := ⟨rfl, rfl⟩
  have accepting : ∀ call s, Env.standard.executor call s = none := fun _ _ => rfl
  have succeeds : defined.1.isOk = true := by decide +kernel
  obtain ⟨⟨fault, failed, _⟩ | ⟨c, _, made, made', _, _, _, _, _, put, put'⟩, drawn⟩ :=
    define_agrees_with_add accepting alike "prices" value none none
  · rw [failed] at succeeds
    cases succeeds
  · refine ⟨made'.trans made.symm, put'.trans put.symm, by decide +kernel, ?_⟩
    exact (drawn SuffixSource.defaultKey).trans (by decide +kernel)

end World

end CheckConstraints
