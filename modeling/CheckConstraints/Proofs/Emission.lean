import CheckConstraints.Proofs.Catalog
import CheckConstraints.Proofs.Naming
import CheckConstraints.World

/-!
What the creation and the dropping of a constraint leave behind in a world. Each either fails with
the registry and the emitted statements untouched, or emits one statement and makes the registry
agree with it. The registry is asked for the name before the statement goes out, which is why it
never refuses the constraint afterwards.
-/

namespace CheckConstraints

/-- The default settings with an executor that takes every statement. -/
def Env.standard : Env where
  settings := {}
  executor := .accepting
  randomSource := .sequential SuffixSource.defaultKey SuffixSource.firstSequential
  migration := none

namespace World

/-- The registry and the emitted statements are the same; calls, suffixes and log may differ. -/
structure Untouched (w w' : World) : Prop where
  registry : w'.registry = w.registry
  emitted : w'.emitted = w.emitted

/-- One statement was emitted that fits the registry, and the registry followed it. -/
structure Emits (w : World) (s : Statement) (w' : World) : Prop where
  fits : s.Fits w.registry.catalog
  emitted : w'.emitted = w.emitted ++ [s]
  catalog : w'.registry.catalog = s.effect w.registry.catalog

/-- What the creation of a constraint says about it, and what it leaves behind. -/
structure Created (table : String) (explicit : Option String) (descriptor : Descriptor)
    (w : World) (c : Constraint) (w' : World) : Prop where
  compiled : descriptor.compile = .ok c.predicate
  named : ∀ name, explicit = some name → c.name = name
  free : c.name ∉ w.registry.names table
  nonempty : c.name ≠ ""
  table_eq : c.table = table
  source_eq : c.source = some descriptor
  registry : w'.registry = w.registry.put c
  emitted : w'.emitted = w.emitted ++ [.create table c.name c.predicate]

structure Dropped (table name : String) (w w' : World) : Prop where
  registry : w'.registry = w.registry.erase table name
  emitted : w'.emitted = w.emitted ++ [.drop table name]

variable {env : Env} {table name : String} {explicit : Option String} {descriptor : Descriptor}
  {source : Option SuffixSource} {w w' : World} {c : Constraint} {s : Statement} {fault : Fault}

theorem Untouched.trans {w₁ w₂ w₃ : World} (h : w₁.Untouched w₂) (h' : w₂.Untouched w₃) :
    w₁.Untouched w₃ :=
  ⟨h'.registry.trans h.registry, h'.emitted.trans h.emitted⟩

/-- But for its name, what is created is what the descriptor says. -/
theorem Created.whole {predicate : String} (h : Created table explicit descriptor w c w')
    (compiled : descriptor.compile = .ok predicate) :
    c = ⟨c.name, table, predicate, some descriptor⟩ := by
  have text : c.predicate = predicate := by
    rw [h.compiled] at compiled
    exact Except.ok.inj compiled
  rw [← text, ← h.table_eq, ← h.source_eq]

theorem Created.emits (h : Created table explicit descriptor w c w') :
    w.Emits (.create table c.name c.predicate) w' where
  fits := (w.registry.catalog_eq_none_iff table c.name).mpr h.free
  emitted := h.emitted
  catalog := by rw [h.registry, Registry.catalog_put, h.table_eq]; rfl

theorem Dropped.emits (h : Dropped table name w w') : w.Emits (.drop table name) w' where
  fits := True.intro
  emitted := h.emitted
  catalog := by rw [h.registry, Registry.catalog_erase]; rfl

theorem emit_error (h : w.emit env s = (.error fault, w')) : w.Untouched w' := by
  simp only [emit] at h
  cases refused : env.executor (w.calls + 1) s with
  | none => simp [refused] at h
  | some reason =>
      simp only [refused, Prod.mk.injEq] at h
      exact h.2 ▸ ⟨rfl, rfl⟩

theorem emit_ok (h : w.emit env s = (.ok (), w')) :
    w'.registry = w.registry ∧ w'.emitted = w.emitted ++ [s] := by
  simp only [emit] at h
  cases refused : env.executor (w.calls + 1) s with
  | none =>
      simp only [refused, Prod.mk.injEq, true_and] at h
      exact h ▸ ⟨rfl, rfl⟩
  | some reason => simp [refused] at h

theorem emit_accepted (accepted : ∀ call, env.executor call s = none) (w : World) :
    (w.emit env s).1 = .ok () := by
  simp [emit, accepted]

theorem resolve_result (env : Env) (table : String) (explicit : Option String)
    (taken : List String) (source : Option SuffixSource) (w : World) :
    (w.resolve env table explicit taken source).1 =
      (Naming.resolve env.settings table explicit taken (source.getD env.randomSource)
        (w.drawn (source.getD env.randomSource).key)).result := by
  simp only [resolve]
  split
  · rename_i named _
    exact named.symm
  · rfl

theorem resolve_untouched {taken : List String} {answer : Except Fault String}
    (h : w.resolve env table explicit taken source = (answer, w')) : w.Untouched w' := by
  simp only [resolve] at h
  split at h <;> cases h <;> exact ⟨rfl, rfl⟩

theorem resolve_free {taken : List String}
    (h : w.resolve env table explicit taken source = (.ok name, w')) : name ∉ taken := by
  have result := resolve_result env table explicit taken source w
  rw [h] at result
  exact Naming.resolve_free result.symm

theorem resolve_nonempty {taken : List String}
    (h : w.resolve env table explicit taken source = (.ok name, w')) : name ≠ "" := by
  have result := resolve_result env table explicit taken source w
  rw [h] at result
  exact Naming.resolve_nonempty result.symm

theorem resolve_explicit {taken : List String} {given : String}
    (h : w.resolve env table (some given) taken source = (.ok name, w')) : name = given := by
  have result := resolve_result env table (some given) taken source w
  rw [h] at result
  exact Naming.resolve_explicit result.symm

theorem resolve_short {taken : List String} {given : String}
    (h : w.resolve env table (some given) taken source = (.ok name, w')) :
    (given.length : Int) ≤ env.settings.maxNameLength := by
  have result := resolve_result env table (some given) taken source w
  rw [h] at result
  exact (Naming.validate_eq_ok_iff.mp result.symm).2.2.1

theorem resolve_anonymous {taken : List String}
    (h : w.resolve env table none taken source = (.ok name, w')) :
    ∃ suffix, name = Naming.anonymous table suffix := by
  have result := resolve_result env table none taken source w
  rw [h] at result
  obtain ⟨_, _, suffix, _, rfl⟩ := Naming.search_found _ _ _ result.symm
  exact ⟨suffix, rfl⟩

/-- Between the resolution of a name and the emission of its statement the registry does not
change, so that it accepts the constraint in the end. -/
theorem add_after_emission {w₁ w₂ : World}
    (resolved : w.resolve env table explicit (w.registry.names table) source = (.ok name, w₁))
    (sent : w₁.emit env s = (.ok (), w₂)) (at_name : c.IsAt table name) :
    w₂.registry.add c = .ok (w.registry.put c) := by
  have same : w₂.registry = w.registry :=
    (emit_ok sent).1.trans (resolve_untouched resolved).registry
  have free := resolve_free resolved
  rw [same]
  apply Registry.add_eq_ok
  rwa [at_name.1, at_name.2]

theorem create_cases (env : Env) (table : String) (explicit : Option String)
    (descriptor : Descriptor) (source : Option SuffixSource) (w : World) :
    (∃ fault, (w.create env table explicit descriptor source).1 = .error fault ∧
      w.Untouched (w.create env table explicit descriptor source).2) ∨
    (∃ c, (w.create env table explicit descriptor source).1 = .ok c ∧
      Created table explicit descriptor w c
        (w.create env table explicit descriptor source).2) := by
  simp only [create]
  cases compiled : descriptor.compile with
  | error cause => exact Or.inl ⟨.malformed cause, rfl, rfl, rfl⟩
  | ok predicate =>
      dsimp only
      cases resolved : w.resolve env table explicit (w.registry.names table) source with
      | mk answer w₁ =>
          have quiet := resolve_untouched resolved
          cases answer with
          | error fault => exact Or.inl ⟨fault, rfl, quiet⟩
          | ok name =>
              dsimp only
              cases sent : w₁.emit env (.create table name predicate) with
              | mk reply w₂ =>
                  cases reply with
                  | error fault => exact Or.inl ⟨fault, rfl, quiet.trans (emit_error sent)⟩
                  | ok _ =>
                      dsimp only
                      rw [add_after_emission resolved sent ⟨rfl, rfl⟩]
                      refine Or.inr ⟨_, rfl, ?_⟩
                      exact {
                        compiled := compiled
                        named := fun given h => by subst h; exact resolve_explicit resolved
                        free := resolve_free resolved
                        nonempty := resolve_nonempty resolved
                        table_eq := rfl
                        source_eq := rfl
                        registry := rfl
                        emitted := by rw [(emit_ok sent).2, quiet.emitted] }

/-- A constraint that is created has the name that was resolved for it. -/
theorem resolve_of_create (made : (w.create env table explicit descriptor source).1 = .ok c) :
    ∃ w₁, w.resolve env table explicit (w.registry.names table) source = (.ok c.name, w₁) := by
  simp only [create] at made
  cases compiled : descriptor.compile with
  | error cause => simp [compiled] at made
  | ok predicate =>
      rw [compiled] at made
      dsimp only at made
      cases resolved : w.resolve env table explicit (w.registry.names table) source with
      | mk answer w₁ =>
          cases answer with
          | error fault => simp [resolved] at made
          | ok found =>
              rw [resolved] at made
              dsimp only at made
              cases sent : w₁.emit env (.create table found predicate) with
              | mk reply w₂ =>
                  cases reply with
                  | error fault => simp [sent] at made
                  | ok _ =>
                      rw [sent] at made
                      dsimp only at made
                      rw [add_after_emission resolved sent ⟨rfl, rfl⟩] at made
                      obtain rfl := Except.ok.inj made
                      exact ⟨w₁, rfl⟩

/-- A constraint is created under a given name only if the settings have room for it. -/
theorem create_short
    (made : (w.create env table (some name) descriptor source).1 = .ok c) :
    (name.length : Int) ≤ env.settings.maxNameLength := by
  obtain ⟨_, resolved⟩ := resolve_of_create made
  exact resolve_short resolved

/-- Without a given name the name is made of the table and a suffix. -/
theorem create_anonymous (made : (w.create env table none descriptor source).1 = .ok c) :
    ∃ suffix, c.name = Naming.anonymous table suffix := by
  obtain ⟨_, resolved⟩ := resolve_of_create made
  exact resolve_anonymous resolved

theorem drop_cases (env : Env) (table name : String) (w : World) :
    (∃ fault, (w.drop env table name).1 = .error fault ∧
      w.Untouched (w.drop env table name).2) ∨
    ((w.drop env table name).1 = .ok (w.registry.get? table name) ∧
      Dropped table name w (w.drop env table name).2) := by
  simp only [drop]
  cases sent : w.emit env (.drop table name) with
  | mk reply w₁ =>
      cases reply with
      | error fault => exact Or.inl ⟨fault, rfl, emit_error sent⟩
      | ok _ =>
          obtain ⟨registry, emitted⟩ := emit_ok sent
          dsimp only
          rw [registry]
          exact Or.inr ⟨rfl, rfl, emitted⟩

/-- A fitting name is created, as long as its statement is accepted. -/
theorem create_accepted {predicate : String} (source : Option SuffixSource)
    (compiled : descriptor.compile = .ok predicate)
    (nonempty : name ≠ "") (short : (name.length : Int) ≤ env.settings.maxNameLength)
    (free : name ∉ w.registry.names table)
    (accepted : ∀ call, env.executor call (.create table name predicate) = none) :
    ∃ c, (w.create env table (some name) descriptor source).1 = .ok c := by
  have found := resolve_result env table (some name) (w.registry.names table) source w
  have valid : Naming.validate env.settings table name (w.registry.names table) = .ok name :=
    Naming.validate_eq_ok_iff.mpr ⟨rfl, nonempty, short, free⟩
  simp only [create]
  rw [compiled]
  dsimp only
  cases resolved : w.resolve env table (some name) (w.registry.names table) source with
  | mk answer w₁ =>
      rw [resolved] at found
      obtain rfl : answer = .ok name := found.trans valid
      have reply := emit_accepted accepted w₁
      dsimp only
      cases sent : w₁.emit env (.create table name predicate) with
      | mk answer w₂ =>
          rw [sent] at reply
          obtain rfl : answer = .ok () := reply
          dsimp only
          rw [add_after_emission resolved sent ⟨rfl, rfl⟩]
          exact ⟨_, rfl⟩

theorem create_succeeds {predicate : String} (source : Option SuffixSource)
    (compiled : descriptor.compile = .ok predicate)
    (nonempty : name ≠ "") (short : (name.length : Int) ≤ env.settings.maxNameLength)
    (free : name ∉ w.registry.names table)
    (accepting : ∀ call s, env.executor call s = none) :
    ∃ c, (w.create env table (some name) descriptor source).1 = .ok c :=
  create_accepted source compiled nonempty short free fun call => accepting call _

theorem drop_succeeds (env : Env) (table name : String) (w : World)
    (accepting : ∀ call s, env.executor call s = none) :
    (w.drop env table name).1 = .ok (w.registry.get? table name) := by
  obtain ⟨fault, failed, _⟩ | ⟨done, _⟩ := drop_cases env table name w
  · simp [drop, emit, accepting] at failed
  · exact done

end World

end CheckConstraints
