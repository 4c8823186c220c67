import CheckConstraints.Proofs.Invariant
import CheckConstraints.Proofs.Steps

/-!
The registry never drifts from the emitted statements. Whatever commands are run on a workspace, and
wherever they fail, the statements emitted on the way replay the registry at the start to the one
at the end, and they are statements that a database takes: none creates a name that is live where
the replay comes to it.
-/

namespace CheckConstraints

namespace World

/-- The world `w'` follows `w` by the statements `ss`, which its registry agrees with. -/
structure Follows (w : World) (ss : List Statement) (w' : World) : Prop where
  emitted : w'.emitted = w.emitted ++ ss
  catalog : w'.registry.catalog = w.registry.catalog.replay ss
  admits : w.registry.catalog.Admits ss

variable {w w' w'' : World} {s : Statement} {ss ss' : List Statement}

theorem Untouched.follows (h : w.Untouched w') : w.Follows [] w' where
  emitted := by simp [h.emitted]
  catalog := by rw [h.registry]; rfl
  admits := True.intro

theorem Emits.follows (h : w.Emits s w') : w.Follows [s] w' where
  emitted := h.emitted
  catalog := h.catalog
  admits := ⟨h.fits, True.intro⟩

theorem Follows.trans (h : w.Follows ss w') (h' : w'.Follows ss' w'') :
    w.Follows (ss ++ ss') w'' where
  emitted := by rw [h'.emitted, h.emitted, List.append_assoc]
  catalog := by rw [h'.catalog, h.catalog, Catalog.replay_append]
  admits := (Catalog.admits_append _ _ _).mpr ⟨h.admits, h.catalog ▸ h'.admits⟩

end World

namespace Operation

theorem apply_follows (env : Env) (op : Operation) (w : World) :
    ∃ ss, w.Follows ss (op.apply env w).world := by
  obtain ⟨_, _, _, same⟩ | ⟨_, _, took⟩ := op.apply_cases env w
  · exact ⟨[], same.follows⟩
  · obtain ⟨s, emits⟩ := took.emits
    exact ⟨[s], emits.follows⟩

theorem reverse_follows (env : Env) (op : Operation) (w : World) :
    ∃ ss, w.Follows ss (op.reverse env w).world := by
  obtain ⟨_, _, _, same⟩ | ⟨_, _, took⟩ := op.reverse_cases env w
  · exact ⟨[], same.follows⟩
  · obtain ⟨s, emits⟩ := took.emits
    exact ⟨[s], emits.follows⟩

end Operation

namespace Workspace

theorem run_follows (ws : Workspace) (commands : List (Env × Command)) :
    ∃ ss, ws.world.Follows ss (ws.run commands).world := by
  apply run_preserves (P := fun w => ∃ ss, ws.world.Follows ss w)
  · rintro env op w ⟨before, follows⟩
    obtain ⟨now, step⟩ := op.apply_follows env w
    exact ⟨before ++ now, follows.trans step⟩
  · rintro env op w ⟨before, follows⟩
    obtain ⟨now, step⟩ := op.reverse_follows env w
    exact ⟨before ++ now, follows.trans step⟩
  · exact ⟨[], World.Untouched.follows ⟨rfl, rfl⟩⟩

/-- The statements that a run emits lead from the registry at its start to the one at its end, and
no name is created while it is live. -/
theorem run_replays (ws : Workspace) (commands : List (Env × Command)) :
    ∃ ss, (ws.run commands).world.emitted = ws.world.emitted ++ ss ∧
      (ws.run commands).world.registry.catalog = ws.world.registry.catalog.replay ss ∧
      ws.world.registry.catalog.Admits ss := by
  obtain ⟨ss, follows⟩ := ws.run_follows commands
  exact ⟨ss, follows.emitted, follows.catalog, follows.admits⟩

end Workspace

end CheckConstraints
