import Conformance.Workspace

/-!
# Running actions

What an action comes to at a workspace: its result or failure, with the workspace that it leaves.
An action that is put together from others is run by running its parts, each at the workspace
that the one before leaves.
-/

namespace Conformance.Action

variable {α β : Type} {w w' : Workspace}

theorem run_bind_of_ok {x : Action α} {a : α} (h : x.run.run w = (.ok a, w'))
    (k : α → Action β) : (x >>= k).run.run w = (k a).run.run w' := by
  rw [ExceptT.run_bind, StateT.run_bind, h]
  rfl

theorem run_bind_of_error {x : Action α} {f : Failure} (h : x.run.run w = (.error f, w'))
    (k : α → Action β) : (x >>= k).run.run w = (.error f, w') := by
  rw [ExceptT.run_bind, StateT.run_bind, h]
  rfl

/-- Looking at the store changes nothing. -/
theorem run_bind_store (k : Store → Action β) :
    (store >>= k).run.run w = (k w.store).run.run w := run_bind_of_ok rfl k

/-- What has a result needs no other action in its place. -/
theorem run_tryCatch_of_ok {x : Action α} {a : α} (h : x.run.run w = (.ok a, w'))
    (k : Failure → Action α) : (tryCatch x k).run.run w = (.ok a, w') := by
  unfold ExceptT.run StateT.run at h ⊢
  simp only [tryCatch, tryCatchThe, MonadExceptOf.tryCatch, ExceptT.tryCatch, ExceptT.mk, bind,
    StateT.bind, h]
  rfl

/-- After a failure the other action goes on with what was changed before it. -/
theorem run_tryCatch_of_error {x : Action α} {f : Failure} (h : x.run.run w = (.error f, w'))
    (k : Failure → Action α) : (tryCatch x k).run.run w = (k f).run.run w' := by
  unfold ExceptT.run StateT.run at h ⊢
  simp only [tryCatch, tryCatchThe, MonadExceptOf.tryCatch, ExceptT.tryCatch, ExceptT.mk, bind,
    StateT.bind, h]

/-- A computation that moves the cursors leaves the store as it is. -/
theorem run_withCursors (f : Store → Cursors → Except Failure α × Cursors) :
    (withCursors f).run.run w =
      ((f w.store w.cursors).1, { w with cursors := (f w.store w.cursors).2 }) := by
  have hget : (get : Action Workspace).run.run w = (.ok w, w) := rfl
  rw [withCursors, run_bind_of_ok hget]
  obtain ⟨result, c⟩ := f w.store w.cursors
  have hset : (set { w with cursors := c } : Action PUnit).run.run w =
      (.ok ⟨⟩, { w with cursors := c }) := rfl
  dsimp only
  rw [run_bind_of_ok hset]
  cases result <;> rfl

theorem run_withCursors_of_ok {f : Store → Cursors → Except Failure α × Cursors} {a : α}
    {c : Cursors} (h : f w.store w.cursors = (.ok a, c)) :
    (withCursors f).run.run w = (.ok a, { w with cursors := c }) := by
  rw [run_withCursors, h]

end Conformance.Action
