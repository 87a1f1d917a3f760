import Http2Failure.Clone
import Http2Failure.Proofs.Action

/-!
# What cloning does to a session and to its memory

One equation for each of the actions that cloning is made of. What is cloned is cloned by a function
that stays a parameter.
-/

namespace Http2Failure

section

variable {α β : Type}

theorem Action.map_apply (f : α → β) (x : Action α) (session : Session) :
    (f <$> x) session =
      match x session with
      | (.ok a, session) => (.ok (f a), session)
      | (.error r, session) => (.error r, session) := by
  rw [← bind_pure_comp]
  rfl

variable {σ : Type} (memory : σ) (session : Session)

theorem state_bind_apply (x : StateT σ Action α) (f : α → StateT σ Action β) :
    (x >>= f) memory session =
      match x memory session with
      | (.ok (a, memory), session) => f a memory session
      | (.error r, session) => (.error r, session) := by
  change (x memory >>= fun result => f result.1 result.2) session = _
  rw [Action.bind_apply]
  rcases x memory session with ⟨r | ⟨a, memory'⟩, session'⟩ <;> rfl

theorem state_pure_apply (a : α) :
    (pure a : StateT σ Action α) memory session = (.ok (a, memory), session) := rfl

theorem state_lift_apply (x : Action α) :
    (liftM x : StateT σ Action α) memory session =
      match x session with
      | (.ok a, session) => (.ok (a, memory), session)
      | (.error r, session) => (.error r, session) := rfl

theorem state_get_apply :
    (get : StateT σ Action σ) memory session = (.ok (memory, memory), session) := rfl

theorem state_modify_apply (f : σ → σ) :
    (modify f : StateT σ Action PUnit) memory session = (.ok (⟨⟩, f memory), session) := rfl

theorem state_run'_apply (x : StateT σ Action α) :
    (x.run' memory : Action α) session =
      match x memory session with
      | (.ok (a, _), session) => (.ok a, session)
      | (.error r, session) => (.error r, session) := by
  rw [StateT.run'_eq, Action.map_apply, StateT.run]
  rcases x memory session with ⟨r | ⟨a, memory'⟩, session'⟩ <;> rfl

end

namespace Cloning

variable {mode : CloneMode} {clone : Value → Cloning Value} {memory : Memory} {session : Session}
  {v : Value} {r : Ref} {o : Object}

theorem remember_apply (memory : Memory) (session : Session) (v clone : Value) :
    remember v clone memory session =
      (.ok (clone, { memory with clones := (v, clone) :: memory.clones }), session) := rfl

theorem nextStored?_apply (memory : Memory) (session : Session) (v : Value) :
    nextStored? v memory session =
      (.ok (memory.stored.lookup v,
        { memory with stored := memory.stored.eraseP fun entry => entry.1 == v }), session) := rfl

theorem unlessReadBack_apply (unknown : memory.clones.lookup v = none) (fresh : Cloning Value) :
    unlessReadBack mode v fresh memory session = fresh memory session := by
  simp only [unlessReadBack, state_bind_apply, state_get_apply, unknown]

theorem cloneUpTo_apply (unknown : memory.clones.lookup v = none) (depth : Nat) :
    cloneUpTo mode (depth + 1) v memory session =
      cloneValue mode (cloneUpTo mode depth) v memory session := by
  rw [cloneUpTo]
  simp only [state_bind_apply, state_get_apply, unknown]

theorem cloneByClass_apply (found : session.store.get? r = some o) :
    cloneByClass mode clone (.object r) memory session =
      cloneObject mode clone r o memory session := by
  simp only [cloneByClass, state_bind_apply, state_lift_apply, Action.ask_apply, found]

/-- The clone is there before its parts, and gets them in the end. -/
theorem cloneAround_apply {empty filled : Object} {fill : Ref → Cloning Object} {memory' : Memory}
    {s t : Store} {log log' : List LogRecord}
    (filling : fill s.size { memory with clones := (.object r, .object s.size) :: memory.clones }
      ⟨s.push empty, log⟩ = (.ok (filled, memory'), ⟨t, log'⟩)) :
    cloneAround r empty fill memory ⟨s, log⟩ =
      (.ok (.object s.size, memory'), ⟨t.put s.size filled, log'⟩) := by
  simp only [cloneAround, state_bind_apply, state_lift_apply, Action.allocate_apply,
    remember_apply, filling, Action.put_apply, state_pure_apply]

end Cloning

theorem Action.copyObject_of_frozen {r : Ref} {o : Object} (frozen : o.record?.isSome) :
    copyObject r o = (do createWith o (← ask fun s => s.given.lookup (.object r))) := by
  cases o with
  | reason | streamId | report | sendFailure | kind => rfl
  | _ => cases frozen

namespace Error

theorem around_apply (cls : Class) (kind : Ref) (session : Session) :
    around cls kind session =
      match textOf session.store (.object kind) with
      | .ok text =>
        (.ok (.object session.store.size),
          { session with store := session.store.push (.error { cls, kind, args := [.text text] }) })
      | .error r => (.error r, session) := by
  simp only [around, Action.bind_apply, Action.read_apply]
  cases textOf session.store (.object kind) <;> rfl

variable {now : Session} {e : Ref} {error : Error}

theorem copiesItself_error {s : Store} (found : s.get? e = some (.error error)) :
    s.copiesItself (.object e) = true := by
  simp only [Store.copiesItself, Store.object?, found]

theorem clone_shallow_apply (found : now.store.get? e = some (.error error)) :
    Action.clone .shallow (.object e) now = around .base error.kind now := by
  have there : now.store.object? (.object e) = some (.error error) := found
  have itself := copiesItself_error found
  simp only [Action.clone, Action.copy, Action.bind_apply, Action.ask_apply, there, itself, if_true]
  rfl

theorem clone_deep_apply (found : now.store.get? e = some (.error error))
    (visible : error.attributes.get? "__deepcopy__" = none) :
    Action.clone .deep (.object e) now = around .base error.kind now := by
  have shares : error.attributes.lacksDeepCopy = false := by
    rw [Attributes.lacksDeepCopy, visible]
    rfl
  have unreplaced : ∀ clone,
      Cloning.byAttributes? .deep clone now.store (.object e) = none := by
    intro clone
    simp [Cloning.byAttributes?, Store.attributesOf_of_carried found rfl, Attributes.deepCopyCall?,
      visible, copiesItself_error found, shares]
  change (Cloning.cloneUpTo .deep (Store.depth - 1 + 1) (.object e)).run' {} now = _
  rw [state_run'_apply, Cloning.cloneUpTo_apply rfl]
  simp only [Cloning.cloneValue, state_bind_apply, state_lift_apply, Action.ask_apply, unreplaced,
    Cloning.cloneByClass_apply found, Cloning.cloneObject, shares, Bool.false_eq_true,
    not_false_eq_true, and_true, if_true]
  rcases around .base error.kind now with ⟨r | v, session⟩ <;> rfl

end Error

end Http2Failure
