import Http2Failure.Call

/-!
# What actions do to a session

One equation for each of the actions that all others are made of. A call by name comes to the method
of the sort, unless an attribute hides it, and a name that is no method is read as an attribute. A
constructor keeps what passes its own check.
-/

namespace Http2Failure

theorem bind_eq_ok {ε α β : Type} {x : Except ε α} {f : α → Except ε β} {b : β} :
    (x >>= f) = .ok b ↔ ∃ a, x = .ok a ∧ f a = .ok b := by
  cases x with
  | error e => simp [bind, Except.bind]
  | ok a => simp [bind, Except.bind]

theorem bind_congr_ok {ε α β : Type} {x : Except ε α} {f g : α → Except ε β}
    (h : ∀ a, x = .ok a → f a = g a) : (x >>= f) = (x >>= g) := by
  cases x with
  | error e => rfl
  | ok a => exact h a rfl

namespace Action

variable {α β : Type} (session : Session)

@[simp] theorem pure_apply (a : α) : (pure a : Action α) session = (.ok a, session) := rfl

theorem run_of_returned {x : Action α} {session : Session} {a : α}
    (returned : (x session).1 = .ok a) : x session = (.ok a, (x session).2) :=
  Prod.ext returned rfl

@[simp] theorem bind_apply (x : Action α) (f : α → Action β) :
    (x >>= f) session =
      match x session with
      | (.ok a, session) => f a session
      | (.error r, session) => (.error r, session) := rfl

@[simp] theorem ite_apply (c : Prop) [Decidable c] (x y : Action α) :
    (if c then x else y : Action α) session = if c then x session else y session := by
  split <;> rfl

@[simp] theorem throw_apply (r : Refusal) :
    (throw r : Action α) session = (.error r, session) := rfl

@[simp] theorem ask_apply (f : Store → α) : ask f session = (.ok (f session.store), session) := rfl

@[simp] theorem read_apply (f : Store → Except Refusal α) :
    read f session = (f session.store, session) := rfl

@[simp] theorem allocate_apply (o : Object) :
    allocate o session =
      (.ok session.store.size, { session with store := session.store.push o }) := rfl

@[simp] theorem create_apply (o : Object) :
    create o session =
      (.ok (.object session.store.size), { session with store := session.store.push o }) := rfl

@[simp] theorem put_apply (r : Ref) (o : Object) :
    put r o session = (.ok (), { session with store := session.store.put r o }) := rfl

@[simp] theorem log_apply (record : LogRecord) :
    log record session = (.ok (), { session with log := session.log ++ [record] }) := rfl

instance : LawfulMonad Action :=
  have bind_assoc {α β γ : Type} (x : Action α) (f : α → Action β) (g : β → Action γ) :
      x >>= f >>= g = x >>= fun a => f a >>= g := by
    funext session
    simp only [bind_apply]
    rcases x session with ⟨r | a, session'⟩ <;> rfl
  have id_map {α : Type} (x : Action α) : id <$> x = x := by
    funext session
    change (match x session with
      | (.ok a, session) => (.ok a, session)
      | (.error r, session) => (.error r, session)) = x session
    rcases x session with ⟨r | a, session'⟩ <;> rfl
  .mk' Action id_map (fun _ _ => rfl) bind_assoc

end Action

namespace Action

variable {now : Session} {v : Value} {o? : Option Object} {name : String} {args : List Value}

/-- Where no attribute hides the method, it is what is called. The depth that is left is that of the
calls that it makes itself. -/
theorem call_of_method {act : Caller → Call} (there : now.store.object? v = o?)
    (own : ∀ call, method? call v o? name = some (act call))
    (visible : now.store.hiding? v name = none) :
    call v name args now = act (callUpTo (Store.depth - 1)) args now := by
  rw [call, Store.depth, callUpTo]
  simp only [bind_apply, ask_apply, visible, there, own]

theorem get_of_no_method (there : now.store.object? v = o?)
    (other : method? call v o? name = none) : get v name now = getAttribute v name now := by
  simp only [get, bind_apply, ask_apply, there, other]

theorem make_of_checked {o o' : Object} (checked : o.checked now.store = .ok o') :
    make o now = (.ok (.object now.store.size), { now with store := now.store.push o' }) := by
  simp only [make, bind_apply, read_apply, checked, create_apply]

end Action

end Http2Failure
