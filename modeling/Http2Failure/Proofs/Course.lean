import Http2Failure.Proofs.Integrity
import Http2Failure.Proofs.Unhooked

/-!
# What stays in the course of a run

An error keeps its kind, whatever is done. It keeps its arguments too, unless it is given others,
and the tuple that is made of them once is made of these. A frozen object that was given nothing is
written by its constructor alone, so if that is not called again the object holds what it held.
-/

namespace Http2Failure

/-- Everything is allowed but to give other arguments to an error at a place of `P`, or to call the
constructor of a frozen object there again. -/
def Licence.sparingAt (P : Ref → Prop) : Licence :=
  ⟨fun _ deed => ∀ r, P r → deed ≠ .assign r ∧ deed ≠ .remake r, False⟩

theorem Licence.sparingAt_sound (P : Ref → Prop) (s : Store) : (sparingAt P).Sound s := False.elim

/-- A run that spares the places of `P`, from one session to a later one. Between two steps of a
script the views go that no name holds, and the log is empty again. -/
inductive Course (P : Ref → Prop) : Session → Session → Prop
  | deeds {now after : Session} (h : Deeds (.sparingAt P) now after) : Course P now after
  | between (now : Session) (outside : List Value) :
    Course P now ⟨now.store.releaseGone outside, []⟩
  | trans {now mid after : Session} (h : Course P now mid) (h' : Course P mid after) :
    Course P now after

namespace Store

variable {s t : Store} {e : Ref} {args : List Value}

def HasArgs (s : Store) (e : Ref) (args : List Value) : Prop :=
  ∃ error : Error, s.get? e = some (.error error) ∧ error.args = args ∧
    ∀ place, error.argsTuple = some place → s.get? place = some (.tuple args)

theorem HasArgs.grows (h : s.HasArgs e args) (grown : s.Grows t) (kept : t.get? e = s.get? e) :
    t.HasArgs e args := by
  obtain ⟨error, found, same, tuple⟩ := h
  refine ⟨error, kept.trans found, same, fun place given => ?_⟩
  obtain ⟨o, found', nature⟩ := grown _ _ (tuple place given)
  rw [found', Object.eq_tuple_of_nature nature]

theorem HasArgs.pushWith (h : s.HasArgs e args) (o : Object) (given? : Option Attributes) :
    (s.pushWith o given?).HasArgs e args := by
  obtain ⟨error, found, -⟩ := id h
  exact h.grows (grows_pushWith _ _ _)
    ((get?_giveMaybe _).trans (get?_push_of_lt _ (lt_size_of_get? found)))

theorem elements_of_tuple? {v : Value} {place : Ref} {items : List Value}
    (tuple : s.tuple? v = some place) (listed : s.elements v = .ok items) :
    s.get? place = some (.tuple items) := by
  cases v with
  | object r =>
    simp only [tuple?] at tuple
    split at tuple
    · rename_i found
      cases tuple
      simp only [elements, bytes?, found] at listed
      cases listed
      exact found
    · cases tuple
  | _ => cases tuple

end Store

theorem Object.Revises.of_error {s : Store} {error : Error} {o' : Object}
    (h : (Object.error error).Revises s o') (notEmpty : error.args ≠ [])
    (tuple : ∀ place, error.argsTuple = some place → s.get? place = some (.tuple error.args))
    (same : o'.errorArgs = error.args) :
    ∃ error', o' = .error error' ∧ error'.args = error.args ∧
      ∀ place, error'.argsTuple = some place → s.get? place = some (.tuple error.args) := by
  cases h with
  | @set _ _ name v h =>
    obtain ⟨error', set, h⟩ := bind_eq_ok.mp h
    cases h
    obtain ⟨cls, rfl⟩ | ⟨c, carried, rfl⟩ := Error.cases_of_setSlot set
    · exact ⟨_, rfl, rfl, tuple⟩
    refine ⟨_, rfl, same, fun place given => ?_⟩
    by_cases slot : (Object.error error).slot name = .args
    · rw [slot] at carried
      obtain ⟨items, listed, given'⟩ := bind_eq_ok.mp carried
      cases given'
      rw [← same]
      exact Store.elements_of_tuple? given listed
    · exact tuple place ((Carried.sameArgs_of_setSlot carried slot).2.symm.trans given)
  | delete h =>
    obtain ⟨c, deleted, h⟩ := bind_eq_ok.mp h
    cases h
    obtain ⟨_, sameTuple⟩ := Carried.sameArgs_of_deleteSlot deleted
    exact ⟨_, rfl, same, fun place given => tuple place (sameTuple.symm.trans given)⟩
  | argsTuple carried held =>
    cases carried
    refine ⟨_, rfl, rfl, fun place given => ?_⟩
    cases given
    exact held notEmpty
  | cause carried cause =>
    cases carried
    exact ⟨_, rfl, rfl, tuple⟩
  | checked h =>
    cases h
    exact ⟨_, rfl, rfl, tuple⟩

namespace Deeds

variable {P : Ref → Prop} {now after : Session} {e r : Ref} {o : Object} {args : List Value}

/-- A frozen object that is as promised and was given nothing stays as it is. -/
theorem get?_formed (h : Deeds (.sparingAt P) now after) (inside : P r)
    (found : now.store.get? r = some o) (frozen : o.record?.isSome) (formed : o.Formed)
    (bare : after.store.Untouched (.object r)) : after.store.get? r = some o := by
  induction h with
  | none => exact found
  | trans _ last ih ih' => exact ih' (ih found (last.untouched bare)) bare
  | push =>
    refine (Store.get?_giveMaybe _).trans ?_
    exact (Store.get?_push_of_lt _ (Store.lt_size_of_get? found)).trans found
  | around _ _ _ _ _ ih =>
    have bound := Store.lt_size_of_get? found
    refine (Store.get?_put_ne _ (Nat.ne_of_gt bound)).trans ((Store.get?_giveMaybe _).trans ?_)
    refine ih ?_ (Store.untouched_of_giveMaybe bare)
    exact (Store.get?_giveMaybe _).trans ((Store.get?_push_of_lt _ bound).trans found)
  | @write now q o₀ o' _ there revises _ =>
    by_cases here : q = r
    · subst here
      cases found.symm.trans there
      cases (Object.checked_of_formed formed).symm.trans (revises.of_frozen frozen)
      exact Store.get?_put_self _ (Store.lt_size_of_get? found)
    · exact (Store.get?_put_ne _ here).trans found
  | give | log => exact found
  | @remake now q o₀ may =>
    have other : q ≠ r := fun same => (may r inside).2 (same ▸ rfl)
    exact (Store.get?_put_ne _ other).trans found
  | @restate now q o₀ record _ _ _ touched =>
    have other : q ≠ r := fun same => touched (same ▸ bare)
    exact (Store.get?_put_ne _ other).trans found

theorem hasArgs (h : Deeds (.sparingAt P) now after) (inside : P e) (notEmpty : args ≠ [])
    (has : now.store.HasArgs e args) : after.store.HasArgs e args := by
  induction h with
  | none => exact has
  | trans _ _ ih ih' => exact ih' (ih has)
  | push => exact has.pushWith _ _
  | @around now mid o o' given? given'? _ inner filled _ _ ih =>
    obtain ⟨error, found, -⟩ := id has
    have bound := Store.lt_size_of_get? found
    exact (ih (has.pushWith o given?)).grows (inner.grows_filled given'? filled)
      ((Store.get?_put_ne _ (Nat.ne_of_gt bound)).trans (Store.get?_giveMaybe _))
  | @write now q o o' _ there revises _ assigns =>
    have grown := Store.grows_put there revises.nature
    by_cases here : q = e
    · subst here
      obtain ⟨error, found, rfl, tuple⟩ := has
      cases found.symm.trans there
      have same : o'.errorArgs = error.args := by
        by_contra changed
        exact (assigns changed q inside).1 rfl
      obtain ⟨error', rfl, same', tuple'⟩ := revises.of_error notEmpty tuple same
      refine ⟨error', Store.get?_put_self _ (Store.lt_size_of_get? found), same', ?_⟩
      intro place given
      obtain ⟨o, found', nature⟩ := grown _ _ (tuple' place given)
      rw [found', Object.eq_tuple_of_nature nature]
    · exact has.grows grown (Store.get?_put_ne _ here)
  | log => exact has
  | give => exact has.grows (.refl _) rfl
  | @remake now q o may found frozen fields =>
    have other : q ≠ e := fun same => (may e inside).2 (same ▸ rfl)
    exact has.grows (Store.grows_put found (Object.nature_withFields _ _))
      (Store.get?_put_ne _ other)
  | @restate now q o record _ found frozen =>
    have other : q ≠ e := by
      rintro rfl
      obtain ⟨error, there, -⟩ := has
      cases found.symm.trans there
      cases frozen
    exact has.grows (Store.grows_put found (Object.nature_withField _ _ _ _))
      (Store.get?_put_ne _ other)

end Deeds

namespace Course

variable {P : Ref → Prop} {now after : Session} {e r : Ref} {o : Object} {args : List Value}

theorem grows (h : Course P now after) : now.store.Grows after.store := by
  induction h with
  | deeds h => exact h.grows
  | between now outside => exact Store.grows_releaseGone _ _
  | trans _ _ ih ih' => exact ih.trans ih'

theorem untouched (h : Course P now after) {v : Value} (bare : after.store.Untouched v) :
    now.store.Untouched v := by
  induction h with
  | deeds h => exact h.untouched bare
  | between now outside => exact Store.untouched_releaseGone.mp bare
  | trans _ _ ih ih' => exact ih (ih' bare)

theorem get?_formed (h : Course P now after) (inside : P r) (found : now.store.get? r = some o)
    (frozen : o.record?.isSome) (formed : o.Formed)
    (bare : after.store.Untouched (.object r)) : after.store.get? r = some o := by
  induction h with
  | deeds h => exact h.get?_formed inside found frozen formed bare
  | between now outside => exact Store.keepsFrozen_releaseGone _ _ r o found frozen bare
  | trans _ last ih ih' => exact ih' (ih found (last.untouched bare)) bare

theorem hasArgs (h : Course P now after) (inside : P e) (notEmpty : args ≠ [])
    (has : now.store.HasArgs e args) : after.store.HasArgs e args := by
  induction h with
  | deeds h => exact h.hasArgs inside notEmpty has
  | between now outside =>
    obtain ⟨error, found, -⟩ := id has
    refine has.grows (Store.grows_releaseGone _ _) ?_
    rcases now.store.get?_releaseGone outside e with same | ⟨source, view, -⟩
    · exact same
    · cases found.symm.trans view
  | trans _ _ ih ih' => exact ih' (ih has)

end Course

/-- Everything but what a script can do to the places of `P` by a method that was bound before. -/
def Licence.boundAt (P : Ref → Prop) : Licence :=
  ⟨fun s deed => ∀ r, P r →
    (deed = .assign r → s.BindsAssignment r) ∧ (deed = .remake r → s.BindsConstructor), False⟩

theorem Licence.boundAt_free (P : Ref → Prop) : (Licence.boundAt P).Free where
  write _ _ _ := ⟨nofun, nofun⟩
  logs _ _ _ := ⟨nofun, nofun⟩
  wear _ _ _ _ := ⟨nofun, nofun⟩
  give _ _ _ _ := ⟨nofun, nofun⟩
  restate _ _ _ _ := ⟨nofun, nofun⟩
  remake _ _ binds _ _ := ⟨nofun, fun _ => binds⟩
  assign _ _ binds _ _ := ⟨fun same => Deed.assign.inj same ▸ binds, nofun⟩

theorem Store.BindsAssignment.grows {s t : Store} {r : Ref} (binds : s.BindsAssignment r)
    (grown : s.Grows t) : t.BindsAssignment r := by
  obtain ⟨q, bound⟩ := binds
  obtain ⟨m, bound', same⟩ := grown q _ bound
  cases Object.eq_method_of_nature same
  exact ⟨q, bound'⟩

namespace Script

/-- No step gives an error at a place of `P` other arguments, neither by their name nor by a state
that it enters into a clone. -/
def NeverAssigns (P : Ref → Prop) (state : State) : List Step → Prop
  | [] => True
  | step :: rest => (∀ r, P r → ¬ step.Assigns state.vars (Step.start state) r) ∧
    step.ClonesBy (.boundAt P) state.vars (Step.start state) ∧
    NeverAssigns P (step.run state).2 rest

theorem NeverAssigns.append {P : Ref → Prop} {state : State} {first last : List Step}
    (h : NeverAssigns P state first) (h' : NeverAssigns P (state.after first) last) :
    NeverAssigns P state (first ++ last) := by
  induction first generalizing state with
  | nil => exact h'
  | cons step rest ih => exact ⟨h.1, h.2.1, ih h.2.2 h'⟩

theorem Expr.eval_var (vars : Bindings) (name : String) (now : Session) :
    ((Expr.var name).eval vars now).2 = now := by
  unfold eval
  cases vars.lookup name <;> rfl

theorem clonesBy_of_ne {L : Licence} {vars : Bindings} {now : Session} {step : Step}
    (other : ∀ e mode name?, step ≠ .clone e mode name?) : step.ClonesBy L vars now :=
  fun e mode name? _ _ same => absurd same (other e mode name?)

theorem clonesBy_of_unhooked {P : Ref → Prop} {state : State} (sound : state.Sound)
    (named : state.session.store.MethodsNamed) {e : Expr} {mode : CloneMode} {name? : Option String}
    (unhooked : ∀ v mid, e.eval state.vars (Step.start state) = (.ok v, mid) →
      ∀ name ∈ mode.hooks, mid.store.Unhooked v name) :
    (Step.clone e mode name?).ClonesBy (.boundAt P) state.vars (Step.start state) := by
  rintro _ _ _ v mid ⟨⟩ run -
  have released := state.session.store.grows_releaseGone state.vars.values
  have does : Action.Does .anything (e.eval state.vars) (Step.start state) Licence.anything.Has :=
    Expr.does_eval (fun _ => trivial) e fun _ => sound.vars.grows released
  have evaluated := does fun _ => sound.store.releaseGone _
  rw [run] at evaluated
  obtain ⟨deeds, returned⟩ := evaluated
  have free := Licence.boundAt_free P
  exact Action.does_clone_unhooked (deeds.sound (fun _ => sound.store.releaseGone _) trivial)
    (returned v rfl trivial) free.write free.logs (deeds.methodsNamed (named.releaseGone _)) mode
    (unhooked v mid run)

/-- A script spares what none of its steps names and no method is bound to. -/
theorem course_after {P : Ref → Prop} {state : State} {steps : List Step}
    (never : NeverRecalls state steps) (keeps : NeverAssigns P state steps)
    (noConstructor : ¬ (state.after steps).session.store.BindsConstructor)
    (noAssignment : ∀ r, P r → ¬ (state.after steps).session.store.BindsAssignment r) :
    Course P state.session (state.after steps).session := by
  induction steps generalizing state with
  | nil => exact .deeds (.none _)
  | cons step rest ih =>
    obtain ⟨later, -⟩ := after_grows (step.run state).2 rest never.2
    have deeds : Deeds (.boundAt P) (Step.start state) (step.run state).2.session := by
      refine (Step.deeds_run (Licence.boundAt_free P) nofun
        (fun recalls => absurd recalls never.1) ?_ keeps.2.1).1
      intro r assigns s q inside
      refine ⟨fun same => ?_, nofun⟩
      cases same
      exact absurd assigns (keeps.1 r inside)
    have spared : Deeds (.sparingAt P) (Step.start state) (step.run state).2.session := by
      refine deeds.mono_of_grows id fun s deed grown may r inside =>
        ⟨fun same => ?_, fun same => ?_⟩
      · exact noAssignment r inside (((may r inside).1 same).grows (grown.trans later))
      · exact noConstructor (((may r inside).2 same).grows (grown.trans later))
    exact (Course.between state.session _).trans
      ((Course.deeds spared).trans (ih never.2 keeps.2.2 noConstructor noAssignment))

end Script

end Http2Failure
