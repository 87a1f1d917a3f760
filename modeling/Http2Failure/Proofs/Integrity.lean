import Http2Failure.Proofs.Deeds.Scripts
import Http2Failure.Proofs.Untouched

/-!
# Integrity of protocol values

The codes of reasons, the numbers of streams and the debug data of terminations are looked at when
they are constructed, and by nothing else. All the same they are in range in every state that a
script comes to, since whatever a clone puts back was there before, and nothing else is written into
a frozen object. There are two exceptions. Its constructor, called again on the finished object,
replaces what the object holds before it looks at it. And a clone of a value whose parts something
else gives out may enter a state into an object, a frozen one among them, at which nothing looks.
-/

namespace Http2Failure

/-- What constructors promise: reasons and streams hold whole numbers in range, which truth values
are not, and the debug data of a termination are bytes. -/
def Object.Formed : Object → Prop
  | .reason code => ∃ i : Int, code = .int i ∧ 0 ≤ i ∧ i ≤ 0xffffffff
  | .streamId value => ∃ i : Int, value = .int i ∧ 0 ≤ i ∧ i ≤ 0x7fffffff
  | .report (.goAway data _ _) => ∃ content, data = .bytes content
  | _ => True

namespace Store

def Formed (s : Store) : Prop :=
  ∀ r o, s.get? r = some o → s.Untouched (.object r) → o.Formed

/-- Every frozen object of `s` to which nothing was given is the same in `t`. -/
def KeepsFrozen (s t : Store) : Prop :=
  ∀ r o, s.get? r = some o → o.record?.isSome → t.Untouched (.object r) → t.get? r = some o

end Store

namespace Object

variable {s : Store} {o o' : Object}

theorem formed_of_unchecked (unchecked : o.isChecked = false) : o.Formed := by
  cases o with
  | reason | streamId => cases unchecked
  | report r =>
    cases r with
    | goAway => cases unchecked
    | _ => trivial
  | _ => trivial

theorem formed_of_unfrozen (noRecord : o.record? = none) : o.Formed := by
  refine formed_of_unchecked ?_
  cases o with
  | reason | streamId | report => cases noRecord
  | _ => rfl

theorem formed_ofReason (r : Reason) : (ofReason r).Formed := by
  have bound := r.code_lt
  exact ⟨r.code, rfl, by omega, by omega⟩

theorem formed_ofStreamId (i : StreamId) : (ofStreamId i).Formed := by
  have bound := i.value_lt
  exact ⟨i.value, rfl, by omega, by omega⟩

theorem formed_of_checked (h : o.checked s = .ok o') : o'.Formed := by
  unfold checked at h
  split at h
  · obtain ⟨r, -, h⟩ := bind_eq_ok.mp h
    cases h
    exact formed_ofReason r
  · obtain ⟨i, -, h⟩ := bind_eq_ok.mp h
    cases h
    exact formed_ofStreamId i
  · split at h
    · cases h
      exact ⟨_, rfl⟩
    · cases h
  · rename_i noReason noStream noTermination
    cases h
    cases o with
    | reason code => exact absurd rfl (noReason code)
    | streamId value => exact absurd rfl (noStream value)
    | report r =>
      cases r with
      | goAway data code side => exact absurd rfl (noTermination data code side)
      | _ => trivial
    | _ => trivial

/-- An object that is as promised is left as it is when it is looked at again. -/
theorem checked_of_formed (formed : o.Formed) : o.checked s = .ok o := by
  cases o with
  | reason code =>
    obtain ⟨i, rfl, lower, upper⟩ := formed
    have inside : Reason.ofInt? i = some ⟨i.toNat, by omega⟩ := dif_pos ⟨lower, by omega⟩
    have whole : ((i.toNat : Nat) : Int) = i := Int.toNat_of_nonneg lower
    simp only [checked, Reason.ofValue, inside]
    exact congrArg (fun i => Except.ok (Object.reason (.int i))) whole
  | streamId value =>
    obtain ⟨i, rfl, lower, upper⟩ := formed
    have inside : StreamId.ofInt? i = some ⟨i.toNat, by omega⟩ := dif_pos ⟨lower, by omega⟩
    have whole : ((i.toNat : Nat) : Int) = i := Int.toNat_of_nonneg lower
    simp only [checked, StreamId.ofValue, inside]
    exact congrArg (fun i => Except.ok (Object.streamId (.int i))) whole
  | report r =>
    cases r with
    | goAway data code side =>
      obtain ⟨content, rfl⟩ := formed
      rfl
    | _ => rfl
  | _ => rfl

theorem MadeIn.formed (made : o.MadeIn s) (formed : s.Formed) : o.Formed := by
  cases checked : o.isChecked with
  | false => exact formed_of_unchecked checked
  | true =>
    rcases made.checked checked with ⟨r, found, bare⟩ | ⟨o₀, h⟩
    · exact formed r o found bare
    · exact formed_of_checked h

theorem isChecked_nature (o : Object) : o.nature.isChecked = o.isChecked := by
  cases o with
  | report r => cases r <;> rfl
  | sendFailure f => cases f <;> rfl
  | kind k => cases k <;> rfl
  | _ => rfl

theorem FilledWith.formed (filled : o.FilledWith o') (formed : o.Formed) : o'.Formed := by
  cases checked : o.isChecked with
  | false =>
    refine formed_of_unchecked ?_
    rw [← isChecked_nature, filled.nature, isChecked_nature, checked]
  | true =>
    cases filled with
    | loose noRecord nature =>
      cases o with
      | reason | streamId | report => cases noRecord
      | _ => cases checked
    | @frozen record fields frozen same =>
      cases o with
      | reason code =>
        obtain ⟨i, rfl, bounds⟩ := formed
        cases frozen
        obtain _ | ⟨kept, _ | _⟩ := same
        cases kept trivial
        exact ⟨i, rfl, bounds⟩
      | streamId value =>
        obtain ⟨i, rfl, bounds⟩ := formed
        cases frozen
        obtain _ | ⟨kept, _ | _⟩ := same
        cases kept trivial
        exact ⟨i, rfl, bounds⟩
      | report r =>
        cases r with
        | goAway data code side =>
          obtain ⟨content, rfl⟩ := formed
          cases frozen
          obtain _ | ⟨kept, _ | ⟨_, _ | ⟨_, _ | _⟩⟩⟩ := same
          cases kept trivial
          exact ⟨content, rfl⟩
        | _ => cases checked
      | _ => cases checked

end Object

namespace Store

variable {s t u : Store}

theorem initial_formed : initial.Formed := by
  intro r o found _
  have shared : ∀ o ∈ initial.objects.toList, o.Formed := by
    intro o ho
    simp only [initial, List.mem_append, List.mem_map, List.mem_cons, List.not_mem_nil,
      or_false] at ho
    rcases ho with ⟨reason, -, rfl⟩ | rfl | rfl
    · exact Object.formed_ofReason reason
    · exact Object.formed_ofStreamId _
    · trivial
  exact shared o (Array.mem_toList_iff.mpr (Array.mem_of_getElem? found))

theorem KeepsFrozen.refl (s : Store) : s.KeepsFrozen s := fun _ _ found _ _ => found

theorem KeepsFrozen.trans (h : s.KeepsFrozen t) (h' : t.KeepsFrozen u)
    (untouched : ∀ v, u.Untouched v → t.Untouched v) : s.KeepsFrozen u :=
  fun r o found frozen bare => h' r o (h r o found frozen (untouched _ bare)) frozen bare

theorem Formed.giveMaybe (formed : s.Formed) (v : Value) (given? : Option Attributes) :
    (s.giveMaybe v given?).Formed := fun r o found bare =>
  formed r o ((get?_giveMaybe r).symm.trans found) (untouched_of_giveMaybe bare)

theorem keepsFrozen_giveMaybe (s : Store) (v : Value) (given? : Option Attributes) :
    s.KeepsFrozen (s.giveMaybe v given?) := fun r _ found _ _ => (get?_giveMaybe r).trans found

theorem Formed.put {o : Object} (formed : s.Formed) (r : Ref)
    (new : s.Untouched (.object r) → o.Formed) : (s.put r o).Formed := by
  intro q o' found bare
  by_cases here : r = q
  · subst here
    have bound := size_put s r o ▸ lt_size_of_get? found
    rw [get?_put_self o bound] at found
    cases found
    exact new bare
  · exact formed q o' ((get?_put_ne o here).symm.trans found) bare

theorem keepsFrozen_push (s : Store) (o : Object) : s.KeepsFrozen (s.push o) :=
  fun _ _ found _ _ => (get?_push_of_lt o (lt_size_of_get? found)).trans found

theorem keepsFrozen_put {r : Ref} {o o' : Object} (found : s.get? r = some o)
    (same : o.record?.isSome → s.Untouched (.object r) → o' = o) : s.KeepsFrozen (s.put r o') := by
  intro q x found' frozen bare
  by_cases here : r = q
  · subst here
    cases found.symm.trans found'
    rw [same frozen bare]
    exact get?_put_self o (lt_size_of_get? found)
  · exact (get?_put_ne o' here).trans found'

theorem keepsFrozen_pushWith (s : Store) (o : Object) (given? : Option Attributes) :
    s.KeepsFrozen (s.pushWith o given?) :=
  (keepsFrozen_push s o).trans (keepsFrozen_giveMaybe _ _ _) fun _ => untouched_of_giveMaybe

theorem untouched_releaseGone {outside : List Value} {v : Value} :
    (s.releaseGone outside).Untouched v ↔ s.Untouched v := by
  rw [Untouched, given_releaseGone, Untouched]

theorem BindsConstructor.grows (binds : s.BindsConstructor) (grown : s.Grows t) :
    t.BindsConstructor := by
  obtain ⟨q, r, o, bound, found, frozen⟩ := binds
  obtain ⟨m, bound', same⟩ := grown q _ bound
  obtain ⟨o', found', same'⟩ := grown r o found
  cases Object.eq_method_of_nature same
  refine ⟨q, r, o', bound', found', ?_⟩
  rw [← Object.isFrozen_nature, same', Object.isFrozen_nature, frozen]

theorem formed_releaseGone (formed : s.Formed) (outside : List Value) :
    (s.releaseGone outside).Formed := by
  intro r o found bare
  rw [Untouched, given_releaseGone] at bare
  rcases s.get?_releaseGone outside r with same | ⟨source, -, released⟩
  · exact formed r o (same.symm.trans found) bare
  · cases released.symm.trans found
    trivial

theorem keepsFrozen_releaseGone (s : Store) (outside : List Value) :
    s.KeepsFrozen (s.releaseGone outside) := by
  intro r o found frozen _
  rcases s.get?_releaseGone outside r with same | ⟨source, view, -⟩
  · exact same.trans found
  · cases found.symm.trans view
    cases frozen

end Store

/-- Everything but calls of a frozen object's constructor where none was bound. -/
def Licence.sparing : Licence := ⟨fun s deed => ∀ r, deed = .remake r → s.BindsConstructor, False⟩

theorem Licence.sparing_free : Licence.sparing.Free where
  write _ _ h := nomatch h
  logs _ _ h := nomatch h
  wear _ _ _ h := nomatch h
  give _ _ _ h := nomatch h
  restate _ _ _ h := nomatch h
  remake _ _ binds _ _ := binds
  assign _ _ _ _ h := nomatch h

theorem MadeWith.formed {L : Licence} {s : Store} {o : Object} {given? : Option Attributes}
    (made : MadeWith L s o given?) (formed : s.Formed)
    (bare : (s.pushWith o given?).Untouched (.object s.size)) : o.Formed := by
  rcases made.made with made | ⟨-, given⟩
  · exact made.formed formed
  · cases Store.eq_none_of_untouched bare
    cases given

theorem MadeWith.formed_pushWith {L : Licence} {s : Store} {o : Object} {given? : Option Attributes}
    (made : MadeWith L s o given?) (formed : s.Formed) : (s.pushWith o given?).Formed := by
  intro r x found bare
  by_cases inside : r < s.size
  · have before : (s.push o).get? r = some x := (Store.get?_giveMaybe r).symm.trans found
    exact formed r x ((Store.get?_push_of_lt o inside).symm.trans before)
      (Store.untouched_of_giveMaybe (s := s.push o) bare)
  · have bound := Store.lt_size_of_get? found
    rw [Store.pushWith, Store.size_giveMaybe, Store.size_push] at bound
    obtain rfl : r = s.size :=
      Nat.le_antisymm (Nat.le_of_lt_succ bound) (Nat.le_of_not_lt inside)
    cases (Store.get?_pushWith_size s o given?).symm.trans found
    exact made.formed formed bare

/-- What was promised stays true, and frozen objects stay as they are, whatever is done. -/
theorem Deeds.integrity {now after : Session} (h : Deeds .sparing now after)
    (unbound : ¬ after.store.BindsConstructor) (formed : now.store.Formed) :
    after.store.Formed ∧ now.store.KeepsFrozen after.store := by
  induction h with
  | none => exact ⟨formed, .refl _⟩
  | trans h h' ih ih' =>
    obtain ⟨formed, kept⟩ := ih (fun binds => unbound (binds.grows h'.grows)) formed
    obtain ⟨formed, kept'⟩ := ih' unbound formed
    exact ⟨formed, kept.trans kept' fun _ => h'.untouched⟩
  | push made => exact ⟨made.formed_pushWith formed, Store.keepsFrozen_pushWith _ _ _⟩
  | @around now mid o o' given? given'? made inner filled _ _ ih =>
    have grown := inner.grows_filled given'? filled
    have ⟨formed', kept⟩ := ih (fun binds => unbound (binds.grows grown))
      (made.formed_pushWith formed)
    have new : (mid.store.giveMaybe (.object now.store.size) given'?).Untouched
        (.object now.store.size) → o'.Formed := fun bare =>
      filled.formed (made.formed formed (inner.untouched (Store.untouched_of_giveMaybe bare)))
    refine ⟨(formed'.giveMaybe _ given'?).put _ new, fun r x there frozen bare => ?_⟩
    have bound := Store.lt_size_of_get? there
    have first := Store.keepsFrozen_pushWith now.store o given? r x there frozen
    have bare : mid.store.Untouched (.object r) := Store.untouched_of_giveMaybe bare
    refine (Store.get?_put_ne _ (Nat.ne_of_gt bound)).trans ((Store.get?_giveMaybe _).trans ?_)
    exact kept r x (first (inner.untouched bare)) frozen bare
  | @write now r o o' may found revises =>
    cases frozen : o.record? with
    | none =>
      have loose := Object.loose_of_nature revises.nature frozen
      exact ⟨formed.put r fun _ => Object.formed_of_unfrozen loose,
        Store.keepsFrozen_put found fun bare => by rw [frozen] at bare; cases bare⟩
    | some record =>
      -- The constructor leaves an object as it is that is already as promised.
      have same : now.store.Untouched (.object r) → o' = o := fun bare => by
        have checked := revises.of_frozen (frozen ▸ rfl)
        exact (Except.ok.inj ((Object.checked_of_formed (formed r o found bare)).symm.trans
          checked)).symm
      exact ⟨formed.put r fun bare => same bare ▸ formed r o found bare,
        Store.keepsFrozen_put found fun _ => same⟩
  | give => exact ⟨formed.giveMaybe _ (some _), Store.keepsFrozen_giveMaybe _ _ (some _)⟩
  | @remake now r o may found frozen fields =>
    have grown := Store.grows_put found (o.nature_withFields fields)
    exact absurd ((may r rfl).grows grown) unbound
  | @restate now r o record may found frozen touched =>
    exact ⟨formed.put r fun bare => absurd bare touched,
      Store.keepsFrozen_put found fun _ bare => absurd bare touched⟩
  | log => exact ⟨formed, .refl _⟩

namespace Script

def NeverRecalls (state : State) : List Step → Prop
  | [] => True
  | step :: rest =>
    ¬ step.Recalls state.vars (Step.start state) ∧ NeverRecalls (step.run state).2 rest

variable {state : State}

theorem step_sparing {step : Step} (first : ¬ step.Recalls state.vars (Step.start state)) :
    Deeds .sparing (Step.start state) (step.run state).2.session :=
  (Step.deeds_run Licence.sparing_free nofun (fun recalls => absurd recalls first)
    (fun _ _ _ _ same => nomatch same)
    (Step.clonesBy_of_assigns Licence.sparing_free fun _ _ _ same => nomatch same)).1

/-- One step leaves frozen objects as they are, and makes no others than are promised. -/
theorem step_integrity {step : Step} (first : ¬ step.Recalls state.vars (Step.start state))
    (unbound : ¬ (step.run state).2.session.store.BindsConstructor)
    (formed : state.session.store.Formed) : (step.run state).2.session.store.Formed ∧
      state.session.store.KeepsFrozen (step.run state).2.session.store := by
  have deeds := step_sparing first
  obtain ⟨formed, kept⟩ := deeds.integrity unbound (Store.formed_releaseGone formed _)
  exact ⟨formed, (Store.keepsFrozen_releaseGone _ _).trans kept fun _ => deeds.untouched⟩

theorem after_grows (state : State) (steps : List Step) (never : NeverRecalls state steps) :
    state.session.store.Grows (state.after steps).session.store ∧
      ∀ v, (state.after steps).session.store.Untouched v → state.session.store.Untouched v := by
  induction steps generalizing state with
  | nil => exact ⟨.refl _, fun _ bare => bare⟩
  | cons step rest ih =>
    have deeds := step_sparing never.1
    obtain ⟨grown, untouched⟩ := ih _ never.2
    refine ⟨((Store.grows_releaseGone _ _).trans deeds.grows).trans grown, fun v bare => ?_⟩
    exact Store.untouched_releaseGone.mp (deeds.untouched (untouched v bare))

theorem after_integrity {steps : List Step} (never : NeverRecalls state steps)
    (unbound : ¬ (state.after steps).session.store.BindsConstructor)
    (formed : state.session.store.Formed) : (state.after steps).session.store.Formed ∧
      state.session.store.KeepsFrozen (state.after steps).session.store := by
  induction steps generalizing state with
  | nil => exact ⟨formed, .refl _⟩
  | cons step rest ih =>
    obtain ⟨grown, untouched⟩ := after_grows (step.run state).2 rest never.2
    obtain ⟨formed, kept⟩ := step_integrity never.1 (fun binds => unbound (binds.grows grown))
      formed
    obtain ⟨formed, kept'⟩ := ih never.2 unbound formed
    exact ⟨formed, kept.trans kept' untouched⟩

end Script

/-- The shared constants hold the codes that they were declared with. -/
def Store.ConstantsStand (s : Store) : Prop :=
  ∀ r : Reason, r.isKnown = true → s.get? r.code = some (.ofReason r)

theorem Store.initial_constantsStand : Store.initial.ConstantsStand := by
  have listed : ∀ entry ∈ Reason.names,
      Store.initial.get? entry.1 = some (.reason (.int entry.1)) := by decide
  exact fun r known => listed _ (Reason.mem_names_of_isKnown known)

theorem Store.ConstantsStand.keepsFrozen {s t : Store} (stands : s.ConstantsStand)
    (kept : s.KeepsFrozen t)
    (untouched : ∀ r : Reason, r.isKnown = true → t.Untouched (.object r.code)) :
    t.ConstantsStand :=
  fun r known => kept r.code _ (stands r known) rfl (untouched r known)

/-- The constants stand as they were declared in all states that a script comes to without calling a
constructor again and without giving them a state. -/
theorem Script.after_constantsStand {steps : List Script.Step} (never : NeverRecalls .initial steps)
    (unbound : ¬ (State.initial.after steps).session.store.BindsConstructor)
    (untouched : ∀ r : Reason, r.isKnown = true →
      (State.initial.after steps).session.store.Untouched (.object r.code)) :
    (State.initial.after steps).session.store.ConstantsStand :=
  Store.initial_constantsStand.keepsFrozen (after_integrity never unbound Store.initial_formed).2
    untouched

def Store.binds (s : Store) (name : String) : Bool :=
  s.objects.any fun
    | .method _ bound => bound == name
    | _ => false

theorem Store.BindsConstructor.binds {s : Store} (h : s.BindsConstructor) :
    s.binds "__init__" = true := by
  obtain ⟨q, r, o, bound, -⟩ := h
  obtain ⟨inside, here⟩ := Array.getElem?_eq_some_iff.mp bound
  exact Array.any_eq_true.mpr ⟨q, inside, by rw [here]; rfl⟩

def Script.resetError (reason : Script.Expr) : Script.Expr :=
  .build (.error .base .report) [.build (.resetBy .peer) [.build .streamId [.int 1], reason]]

/-- The parts of the fault are given out by an error. They are a method that returns the reason, and
a state for it. -/
def restating : List Script.Step :=
  let state := Script.Expr.list [.build .tuple [.text "code", .int (-5)]]
  [.display (.build .reason [.int 5]) (some "r"),
    .get (Script.resetError (.var "r")) "reason" (some "m"),
    .get (Script.resetError (.build .tuple [.var "m", .build .tuple [], state]))
      "reason" (some "q"),
    .display (.build (.fault .general) [.int 2, .text "x"]) (some "f"),
    .set (.var "f") "__reduce__" (.var "q"), .clone (.var "f") .shallow none]

end Http2Failure
