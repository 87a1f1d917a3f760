import Http2Failure.Proofs.Coherence
import Http2Failure.Proofs.PayloadEquality

/-!
# What to do about an error is a matter of its origin

A few questions, put to an error one after the other, decide what is done about it. Some of them
have an answer for certain origins only, so their order counts. What comes of them is told here from
the failure alone: neither the way to the error nor the clones after it play a part.
-/

namespace Http2Failure

namespace Kind

def HasReason (s : Store) (k : Kind) (r : Reason) : Prop :=
  ∃ code, k.reason? = some (.object code) ∧ s.get? code = some (.ofReason r)

/-- What is to be done about a failure of the kind. A stream that was refused may be tried again,
whichever side refused it; of the rest, what the peer triggered is its own fault. -/
def CallsFor (s : Store) (k : Kind) : Recovery → Prop
  | .reconnect => k.origin = .transport
  | .failFast => k.origin = .misuse
  | .retry => ∃ r, k.HasReason s r ∧ r.code = 7
  | .logPeerFault => (∃ r, k.HasReason s r ∧ r.code ≠ 7) ∧ k.initiator? = some (.initiator .peer)
  | .logAndCrash => k.origin = .reason ∨
      (∃ r, k.HasReason s r ∧ r.code ≠ 7) ∧ k.initiator? = some (.initiator .library)

variable {s t : Store} {k k' : Kind} {r : Reason} {code : Ref} {side : Initiator}

theorem HasReason.exists_iff (has : k.HasReason s r) {P : Reason → Prop} :
    (∃ r', k.HasReason s r' ∧ P r') ↔ P r := by
  obtain ⟨code, held, found⟩ := has
  constructor
  · rintro ⟨r', ⟨code', held', found'⟩, meets⟩
    rwa [Payload.eq_of_reason found found' (Option.some.inj (held.symm.trans held'))]
  · exact fun meets => ⟨r, ⟨code, held, found⟩, meets⟩

theorem Declared.hasReason_iff (declared : k.Declared s) (more : s.Extends t) :
    k.HasReason t r ↔ k.HasReason s r := by
  constructor
  · rintro ⟨code, held, found⟩
    refine ⟨code, held, ?_⟩
    cases declared with
    | reason => cases held
    | ofFailure typed =>
      cases typed with
      | reset identifier reason | goAway data reason =>
        cases held
        exact reason.trans ((more.get? reason).symm.trans found)
      | misuse | transport => cases held
  · exact fun ⟨code, held, found⟩ => ⟨code, held, more.get? found⟩

theorem Declared.callsFor_iff (declared : k.Declared s) (more : s.Extends t) (outcome : Recovery) :
    k.CallsFor t outcome ↔ k.CallsFor s outcome := by
  cases outcome <;> simp only [CallsFor, declared.hasReason_iff more]

theorem callsFor_of_reason (has : k.HasReason s r) (held : k.initiator? = some (.initiator side))
    (outcome : Recovery) :
    (if r.code = 7 then .retry else if side = .peer then .logPeerFault else .logAndCrash) =
      outcome ↔ k.CallsFor s outcome := by
  have apart : k.origin ≠ .transport ∧ k.origin ≠ .misuse ∧ k.origin ≠ .reason := by
    cases k with
    | reset | goAway => exact ⟨nofun, nofun, nofun⟩
    | _ => cases held
  -- The kind has one reason and one initiator, so each clause can be decided.
  have refused := has.exists_iff (P := fun r => r.code = 7)
  have other := has.exists_iff (P := fun r => r.code ≠ 7)
  by_cases refusal : r.code = 7
  · cases outcome <;> simp [CallsFor, refused, other, apart, refusal]
  · cases side <;> cases outcome <;> simp [CallsFor, refused, other, apart, refusal, held]

end Kind

def Store.RefusalStands (s : Store) : Prop :=
  s.object? Recovery.refusedStream = some (.reason (.int 7))

instance (s : Store) : Decidable s.RefusalStands := inferInstanceAs (Decidable (_ = _))

namespace Error

variable {now : Session} {c : Ref} {k k' : Kind}

theorem classify_of_declared (opened : Open now.store c k) (declared : k.Declared now.store) :
    Recovery.classify (.object c) now =
      (.ok (if k.isTransport then .reconnect
        else if k.isMisuse then .failFast
        else if now.store.equal (k.reason?.getD .null) Recovery.refusedStream then .retry
        else if k.initiator? = some (.initiator .peer) then .logPeerFault
        else .logAndCrash), now) := by
  have answer := Kind.askSide_eq declared (Store.depth - 2) .peer
  rw [classify_of_open opened]
  simp only [Action.bind_apply, show Store.depth - 1 = Store.depth - 2 + 1 from rfl, answer,
    Action.read_apply, truthy_bool, decide_eq_true_eq]
  split_ifs <;> rfl

theorem equal_refused {code : Ref} {r : Reason} (stands : now.store.RefusalStands)
    (found : now.store.get? code = some (.ofReason r)) :
    now.store.equal (.object code) Recovery.refusedStream = decide (r.code = 7) := by
  have constant : now.store.get? 7 = some (.ofReason ⟨7, by decide⟩) := stands
  refine (Payload.equalUpTo_reason found constant (Store.depth - 2)).trans ?_
  refine decide_eq_decide.mpr (Payload.reason_eq_iff.trans ?_)
  exact Int.natCast_inj

theorem Bears.classify (bears : Bears now.store k c) (stands : now.store.RefusalStands) :
    ∃ outcome, Recovery.classify (.object c) now = (.ok outcome, now) ∧
      ∀ other, outcome = other ↔ k.CallsFor now.store other := by
  obtain ⟨k', opened, comes, declared⟩ := bears.open
  rw [classify_of_declared opened declared]
  refine ⟨_, rfl, ?_⟩
  cases comes with
  | fault =>
    intro other
    cases other <;>
      simp [Kind.isTransport, Kind.CallsFor, Kind.HasReason, Kind.reason?, Kind.origin]
  | like like =>
    cases like with
    | reset side _ _ reason reason' | goAway _ side reason reason' =>
      simp only [Kind.isTransport, Kind.isMisuse, Kind.reason?, Option.getD_some,
        equal_refused stands reason', decide_eq_true_eq, Kind.initiator?, Option.some.injEq,
        Value.initiator.injEq, Bool.false_eq_true, if_false]
      exact Kind.callsFor_of_reason ⟨_, rfl, reason⟩ rfl
    | misuse m =>
      intro other
      cases other <;>
        simp [Kind.isTransport, Kind.isMisuse, Kind.CallsFor, Kind.HasReason, Kind.reason?,
          Kind.origin]
    | reason found found' =>
      have apart : now.store.equal .null Recovery.refusedStream = false :=
        Store.equalUpTo_null_reason stands (Store.depth - 1)
      intro other
      cases other <;>
        simp [Kind.isTransport, Kind.isMisuse, Kind.CallsFor, Kind.HasReason, Kind.reason?,
          Kind.initiator?, Kind.origin, apart]

end Error

/-- What is to be done about an error is told by the failure alone. On whatever way a failure
becomes an error, and however this is copied, stored and read back, and converted then, nothing is
refused, and the error at the end is met by the one thing that the failure calls for, whatever is
built later on. -/
theorem classified_by_origin {start : Session} (sound : start.store.Sound)
    {route : Error.Route} {v : Value} {k : Kind} (way : Error.Way start.store route v k)
    (pristine : k.Pristine start.store) (stands : start.store.RefusalStands)
    (cls : Error.Class) (relays : List Relay) :
    ∃ c after, (Error.via cls route v >>= Relay.chain relays) start = (.ok (.object c), after) ∧
      start.store.Extends after.store ∧
      ∀ now : Session, after.store.Extends now.store →
        ∃ outcome, Recovery.classify (.object c) now = (.ok outcome, now) ∧
          ∀ other, outcome = other ↔ k.CallsFor start.store other := by
  obtain ⟨c, after, run, more, bears⟩ := way.arrives sound pristine cls relays
  refine ⟨c, after, run, more, fun now later => ?_⟩
  have stands' : now.store.RefusalStands := (more.trans later).get? stands
  obtain ⟨outcome, done, calls⟩ := (bears.extends later).classify stands'
  refine ⟨outcome, done, fun other => (calls other).trans ?_⟩
  exact way.declared.callsFor_iff (more.trans later) other

/-- A stream that this side refused, which is stored and read back, and a missing file. -/
theorem classified_by_origin_refused :
    let fault : Fault :=
      { cls := .fileNotFound, args := [.int 2, .text "gone"], errorNumber := some (.int 2),
        errorText := some (.text "gone") }
    let start : Session :=
      ⟨(((Store.initial.push (.streamId (.int 5))).push (.reason (.int 7))).push
        (.report (.reset (.object 16) (.object 17) (.initiator .library)))).push (.fault fault), []⟩
    let relays := [Relay.link .copy, .stored]
    (∃ c after, (Error.via .application .any (.object 18) >>= Relay.chain relays) start =
      (.ok (.object c), after) ∧ Recovery.classify (.object c) after = (.ok .retry, after)) ∧
    ∃ c after, (Error.via .base .transport (.object 19) >>= Relay.chain relays) start =
      (.ok (.object c), after) ∧ Recovery.classify (.object c) after = (.ok .reconnect, after) := by
  intro fault start relays
  have sound : start.store.Sound :=
    (((Store.initial_sound.push (by decide)).push (by decide)).push (by decide)).push (by decide)
  have stands : start.store.RefusalStands := by decide
  constructor
  · let report : Report := .reset (.object 16) (.object 17) (.initiator .library)
    have reason : start.store.get? 17 = some (.ofReason ⟨7, by decide⟩) := by decide
    have path : Error.Path start.store .any (.object 18) _ (.ofReport report) :=
      .any (.report (by decide))
    have typed : (Kind.ofReport report).WellTyped start.store :=
      .reset (i := ⟨5, by decide⟩) (by decide) reason rfl
    obtain ⟨c, after, run, -, classified⟩ := classified_by_origin sound (.failure path typed)
      ⟨by decide, Kind.faultMeets_of_noFault rfl⟩ stands .application relays
    obtain ⟨outcome, done, calls⟩ := classified after (.refl _)
    cases (calls .retry).mpr ⟨_, ⟨17, rfl, reason⟩, rfl⟩
    exact ⟨c, after, run, done⟩
  · have found : start.store.get? 19 = some (.fault fault) := by decide
    have constant : fault.FromConstants :=
      ⟨start.store, .general, [.int 2, .text "gone"], fault, rfl, by decide, rfl, .refl fault⟩
    obtain ⟨c, after, run, -, classified⟩ := classified_by_origin sound
      (.failure (.transport found) (.transport found))
      ⟨by decide, (Kind.faultMeets_iff found).mpr ⟨constant, rfl⟩⟩ stands .base relays
    obtain ⟨outcome, done, calls⟩ := classified after (.refl _)
    cases (calls .reconnect).mpr rfl
    exact ⟨c, after, run, done⟩

end Http2Failure
