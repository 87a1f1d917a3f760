import Http2Failure.Proofs.Comparison
import Http2Failure.Proofs.Payload

/-!
# Equality of what shows a payload

Terminations are equal where their payloads are, and so are failures of the sending side around
them, while an error is equal to itself alone. Compared with anything else that stays as it is, they
answer alike for good.
-/

namespace Http2Failure

namespace Payload

variable {p p' : Payload} {s t : Store} {role role' : Role} {v w : Value} {q code : Ref}

theorem reason_eq_iff {r r' : Reason} : r = r' ↔ (r.code : Int) = r'.code := by
  cases r
  cases r'
  simp only [Reason.mk.injEq]
  omega

theorem equalUpTo_reason {code code' : Ref} {r r' : Reason}
    (found : s.get? code = some (.ofReason r)) (found' : s.get? code' = some (.ofReason r'))
    (n : Nat) : s.equalUpTo (n + 2) (.object code) (.object code') = decide (r = r') := by
  rw [Store.equalUpTo_frozen found found' rfl rfl rfl]
  simp [Store.allEqual, Store.same, Store.equalUpTo_int, reason_eq_iff]

theorem eq_of_reason {code code' : Ref} {r r' : Reason} (found : s.get? code = some (.ofReason r))
    (found' : s.get? code' = some (.ofReason r')) (same : Value.object code = .object code') :
    r = r' := by
  cases same
  have both := Option.some.inj (found.symm.trans found')
  exact reason_eq_iff.mpr (Value.int.inj (Object.reason.inj both))

theorem same_or {v w : Value} {P : Prop} [Decidable P] (h : v = w → P) :
    (Store.same v w || decide P) = decide P := by
  by_cases holds : P
  · simp [holds]
  · have other : v ≠ w := fun same => holds (h same)
    simp [Store.same, holds, other]

theorem same_or_reason {code code' : Ref} {r r' : Reason}
    (found : s.get? code = some (.ofReason r)) (found' : s.get? code' = some (.ofReason r'))
    (n : Nat) : (Store.same (.object code) (.object code') ||
      s.equalUpTo (n + 2) (.object code) (.object code')) = decide (r = r') := by
  rw [equalUpTo_reason found found']
  exact same_or (eq_of_reason found found')

theorem eq_of_report {code code' : Ref} (same : p.report code = p'.report code')
    (reason : s.get? code = some (.ofReason p.reason))
    (reason' : s.get? code' = some (.ofReason p'.reason)) : p = p' := by
  obtain ⟨content, r, side⟩ := p
  obtain ⟨content', r', side'⟩ := p'
  cases same
  cases eq_of_reason reason reason' rfl
  rfl

theorem Holds.unique (holds : p.Holds s role v) (holds' : p'.Holds s role v) : p = p' := by
  have reports : ∀ {v}, p.Holds s .report v → p'.Holds s .report v → p = p' := by
    rintro _ (⟨found, -, typed⟩) (⟨found', -, typed'⟩)
    have both := Option.some.inj (found.symm.trans found')
    exact eq_of_report (Object.report.inj both) typed.reason typed'.reason
  cases holds with
  | report found bare typed => exact reports (.report found bare typed) holds'
  | failure found _ inner =>
    cases holds' with
    | failure found' _ inner' =>
      cases found.symm.trans found'
      exact reports inner inner'
  | @error _ code _ found _ kind _ typed =>
    cases holds' with
    | @error _ code' _ found' _ kind' _ typed' =>
      cases found.symm.trans found'
      obtain ⟨content, place, side⟩ := Kind.goAway.inj (Option.some.inj (kind.symm.trans kind'))
      have same : p.report code = p'.report code' := by
        rw [Payload.report, Payload.report, content, place, side]
      exact eq_of_report same typed.reason typed'.reason

theorem equalUpTo_report {q q' : Ref} (holds : p.Holds s .report (.object q))
    (holds' : p'.Holds s .report (.object q')) (n : Nat) :
    s.equalUpTo (n + 3) (.object q) (.object q') = decide (p = p') := by
  cases holds with
  | @report _ code found _ typed =>
    cases holds' with
    | @report _ code' found' _ typed' =>
      have fields : decide (p = p') = (decide (p.content = p'.content) &&
          (decide (p.reason = p'.reason) && decide (p.side = p'.side))) := by
        cases p
        cases p'
        simp
      rw [Store.equalUpTo_frozen found found' rfl rfl rfl]
      simp only [report, Report.record, List.map_cons, List.map_nil, Store.allEqual,
        Store.equalUpTo_bytes, Store.equalUpTo_initiator, same_or_reason typed.reason typed'.reason,
        Bool.and_true, fields]
      rw [same_or fun same => Value.bytes.inj same, same_or fun same => Value.initiator.inj same]

theorem equalUpTo_failure {q q' : Ref} (holds : p.Holds s .failure (.object q))
    (holds' : p'.Holds s .failure (.object q')) (n : Nat) :
    s.equalUpTo (n + 4) (.object q) (.object q') = decide (p = p') := by
  cases holds with
  | failure found _ inner =>
    cases holds' with
    | failure found' _ inner' =>
      rw [Store.equalUpTo_frozen found found' rfl rfl rfl]
      simp only [SendFailure.record, List.map_cons, List.map_nil, Store.allEqual, Bool.and_true]
      cases inner with
      | report there bare typed =>
        cases inner' with
        | report there' bare' typed' =>
          have first := Holds.report there bare typed
          have second := Holds.report there' bare' typed'
          rw [equalUpTo_report first second n]
          exact same_or fun same => first.unique (same ▸ second)

def roleOf? : Object → Option Role
  | .report _ => some .report
  | .sendFailure _ => some .failure
  | .error _ => some .error
  | _ => none

theorem Holds.roleOf? (holds : p.Holds s role v) :
    ∃ q x, v = .object q ∧ s.get? q = some x ∧ Payload.roleOf? x = some role := by
  cases holds with
  | report found | failure found | error found => exact ⟨_, _, rfl, found, rfl⟩

theorem equalToObject?_of_roleOf? {x y : Object} (h : roleOf? x = some role)
    (h' : roleOf? y = some role') (strange : role = role' → role = .error)
    (equal : Value → Value → Bool) : Store.equalToObject? equal x y = none := by
  cases x with
  | error => rfl
  | report r =>
    cases h
    cases y with
    | report => cases h'; cases strange rfl
    | sendFailure f => cases r <;> cases f <;> rfl
    | error => rfl
    | _ => cases h'
  | sendFailure f =>
    cases h
    cases y with
    | sendFailure => cases h'; cases strange rfl
    | report r => cases r <;> cases f <;> rfl
    | error => rfl
    | _ => cases h'
  | _ => cases h

theorem isRigid_of_roleOf? {x : Object} (h : roleOf? x = some role) : x.IsRigid := by
  cases x with
  | report | sendFailure => exact .inl rfl
  | error => exact .inr rfl
  | _ => cases h

theorem equalUpTo_strange {r : Ref} {x y : Object} (found : s.get? q = some x)
    (found' : s.get? r = some y) (h : roleOf? x = some role) (h' : roleOf? y = some role')
    (strange : role = role' → role = .error) (n : Nat) :
    s.equalUpTo (n + 1) (.object q) (.object r) = decide (q = r) :=
  Store.equalUpTo_strange found found' (isRigid_of_roleOf? h) (isRigid_of_roleOf? h')
    (equalToObject?_of_roleOf? h h' strange)
    (equalToObject?_of_roleOf? h' h fun same => same.trans (strange same.symm))

/-- What shows a payload is equal to what shows the same one in the same way, but for errors, which
are equal to themselves alone. -/
theorem Holds.equal (holds : p.Holds s role v) (holds' : p'.Holds s role' w) :
    s.equal v w = decide (role = role' ∧ p = p' ∧ (role = .error → v = w)) := by
  obtain ⟨q, x, rfl, found, h⟩ := holds.roleOf?
  obtain ⟨r, y, rfl, found', h'⟩ := holds'.roleOf?
  by_cases strange : role = role' → role = .error
  · have answer := equalUpTo_strange found found' h h' strange (Store.depth - 1)
    refine answer.trans (decide_eq_decide.mpr ⟨?_, ?_⟩)
    · rintro rfl
      cases found.symm.trans found'
      cases h.symm.trans h'
      exact ⟨rfl, holds.unique holds', fun _ => rfl⟩
    · rintro ⟨same, -, objects⟩
      exact Value.object.inj (objects (strange same))
  · obtain ⟨rfl, noError⟩ := Classical.not_imp.mp strange
    have answer : s.equal (.object q) (.object r) = decide (p = p') := by
      cases role with
      | report => exact equalUpTo_report holds holds' (Store.depth - 3)
      | failure => exact equalUpTo_failure holds holds' (Store.depth - 4)
      | error => exact absurd rfl noError
    refine answer.trans (decide_eq_decide.mpr ⟨fun same => ?_, fun both => both.2.1⟩)
    exact ⟨rfl, same, fun isError => absurd isError noError⟩

/-- The places of the payload: of what shows it, but for errors, of its reason and of its
initiator. -/
def Places (p : Payload) (s : Store) (v : Value) : Prop :=
  p.Holds s .report v ∨ p.Holds s .failure v ∨ (∃ code, v = .object code ∧ p.Typed s code) ∨
    v = .initiator p.side ∧ s.Untouched v

theorem closedOn_places (p : Payload) (s : Store) : s.ClosedOn (p.Places s) where
  shown := by
    rintro r o (report | failure | ⟨code, same, typed⟩ | ⟨same, -⟩) there v hv
    · cases report with
      | @report _ code found _ typed =>
        cases found.symm.trans there
        have fields : v = .bytes p.content ∨ v = .object code ∨ v = .initiator p.side := by
          change v ∈ [.bytes p.content, .object code, .initiator p.side] at hv
          simpa using hv
        rcases fields with rfl | rfl | rfl
        · trivial
        · exact .inr (.inr (.inl ⟨code, rfl, typed⟩))
        · exact .inr (.inr (.inr ⟨rfl, typed.side⟩))
    · cases failure with
      | failure found _ inner =>
        cases found.symm.trans there
        cases List.mem_singleton.mp hv
        cases inner with
        | report inner bare typed => exact .inl (.report inner bare typed)
    · cases same
      cases typed.reason.symm.trans there
      cases List.mem_singleton.mp hv
      trivial
    · cases same
  members := by
    rintro v (report | failure | ⟨code, rfl, -⟩ | ⟨rfl, untouched⟩) member w hw
    · cases report
      cases member
    · cases failure
      cases member
    · cases member
    · rw [Store.attributesOf_of_untouched member untouched] at hw
      simp only [Value.ownAttributes, Value.ofMember, List.map_cons, List.map_nil, List.mem_cons,
        List.not_mem_nil, or_false] at hw
      rcases hw with rfl | rfl | rfl <;> trivial

theorem agreesOn_places (kept : s.Keeps t) : Store.AgreesOn (p.Places s) s t where
  objects := by
    rintro r (report | failure | ⟨code, same, typed⟩ | ⟨same, -⟩)
    · cases report with
      | report found => exact (kept.settled _ _ found (.inr ⟨rfl, fun _ => rfl⟩)).trans found.symm
    · cases failure with
      | failure found => exact (kept.settled _ _ found (.inr ⟨rfl, fun _ => rfl⟩)).trans found.symm
    · cases same
      exact (kept.settled _ _ typed.reason (Object.isSettled_ofReason _)).trans typed.reason.symm
    · cases same
  given := by
    rintro v (report | failure | ⟨code, rfl, typed⟩ | ⟨rfl, -⟩)
    · cases report with
      | report found => exact kept.given _ (Store.lt_size_of_get? found)
    · cases failure with
      | failure found => exact kept.given _ (Store.lt_size_of_get? found)
    · exact kept.given _ (Store.lt_size_of_get? typed.reason)
    · exact kept.given _ trivial

/-- Compared with a value that stays as it is, what shows a payload answers alike for good. -/
theorem Holds.equal_congr (holds : p.Holds s role v) (kept : s.Keeps t)
    (same : Store.AgreesOn (s.Leads w) s t) : t.equal v w = s.equal v w := by
  have places : Store.AgreesOn (p.Places s) s t := agreesOn_places kept
  have agree : Store.AgreesOn (fun v => p.Places s v ∨ s.Leads w v) s t :=
    ⟨fun inside => inside.elim places.objects same.objects,
      fun inside => inside.elim places.given same.given⟩
  have closed := (closedOn_places p s).or (s.closedOn_leads w)
  have other : w.Inside fun v => p.Places s v ∨ s.Leads w v := Value.inside_of (.inr (.here w))
  cases holds with
  | report found bare typed =>
    exact agree.equalUpTo closed _ (.inl (.inl (.report found bare typed))) other
  | failure found bare inner =>
    exact agree.equalUpTo closed _ (.inl (.inr (.inl (.failure found bare inner)))) other
  | error found =>
    obtain ⟨error', found', -⟩ := kept.error _ _ found
    exact (Store.equalUpTo_error found' _ w).trans (Store.equalUpTo_error found _ w).symm

end Payload

end Http2Failure
