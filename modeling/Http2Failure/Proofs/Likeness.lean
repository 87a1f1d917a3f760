import Http2Failure.Proofs.Declared
import Http2Failure.Proofs.Twins

/-!
# Kinds that are alike

The twin of a kind with fields of the declared types holds the same values, at places of its own. It
has the same text, and is asked with the same answers, but that two checked protocol values that are
equal need not be one object.
-/

namespace Http2Failure

section

variable {α β : Type} {R : α → β → Prop} {P : α → Prop} {a b c : α} {l : List β}

theorem forall_mem_three (ha : P a) (hb : P b) (hc : P c) : ∀ x ∈ [a, b, c], P x :=
  List.forall_mem_cons.mpr
    ⟨ha, List.forall_mem_cons.mpr ⟨hb, List.forall_mem_singleton.mpr hc⟩⟩

theorem forall₂_one (h : List.Forall₂ R [a] l) : ∃ x, l = [x] ∧ R a x := by
  cases h with
  | cons first rest =>
    cases rest
    exact ⟨_, rfl, first⟩

theorem forall₂_three (h : List.Forall₂ R [a, b, c] l) :
    ∃ x y z, l = [x, y, z] ∧ R a x ∧ R b y ∧ R c z := by
  cases h with
  | cons first rest =>
    cases rest with
    | cons second rest =>
      obtain ⟨z, rfl, third⟩ := forall₂_one rest
      exact ⟨_, _, z, rfl, first, second, third⟩

end

namespace Store

variable {s t : Store} {P : Ref → Prop} {n : Nat} {v w : Value} {r : Ref} {o : Object}

theorem Twins.single (twins : s.Twins t P n (.object r) w) (found : s.get? r = some o) {v : Value}
    (data : o.dataParts? = some [v]) (h : v.Immediate) :
    ∃ q, w = .object q ∧ t.get? q = some o ∧ (o.record?.isSome → s.Untouched (.object q)) := by
  cases n with
  | zero => exact twins.elim
  | succ n =>
    cases twins with
    | immediate h => exact h.elim
    | member h => cases h
    | @object _ q _ parts parts' found' data' _ bare there rest =>
      cases found.symm.trans found'
      cases data.symm.trans data'
      obtain ⟨w, rfl, same⟩ := forall₂_one rest
      cases same.eq_of_immediate h
      exact ⟨q, rfl, there.trans (congrArg some (Object.refill_self data)), bare⟩

end Store

namespace Kind

/-- Kinds without a fault that hold the same values, at places of their own. -/
inductive Like (s : Store) : Kind → Kind → Prop
  | reset {id id' code code' : Ref} {i : StreamId} {r : Reason} (side : Initiator)
    (identifier : s.get? id = some (.ofStreamId i))
    (identifier' : s.get? id' = some (.ofStreamId i)) (reason : s.get? code = some (.ofReason r))
    (reason' : s.get? code' = some (.ofReason r)) :
    Like s (.reset (.object id) (.object code) (.initiator side))
      (.reset (.object id') (.object code') (.initiator side))
  | goAway {code code' : Ref} {r : Reason} (data : List UInt8) (side : Initiator)
    (reason : s.get? code = some (.ofReason r)) (reason' : s.get? code' = some (.ofReason r)) :
    Like s (.goAway (.bytes data) (.object code) (.initiator side))
      (.goAway (.bytes data) (.object code') (.initiator side))
  | reason {code code' : Ref} {r : Reason} (found : s.get? code = some (.ofReason r))
    (found' : s.get? code' = some (.ofReason r)) :
    Like s (.reason (.object code)) (.reason (.object code'))
  | misuse (m : Misuse) : Like s (.misuse (.misuse m)) (.misuse (.misuse m))

def Bare (s : Store) (κ : Ref) (k : Kind) : Prop :=
  ∀ v ∈ .object κ :: k.record.fields.map Prod.snd, v.Inside s.Untouched

instance (s : Store) (κ : Ref) (k : Kind) : Decidable (k.Bare s κ) :=
  inferInstanceAs (Decidable (∀ v ∈ _, _))

variable {s t : Store} {k k' : Kind} {κ : Ref} {P : Ref → Prop} {n : Nat} {w : Value}

theorem like_of_twins (holds : s.kind? κ = some k) (declared : k.Declared s)
    (noFault : k.isTransport = false) (more : s.Extends t)
    (twins : s.Twins t P n (.object κ) w) :
    ∃ κ' k', w = .object κ' ∧ t.kind? κ' = some k' ∧ k.Like t k' ∧ k'.Bare t κ' := by
  have place := Store.kind?_eq_some_iff.mp holds
  cases n with
  | zero => exact twins.elim
  | succ n =>
    cases twins with
    | immediate h => exact h.elim
    | member h => cases h
    | @object _ q _ parts parts' found data _ new there rest =>
      cases place.symm.trans found
      have itself : t.Untouched (.object q) := more.bare (new rfl)
      have bare : ∀ {l : Kind}, (∀ v ∈ l.record.fields.map Prod.snd, v.Inside t.Untouched) →
          l.Bare t q := fun fields => List.forall_mem_cons.mpr ⟨itself, fields⟩
      refine ⟨q, k.withFields parts', rfl, Store.kind?_eq_some_iff.mpr there, ?_⟩
      cases data
      cases declared with
      | ofFailure typed =>
        cases typed with
        | reset identifier reason initiator =>
          obtain ⟨w, w', w'', rfl, first, second, third⟩ := forall₂_three rest
          obtain ⟨id, rfl, identifier', given⟩ := first.single identifier rfl trivial
          obtain ⟨code, rfl, reason', given'⟩ := second.single reason rfl trivial
          cases third.eq_of_member rfl
          exact ⟨.reset _ (more.get? identifier) identifier' (more.get? reason) reason', bare
            (forall_mem_three (more.bare (given rfl)) (more.bare (given' rfl))
              (more.bare initiator))⟩
        | goAway data reason initiator =>
          obtain ⟨w, w', w'', rfl, first, second, third⟩ := forall₂_three rest
          cases first.eq_of_immediate trivial
          obtain ⟨code, rfl, reason', given⟩ := second.single reason rfl trivial
          cases third.eq_of_member rfl
          exact ⟨.goAway data _ (more.get? reason) reason', bare
            (forall_mem_three trivial (more.bare (given rfl)) (more.bare initiator))⟩
        | misuse untouched =>
          obtain ⟨w, rfl, first⟩ := forall₂_one rest
          cases first.eq_of_member rfl
          exact ⟨.misuse _, bare (List.forall_mem_singleton.mpr (more.bare untouched))⟩
        | transport => cases noFault
      | reason reason =>
        obtain ⟨w, rfl, first⟩ := forall₂_one rest
        obtain ⟨code, rfl, reason', given⟩ := first.single reason rfl trivial
        exact ⟨.reason (more.get? reason) reason',
          bare (List.forall_mem_singleton.mpr (more.bare (given rfl)))⟩

theorem Like.plain (like : k.Like s k') (n : Nat) :
    k'.plain s (s.renderUpTo (n + 1) []) = k.plain s (s.renderUpTo (n + 1) []) := by
  have description : ∀ {code code' : Ref} {r : Reason}, s.get? code = some (.ofReason r) →
      s.get? code' = some (.ofReason r) →
        s.renderUpTo (n + 1) [] .plain (.object code') =
          s.renderUpTo (n + 1) [] .plain (.object code) := fun found found' =>
    (plain_reason (Reason.ofValue_code _) found' n []).trans
      (plain_reason (Reason.ofValue_code _) found n []).symm
  cases like with
  | reset side _ _ reason reason' => simp only [Kind.plain, description reason reason']
  | goAway data side reason reason' => simp only [Kind.plain, description reason reason']
  | reason found found' => simp only [Kind.plain, description found found']
  | misuse => rfl

theorem Like.inspect {now : Session} (like : k.Like now.store k') (call : Caller)
    (q : Inspection) :
    k'.inspect call q now = k.inspect call q now ∨
      ∃ v w, k.inspect call q now = (.ok v, now) ∧ k'.inspect call q now = (.ok w, now) ∧
        now.store.equal v w = true := by
  cases like with
  | reset side identifier identifier' reason reason' =>
    cases q with
    | reason => exact .inr ⟨_, _, rfl, rfl, Store.equal_of_frozen reason reason' rfl⟩
    | streamId => exact .inr ⟨_, _, rfl, rfl, Store.equal_of_frozen identifier identifier' rfl⟩
    | _ => exact .inl rfl
  | goAway data side reason reason' =>
    cases q with
    | reason => exact .inr ⟨_, _, rfl, rfl, Store.equal_of_frozen reason reason' rfl⟩
    | _ => exact .inl rfl
  | reason | misuse => cases q <;> exact .inl rfl

theorem Like.className (like : k.Like s k') : k'.record.className = k.record.className := by
  cases like <;> rfl

theorem Bare.extends (bare : k.Bare s κ) (more : s.Extends t) : k.Bare t κ :=
  fun v hv => (bare v hv).mono fun _ => more.bare

theorem Bare.attributesOf (bare : k.Bare s κ) (holds : s.kind? κ = some k) :
    s.attributesOf (.object κ) = [] :=
  Store.attributesOf_of_bare (Store.kind?_eq_some_iff.mp holds) rfl (bare _ List.mem_cons_self)

theorem Declared.isData (declared : k.Declared s) (noFault : k.isTransport = false)
    (holds : s.kind? κ = some k) (bare : k.Bare s κ) : s.IsData 3 (.object κ) := by
  have itself := bare _ List.mem_cons_self
  refine .object (Store.kind?_eq_some_iff.mp holds) itself rfl fun v hv => ?_
  have untouched := bare v (List.mem_cons_of_mem _ hv)
  have checked := declared.field noFault v hv
  cases v with
  | object r =>
    cases checked with
    | streamId found | reason found =>
      refine .object found untouched rfl fun v hv => ?_
      cases List.mem_singleton.mp hv
      exact .immediate trivial
    | member h => cases h
  | misuse | initiator => exact .member rfl untouched
  | _ => exact .immediate trivial

end Kind

end Http2Failure
