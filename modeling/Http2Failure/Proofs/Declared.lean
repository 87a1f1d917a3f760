import Http2Failure.Proofs.Paths

/-!
# Kinds with fields of the declared types

Such a kind holds checked protocol values, members of enumerations and bytes, or else a fault. One
without a fault leads to itself and to checked values alone, and both of its forms can be made.
-/

namespace Http2Failure

namespace Kind

variable {s t : Store} {κ : Ref} {k : Kind}

inductive Declared (s : Store) : Kind → Prop
  | ofFailure {k : Kind} (typed : k.WellTyped s) : Declared s k
  | reason {code : Ref} {r : Reason} (found : s.get? code = some (.ofReason r)) :
    Declared s (.reason (.object code))

theorem Declared.extends (declared : k.Declared s) (more : s.Extends t) : k.Declared t := by
  cases declared with
  | ofFailure typed => exact .ofFailure (typed.extends more)
  | reason found => exact .reason (more.get? found)

theorem Declared.transport (declared : k.Declared s) (h : k.isTransport = true) :
    ∃ f fault, k = .transport (.object f) ∧ s.get? f = some (.fault fault) := by
  cases declared with
  | ofFailure typed =>
    cases typed with
    | transport found => exact ⟨_, _, rfl, found⟩
    | _ => cases h
  | reason => cases h

/-- What a kind of the declared types leads to: checked protocol values, and members of enumerations
as they were from the start. -/
inductive Checked (s : Store) : Value → Prop
  | streamId {r : Ref} {i : StreamId} (found : s.get? r = some (.ofStreamId i)) :
    Checked s (.object r)
  | reason {r : Ref} {reason : Reason} (found : s.get? r = some (.ofReason reason)) :
    Checked s (.object r)
  | member {v : Value} (member : v.isMember = true) (untouched : s.Untouched v) : Checked s v

theorem Declared.field (declared : k.Declared s) (noFault : k.isTransport = false) :
    ∀ v ∈ k.record.fields.map Prod.snd, v.Inside (Checked s) := by
  cases declared with
  | ofFailure typed =>
    cases typed with
    | reset identifier reason initiator =>
      simp only [record, List.map_cons, List.map_nil, List.forall_mem_cons]
      exact ⟨.streamId identifier, .reason reason, .member rfl initiator, List.forall_mem_nil _⟩
    | goAway data reason initiator =>
      simp only [record, List.map_cons, List.map_nil, List.forall_mem_cons]
      exact ⟨trivial, .reason reason, .member rfl initiator, List.forall_mem_nil _⟩
    | misuse untouched =>
      intro v hv
      cases List.mem_singleton.mp hv
      exact Checked.member rfl untouched
    | transport found => cases noFault
  | reason found =>
    intro v hv
    cases List.mem_singleton.mp hv
    exact Checked.reason found

theorem closedOn_checked (s : Store) : s.ClosedOn (Checked s) where
  shown r o checked found v hv := by
    cases checked with
    | streamId found' | reason found' =>
      cases found'.symm.trans found
      cases List.mem_singleton.mp hv
      trivial
    | member member => cases member
  members v checked member w hw := by
    cases checked with
    | streamId | reason => cases member
    | member _ untouched =>
      rw [Store.attributesOf_of_untouched member untouched] at hw
      cases v with
      | misuse | initiator =>
        simp only [Value.ownAttributes, Value.ofMember, List.map_cons, List.map_nil, List.mem_cons,
          List.not_mem_nil, or_false] at hw
        rcases hw with rfl | rfl | rfl <;> trivial
      | _ => cases member

theorem Declared.leads (declared : k.Declared s) (noFault : k.isTransport = false)
    (holds : s.kind? κ = some k) {v : Value} (path : s.Leads (.object κ) v) :
    v.Inside fun v => v = .object κ ∨ Checked s v := by
  have place := Store.kind?_eq_some_iff.mp holds
  have closed : s.ClosedOn fun v => v = .object κ ∨ Checked s v := by
    constructor
    · rintro r o (same | checked) found v hv
      · cases same
        cases place.symm.trans found
        exact (declared.field noFault v hv).mono fun _ => .inr
      · exact ((closedOn_checked s).shown r o checked found v hv).mono fun _ => .inr
    · rintro v (rfl | checked) member w hw
      · cases member
      · exact ((closedOn_checked s).members v checked member w hw).mono fun _ => .inr
  exact path.inside closed (v := .object κ) (.inl rfl)

theorem quoted_of_fields {e : Ref} {error : Error} (found : s.get? e = some (.error error))
    (holds : s.kind? error.kind = some k)
    (fields : ∀ v ∈ k.record.fields.map Prod.snd,
      ∃ text, s.renderUpTo (Store.depth - 2) [error.kind] .quoted v = .ok text) :
    ∃ text, s.quoted (.object e) = .ok text := by
  obtain ⟨text, shown⟩ := Record.quoted_ok fields
  have written : s.renderUpTo (Store.depth - 1) [] .quoted (.object error.kind) = .ok text := by
    change s.renderUpTo (Store.depth - 2 + 1) [] .quoted (.object error.kind) = _
    simp only [Store.renderUpTo, Store.kind?_eq_some_iff.mp holds, Object.render,
      Rendering.enclosed, List.not_mem_nil, if_false]
    exact shown
  refine ⟨"Error(" ++ text ++ ")", ?_⟩
  rw [Store.quoted, Store.render_object found]
  simp only [Object.render, written]
  rfl

section

variable (declared : k.Declared s) (noFault : k.isTransport = false)
include declared noFault

theorem Declared.plain_ok (n : Nat) : ∃ text, k.plain s (s.renderUpTo (n + 1) []) = .ok text := by
  cases declared with
  | ofFailure typed => exact typed.plain_ok (fun f same => by rw [same] at noFault; cases noFault) n
  | reason found =>
    simp only [plain, plain_reason (Reason.ofValue_code _) found n []]
    exact ⟨_, rfl⟩

theorem Declared.field_ok (n : Nat) (p : Pending) :
    ∀ v ∈ k.record.fields.map Prod.snd, ∃ text, s.renderUpTo (n + 2) p .quoted v = .ok text := by
  cases declared with
  | ofFailure typed =>
    exact typed.field_ok n p fun f same => by rw [same] at noFault; cases noFault
  | reason found =>
    intro v hv
    cases List.mem_singleton.mp hv
    exact ⟨_, quoted_reason (Reason.ofValue_code _) found (n + 1) p⟩

theorem Declared.render_ok {e : Ref} {error : Error} (found : s.get? e = some (.error error))
    (holds : s.kind? error.kind = some k) (form : Form) :
    ∃ text, s.render form (.object e) = .ok text := by
  cases form with
  | plain =>
    rw [Store.render_object found]
    simp only [Object.render, holds]
    exact declared.plain_ok noFault (Store.depth - 2)
  | quoted => exact quoted_of_fields found holds (declared.field_ok noFault _ _)

end

end Kind

end Http2Failure
