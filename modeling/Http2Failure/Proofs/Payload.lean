import Http2Failure.Proofs.Hash
import Http2Failure.Proofs.Likeness
import Http2Failure.Proofs.Settled

/-!
# What shows a debug payload

A termination holds bytes, a reason and an initiator. What is derived from it, a failure of the
sending side around it or an error, shows these and nothing else, so all that can be seen of it is a
matter of the three, as long as nothing is given to any of them.
-/

namespace Http2Failure

theorem Object.isSettled_ofReason (r : Reason) : (Object.ofReason r).IsSettled := by
  refine .inr ⟨rfl, fun s => ?_⟩
  simp only [Object.checked, Object.ofReason, Reason.ofValue_code]
  rfl

structure Payload where
  content : List UInt8
  reason : Reason
  side : Initiator
deriving DecidableEq

inductive Role where
  | report
  | failure
  | error
deriving DecidableEq

namespace Payload

variable {p p' : Payload} {s t : Store} {role role' : Role} {v w : Value} {q code : Ref}

def report (p : Payload) (code : Ref) : Report :=
  .goAway (.bytes p.content) (.object code) (.initiator p.side)

structure Typed (p : Payload) (s : Store) (code : Ref) : Prop where
  reason : s.get? code = some (.ofReason p.reason)
  bare : s.Untouched (.object code)
  side : s.Untouched (.initiator p.side)

inductive Holds (p : Payload) (s : Store) : Role → Value → Prop
  | report {q code : Ref} (found : s.get? q = some (.report (p.report code)))
    (bare : s.Untouched (.object q)) (typed : p.Typed s code) : Holds p s .report (.object q)
  | failure {q : Ref} {v : Value} (found : s.get? q = some (.sendFailure (.connection v)))
    (bare : s.Untouched (.object q)) (inner : Holds p s .report v) : Holds p s .failure (.object q)
  | error {e code : Ref} {error : Error} (found : s.get? e = some (.error error))
    (unadorned : error.attributes = [])
    (holds : s.kind? error.kind = some (.ofReport (p.report code)))
    (bare : s.Untouched (.object error.kind)) (typed : p.Typed s code) :
    Holds p s .error (.object e)

theorem Typed.keeps (typed : p.Typed s code) (kept : s.Keeps t) : p.Typed t code where
  reason := kept.settled _ _ typed.reason (Object.isSettled_ofReason _)
  bare := kept.untouched (Store.lt_size_of_get? typed.reason) typed.bare
  side := kept.untouched trivial typed.side

theorem Holds.keeps (holds : p.Holds s role v) (kept : s.Keeps t) : p.Holds t role v := by
  have frozen : ∀ {q : Ref} {o : Object}, s.get? q = some o → o.record?.isSome →
      (∀ s, o.checked s = .ok o) → t.get? q = some o := fun found frozen checked =>
    kept.settled _ _ found (.inr ⟨frozen, checked⟩)
  have still : ∀ {q : Ref} {o : Object}, s.get? q = some o → s.Untouched (.object q) →
      t.Untouched (.object q) := fun found => kept.untouched (Store.lt_size_of_get? found)
  induction holds with
  | report found bare typed =>
    exact .report (frozen found rfl fun _ => rfl) (still found bare) (typed.keeps kept)
  | failure found bare _ ih => exact .failure (frozen found rfl fun _ => rfl) (still found bare) ih
  | @error e code error found unadorned holds bare typed =>
    obtain ⟨error', found', kind, attributes⟩ := kept.error e error found
    have place := Store.kind?_eq_some_iff.mp holds
    have there := frozen place rfl fun _ => rfl
    exact .error found' (attributes.trans unadorned) (kind ▸ Store.kind?_eq_some_iff.mpr there)
      (kind ▸ still place bare) (typed.keeps kept)

def fieldsForm (p : Payload) : String :=
  Rendering.separated ["debug_data=" ++ Text.quotedBytes p.content,
    "reason=" ++ ("Reason(" ++ p.reason.name ++ ")"),
    "initiator=" ++ Rendering.member "Initiator" p.side.name (Text.quoted p.side.text)]

/-- The text of an error, which shows a payload that is not empty as a list of numbers. -/
def errorText (p : Payload) : String :=
  let text := "go away from " ++ p.side.text ++ ": " ++ p.reason.description
  if p.content.isEmpty then text
  else text ++ " (" ++ Rendering.listForm (p.content.map fun b => Text.integer b.toNat) ++ ")"

def text (p : Payload) : Role → Form → String
  | .report, _ => "GoAway(" ++ p.fieldsForm ++ ")"
  | .failure, _ =>
    "SendConnectionError(" ++
      Rendering.separated ["error=" ++ ("GoAway(" ++ p.fieldsForm ++ ")")] ++ ")"
  | .error, .plain => p.errorText
  | .error, .quoted => "Error(" ++ ("_GoAway(" ++ p.fieldsForm ++ ")") ++ ")"

section

variable (reason : s.get? code = some (.ofReason p.reason)) (side : s.Untouched (.initiator p.side))
  (n : Nat) (pending : Pending)
include reason side

theorem quoted_record (className : String) :
    Record.quoted (s.renderUpTo (n + 2) pending) ⟨className, (p.report code).record.fields⟩ =
      .ok (className ++ "(" ++ p.fieldsForm ++ ")") := by
  have description := quoted_reason (Reason.ofValue_code p.reason) reason (n + 1) pending
  have side := Store.quoted_of_untouched rfl side n pending
  simp only [Record.quoted, report, Report.record, List.mapM_cons, List.mapM_nil, description, side]
  rfl

theorem quoted_report (found : s.get? q = some (.report (p.report code))) (apart : q ∉ pending)
    (form : Form) :
    s.renderUpTo (n + 3) pending form (.object q) = .ok (p.text .report form) := by
  have shown := quoted_record reason side n (q :: pending) "GoAway"
  cases form <;>
    simp only [Store.renderUpTo, found, Object.render, Rendering.enclosed, apart, if_false] <;>
    exact shown

theorem quoted_kind (holds : s.kind? q = some (.ofReport (p.report code))) (apart : q ∉ pending) :
    s.renderUpTo (n + 3) pending .quoted (.object q) =
      .ok ("_GoAway(" ++ p.fieldsForm ++ ")") := by
  have shown := quoted_record reason side n (q :: pending) "_GoAway"
  simp only [Store.renderUpTo, Store.kind?_eq_some_iff.mp holds, Object.render, Rendering.enclosed,
    apart, if_false]
  exact shown

theorem plain_kind :
    (Kind.ofReport (p.report code)).plain s (s.renderUpTo (n + 1) pending) = .ok p.errorText := by
  have description := plain_reason (Reason.ofValue_code p.reason) reason n pending
  have side := Store.plain_of_untouched rfl side n pending
  have items : (p.content.map fun b : UInt8 => Value.int b.toNat).mapM
      (s.renderUpTo (n + 1) pending .quoted) =
        .ok (p.content.map fun b => Text.integer b.toNat) := by
    generalize p.content = content
    induction content with
    | nil => rfl
    | cons b rest ih =>
      rw [List.map_cons, List.mapM_cons, ih]
      rfl
  have truthy : s.truthy (.bytes p.content) = .ok !p.content.isEmpty := rfl
  have elements : s.elements (.bytes p.content) =
      .ok (p.content.map fun b : UInt8 => .int b.toNat) := rfl
  simp only [report, Kind.ofReport, Kind.plain, description, side, truthy, elements, errorText,
    bind, Except.bind, items]
  cases p.content.isEmpty <;> rfl

end

theorem Holds.render (holds : p.Holds s role v) (form : Form) :
    s.render form v = .ok (p.text role form) := by
  cases holds with
  | report found _ typed =>
    exact quoted_report typed.reason typed.side (Store.depth - 3) [] found List.not_mem_nil form
  | @failure q v found _ inner =>
    cases inner with
    | @report q' code found' _ typed =>
      have apart : q' ∉ [q] := by
        rw [List.mem_singleton]
        rintro rfl
        cases found.symm.trans found'
      have shown := quoted_report typed.reason typed.side (Store.depth - 4) [q] found' apart .quoted
      have there : s.renderUpTo (Store.depth - 1) [q] .quoted (.object q') = _ := shown
      rw [Store.render_object found]
      simp only [Object.render, Rendering.enclosed, List.not_mem_nil, if_false, Record.quoted,
        SendFailure.record, List.mapM_cons, List.mapM_nil, there]
      rfl
  | @error e code error found _ holds _ typed =>
    rw [Store.render_object found]
    cases form with
    | plain =>
      simp only [Object.render, holds]
      exact plain_kind typed.reason typed.side (Store.depth - 2) []
    | quoted =>
      have shown := quoted_kind typed.reason typed.side (Store.depth - 4) [] holds
        List.not_mem_nil
      have there : s.renderUpTo (Store.depth - 1) [] .quoted (.object error.kind) = _ := shown
      simp only [Object.render, there]
      rfl

def fieldsHash (h : Hashing) (p : Payload) : Int :=
  h.parts [h.single (.bytes p.content), h.parts [h.single (.int p.reason.code)],
    h.single (.text p.side.name)]

/-- The hash of what shows the payload, which is that of an error by the identity of the error. -/
def hash (h : Hashing) (p : Payload) : Role → Value → Int
  | .report, _ => p.fieldsHash h
  | .failure, _ => h.parts [p.fieldsHash h]
  | .error, v => h.single v

theorem hashUpTo_report (h : Hashing) (found : s.get? q = some (.report (p.report code)))
    (typed : p.Typed s code) (n : Nat) :
    s.hashUpTo h (n + 3) (.object q) = .ok (p.fieldsHash h) := by
  have there : s.hashUpTo h (n + 2) (.object code) =
      .ok (h.parts [h.single (.int p.reason.code)]) := Store.hashUpTo_frozen typed.reason rfl
  have data : s.hashUpTo h (n + 2) (.bytes p.content) = .ok (h.single (.bytes p.content)) := rfl
  have side : s.hashUpTo h (n + 2) (.initiator p.side) = .ok (h.single (.text p.side.name)) := by
    obtain ⟨-, name⟩ := Store.heldByMember_of_untouched rfl typed.side
    simp only [Store.hashUpTo, name, bind, Except.bind]
  rw [Store.hashUpTo_frozen found rfl]
  simp only [report, Report.record, List.map_cons, List.map_nil, List.mapM_cons, List.mapM_nil,
    data, there, side]
  rfl

theorem Holds.hash (holds : p.Holds s role v) (h : Hashing) :
    s.hash h v = .ok (p.hash h role v) := by
  cases holds with
  | report found _ typed => exact hashUpTo_report h found typed (Store.depth - 3)
  | @failure q v found _ inner =>
    cases inner with
    | @report q' code found' _ typed =>
      have shown := hashUpTo_report h found' typed (Store.depth - 4)
      have there : s.hashUpTo h (Store.depth - 1) (.object q') = .ok (p.fieldsHash h) := shown
      have fields := Store.hashUpTo_frozen (h := h) (n := Store.depth - 1) found rfl
      refine fields.trans ?_
      simp only [SendFailure.record, List.map_cons, List.map_nil, List.mapM_cons, List.mapM_nil,
        there]
      rfl
  | error found =>
    rw [Store.hash, Store.depth, Store.hashUpTo]
    simp only [found, Object.record?, Payload.hash]

theorem Holds.hashable (holds : p.Holds s role v) : s.hashable v = .ok () := by
  let h : Hashing := ⟨fun _ => 0, fun _ => 0, fun _ _ => 0, fun _ => 0⟩
  rw [← Store.map_hash h, holds.hash h]
  rfl

end Payload

end Http2Failure
