import Http2Failure.Proofs.Rebuilt
import Http2Failure.Recovery

/-!
# Errors that hold a kind

What an error shows is a matter of the kind that it holds, and so is what it answers, as long as
none of its attributes stands in the place of a method. Two errors that hold one kind object can
therefore not be told apart by what they show and answer, also after the kind has come to lead to
other things.
-/

namespace Http2Failure

namespace Store

theorem render_error_congr {s t : Store} {e e' : Ref} {error error' : Error}
    (found : s.get? e = some (.error error)) (found' : t.get? e' = some (.error error'))
    (same : error'.kind = error.kind) (agree : AgreesOn (s.Leads (.object error.kind)) s t)
    (form : Form) : t.render form (.object e') = s.render form (.object e) := by
  have closed := s.closedOn_leads (.object error.kind)
  have here : s.Leads (.object error.kind) (.object error.kind) := .here _
  have alike := agree.renderUpTo closed (depth - 1)
  have write : ∀ form v, v.Inside (s.Leads (.object error.kind)) →
      t.renderUpTo (depth - 1) [] form v = s.renderUpTo (depth - 1) [] form v :=
    fun form v inside => alike [] [] form v inside fun _ _ => Iff.rfl
  rw [render_object found, render_object found']
  cases form with
  | plain =>
    simp only [Object.render, same, agree.kind? here]
    cases holds : s.kind? error.kind with
    | none => rfl
    | some k =>
      have place : s.get? error.kind = some (.kind k) := kind?_eq_some_iff.mp holds
      exact Kind.plain_congr agree closed write (closed.shown error.kind _ here place)
  | quoted => simp only [Object.render, same, write .quoted (.object error.kind) here]

end Store

namespace Error

def questions : List String := "into_io" :: Inspection.all.map Inspection.method

theorem method_mem_questions (q : Inspection) : q.method ∈ questions := by
  cases q <;> decide

/-- At `e` lies an error that holds `k`, and no attribute of it hides what it is asked by. -/
def Open (s : Store) (e : Ref) (k : Kind) : Prop :=
  ∃ error : Error, s.get? e = some (.error error) ∧ s.kind? error.kind = some k ∧
    ∀ name ∈ questions, error.attributes.get? name = none

theorem hiding?_eq {s : Store} {e : Ref} {error : Error} (found : s.get? e = some (.error error))
    (name : String) : s.hiding? (.object e) name = error.attributes.get? name := by
  simp only [Store.hiding?, Store.attributesOf, Store.object?, found, Option.bind_some,
    Object.carried?]

theorem method?_inspection (call : Caller) (e : Ref) (error : Error) (q : Inspection) :
    Action.method? call (.object e) (some (.error error)) q.method =
      some (Action.noArguments "Error" q.method do
        match ← Action.ask fun s => s.kind? error.kind with
        | some k => k.inspect call q
        | none => throw .dangling) := by
  have known : Inspection.ofMethod? q.method = some q := by cases q <;> decide
  rw [Action.method?, Action.ownMethod?, Action.errorMethod?]
  simp only [known]
  rfl

theorem truthy_bool (s : Store) (b : Bool) : s.truthy (.bool b) = .ok b := by
  cases b <;> rfl

variable {now : Session} {e : Ref} {k : Kind}

theorem inspect_of_kind {error : Error} (found : now.store.get? e = some (.error error))
    (holds : now.store.kind? error.kind = some k) {q : Inspection}
    (visible : error.attributes.get? q.method = none) :
    Action.inspect (.object e) q now = k.inspect (Action.callUpTo (Store.depth - 1)) q now := by
  have visible := (hiding?_eq found q.method).trans visible
  have there : now.store.object? (.object e) = some (.error error) := found
  have own (call : Caller) := method?_inspection call e error q
  rw [Action.inspect, Action.call_of_method there own visible]
  simp only [Action.noArguments, List.isEmpty_nil, if_true, Action.bind_apply, Action.ask_apply,
    holds]

theorem inspect_of_open (h : Open now.store e k) (q : Inspection) :
    Action.inspect (.object e) q now = k.inspect (Action.callUpTo (Store.depth - 1)) q now := by
  obtain ⟨error, found, holds, visible⟩ := h
  exact inspect_of_kind found holds (visible _ (method_mem_questions q))

theorem intoFault_of_open (h : Open now.store e k) :
    Action.call (.object e) "into_io" [] now = k.intoFault now := by
  obtain ⟨error, found, holds, visible⟩ := h
  have visible := (hiding?_eq found "into_io").trans (visible _ List.mem_cons_self)
  rw [call_into_io found visible, intoFault_apply found holds]

theorem affirms_of_open (h : Open now.store e k) (q : Inspection) :
    Recovery.affirms (.object e) q now =
      (do
        let answer ← k.inspect (Action.callUpTo (Store.depth - 1)) q
        .read fun s => s.truthy answer) now := by
  simp only [Recovery.affirms, Action.bind_apply, inspect_of_open h]

theorem classify_of_open (h : Open now.store e k) :
    Recovery.classify (.object e) now =
      if k.isTransport then (.ok .reconnect, now)
      else if k.isMisuse then (.ok .failFast, now)
      else if now.store.equal (k.reason?.getD .null) Recovery.refusedStream then (.ok .retry, now)
      else (do
        let side ← k.askSide (Action.callUpTo (Store.depth - 1)) .peer
        if ← .read fun s => s.truthy side then return .logPeerFault
        return .logAndCrash : Action Recovery) now := by
  have transport : Recovery.affirms (.object e) .isTransport now = (.ok k.isTransport, now) := by
    rw [affirms_of_open h]
    simp only [Kind.inspect, Action.bind_apply, Action.pure_apply, Action.read_apply, truthy_bool]
  have misuse : Recovery.affirms (.object e) .isMisuse now = (.ok k.isMisuse, now) := by
    rw [affirms_of_open h]
    simp only [Kind.inspect, Action.bind_apply, Action.pure_apply, Action.read_apply, truthy_bool]
  have reason : Action.inspect (.object e) .reason now = (.ok (k.reason?.getD .null), now) :=
    inspect_of_open h .reason
  simp only [Recovery.classify, Action.bind_apply, Action.ite_apply, transport, misuse, reason,
    Action.ask_apply, affirms_of_open h, Action.pure_apply, Kind.inspect]
  rcases k.askSide (Action.callUpTo (Store.depth - 1)) .peer now with ⟨r | side, session⟩ <;> rfl

end Error

end Http2Failure
