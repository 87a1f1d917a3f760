import Http2Failure.Proofs.Cloning
import Http2Failure.Proofs.Declared
import Http2Failure.Proofs.Depth
import Mathlib.Data.List.Induction

/-!
# Errors that share a kind

However often an error is copied, copied with its parts or converted, what comes out holds the kind
object of the first one. A conversion gives the error itself, and a clone is a new error of the base
class with nothing but its text. A fault is therefore shared by the whole family, and all of its
members show the fault as it is.
-/

namespace Http2Failure

inductive Link where
  | copy
  | deepCopy
  | convert (cls : Error.Class)
deriving DecidableEq

namespace Link

def clones : Link → Bool
  | .convert _ => false
  | _ => true

def perform (v : Value) : Link → Action Value
  | .copy => .clone .shallow v
  | .deepCopy => .clone .deep v
  | .convert cls => Error.convert cls v

def chain (links : List Link) (v : Value) : Action Value := links.foldlM perform v

theorem chain_snoc (links : List Link) (link : Link) (v : Value) (session : Session) :
    chain (links ++ [link]) v session =
      match chain links v session with
      | (.ok w, session) => link.perform w session
      | (.error r, session) => (.error r, session) := by
  simp only [chain, List.foldlM_append, List.foldlM_cons, List.foldlM_nil, bind_pure,
    Action.bind_apply]
  rcases links.foldlM perform v session with ⟨r | w, session'⟩ <;> rfl

end Link

namespace Error

/-- No attribute of the error at `e` stands in the place of a method. -/
def Visible (e : Ref) (error : Error) : Prop :=
  ∀ name, (Action.method? Action.call (.object e) (some (.error error)) name).isSome →
    error.attributes.get? name = none

/-- A clone holds a kind and, as its only argument, the text that it had when it was made. -/
def cloned (kind : Ref) (text : String) : Error := { cls := .base, kind, args := [.text text] }

theorem visible_cloned (c kind : Ref) (text : String) : (cloned kind text).Visible c :=
  fun _ _ => rfl

variable {s t : Store} {now : Session} {c e κ : Ref} {error error' : Error} {k : Kind}

theorem Visible.open (visible : error.Visible e) (found : s.get? e = some (.error error))
    (holds : s.kind? error.kind = some k) : Open s e k := by
  refine ⟨error, found, holds, fun name hn => visible name ?_⟩
  rcases List.mem_cons.mp hn with rfl | hn
  · rfl
  · obtain ⟨q, -, rfl⟩ := List.mem_map.mp hn
    rw [method?_inspection]
    rfl

theorem textOf_of_kind (holds : s.kind? κ = some k) :
    textOf s (.object κ) = k.plain s s.render := by
  simp only [textOf, Store.object?, Store.kind?_eq_some_iff.mp holds]

theorem textOf_extends (closed : s.Closed) (more : s.Extends t) (holds : s.kind? κ = some k) :
    textOf t (.object κ) = textOf s (.object κ) := by
  have place := Store.kind?_eq_some_iff.mp holds
  have holds' := more.kind? holds
  rw [textOf_of_kind holds, textOf_of_kind holds']
  refine Kind.plain_congr more.toAgreesOn closed.closedOn (fun form v inside => ?_)
    (closed.parts κ _ place)
  exact more.render closed.closedOn form inside

theorem textOf_ok_iff (holds : s.kind? κ = some k) (declared : k.Declared s) :
    (∃ text, textOf s (.object κ) = .ok text) ↔
      ∀ f, k = .transport (.object f) → ∃ text, s.plain (.object f) = .ok text := by
  rw [textOf_of_kind holds]
  constructor
  · rintro shown f rfl
    exact shown
  · intro fault
    cases k with
    | transport v =>
      cases declared with
      | ofFailure typed =>
        cases typed with
        | transport found => exact fault _ rfl
    | _ => exact declared.plain_ok rfl (Store.depth - 1)

end Error

namespace Link

variable {start now : Session} {e : Ref} {error : Error} {k : Kind}

theorem perform_apply (found : now.store.get? e = some (.error error)) (visible : error.Visible e)
    (link : Link) :
    link.perform (.object e) now =
      if link.clones then Error.around .base error.kind now else (.ok (.object e), now) := by
  cases link with
  | copy => exact Error.clone_shallow_apply found
  | deepCopy => exact Error.clone_deep_apply found (visible _ rfl)
  | convert cls =>
    simp only [perform, Error.convert, Action.bind_apply, Action.ask_apply, Store.object?, found]
    rfl

section

variable (found : start.store.get? e = some (.error error)) (visible : error.Visible e)
include found visible

theorem chain_of_refused {r : Refusal}
    (refused : Error.textOf start.store (.object error.kind) = .error r) (links : List Link) :
    chain links (.object e) start =
      if links.any clones then (.error r, start) else (.ok (.object e), start) := by
  induction links using List.reverseRecOn with
  | nil => rfl
  | append_singleton links link ih =>
    rw [chain_snoc, ih, List.any_append, List.any_cons, List.any_nil, Bool.or_false]
    cases links.any clones with
    | true => rfl
    | false =>
      simp only [Bool.false_or, Bool.false_eq_true, if_false, perform_apply found visible,
        Error.around_apply, refused]

/-- Where it can be made, the chain ends with the error itself or with a new clone of it. -/
theorem chain_of_text (closed : start.store.Closed)
    (holds : start.store.kind? error.kind = some k) {text : String}
    (shown : Error.textOf start.store (.object error.kind) = .ok text) (links : List Link) :
    ∃ (c : Ref) (after : Session), chain links (.object e) start = (.ok (.object c), after) ∧
      start.store.Extends after.store ∧ after.log = start.log ∧
      (links.any clones = false → c = e ∧ after = start) ∧
      (links.any clones = true → start.store.size ≤ c ∧
        after.store.get? c = some (.error (Error.cloned error.kind text))) := by
  induction links using List.reverseRecOn with
  | nil => exact ⟨e, start, rfl, .refl _, rfl, fun _ => ⟨rfl, rfl⟩, nofun⟩
  | append_singleton links link ih =>
    obtain ⟨c, mid, run, more, log, unchanged, new⟩ := ih
    obtain ⟨member, found', visible', kind⟩ : ∃ member : Error,
        mid.store.get? c = some (.error member) ∧ member.Visible c ∧ member.kind = error.kind := by
      cases cloned : links.any clones with
      | true => exact ⟨_, (new cloned).2, Error.visible_cloned c _ text, rfl⟩
      | false =>
        obtain ⟨rfl, rfl⟩ := unchanged cloned
        exact ⟨error, found, visible, rfl⟩
    have shown' := (Error.textOf_extends closed more holds).trans shown
    rw [chain_snoc, run, List.any_append, List.any_cons, List.any_nil, Bool.or_false]
    simp only [perform_apply found' visible', kind, Error.around_apply, shown']
    cases link.clones with
    | true =>
      refine ⟨mid.store.size, _, rfl, more.trans (Store.extends_push _ _), log, ?_, fun _ => ?_⟩
      · rw [Bool.or_true]
        exact nofun
      · exact ⟨more.size_le, Store.get?_push_size _ _⟩
    | false =>
      rw [Bool.or_false]
      exact ⟨c, mid, rfl, more, log, unchanged, new⟩

theorem chain_cases (closed : start.store.Closed) (holds : start.store.kind? error.kind = some k)
    {links : List Link} {v : Value} {after : Session}
    (run : chain links (.object e) start = (.ok v, after)) :
    start.store.Extends after.store ∧ after.log = start.log ∧
      ∃ (c : Ref) (later : Error), v = .object c ∧ after.store.get? c = some (.error later) ∧
        later.kind = error.kind ∧ later.Visible c ∧ (links.any clones = false → c = e) ∧
        (links.any clones = true → start.store.size ≤ c ∧ ∃ text,
          Error.textOf start.store (.object error.kind) = .ok text ∧
          later = Error.cloned error.kind text) := by
  cases shown : Error.textOf start.store (.object error.kind) with
  | error r =>
    rw [chain_of_refused found visible shown] at run
    cases cloned : links.any clones with
    | true =>
      rw [cloned] at run
      cases run
    | false =>
      rw [cloned] at run
      cases run
      exact ⟨.refl _, rfl, e, error, rfl, found, rfl, visible, fun _ => rfl, nofun⟩
  | ok text =>
    obtain ⟨c, after', run', more, log, unchanged, new⟩ :=
      chain_of_text found visible closed holds shown links
    cases run.symm.trans run'
    refine ⟨more, log, c, ?_⟩
    cases cloned : links.any clones with
    | true =>
      obtain ⟨newer, found'⟩ := new cloned
      exact ⟨_, rfl, found', rfl, Error.visible_cloned c _ text, nofun,
        fun _ => ⟨newer, text, rfl, rfl⟩⟩
    | false =>
      obtain ⟨rfl, rfl⟩ := unchanged cloned
      exact ⟨error, rfl, found, rfl, visible, fun _ => rfl, nofun⟩

end

end Link

namespace Error

/-- Nothing tells the errors at `c` and `e` apart, and a fault in their kind is what both of them
give out and show. -/
structure Agree (now : Session) (k : Kind) (c e : Ref) : Prop where
  render (form : Form) : now.store.render form (.object c) = now.store.render form (.object e)
  inspect (q : Inspection) : Action.inspect (.object c) q now = Action.inspect (.object e) q now
  intoFault : Action.call (.object c) "into_io" [] now = Action.call (.object e) "into_io" [] now
  classify : Recovery.classify (.object c) now = Recovery.classify (.object e) now
  fault (f : Ref) (holds : k = .transport (.object f)) :
    Action.inspect (.object c) .fault now = (.ok (.object f), now) ∧
      Lasts (now.store.plain (.object c)) (now.store.plain (.object f))

variable {now : Session} {c e : Ref} {error later : Error} {k : Kind}

theorem agree_of_shared (found : now.store.get? e = some (.error error))
    (found' : now.store.get? c = some (.error later)) (visible : error.Visible e)
    (visible' : later.Visible c) (same : later.kind = error.kind)
    (holds : now.store.kind? error.kind = some k) : Agree now k c e where
  render form := Store.render_error_congr found found' same (.refl _ _) form
  inspect q := by
    rw [inspect_of_open (visible.open found holds),
      inspect_of_open (visible'.open found' (same ▸ holds))]
  intoFault := by
    rw [intoFault_of_open (visible.open found holds),
      intoFault_of_open (visible'.open found' (same ▸ holds))]
  classify := by
    rw [classify_of_open (visible.open found holds),
      classify_of_open (visible'.open found' (same ▸ holds))]
  fault f transport := by
    subst transport
    have holds' : now.store.kind? later.kind = some (.transport (.object f)) := same ▸ holds
    rw [inspect_of_open (visible'.open found' holds')]
    exact ⟨rfl, Store.lasts_plain_error found' holds'⟩

theorem sameObjects_run {f : Ref} {fault : Fault} (there : now.store.get? f = some (.fault fault))
    (found : now.store.get? e = some (.error error))
    (found' : now.store.get? c = some (.error later))
    (holds : now.store.kind? error.kind = some k) (cs : List Change) :
    Store.SameObjects (· ∈ [error.kind, c, e]) now.store (Change.run f cs now).store := by
  have kept : ∀ {r o}, now.store.get? r = some o → (∀ fault, o ≠ .fault fault) →
      (∀ items, o ≠ .list items) →
        (Change.run f cs now).store.get? r = now.store.get? r := by
    intro r o here noFault noList
    have apart : r ≠ f := fun same => by
      rw [same, there] at here
      exact noFault fault (Option.some.inj here).symm
    exact (Change.get?_run there apart here noList cs).trans here.symm
  intro r hr
  simp only [List.mem_cons, List.not_mem_nil, or_false] at hr
  rcases hr with rfl | rfl | rfl
  · exact kept (Store.kind?_eq_some_iff.mp holds) (by simp) (by simp)
  · exact kept found' (by simp) (by simp)
  · exact kept found (by simp) (by simp)

end Error

/-- Clones share the kind of the first error. A chain of copies, deep copies and conversions is only
refused where a clone has to show a fault that cannot be shown. Its last error holds the very kind
object of the first one and is a new bare one if anything was cloned; and as long as both of them
and their kind stay, which no change of a fault in it prevents, nothing tells them apart, and both
show what the fault shows. -/
theorem clones_share_kind {start : Session} (closed : start.store.Closed) {e : Ref}
    {error : Error} {k : Kind} (found : start.store.get? e = some (.error error))
    (holds : start.store.kind? error.kind = some k) (declared : k.Declared start.store)
    (visible : error.Visible e) (links : List Link) :
    ((∃ v after, Link.chain links (.object e) start = (.ok v, after)) ↔
      ∀ f, k = .transport (.object f) → links.any Link.clones = true →
        ∃ text, start.store.plain (.object f) = .ok text) ∧
    ∀ v after, Link.chain links (.object e) start = (.ok v, after) →
      start.store.Extends after.store ∧ after.log = start.log ∧
      ∃ (c : Ref) (later : Error), v = .object c ∧
        after.store.get? c = some (.error later) ∧ later.kind = error.kind ∧
        (links.any Link.clones = false → c = e) ∧
        (links.any Link.clones = true → start.store.size ≤ c ∧ ∃ text,
          Error.textOf start.store (.object error.kind) = .ok text ∧
          later = Error.cloned error.kind text) ∧
        (∀ link : Link, link.clones = true → ∀ w last, link.perform v after = (.ok w, last) →
          w = .object after.store.size) ∧
        (∀ now : Session,
          Store.SameObjects (· ∈ [error.kind, c, e]) after.store now.store →
            Error.Agree now k c e) ∧
        ∀ f, k = .transport (.object f) → ∀ cs : List Change,
          Store.SameObjects (· ∈ [error.kind, c, e]) after.store (Change.run f cs after).store := by
  have made := Error.textOf_ok_iff holds declared
  constructor
  · cases shown : Error.textOf start.store (.object error.kind) with
    | error r =>
      rw [Link.chain_of_refused found visible shown]
      rw [shown] at made
      cases cloned : links.any Link.clones with
      | false => exact ⟨fun _ _ _ => nofun, fun _ => ⟨_, _, rfl⟩⟩
      | true =>
        constructor
        · rintro ⟨v, after, run⟩
          cases run
        · intro fault
          obtain ⟨text, shown⟩ := made.mpr fun f transport => fault f transport rfl
          cases shown
    | ok text =>
      obtain ⟨c, after, run, -⟩ := Link.chain_of_text found visible closed holds shown links
      exact ⟨fun _ f transport _ => made.mp ⟨text, shown⟩ f transport, fun _ => ⟨_, after, run⟩⟩
  · intro v after run
    obtain ⟨more, log, c, later, rfl, found', same, visible', unchanged, new⟩ :=
      Link.chain_cases found visible closed holds run
    have there := more.get? found
    have holds' : after.store.kind? error.kind = some k := more.kind? holds
    refine ⟨more, log, c, later, rfl, found', same, unchanged, new, ?_, ?_, ?_⟩
    · intro link clones w last step
      rw [Link.perform_apply found' visible', if_pos clones, Error.around_apply] at step
      cases shown : Error.textOf after.store (.object later.kind) with
      | error r => simp only [shown] at step; cases step
      | ok text => simp only [shown] at step; cases step; rfl
    · intro now kept
      have mem : ∀ {r}, r ∈ [error.kind, c, e] → now.store.get? r = after.store.get? r := kept _
      refine Error.agree_of_shared ((mem (by simp)).trans there) ((mem (by simp)).trans found')
        visible visible' same ?_
      exact Store.kind?_eq_some_iff.mpr ((mem (by simp)).trans (Store.kind?_eq_some_iff.mp holds'))
    · rintro f rfl cs
      cases declared with
      | ofFailure typed =>
        cases typed with
        | transport fault => exact Error.sameObjects_run (more.get? fault) there found' holds' cs

/-- A missing file within an error of an application, which is copied, converted and copied
deeply. -/
theorem clones_share_kind_fileNotFound :
    let fault : Fault :=
      { cls := .fileNotFound, args := [.int 2, .text "gone"], errorNumber := some (.int 2),
        errorText := some (.text "gone") }
    let error : Error :=
      { cls := .application, kind := 17, args := [.text "[Errno 2] gone"],
        attributes := [("extra", .int 1)], cause := some 16, suppressContext := true }
    let start : Session :=
      ⟨((Store.initial.push (.fault fault)).push (.kind (.transport (.object 16)))).push
        (.error error), []⟩
    let renamed : List Change := [.set "strerror" (.text "found"), .delete "errno"]
    ∃ (c : Ref) (after : Session),
      Link.chain [.copy, .convert .base, .deepCopy] (.object 18) start =
        (.ok (.object c), after) ∧ start.store.size ≤ c ∧
      Error.Agree (Change.run 16 renamed after) (.transport (.object 16)) c 18 := by
  intro fault error start renamed
  have there : start.store.get? 16 = some (.fault fault) := by decide
  have found : start.store.get? 18 = some (.error error) := by decide
  have holds : start.store.kind? error.kind = some (.transport (.object 16)) := by decide
  have declared : (Kind.transport (.object 16)).Declared start.store :=
    .ofFailure (.transport there)
  have visible : error.Visible 18 := by
    intro name method
    by_cases extra : name = "extra"
    · subst extra
      cases method
    · exact (Attributes.get?_cons _ [] name).trans (if_neg extra)
  have text : start.store.plain (.object 16) = .ok ("[Errno " ++ Text.integer 2 ++ "] gone") := by
    rw [Store.plain, Store.render_object there]
    rfl
  obtain ⟨returns, outcome⟩ := clones_share_kind (by decide) found holds declared visible
    [.copy, .convert .base, .deepCopy]
  obtain ⟨v, after, run⟩ := returns.mpr fun f same _ => by
    cases same
    exact ⟨_, text⟩
  obtain ⟨-, -, c, later, rfl, -, -, -, new, -, agree, kept⟩ := outcome v after run
  exact ⟨c, after, run, (new rfl).1, agree _ (kept 16 rfl renamed)⟩

end Http2Failure
