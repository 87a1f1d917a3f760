import Http2Failure.Proofs.Deeds.Storing
import Http2Failure.Proofs.RoundTrip
import Http2Failure.Proofs.Totality

/-!
# Errors keep their origin

A failure becomes an error by one of the ways that are made for it, and the error may then be
copied, stored and read back, and converted, in any order and as often as one likes. None of these
steps is refused, and the error at the end holds a kind of the very sort that the failure stands
for, with the same content: its fields, or copies of them.
-/

namespace Http2Failure

namespace Fault

/-- The constructor of a standard class made the fault from values that refer to nothing, and it was
not given any attributes. -/
structure Bare (fault : Fault) : Prop where
  constant : fault.FromConstants
  attributes : fault.attributes = []

variable {fault copy base : Fault} {s : Store} {f : Ref}

theorem FromConstants.of_sameSlots (constant : fault.FromConstants) (same : fault.SameSlots copy) :
    copy.FromConstants := by
  obtain ⟨s, cls, args, base, standard, immediate, built, slots⟩ := constant
  exact ⟨s, cls, args, base, standard, immediate, built, slots.trans same⟩

theorem SameSlots.faithful (same : base.SameSlots fault) (faithful : base.Faithful) :
    fault.Faithful := by
  obtain ⟨replays, fileName, fileName2⟩ := faithful
  refine ⟨fun s => ?_, same.fileName ▸ fileName, same.fileName2 ▸ fileName2⟩
  rw [same.cls, same.args, same.errorNumber, same.errorText, same.charactersWritten]
  exact replays s

theorem FromConstants.faithful (constant : fault.FromConstants) : fault.Faithful := by
  obtain ⟨s, cls, args, base, -, -, built, same⟩ := constant
  exact same.faithful (faithful_of_ofArgs built)

theorem Bare.flat (bare : fault.Bare) : fault.Flat where
  carried := ⟨bare.constant.immediate.2.1, by simp [bare.attributes]⟩
  slots := bare.constant.immediate.2.2

theorem Bare.storable (bare : fault.Bare) (s : Store) (n : Nat) : fault.Storable s n := by
  obtain ⟨constant, attributes⟩ := bare
  refine constant.storable ?_ ?_ ?_
  · rw [attributes]
    exact List.nodup_nil
  · rw [attributes]
    rfl
  · rw [attributes]
    exact nofun

theorem Restores.bare {t : Store} {P : Ref → Prop} {n : Nat} (bare : fault.Bare)
    (restores : fault.Restores s t P n copy) : copy.Bare where
  constant := bare.constant.of_sameSlots restores.slots
  attributes := by
    have entries := restores.attributes
    rw [bare.attributes] at entries
    exact List.forall₂_nil_left_iff.mp entries

end Fault

namespace Kind

variable {s t : Store} {k k' l : Kind} {κ : Ref}

theorem Like.refl (declared : k.Declared s) (noFault : k.isTransport = false) : k.Like s k := by
  cases declared with
  | ofFailure typed =>
    cases typed with
    | reset identifier reason => exact .reset _ identifier identifier reason reason
    | goAway data reason => exact .goAway data _ reason reason
    | misuse => exact .misuse _
    | transport => cases noFault
  | reason found => exact .reason found found

theorem Like.symm (like : k.Like s k') : k'.Like s k := by
  cases like with
  | reset side id id' reason reason' => exact .reset side id' id reason' reason
  | goAway data side reason reason' => exact .goAway data side reason' reason
  | reason found found' => exact .reason found' found
  | misuse m => exact .misuse m

theorem Like.trans (like : k.Like s k') (like' : k'.Like s l) : k.Like s l := by
  have first : ∀ {r q : Ref} {o p : Object}, s.get? r = some o → s.get? r = some p →
      s.get? q = some p → s.get? q = some o := fun found found' there =>
    there.trans (found'.symm.trans found)
  cases like with
  | reset side id id' reason reason' =>
    cases like' with
    | reset _ middle id'' between reason'' =>
      exact .reset side id (first id' middle id'') reason (first reason' between reason'')
  | goAway data side reason reason' =>
    cases like' with
    | goAway _ _ between reason'' =>
      exact .goAway data side reason (first reason' between reason'')
  | reason found found' =>
    cases like' with
    | reason between found'' => exact .reason found (first found' between found'')
  | misuse m => exact like'

theorem Like.declared (like : k.Like s k') (bare : k.Bare s κ) :
    k.Declared s ∧ k.isTransport = false := by
  cases like with
  | reset side id id' reason reason' =>
    exact ⟨.ofFailure (.reset id reason (bare (.initiator side) (by simp [record]))), rfl⟩
  | goAway data side reason reason' =>
    exact ⟨.ofFailure (.goAway data reason (bare (.initiator side) (by simp [record]))), rfl⟩
  | reason found found' => exact ⟨.reason found, rfl⟩
  | misuse m => exact ⟨.ofFailure (.misuse (bare (.misuse m) (by simp [record]))), rfl⟩

/-- Nothing was given to what the kind holds, and a fault that it holds is bare. -/
structure Pristine (s : Store) (k : Kind) : Prop where
  fields : ∀ v ∈ k.record.fields.map Prod.snd, v.Inside s.Untouched
  fault : k.FaultMeets s Fault.Bare

/-- What a kind becomes in the errors that come of it: a kind that is like it, or one around a bare
fault with the same slots. -/
inductive Descends (s : Store) : Kind → Kind → Prop
  | like {k k' : Kind} (like : k.Like s k') : Descends s k k'
  | fault {f g : Ref} {fault copy : Fault} (there : s.get? f = some (.fault fault))
    (found : s.get? g = some (.fault copy)) (same : fault.SameSlots copy) (bare : copy.Bare) :
    Descends s (.transport (.object f)) (.transport (.object g))

theorem Descends.refl (declared : k.Declared s) (pristine : k.Pristine s) :
    k.Descends s k := by
  cases transport : k.isTransport with
  | false => exact .like (.refl declared transport)
  | true =>
    obtain ⟨f, fault, rfl, found⟩ := declared.transport transport
    exact .fault found found (.refl fault) (pristine.fault f fault rfl found)

theorem Descends.extends (h : k.Descends s k') (more : s.Extends t) : k.Descends t k' := by
  cases h with
  | like like => exact .like (like.extends more)
  | fault there found same bare => exact .fault (more.get? there) (more.get? found) same bare

theorem Descends.declared (h : k.Descends s k') (bare : k'.Bare s κ) : k'.Declared s := by
  cases h with
  | like like => exact (like.symm.declared bare).1
  | fault there found => exact .ofFailure (.transport found)

theorem Descends.shows (h : k.Descends s k') (bare : k'.Bare s κ) : ∃ text, k'.Shows s text := by
  cases h with
  | like like =>
    obtain ⟨declared, noFault⟩ := like.symm.declared bare
    exact shows_of_ok fun n => declared.plain_ok noFault (n + 1)
  | fault there found same fault =>
    obtain ⟨text, shows, -⟩ := fault.constant.shows found
    exact ⟨text, shows⟩

end Kind

namespace Error

/-- The ways to an error of kind `k`: those of a failure with well-typed fields, and those of a bare
reason. -/
inductive Way (s : Store) : Route → Value → Kind → Prop
  | failure {route : Route} {v : Value} {a : Except Refusal (List LogRecord)} {k : Kind}
    (path : Path s route v a k) (typed : k.WellTyped s) : Way s route v k
  | reason {code : Ref} {r : Reason} (found : s.get? code = some (.ofReason r)) :
    Way s .reason (.object code) (.reason (.object code))
  | anyReason {code : Ref} {r : Reason} (found : s.get? code = some (.ofReason r)) :
    Way s .any (.object code) (.reason (.object code))

variable {start now : Session} {route : Route} {v : Value} {k : Kind} {c : Ref} {s t : Store}

theorem Way.declared (way : Way s route v k) : k.Declared s := by
  cases way with
  | failure path typed => exact .ofFailure typed
  | reason found | anyReason found => exact .reason found

theorem Path.has {a : Except Refusal (List LogRecord)} (path : Path s route v a k) : s.Has v := by
  induction path with
  | misuse => trivial
  | report found | transport found | rejection found => exact Store.lt_size_of_get? found
  | connection found held => exact Store.lt_size_of_get? found
  | any path ih => exact ih

theorem Way.has (way : Way s route v k) : s.Has v := by
  cases way with
  | failure path typed => exact path.has
  | reason found | anyReason found => exact Store.lt_size_of_get? found

theorem Way.via_apply (way : Way start.store route v k) (pristine : k.Pristine start.store)
    (cls : Class) :
    ∃ records, via cls route v start = finish cls (.ok records) k start := by
  cases way with
  | failure path typed =>
    -- Only a fault can lack the quoted form that the log record shows, and a bare one has it.
    obtain ⟨records, rfl⟩ := path.announced_ok typed fun f same n p => by
      subst same
      cases typed with
      | transport found =>
        simp only [Store.renderUpTo, found, Object.render]
        exact (pristine.fault f _ rfl found).flat.quoted_ok n start.store p f
    exact ⟨records, path.via_apply cls⟩
  | reason found => exact ⟨[], (finish_ok_nil ..).symm⟩
  | anyReason found =>
    refine ⟨[], ?_⟩
    simp only [via, convert, Action.bind_apply, Action.ask_apply, Store.object?, found,
      Object.ofReason]
    exact (finish_ok_nil ..).symm

/-- At `c` lies an error without attributes whose kind comes of `k`, and neither that kind nor what
it holds was given anything. -/
def Bears (s : Store) (k : Kind) (c : Ref) : Prop :=
  ∃ (error : Error) (k' : Kind), s.get? c = some (.error error) ∧ error.attributes = [] ∧
    s.kind? error.kind = some k' ∧ k.Descends s k' ∧ k'.Bare s error.kind

theorem Bears.extends (bears : Bears s k c) (more : s.Extends t) : Bears t k c := by
  obtain ⟨error, k', found, plain, holds, comes, bare⟩ := bears
  exact ⟨error, k', more.get? found, plain, more.kind? holds, comes.extends more,
    bare.extends more⟩

theorem Bears.has (bears : Bears s k c) : s.Has (.object c) := by
  obtain ⟨error, -, found, -⟩ := bears
  exact Store.lt_size_of_get? found

theorem Way.returns (fresh : start.store.Fresh) (way : Way start.store route v k)
    (pristine : k.Pristine start.store) (cls : Class) :
    ∃ c mid, via cls route v start = (.ok (.object c), mid) ∧ start.store.Extends mid.store ∧
      Bears mid.store k c := by
  obtain ⟨records, run⟩ := way.via_apply pristine cls
  have comes : k.Descends start.store k := .refl way.declared pristine
  -- The kind object is a new one, so nothing can have been given to it.
  have bare : ∀ {κ : Ref}, start.store.size ≤ κ → k.Bare start.store κ := fun newer =>
    List.forall_mem_cons.mpr ⟨fresh _ newer, pristine.fields⟩
  have made : ∃ text, madeText start.store k = .ok text := by
    have more := Store.extends_push start.store (.kind k)
    obtain ⟨text, shows⟩ := (comes.extends more).shows ((bare (Nat.le_refl _)).extends more)
    exact ⟨text, shows (Store.depth - 2)⟩
  obtain ⟨w, mid, returned⟩ := finish_ok_iff.mpr ⟨⟨records, rfl⟩, made⟩
  obtain ⟨c, rfl, ⟨error, found, -, attributes, newer, holds⟩, more⟩ := made_of_finish returned
  exact ⟨c, mid, run.trans returned, more, error, k, found, attributes, holds, comes.extends more,
    (bare newer).extends more⟩

end Error

/-- What hands an error on: a link, or storing it and reading it back. -/
inductive Relay where
  | link (link : Link)
  | stored
deriving DecidableEq

namespace Relay

def perform (v : Value) : Relay → Action Value
  | .link l => l.perform v
  | .stored => .clone .stored v

def chain (relays : List Relay) (v : Value) : Action Value := relays.foldlM perform v

variable {now : Session} {c : Ref} {k : Kind}

theorem does_perform {v : Value} (has : Licence.anything.Has now.store v) (relay : Relay) :
    Action.Does Licence.anything (relay.perform v) now Licence.anything.Has := by
  have free := Licence.anything_free
  have cloned : ∀ mode, Action.Does Licence.anything (.clone mode v) now Licence.anything.Has :=
    fun mode => Action.does_clone free (fun _ _ => trivial) mode has
  cases relay with
  | stored => exact cloned .stored
  | link l =>
    cases l with
    | copy => exact cloned .shallow
    | deepCopy => exact cloned .deep
    | convert cls => exact Error.does_convert free.logs cls has

theorem perform_bears (sound : now.store.Sound) (bears : Error.Bears now.store k c)
    (relay : Relay) :
    ∃ c' next, relay.perform (.object c) now = (.ok (.object c'), next) ∧
      now.store.Extends next.store ∧ Error.Bears next.store k c' := by
  obtain ⟨error, k', found, plain, holds, comes, bare⟩ := bears
  cases relay with
  -- A link gives the error itself, or a new one around the very same kind.
  | link l =>
    have visible : error.Visible c := fun name _ => by
      rw [plain]
      rfl
    obtain ⟨text, shows⟩ := comes.shows bare
    simp only [perform, Link.perform_apply found visible, Error.around_apply, shows.textOf holds]
    cases l.clones with
    | false => exact ⟨c, now, rfl, .refl _, error, k', found, plain, holds, comes, bare⟩
    | true =>
      have more := Store.extends_push now.store (.error (Error.cloned error.kind text))
      refine ⟨now.store.size, _, rfl, more, _, k', Store.get?_push_size _ _, rfl, ?_,
        comes.extends more, bare.extends more⟩
      exact more.kind? holds
  -- What is read back has a kind of its own, which comes of the one that was stored.
  | stored =>
    have unreplaced : error.attributes.partsCall? .stored true = none := by
      rw [plain]
      rfl
    cases comes with
    | like like =>
      obtain ⟨declared, noFault⟩ := like.symm.declared bare
      obtain ⟨c', κ, l, next, restored, like', bare', -⟩ :=
        Error.restored_like sound found unreplaced holds declared noFault bare
      obtain ⟨text, there, -⟩ := restored.shown
      exact ⟨c', next, restored.run, restored.more, _, l, there, rfl, restored.holds,
        .like ((like.extends restored.more).trans like'), bare'⟩
    | fault source there same fault =>
      obtain ⟨c', κ, g, next, copy, restored, bare', -, found', restores⟩ :=
        Error.restored_transport sound found unreplaced holds bare there fault.constant
          (fault.storable _ _)
      obtain ⟨text, there', -⟩ := restored.shown
      exact ⟨c', next, restored.run, restored.more, _, _, there', rfl, restored.holds,
        .fault (restored.more.get? source) found' (same.trans restores.slots)
          (restores.bare fault), bare'⟩

theorem chain_bears (sound : now.store.Sound) (bears : Error.Bears now.store k c)
    (relays : List Relay) :
    ∃ c' last, chain relays (.object c) now = (.ok (.object c'), last) ∧
      now.store.Extends last.store ∧ Error.Bears last.store k c' := by
  -- The step needs a sound store each time: an error is read back with the shared empty tuple.
  induction relays generalizing c now with
  | nil => exact ⟨c, now, rfl, .refl _, bears⟩
  | cons relay rest ih =>
    obtain ⟨c', next, run, more, bears'⟩ := perform_bears sound bears relay
    have sound' := (does_perform (fun _ => bears.has) relay).sound (fun _ => sound) trivial
    rw [run] at sound'
    obtain ⟨c'', last, run', more', bears''⟩ := ih sound' bears'
    refine ⟨c'', last, ?_, more.trans more', bears''⟩
    rw [chain, List.foldlM_cons, Action.bind_apply, run]
    exact run'

end Relay

/-- Whatever the way to an error, and however it is handed on, it arrives with a kind that comes of
the failure. -/
theorem Error.Way.arrives {start : Session} (sound : start.store.Sound) {route : Error.Route}
    {v : Value} {k : Kind} (way : Error.Way start.store route v k)
    (pristine : k.Pristine start.store) (cls : Error.Class) (relays : List Relay) :
    ∃ c after, (Error.via cls route v >>= Relay.chain relays) start = (.ok (.object c), after) ∧
      start.store.Extends after.store ∧ Error.Bears after.store k c := by
  obtain ⟨c, mid, run, more, bears⟩ := way.returns sound.closed.fresh pristine cls
  have sound' := (Error.does_via Licence.anything_free.logs cls route fun _ => way.has).sound
    (fun _ => sound) trivial
  rw [run] at sound'
  obtain ⟨c', after, run', more', bears'⟩ := Relay.chain_bears sound' bears relays
  refine ⟨c', after, ?_, more.trans more', bears'⟩
  rw [Action.bind_apply, run]
  exact run'

end Http2Failure
