import Http2Failure.Proofs.Payload
import Http2Failure.Proofs.RoundTrip

/-!
# What is derived from a termination

A termination copies the bytes of its debug data when it is made, and refuses what has none. What
shows its payload can always be converted, wrapped and cloned, and what comes of it shows the same
payload.
-/

namespace Http2Failure

namespace Store

variable {s : Store} {v : Value} {content : List UInt8}

/-- Bytes, a buffer, or a view of one of these that is not released, with the bytes as they are. -/
inductive Buffer (s : Store) : Value → List UInt8 → Prop
  | bytes (content : List UInt8) : Buffer s (.bytes content) content
  | buffer {r : Ref} {content : List UInt8} (found : s.get? r = some (.buffer content)) :
    Buffer s (.object r) content
  | viewOfBytes {r : Ref} {content : List UInt8}
    (found : s.get? r = some (.view (.bytes content))) : Buffer s (.object r) content
  | viewOfBuffer {r q : Ref} {content : List UInt8} (found : s.get? r = some (.view (.object q)))
    (source : s.get? q = some (.buffer content)) : Buffer s (.object r) content

theorem bytes?_eq_some_iff : s.bytes? v = some content ↔ s.Buffer v content := by
  constructor
  · intro given
    unfold bytes? at given
    split at given
    · cases given
      exact .bytes _
    · split at given
      · cases given
        exact .buffer ‹_›
      · split at given
        · cases given
          exact .viewOfBytes ‹_›
        · split at given
          · cases given
            exact .viewOfBuffer ‹_› ‹_›
          · cases given
        · cases given
      · cases given
    · cases given
  · intro buffer
    cases buffer with
    | bytes => rfl
    | buffer found => simp only [bytes?, found]
    | viewOfBytes found => simp only [bytes?, found]
    | viewOfBuffer found source => simp only [bytes?, found, source]

end Store

namespace Role

def routes : Role → List Error.Route
  | .report => [.report, .any]
  | .failure => [.sendFailure, .any]
  | .error => [.any]

end Role

namespace Payload

variable {p : Payload} {s : Store} {now : Session} {role : Role} {v : Value}

def makers (data code : Value) (side : Initiator) : List (Action Value) :=
  [Script.Constructor.goAway.apply [data, code, .initiator side],
    (Script.Constructor.goAwayBy side).apply [code, data]]

theorem make_of_buffer {data code : Value} {side : Initiator} {make : Action Value}
    (maker : make ∈ makers data code side) {content : List UInt8}
    (buffer : now.store.Buffer data content) :
    make now = (.ok (.object now.store.size), { now with
      store := now.store.push (.report (.goAway (.bytes content) code (.initiator side))) }) := by
  have given := Store.bytes?_eq_some_iff.mpr buffer
  simp only [makers, List.mem_cons, List.not_mem_nil, or_false] at maker
  rcases maker with rfl | rfl <;>
    simp only [Script.Constructor.apply, Action.make, Action.bind_apply, Action.read_apply,
      Object.checked, given, Action.create_apply]

theorem make_refused {data code : Value} {side : Initiator} {make : Action Value}
    (maker : make ∈ makers data code side) (other : ∀ content, ¬ now.store.Buffer data content) :
    ∃ r : Refusal, make now = (.error r, now) ∧ r.category = .wrongValue := by
  have given : now.store.bytes? data = none := by
    rw [Option.eq_none_iff_forall_ne_some]
    exact fun content given => other content (Store.bytes?_eq_some_iff.mp given)
  refine ⟨if now.store.isReleased data then .releasedView else .debugDataNotBytes, ?_, ?_⟩
  · simp only [makers, List.mem_cons, List.not_mem_nil, or_false] at maker
    rcases maker with rfl | rfl <;>
      simp only [Script.Constructor.apply, Action.make, Action.bind_apply, Action.read_apply,
        Object.checked, given]
  · split <;> rfl

theorem Typed.extends {t : Store} {code : Ref} (typed : p.Typed s code) (more : s.Extends t) :
    p.Typed t code := typed.keeps (Store.keeps_of_extends more)

variable (fresh : now.store.Fresh)
include fresh

theorem Holds.wrap (holds : p.Holds now.store .report v) :
    ∃ w next, Script.Constructor.sendConnection.apply [v] now = (.ok w, next) ∧
      now.store.Keeps next.store ∧ p.Holds next.store .failure w := by
  have more := Store.extends_push now.store (.sendFailure (.connection v))
  have kept := Store.keeps_of_extends more
  exact ⟨_, _, rfl, kept, .failure (Store.get?_push_size _ _) (more.bare (fresh _ (Nat.le_refl _)))
    (holds.keeps kept)⟩

theorem via_of_path {code : Ref} {announced : Except Refusal (List LogRecord)}
    {route : Error.Route} (cls : Error.Class) (typed : p.Typed now.store code)
    (records : ∃ records, announced = .ok records)
    (path : Error.Path now.store route v announced (.ofReport (p.report code))) :
    ∃ w next, Error.via cls route v now = (.ok w, next) ∧ now.store.Keeps next.store ∧
      p.Holds next.store .error w := by
  have text : Error.madeText now.store (.ofReport (p.report code)) = .ok p.errorText :=
    let later := typed.extends (Store.extends_push now.store _)
    plain_kind later.reason later.side (Store.depth - 1) []
  obtain ⟨w, next, run⟩ : ∃ w next,
      Error.finish cls announced (.ofReport (p.report code)) now = (.ok w, next) :=
    Error.finish_ok_iff.mpr ⟨records, _, text⟩
  obtain ⟨e, rfl, ⟨error, found, -, unadorned, newer, holds⟩, more⟩ := Error.made_of_finish run
  exact ⟨_, next, (path.via_apply cls).trans run, Store.keeps_of_extends more,
    .error found unadorned holds (more.bare (fresh _ newer)) (typed.extends more)⟩

theorem Holds.via (holds : p.Holds now.store role v) {route : Error.Route}
    (route' : route ∈ role.routes) (cls : Error.Class) :
    ∃ w next, Error.via cls route v now = (.ok w, next) ∧ now.store.Keeps next.store ∧
      p.Holds next.store .error w := by
  cases holds with
  | report found _ typed =>
    have path := Error.Path.report found
    simp only [Role.routes, List.mem_cons, List.not_mem_nil, or_false] at route'
    rcases route' with rfl | rfl
    · exact via_of_path fresh cls typed ⟨_, rfl⟩ path
    · exact via_of_path fresh cls typed ⟨_, rfl⟩ (.any path)
  | failure found _ inner =>
    have shown := inner.render .quoted
    cases inner with
    | report found' _ typed =>
      have path := Error.Path.connection found found'
      have announced : ∃ records, Error.announced "Send failed on connection error: "
          (now.store.quoted _) = .ok records := ⟨_, by rw [Store.quoted, shown]; rfl⟩
      simp only [Role.routes, List.mem_cons, List.not_mem_nil, or_false] at route'
      rcases route' with rfl | rfl
      · exact via_of_path fresh cls typed announced path
      · exact via_of_path fresh cls typed announced (.any path)
  | error found unadorned kind bare typed =>
    simp only [Role.routes, List.mem_cons, List.not_mem_nil, or_false] at route'
    subst route'
    refine ⟨_, now, ?_, .refl _, .error found unadorned kind bare typed⟩
    simp only [Error.via, Error.convert, Action.bind_apply, Action.ask_apply, Store.object?, found]
    rfl

omit fresh

theorem Typed.isData {code : Ref} (typed : p.Typed s code) :
    ∀ v ∈ (p.report code).record.fields.map Prod.snd, s.IsData 2 v := by
  simp only [Payload.report, Report.record, List.map_cons, List.map_nil, List.forall_mem_cons]
  refine ⟨.immediate trivial, .object typed.reason typed.bare rfl fun v hv => ?_,
    .member rfl typed.side, List.forall_mem_nil _⟩
  cases List.mem_singleton.mp hv
  exact .immediate trivial

theorem Typed.of_twins {t : Store} {P : Ref → Prop} {n : Nat} {code : Ref} {parts : List Value}
    (typed : p.Typed s code) (more : s.Extends t)
    (twins : List.Forall₂ (s.Twins t P n) ((p.report code).record.fields.map Prod.snd) parts) :
    ∃ code', parts = (p.report code').record.fields.map Prod.snd ∧ p.Typed t code' := by
  obtain ⟨data, code', side, rfl, first, second, third⟩ := forall₂_three twins
  cases first.eq_of_immediate trivial
  cases third.eq_of_member rfl
  obtain ⟨place, rfl, reason, free⟩ := second.single typed.reason rfl trivial
  exact ⟨place, rfl, reason, more.bare (free rfl), more.bare typed.side⟩

theorem Holds.isData (holds : p.Holds s role v) (noError : role ≠ .error) : s.IsData 4 v := by
  have report : ∀ {v}, p.Holds s .report v → s.IsData 3 v := by
    rintro _ (⟨found, bare, typed⟩)
    exact .object found bare rfl typed.isData
  cases holds with
  | report found bare typed => exact (report (.report found bare typed)).succ
  | failure found bare inner =>
    refine .object found bare rfl fun v hv => ?_
    cases List.mem_singleton.mp hv
    exact report inner
  | error => exact absurd rfl noError

theorem Holds.of_twins {t : Store} {P : Ref → Prop} {n : Nat} {w : Value}
    (holds : p.Holds s role v) (noError : role ≠ .error) (more : s.Extends t)
    (twins : s.Twins t P n v w) : p.Holds t role w := by
  have report : ∀ {n v w}, p.Holds s .report v → s.Twins t P n v w → p.Holds t .report w := by
    rintro n _ w (⟨found, -, typed⟩) twins
    cases n with
    | zero => exact twins.elim
    | succ n =>
      cases twins with
      | immediate h => exact h.elim
      | member h => cases h
      | object found' data _ bare there rest =>
        cases found.symm.trans found'
        cases data
        obtain ⟨place, rfl, typed'⟩ := typed.of_twins more rest
        exact .report there (more.bare (bare rfl)) typed'
  cases holds with
  | report found bare typed => exact report (.report found bare typed) twins
  | failure found _ inner =>
    cases n with
    | zero => exact twins.elim
    | succ n =>
      cases twins with
      | immediate h => exact h.elim
      | member h => cases h
      | object found' data _ bare there rest =>
        cases found.symm.trans found'
        cases data
        obtain ⟨w, rfl, first⟩ := forall₂_one rest
        exact .failure there (more.bare (bare rfl)) (report inner first)
  | error => exact absurd rfl noError

theorem textOf_kind {code κ : Ref} (kind : s.kind? κ = some (.ofReport (p.report code)))
    (typed : p.Typed s code) : Error.textOf s (.object κ) = .ok p.errorText :=
  (Error.textOf_of_kind kind).trans (plain_kind typed.reason typed.side (Store.depth - 1) [])

theorem holds_around {code κ : Ref} (kind : s.kind? κ = some (.ofReport (p.report code)))
    (bare : s.Untouched (.object κ)) (typed : p.Typed s code) :
    p.Holds (s.push (.error (Error.cloned κ p.errorText))) .error (.object s.size) := by
  have more := Store.extends_push s (.error (Error.cloned κ p.errorText))
  exact .error (Store.get?_push_size _ _) rfl (more.kind? kind) (more.bare bare)
    (typed.extends more)

section

variable (fresh : now.store.Fresh)
  (shared : now.store.get? Store.emptyTupleRef = some (.tuple []))
include fresh shared

theorem clone_stored {e code : Ref} {error : Error}
    (found : now.store.get? e = some (.error error)) (unadorned : error.attributes = [])
    (kind : now.store.kind? error.kind = some (.ofReport (p.report code)))
    (bare : now.store.Untouched (.object error.kind)) (typed : p.Typed now.store code) :
    ∃ w next, Action.clone .stored (.object e) now = (.ok w, next) ∧
      now.store.Keeps next.store ∧ p.Holds next.store .error w := by
  have place := Store.kind?_eq_some_iff.mp kind
  have data : now.store.IsData 3 (.object error.kind) := .object place bare rfl typed.isData
  have unreplaced : error.attributes.partsCall? .stored true = none := by
    rw [unadorned]
    rfl
  obtain ⟨storage, looked, members⟩ := (Storing.passes_error (m := Store.depth - 1) found unreplaced
    (Storing.passes_of_isData data (by decide))).start
  have apart : ∀ entry ∈ ([] : List (Ref × Ref)), ¬ now.store.IsData 3 (.object entry.1) := nofun
  obtain ⟨w, memory, t, run, more, fits, twins⟩ :=
    Cloning.makes_cloneUpTo .stored shared data (m := Store.depth - 1) (by decide) (.refl _) apart
      { stored := storage.stored } now.log (Cloning.fits_start fresh members)
  cases twins with
  | immediate h => exact h.elim
  | member h => cases h
  | @object _ κ _ _ _ found' parts _ bare' there rest =>
    cases place.symm.trans found'
    cases parts
    obtain ⟨code', rfl, typed'⟩ := typed.of_twins more rest
    have kind' : t.kind? κ = some (.ofReport (p.report code')) :=
      Store.kind?_eq_some_iff.mpr there
    have back : Cloning.ReadBack now storage.stored (Store.depth - 1) error.kind κ
        (.ofReport (p.report code')) memory ⟨t, now.log⟩ := ⟨run, more, rfl, kind', fits.noError⟩
    refine ⟨_, _, Error.clone_stored_apply found looked members back (textOf_kind kind' typed'), ?_,
      holds_around kind' (more.bare (bare' rfl)) typed'⟩
    exact Store.keeps_of_extends (more.trans (Store.extends_push _ _))

theorem Holds.clone_error (holds : p.Holds now.store .error v) (mode : CloneMode) :
    ∃ w next, Action.clone mode v now = (.ok w, next) ∧ now.store.Keeps next.store ∧
      p.Holds next.store .error w := by
  cases holds with
  | @error e code error found unadorned kind bare typed =>
    have around : Error.around .base error.kind now = (.ok (.object now.store.size),
        { now with store := now.store.push (.error (Error.cloned error.kind p.errorText)) }) := by
      rw [Error.around_apply, textOf_kind kind typed]
      rfl
    have copied := holds_around kind bare typed
    have kept := Store.keeps_of_extends
      (Store.extends_push now.store (.error (Error.cloned error.kind p.errorText)))
    cases mode with
    | shallow => exact ⟨_, _, (Error.clone_shallow_apply found).trans around, kept, copied⟩
    | deep =>
      have visible : error.attributes.get? "__deepcopy__" = none := by
        rw [unadorned]
        rfl
      exact ⟨_, _, (Error.clone_deep_apply found visible).trans around, kept, copied⟩
    | stored => exact clone_stored fresh shared found unadorned kind bare typed

omit shared in
theorem Holds.clone_shallow (holds : p.Holds now.store role v) (noError : role ≠ .error) :
    ∃ w next, Action.clone .shallow v now = (.ok w, next) ∧ now.store.Keeps next.store ∧
      p.Holds next.store role w := by
  have data := holds.isData noError
  have pushed : ∀ {q : Ref} {o : Object}, v = .object q → now.store.get? q = some o →
      now.store.Untouched (.object q) → (∃ r, o = .report r) ∨ (∃ f, o = .sendFailure f) →
        Action.clone .shallow (.object q) now = (.ok (.object now.store.size),
          { now with store := now.store.push o }) := by
    rintro q o rfl found bare which
    have there : now.store.object? (.object q) = some o := found
    have unreplaced := Cloning.byAttributes?_of_isData data (.refl now.store) .shallow pure
    have given : now.store.given.lookup (.object q) = none := bare
    have copied : Action.copyObject q o now = (.ok (.object now.store.size),
        { now with store := now.store.push o }) := by
      have frozen : o.record?.isSome := by rcases which with ⟨r, rfl⟩ | ⟨f, rfl⟩ <;> rfl
      simp only [Action.copyObject_of_frozen frozen, Action.bind_apply, Action.ask_apply, given,
        Action.createWith, Action.create_apply, Action.giveMaybe, Action.pure_apply]
    simp only [Action.clone, Action.copy, Action.bind_apply, Action.ask_apply, there]
    split
    · exact copied
    · simp only [Action.bind_apply, Action.ask_apply, unreplaced]
      exact copied
  have more : ∀ o, now.store.Extends (now.store.push o) := Store.extends_push now.store
  have new : ∀ o, (now.store.push o).Untouched (.object now.store.size) := fun o =>
    (more o).bare (fresh _ (Nat.le_refl _))
  cases holds with
  | @report q code found bare typed =>
    exact ⟨_, _, pushed rfl found bare (.inl ⟨_, rfl⟩), Store.keeps_of_extends (more _),
      .report (Store.get?_push_size _ _) (new _) (typed.extends (more _))⟩
  | @failure q w found bare inner =>
    have kept := Store.keeps_of_extends (more (.sendFailure (.connection w)))
    exact ⟨_, _, pushed rfl found bare (.inr ⟨_, rfl⟩), kept,
      .failure (Store.get?_push_size _ _) (new _) (inner.keeps kept)⟩
  | error => exact absurd rfl noError

theorem Holds.clone (holds : p.Holds now.store role v) (mode : CloneMode) :
    ∃ w next, Action.clone mode v now = (.ok w, next) ∧ now.store.Keeps next.store ∧
      p.Holds next.store role w := by
  by_cases isError : role = .error
  · subst isError
    exact holds.clone_error fresh shared mode
  · have data := holds.isData isError
    have deep : 4 ≤ Store.depth := by decide
    have cloned : ∀ mode stored, (∀ entry ∈ stored, Stored.AsMember entry.1 entry.2) →
        ∃ w next, (Cloning.cloneUpTo mode Store.depth v).run' { stored } now =
          (.ok w, next) ∧ now.store.Keeps next.store ∧ p.Holds next.store role w := by
      intro mode stored members
      have apart : ∀ entry ∈ ([] : List (Ref × Ref)), ¬ now.store.IsData 4 (.object entry.1) :=
        nofun
      obtain ⟨w, memory, t, run, more, -, twins⟩ :=
        Cloning.makes_cloneUpTo mode shared data deep (.refl _) apart { stored } now.log
          (Cloning.fits_start fresh members)
      refine ⟨w, ⟨t, now.log⟩, ?_, Store.keeps_of_extends more, holds.of_twins isError more twins⟩
      rw [state_run'_apply, run]
    cases mode with
    | shallow => exact holds.clone_shallow fresh isError
    | deep => exact cloned .deep [] (fun _ he => absurd he List.not_mem_nil)
    | stored =>
      obtain ⟨storage, looked, members⟩ := (Storing.passes_of_isData data deep).start
      obtain ⟨w, next, run, rest⟩ := cloned .stored storage.stored members
      refine ⟨w, next, ?_, rest⟩
      change (Storing.storeUpTo Store.depth v {} >>= fun looked =>
        (Cloning.cloneUpTo .stored Store.depth v).run' { stored := looked.2.stored }) now = _
      rw [Action.bind_apply, looked]
      exact run

end

end Payload

end Http2Failure
