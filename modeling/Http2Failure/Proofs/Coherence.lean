import Http2Failure.Proofs.Origin

/-!
# The answers of an error fit together

An error is asked about its origin in many ways, and each of the questions is answered from its kind
by a rule of its own. Asked wherever the error has come to, they name one origin, which is that of
the failure, and whatever the failure of that origin has, the error has as well: also if that is an
empty payload.
-/

namespace Http2Failure

inductive Origin where
  | reset
  | goAway
  | reason
  | misuse
  | transport
deriving DecidableEq

/-- The question whether an error has the origin. There is none for a bare reason. -/
def Origin.question? : Origin → Option Inspection
  | .reset => some .isReset
  | .goAway => some .isGoAway
  | .reason => none
  | .misuse => some .isMisuse
  | .transport => some .isTransport

namespace Kind

def origin : Kind → Origin
  | .reset .. => .reset
  | .goAway .. => .goAway
  | .reason _ => .reason
  | .misuse _ => .misuse
  | .transport _ => .transport

variable {s : Store} {now : Session} {k k' : Kind}

theorem inspect_question {o : Origin} {q : Inspection} (asks : o.question? = some q)
    (call : Caller) : k.inspect call q now = (.ok (.bool (k.origin = o)), now) := by
  cases o with
  | reason => cases asks
  | _ =>
    cases asks
    cases k <;> rfl

theorem Descends.origin (h : k.Descends s k') : k'.origin = k.origin := by
  cases h with
  | like like => cases like <;> rfl
  | fault => rfl

theorem Descends.initiator? (h : k.Descends s k') : k'.initiator? = k.initiator? := by
  cases h with
  | like like => cases like <;> rfl
  | fault => rfl

/-- What the kind holds, if it holds what the question asks for. -/
def held? (k : Kind) : Inspection → Option Value
  | .reason => k.reason?
  | .fault => k.fault?
  | .streamId => k.streamId?
  | .debugData => k.debugData?
  | _ => none

theorem isSome_held?_iff :
    ((k.held? .reason).isSome ↔ k.origin = .reset ∨ k.origin = .goAway) ∧
      ((k.held? .streamId).isSome ↔ k.origin = .reset) ∧
      ((k.held? .debugData).isSome ↔ k.origin = .goAway) ∧
      ((k.held? .fault).isSome ↔ k.origin = .transport) := by
  cases k <;> simp [held?, reason?, streamId?, debugData?, fault?, origin]

theorem Like.held? (like : k.Like s k') (q : Inspection) :
    (k.held? q = none ∧ k'.held? q = none) ∨
      ∃ v w, k.held? q = some v ∧ k'.held? q = some w ∧ w ≠ .null ∧ s.equal v w = true := by
  cases like with
  | reset side id id' reason reason' =>
    cases q with
    | reason => exact .inr ⟨_, _, rfl, rfl, nofun, Store.equal_of_frozen reason reason' rfl⟩
    | streamId => exact .inr ⟨_, _, rfl, rfl, nofun, Store.equal_of_frozen id id' rfl⟩
    | _ => exact .inl ⟨rfl, rfl⟩
  | goAway data side reason reason' =>
    cases q with
    | reason => exact .inr ⟨_, _, rfl, rfl, nofun, Store.equal_of_frozen reason reason' rfl⟩
    | debugData =>
      have same := Store.equalUpTo_bytes s (Store.depth - 1) data data
      exact .inr ⟨_, _, rfl, rfl, nofun, same.trans (decide_eq_true rfl)⟩
    | _ => exact .inl ⟨rfl, rfl⟩
  | reason | misuse => cases q <;> exact .inl ⟨rfl, rfl⟩

theorem Descends.held? (h : k.Descends s k') (q : Inspection) :
    ((k'.held? q).getD .null ≠ .null ↔ (k.held? q).isSome) ∧
      (q ≠ .fault → ∀ v, k.held? q = some v → s.equal v ((k'.held? q).getD .null) = true) := by
  cases h with
  | like like =>
    rcases like.held? q with ⟨none, none'⟩ | ⟨v, w, some, some', present, equal⟩
    · simp [none, none']
    · simp [some, some', present, equal]
  | fault =>
    cases q with
    | fault => exact ⟨by simp [Kind.held?, fault?], fun no => absurd rfl no⟩
    | _ => exact ⟨by simp [Kind.held?, reason?, streamId?, debugData?], fun _ => nofun⟩

theorem Descends.intoFault (h : k.Descends now.store k') :
    ∃ v last, k'.intoFault now = (.ok v, last) ∧ (v ≠ .null ↔ k.origin = .transport) := by
  cases h with
  | like like =>
    refine ⟨.null, now, ?_, ?_⟩
    · cases like <;> rfl
    · cases like <;> simp [Kind.origin]
  | @fault f g fault copy there found same bare =>
    refine ⟨.object now.store.size, ⟨now.store.push (.fault (copy.again g)), now.log⟩, ?_, ?_⟩
    · simp only [Kind.intoFault, Action.bind_apply, Action.ask_apply, Action.read_apply,
        Store.object?, found, bare.constant.faithful.rebuild_eq, Action.create_apply]
    · simp [Kind.origin]

theorem Declared.sides (declared : k.Declared s) :
    (∃ side, k.initiator? = some (.initiator side)) ↔ k.origin = .reset ∨ k.origin = .goAway := by
  cases declared with
  | ofFailure typed => cases typed <;> simp [Kind.initiator?, origin]
  | reason => simp [Kind.initiator?, origin]

end Kind

namespace Error

/-- The answers of the error at `c` fit together, and are those that the kind `k` of the failure
gives reason to. -/
structure Coherent (now : Session) (c : Ref) (k : Kind) : Prop where
  origin : ∃ (error : Error) (k' : Kind), now.store.get? c = some (.error error) ∧
    now.store.kind? error.kind = some k' ∧ k'.origin = k.origin
  asked : ∀ o q, o.question? = some q →
    Action.inspect (.object c) q now = (.ok (.bool (k.origin = o)), now)
  reason : ∃ v, Action.inspect (.object c) .reason now = (.ok v, now) ∧
    (v ≠ .null ↔ k.origin = .reset ∨ k.origin = .goAway) ∧
    ∀ code, k.reason? = some code → now.store.equal code v = true
  streamId : ∃ v, Action.inspect (.object c) .streamId now = (.ok v, now) ∧
    (v ≠ .null ↔ k.origin = .reset) ∧
    ∀ id, k.streamId? = some id → now.store.equal id v = true
  debugData : ∃ v, Action.inspect (.object c) .debugData now = (.ok v, now) ∧
    (v ≠ .null ↔ k.origin = .goAway) ∧
    ∀ data, k.debugData? = some data → now.store.equal data v = true
  fault : ∃ v, Action.inspect (.object c) .fault now = (.ok v, now) ∧
    (v ≠ .null ↔ k.origin = .transport)
  intoFault : ∃ v last, Action.call (.object c) "into_io" [] now = (.ok v, last) ∧
    (v ≠ .null ↔ k.origin = .transport)
  sides : ∃ remote library : Bool,
    Action.inspect (.object c) .isRemote now = (.ok (.bool remote), now) ∧
    Action.inspect (.object c) .isLibrary now = (.ok (.bool library), now) ∧
    ¬ (remote ∧ library) ∧
    (remote ∨ library ↔ k.origin = .reset ∨ k.origin = .goAway) ∧
    (remote ↔ k.initiator? = some (.initiator .peer)) ∧
    (library ↔ k.initiator? = some (.initiator .library))

variable {now : Session} {k k' : Kind} {c : Ref}

theorem Bears.open (bears : Bears now.store k c) :
    ∃ k', Open now.store c k' ∧ k.Descends now.store k' ∧ k'.Declared now.store := by
  obtain ⟨error, k', found, plain, holds, comes, bare⟩ := bears
  refine ⟨k', ⟨error, found, holds, fun name _ => ?_⟩, comes, comes.declared bare⟩
  rw [plain]
  rfl

theorem sides_of_open (opened : Open now.store c k') (comes : k.Descends now.store k')
    (declared : k.Declared now.store) (declared' : k'.Declared now.store) :
    ∃ remote library : Bool,
      Action.inspect (.object c) .isRemote now = (.ok (.bool remote), now) ∧
      Action.inspect (.object c) .isLibrary now = (.ok (.bool library), now) ∧
      ¬ (remote ∧ library) ∧
      (remote ∨ library ↔ k.origin = .reset ∨ k.origin = .goAway) ∧
      (remote ↔ k.initiator? = some (.initiator .peer)) ∧
      (library ↔ k.initiator? = some (.initiator .library)) := by
  -- The initiator is asked by its own methods, and it is the one that the failure names.
  have answer := Kind.askSide_eq declared' (Store.depth - 2)
  rw [comes.initiator?] at answer
  refine ⟨_, _, (inspect_of_open opened .isRemote).trans (answer .peer),
    (inspect_of_open opened .isLibrary).trans (answer .library), ?_, ?_, by simp, by simp⟩
  · simp only [decide_eq_true_eq]
    rintro ⟨remote, library⟩
    cases remote.symm.trans library
  · simp only [decide_eq_true_eq]
    rw [← declared.sides]
    constructor
    · rintro (remote | library)
      · exact ⟨.peer, remote⟩
      · exact ⟨.library, library⟩
    · rintro ⟨side, held⟩
      cases side with
      | peer => exact .inl held
      | library => exact .inr held

theorem Bears.coherent (bears : Bears now.store k c) (declared : k.Declared now.store) :
    Coherent now c k := by
  obtain ⟨k', opened, comes, declared'⟩ := bears.open
  obtain ⟨reason, streamId, debugData, fault⟩ := k.isSome_held?_iff
  have given := comes.held?
  have ⟨error, found, holds, _⟩ := opened
  exact {
    origin := ⟨error, k', found, holds, comes.origin⟩
    asked := fun o q asks => by
      rw [inspect_of_open opened, Kind.inspect_question asks, comes.origin]
    reason := ⟨_, inspect_of_open opened .reason, (given .reason).1.trans reason,
      (given .reason).2 nofun⟩
    streamId := ⟨_, inspect_of_open opened .streamId, (given .streamId).1.trans streamId,
      (given .streamId).2 nofun⟩
    debugData := ⟨_, inspect_of_open opened .debugData, (given .debugData).1.trans debugData,
      (given .debugData).2 nofun⟩
    fault := ⟨_, inspect_of_open opened .fault, (given .fault).1.trans fault⟩
    intoFault := by
      rw [intoFault_of_open opened]
      exact comes.intoFault
    sides := sides_of_open opened comes declared declared' }

end Error

/-- On whatever way a failure becomes an error, and however this is copied, stored and read back,
and converted then, nothing is refused, and the answers of the error at the end fit together and
name the origin of the failure. They do so for good, whatever is built later on. -/
theorem answers_cohere {start : Session} (sound : start.store.Sound) {route : Error.Route}
    {v : Value} {k : Kind} (way : Error.Way start.store route v k)
    (pristine : k.Pristine start.store) (cls : Error.Class) (relays : List Relay) :
    ∃ c after, (Error.via cls route v >>= Relay.chain relays) start = (.ok (.object c), after) ∧
      start.store.Extends after.store ∧
      ∀ now : Session, after.store.Extends now.store → Error.Coherent now c k := by
  obtain ⟨c, after, run, more, bears⟩ := way.arrives sound pristine cls relays
  refine ⟨c, after, run, more, fun now later => ?_⟩
  exact (bears.extends later).coherent (way.declared.extends (more.trans later))

/-- A termination without a payload, which the sending side reports, and a missing file. -/
theorem answers_cohere_empty :
    let fault : Fault :=
      { cls := .fileNotFound, args := [.int 2, .text "gone"], errorNumber := some (.int 2),
        errorText := some (.text "gone") }
    let start : Session :=
      ⟨((Store.initial.push (.report (.goAway (.bytes []) (.object 11) (.initiator .peer)))).push
        (.sendFailure (.connection (.object 16)))).push (.fault fault), []⟩
    let relays := [Relay.stored, .link .deepCopy, .link (.convert .base)]
    (∃ c after, (Error.via .application .any (.object 17) >>= Relay.chain relays) start =
      (.ok (.object c), after) ∧
        Error.Coherent after c (.goAway (.bytes []) (.object 11) (.initiator .peer))) ∧
    ∃ c after, (Error.via .base .transport (.object 18) >>= Relay.chain relays) start =
      (.ok (.object c), after) ∧ Error.Coherent after c (.transport (.object 18)) := by
  intro fault start relays
  have sound : start.store.Sound :=
    ((Store.initial_sound.push (by decide)).push (by decide)).push (by decide)
  constructor
  · let k : Kind := .goAway (.bytes []) (.object 11) (.initiator .peer)
    have held : start.store.get? 16 =
        some (.report (.goAway (.bytes []) (.object 11) (.initiator .peer))) := by decide
    have typed : k.WellTyped start.store := .goAway (r := ⟨11, by decide⟩) [] (by decide) rfl
    have path : Error.Path start.store .any (.object 17) _ k :=
      .any (.connection (c := 17) (p := 16) (by decide) held)
    obtain ⟨c, after, run, -, coherent⟩ := answers_cohere sound (.failure path typed)
      ⟨by decide, Kind.faultMeets_of_noFault rfl⟩ .application relays
    exact ⟨c, after, run, coherent after (.refl _)⟩
  · have found : start.store.get? 18 = some (.fault fault) := by decide
    have constant : fault.FromConstants :=
      ⟨start.store, .general, [.int 2, .text "gone"], fault, rfl, by decide, rfl, .refl fault⟩
    obtain ⟨c, after, run, -, coherent⟩ := answers_cohere sound
      (.failure (.transport found) (.transport found))
      ⟨by decide, (Kind.faultMeets_iff found).mpr ⟨constant, rfl⟩⟩ .base relays
    exact ⟨c, after, run, coherent after (.refl _)⟩

end Http2Failure
