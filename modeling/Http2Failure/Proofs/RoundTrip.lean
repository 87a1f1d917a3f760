import Http2Failure.Proofs.Growth
import Http2Failure.Proofs.Restored

/-!
# Errors come back as they were stored

An error is stored by its kind alone. Storing looks at everything that the kind leads to and changes
nothing; reading back builds a kind of the same class, and a new error of the base class around it
whose text is that of the first one. The two halves meet in what was stored: data come back as
twins, and a fault that its constructor built comes back from its arguments and attributes.
-/

namespace Http2Failure

deriving instance DecidableEq for Store, Session

theorem Store.Sound.emptyTuple {s : Store} (sound : s.Sound) :
    s.get? emptyTupleRef = some (.tuple []) := by
  have there : initial.get? emptyTupleRef = some (.tuple []) := rfl
  obtain ⟨o, found, same⟩ := sound.shared _ _ there
  cases o with
  | tuple =>
    cases same
    exact found
  | report r => cases r <;> cases same
  | sendFailure f => cases f <;> cases same
  | kind k => cases k <;> cases same
  | _ => cases same

namespace Storing

variable {now : Session} {e f κ : Ref} {error : Error} {fault : Fault} {n m : Nat}

theorem passes_exception {r : Ref} {o : Object} {c : Carried} {before after : List Value}
    (found : now.store.get? r = some o) (carried : o.carried? = some c)
    (unreplaced : c.attributes.partsCall? .stored true = none)
    (given : ofObject now.store (.object r) o = .ok (before, after))
    (inner : ∀ v ∈ before ++ after, Passes now (storeUpTo m v) ⟨⟩) :
    Passes now (storeUpTo (m + 1) (.object r)) ⟨⟩ := by
  have asks : now.store.asksForParts (.object r) = true := by
    have there : now.store.object? (.object r) = some o := found
    simp only [Store.asksForParts, there, Option.bind_some, carried, Option.isSome_some]
  refine passes_storeUpTo _ _ (passes_partsOf found ?_ given)
    (fun v hv => inner v (List.mem_append_left _ hv))
    (fun v hv => inner v (List.mem_append_right _ hv))
  rw [Store.attributesOf_of_carried found carried, asks]
  exact unreplaced

theorem passes_error (found : now.store.get? e = some (.error error))
    (unreplaced : error.attributes.partsCall? .stored true = none)
    (kind : Passes now (storeUpTo m (.object error.kind)) ⟨⟩) :
    Passes now (storeUpTo (m + 1) (.object e)) ⟨⟩ :=
  passes_exception found rfl unreplaced rfl (List.forall_mem_singleton.mpr kind)

theorem passes_fault (found : now.store.get? f = some (.fault fault))
    (storable : fault.Storable now.store (n + 1)) (deep : n + 1 ≤ m) :
    Passes now (storeUpTo (m + 1) (.object f)) ⟨⟩ := by
  refine passes_exception found rfl storable.unreplaced rfl fun v hv => ?_
  have data : now.store.IsData (n + 1) v := by
    rcases List.mem_append.mp hv with hv | hv
    · exact .immediate (storable.args v hv)
    · exact storable.data v hv
  exact passes_of_isData data deep

theorem passes_transport (holds : now.store.kind? κ = some (.transport (.object f)))
    (bare : now.store.attributesOf (.object κ) = [])
    (fault : Passes now (storeUpTo m (.object f)) ⟨⟩) :
    Passes now (storeUpTo (m + 1) (.object κ)) ⟨⟩ := by
  have place := Store.kind?_eq_some_iff.mp holds
  refine passes_storeUpTo [] [.object f] (passes_partsOf place ?_ ?_) nofun
    (List.forall_mem_singleton.mpr fault)
  · rw [bare]
    cases now.store.asksForParts (.object κ) <;> rfl
  · simp only [ofObject, bare]
    rfl

end Storing

namespace Cloning

variable {now : Session} {e f κ : Ref} {error : Error} {fault : Fault} {k : Kind} {n m : Nat}
  {stored : List (Value × Stored)}

theorem fits_start {s : Store} (fresh : s.Fresh)
    (members : ∀ entry ∈ stored, Stored.AsMember entry.1 entry.2) :
    Fits s [] s { stored } where
  more := .refl s
  bounds := List.forall_mem_nil _
  known _ _ _ _ known := nomatch known
  noError _ _ known := nomatch known
  stored := members
  fresh := fresh

/-- What comes of reading a kind back, where nothing but members of enumerations was stored
otherwise: a new kind, around which an error can be made. -/
structure ReadBack (now : Session) (stored : List (Value × Stored)) (m : Nat) (κ κ' : Ref)
    (k' : Kind) (memory : Memory) (last : Session) : Prop where
  run : cloneUpTo .stored m (.object κ) { stored } now = (.ok (.object κ', memory), last)
  more : now.store.Extends last.store
  log : last.log = now.log
  holds : last.store.kind? κ' = some k'
  noError : ∀ v w, memory.clones.lookup v = some w → ¬ IsError now.store v

theorem read_like (fresh : now.store.Fresh)
    (shared : now.store.get? Store.emptyTupleRef = some (.tuple []))
    (members : ∀ entry ∈ stored, Stored.AsMember entry.1 entry.2)
    (holds : now.store.kind? κ = some k) (declared : k.Declared now.store)
    (noFault : k.isTransport = false) (bare : k.Bare now.store κ) (deep : 3 ≤ m) :
    ∃ κ' k' memory last, ReadBack now stored m κ κ' k' memory last ∧ k.Like last.store k' ∧
      k'.Bare last.store κ' ∧
      ∀ u, last.store.Extends u → u.equal (.object κ) (.object κ') = true := by
  have apart : ∀ entry ∈ ([] : List (Ref × Ref)), ¬ now.store.IsData 3 (.object entry.1) := nofun
  obtain ⟨w, memory, t, run, more, fits, twins⟩ :=
    makes_cloneUpTo .stored shared (declared.isData noFault holds bare) deep
      (.refl _) apart { stored } now.log (fits_start fresh members)
  obtain ⟨κ', k', rfl, holds', like, bare'⟩ := Kind.like_of_twins holds declared noFault more twins
  exact ⟨κ', k', memory, _, ⟨run, more, rfl, holds', fits.noError⟩, like, bare', fun u newer =>
    (twins_extends twins newer).equal (more.trans newer) (by decide)⟩

theorem cloneRecord_transport {clone : Value → Cloning Value} {memory memory' : Memory}
    {s t : Store} {log log' : List LogRecord} {v : Value} (bare : s.Untouched (.object κ))
    (read : clone (.object f)
      { memory with clones := (.object κ, .object s.size) :: memory.clones }
      ⟨s.push (.kind (.transport (.object f))), log⟩ = (.ok (v, memory'), ⟨t, log'⟩)) :
    cloneObject .stored clone κ (.kind (.transport (.object f))) memory ⟨s, log⟩ =
      (.ok (.object s.size, memory'), ⟨t.put s.size (.kind (.transport v)), log'⟩) := by
  change cloneRecord clone κ _ (Kind.transport (.object f)).record memory ⟨s, log⟩ = _
  have nothing : s.given.lookup (.object κ) = none := bare
  simp only [cloneRecord, state_bind_apply, state_lift_apply, Action.ask_apply, nothing]
  refine cloneAround_apply ?_
  simp only [Kind.record, List.mapM_cons, List.mapM_nil, state_bind_apply, state_lift_apply, read,
    Action.giveMaybe, Action.pure_apply, state_pure_apply, giveClones]
  rfl

theorem read_transport (fresh : now.store.Fresh)
    (shared : now.store.get? Store.emptyTupleRef = some (.tuple []))
    (members : ∀ entry ∈ stored, Stored.AsMember entry.1 entry.2)
    (holds : now.store.kind? κ = some (.transport (.object f)))
    (bare : now.store.Untouched (.object κ))
    (found : now.store.get? f = some (.fault fault)) (storable : fault.Storable now.store (n + 1))
    (deep : n + 1 ≤ m) :
    ∃ κ' g copy memory last,
      ReadBack now stored (m + 2) κ κ' (.transport (.object g)) memory last ∧
      now.store.size ≤ κ' ∧ now.store.size ≤ g ∧ last.store.get? g = some (.fault copy) ∧
      fault.Restores now.store last.store (fun _ => True) (n + 1) copy := by
  obtain ⟨s, log⟩ := now
  have place := Store.kind?_eq_some_iff.mp holds
  have apart : Value.object f ≠ .object κ := fun same => by
    cases same
    cases found.symm.trans place
  have noData : ∀ entry ∈ [(κ, s.size)], ∀ n, ¬ s.IsData n (.object entry.1) := by
    simpa using fun n => Store.not_isData_transport holds found
  have noError : ¬ IsError s (.object κ) := by
    rintro ⟨error, found'⟩
    cases place.symm.trans found'
  have fits := (fits_start fresh members).open noError (.kind (.transport (.object f)))
  have unknown : List.lookup (.object f) [(Value.object κ, Value.object s.size)] = none := by
    rw [lookup_cons, if_neg apart]
    rfl
  obtain ⟨g, copy, memory, t, run, more, fits', newer, finished, found', restores⟩ :=
    cloneFault_run shared found storable deep noData fits unknown log
  have bound : s.size < t.size := (fits'.bounds _ List.mem_cons_self).2
  have whole := (Store.extends_push s (.kind (.transport (.object f)))).trans more
  have there : (s.push (.kind (.transport (.object f)))).get? f = some (.fault fault) :=
    (Store.extends_push s _).get? found
  have read := (cloneUpTo_stored_apply fits.stored (m := m) rfl unknown).trans
    ((cloneByClass_apply there).trans run)
  have kept : ∀ q o, Finished [(κ, s.size)] q → t.get? q = some o →
      True ∧ (t.put s.size (.kind (.transport (.object g)))).get? q = some o :=
    fun q o finished here =>
      ⟨trivial, (Store.get?_put_ne _ (finished _ List.mem_cons_self)).trans here⟩
  refine ⟨s.size, g, copy, memory, ⟨t.put s.size (.kind (.transport (.object g))), log⟩,
    ⟨?_, ?_, rfl, ?_, fits'.noError⟩, Nat.le_refl _, newer, (kept _ _ finished found').2,
    restores.slots, restores.attributes.imp fun a b twins => ⟨twins.1, twins.2.imp kept⟩⟩
  · exact (cloneUpTo_stored_apply members rfl rfl).trans
      ((cloneByClass_apply place).trans (cloneRecord_transport bare read))
  · exact whole.put _
  · exact Store.kind?_eq_some_iff.mpr (Store.get?_put_self _ bound)

end Cloning

namespace Kind

variable {s t : Store} {k k' : Kind} {κ : Ref} {text : String}

def Shows (s : Store) (k : Kind) (text : String) : Prop :=
  ∀ n, k.plain s (s.renderUpTo (n + 2) []) = .ok text

theorem shows_of_ok (h : ∀ n, ∃ text, k.plain s (s.renderUpTo (n + 2) []) = .ok text) :
    ∃ text, k.Shows s text := by
  obtain ⟨text, made⟩ := h 0
  refine ⟨text, fun n => ?_⟩
  induction n with
  | zero => exact made
  | succ n ih => exact (k.lasts_plain s (s.lasts_renderUpTo (n + 2) [])).ok_of_ok ih

theorem Shows.extends (closed : s.Closed) (more : s.Extends t) (holds : s.kind? κ = some k)
    (shows : k.Shows s text) : k.Shows t text := by
  intro n
  have place := Store.kind?_eq_some_iff.mp holds
  refine (plain_congr more.toAgreesOn closed.closedOn (fun form v inside => ?_)
    (closed.parts κ _ place)).trans (shows n)
  exact more.renderUpTo closed.closedOn (n + 2) [] [] form v inside fun _ _ => Iff.rfl

theorem Shows.textOf (shows : k.Shows s text) (holds : s.kind? κ = some k) :
    Error.textOf s (.object κ) = .ok text :=
  (Error.textOf_of_kind holds).trans (shows (Store.depth - 2))

theorem Shows.plain_error (shows : k.Shows s text) {e : Ref} {error : Error}
    (found : s.get? e = some (.error error)) (holds : s.kind? error.kind = some k) :
    s.plain (.object e) = .ok text := by
  rw [Store.plain, Store.render_object found]
  simp only [Object.render, holds]
  exact shows (Store.depth - 3)

theorem Like.extends (like : k.Like s k') (more : s.Extends t) : k.Like t k' := by
  cases like with
  | reset side id id' reason reason' =>
    exact .reset side (more.get? id) (more.get? id') (more.get? reason) (more.get? reason')
  | goAway data side reason reason' =>
    exact .goAway data side (more.get? reason) (more.get? reason')
  | reason found found' => exact .reason (more.get? found) (more.get? found')
  | misuse m => exact .misuse m

theorem Like.shows (like : k.Like s k') (shows : k.Shows s text) : k'.Shows s text :=
  fun n => (like.plain (n + 1)).trans (shows n)

theorem plain_transport {f : Ref} {fault : Fault} (found : s.get? f = some (.fault fault))
    (n : Nat) : (Kind.transport (.object f)).plain s (s.renderUpTo (n + 2) []) =
      fault.plain (s.renderUpTo (n + 1)) [] f := by
  simp only [plain, Store.renderUpTo, found, Object.render]

end Kind

namespace Fault

/-- At `f` lies a fault that the constructor of a standard class built from values that refer to
nothing, and that was then given attributes and notes alone. Those that it has now are data, and
none of them stands in the place of the methods that give out its parts. -/
structure Ordinary (now : Session) (f : Ref) (fault : Fault) : Prop where
  found : now.store.get? f = some (.fault fault)
  history : ∃ (start built : Session) (cls : Class) (args : List Value), cls.isStandard ∧
    (∀ v ∈ args, v.Immediate) ∧
    (Script.Constructor.fault cls).apply args start = (.ok (.object f), built) ∧
    Adorned f built now
  unreplaced : fault.attributes.partsCall? .stored true = none
  data : ∀ v ∈ fault.attributes.map Prod.snd, now.store.IsData (Store.depth - 3) v

variable {now : Session} {f : Ref} {fault : Fault}

/-- The fault has the slots of a new one that the constructor of a standard class builds from values
that refer to nothing. -/
def FromConstants (fault : Fault) : Prop :=
  ∃ (s : Store) (cls : Class) (args : List Value) (base : Fault), cls.isStandard ∧
    (∀ v ∈ args, v.Immediate) ∧ ofArgs s cls args = .ok base ∧ base.SameSlots fault

theorem Ordinary.fromConstants (ordinary : Ordinary now f fault) :
    fault.FromConstants ∧ fault.attributes.names.Nodup := by
  obtain ⟨start, built, cls, args, standard, immediate, construction, adorned⟩ := ordinary.history
  simp only [Script.Constructor.apply, Action.bind_apply, Action.read_apply,
    construct_of_isStandard standard] at construction
  cases built' : ofArgs start.store cls args with
  | error => simp only [built'] at construction; cases construction
  | ok base =>
    simp only [built', Action.create_apply] at construction
    cases construction
    have attributes : base.attributes = [] := congrArg Carried.attributes (carried_of_ofArgs built')
    have wears : base.Wears (start.store.push (.fault base)) start.store.size :=
      ⟨base, Store.get?_push_size _ _, .refl base, attributes ▸ List.nodup_nil⟩
    obtain ⟨fault', found, same, distinct⟩ := wears.adorned adorned
    cases found.symm.trans ordinary.found
    exact ⟨⟨start.store, cls, args, base, standard, immediate, built', same⟩, distinct⟩

namespace FromConstants

theorem immediate (constant : fault.FromConstants) :
    fault.cls.isStandard ∧ (∀ v ∈ fault.args, v.Immediate) ∧ ∀ v ∈ fault.slots, v.Immediate := by
  obtain ⟨s, cls, args, base, standard, immediate, built, same⟩ := constant
  refine ⟨?_, ?_, ?_⟩
  · rw [same.cls, cls_of_ofArgs built]
    exact isStandard_classOf standard args
  · rw [same.args]
    exact fun v hv => immediate v (args_of_ofArgs built hv)
  · rw [same.slots]
    exact fun v hv => immediate v (slots_of_ofArgs built hv)

theorem ne_tls (constant : fault.FromConstants) : fault.cls ≠ .tls := by
  intro same
  have standard := constant.immediate.1
  rw [same] at standard
  cases standard

theorem storable (constant : fault.FromConstants) {s : Store} {n : Nat}
    (distinct : fault.attributes.names.Nodup)
    (unreplaced : fault.attributes.partsCall? .stored true = none)
    (data : ∀ v ∈ fault.attributes.map Prod.snd, s.IsData n v) : fault.Storable s n := by
  obtain ⟨standard, bareArgs, bareSlots⟩ := constant.immediate
  obtain ⟨t, cls, args, base, -, immediate, built, same⟩ := constant
  refine ⟨⟨base, same, congrArg Carried.attributes (carried_of_ofArgs built), fun t => ?_⟩,
    storedArgs_inside bareArgs bareSlots, distinct, unreplaced, data⟩
  rw [construct_of_isStandard standard, same.storedArgs, same.cls]
  exact ofArgs_storedArgs built immediate t

theorem shows (constant : fault.FromConstants) {s : Store}
    (found : s.get? f = some (.fault fault)) :
    ∃ text, (Kind.transport (.object f)).Shows s text ∧
      ∀ g copy, s.get? g = some (.fault copy) → fault.SameSlots copy →
        (Kind.transport (.object g)).Shows s text := by
  obtain ⟨-, args, slots⟩ := constant.immediate
  have notTls := constant.ne_tls
  obtain ⟨text, shows⟩ := Kind.shows_of_ok fun n =>
    (plain_ok notTls args slots n f).imp fun _ made => (Kind.plain_transport found n).trans made
  refine ⟨text, shows, fun g copy found' same n => ?_⟩
  have none : s.ClosedOn fun _ => False := ⟨fun _ _ none => none.elim, fun _ none => none.elim⟩
  have alike := (Store.AgreesOn.refl (fun _ => False) s).renderUpTo none (n + 1)
  rw [Kind.plain_transport found' n, same.plain_eq alike notTls args,
    ← Kind.plain_transport found n]
  exact shows n

end FromConstants

theorem Ordinary.storable (ordinary : Ordinary now f fault) :
    fault.Storable now.store (Store.depth - 3) :=
  ordinary.fromConstants.1.storable ordinary.fromConstants.2 ordinary.unreplaced ordinary.data

end Fault

namespace Error

variable {now : Session} {e : Ref} {error : Error} {k : Kind}

def AnswerAlike (now : Session) (e c : Ref) (q : Inspection) : Prop :=
  Action.inspect (.object c) q now = Action.inspect (.object e) q now ∨
    ∃ v w, Action.inspect (.object e) q now = (.ok v, now) ∧
      Action.inspect (.object c) q now = (.ok w, now) ∧ now.store.equal v w = true

theorem clone_stored_apply (found : now.store.get? e = some (.error error)) {storage : Storage}
    (looked : Storing.storeUpTo (Store.depth - 1 + 1) (.object e) {} now =
      (.ok (⟨⟩, storage), now))
    (members : ∀ entry ∈ storage.stored, Stored.AsMember entry.1 entry.2)
    {κ : Ref} {k' : Kind} {memory : Memory} {mid : Session}
    (back : Cloning.ReadBack now storage.stored (Store.depth - 1) error.kind κ k' memory mid)
    {text : String} (shown : textOf mid.store (.object κ) = .ok text) :
    Action.clone .stored (.object e) now = (.ok (.object mid.store.size),
      { mid with store := mid.store.push (.error (cloned κ text)) }) := by
  change (Storing.storeUpTo (Store.depth - 1 + 1) (.object e) {} >>= fun looked =>
    (Cloning.cloneUpTo .stored (Store.depth - 1 + 1) (.object e)).run'
      { stored := looked.2.stored }) now = _
  have unknown : memory.clones.lookup (.object e) = none := by
    cases known : memory.clones.lookup (.object e) with
    | none => rfl
    | some w => exact absurd ⟨error, found⟩ (back.noError _ w known)
  have step : Cloning.cloneUpTo .stored (Store.depth - 1 + 1) (.object e)
      { stored := storage.stored } now = _ :=
    (Cloning.cloneUpTo_stored_apply members rfl rfl).trans (Cloning.cloneByClass_apply found)
  rw [Action.bind_apply, looked]
  simp only [state_run'_apply, step, Cloning.cloneObject, reduceCtorEq, false_and, if_false,
    state_bind_apply, back.run, state_lift_apply, around_apply, shown,
    Cloning.unlessReadBack_apply unknown]
  rfl

/-- The error at `e` was stored and read back as the new one at `c`, which is a bare one of the base
class around the kind `k'` at `κ`. Both errors show one text, and nothing else has changed. -/
structure Restored (now last : Session) (e c κ : Ref) (k' : Kind) : Prop where
  run : Action.clone .stored (.object e) now = (.ok (.object c), last)
  more : now.store.Extends last.store
  log : last.log = now.log
  new : now.store.size ≤ c
  holds : last.store.kind? κ = some k'
  shown : ∃ text, last.store.get? c = some (.error (cloned κ text)) ∧
    now.store.plain (.object e) = .ok text ∧ last.store.plain (.object e) = .ok text ∧
    last.store.plain (.object c) = .ok text

theorem restored_of_read (found : now.store.get? e = some (.error error))
    (closed : now.store.Closed) (holds : now.store.kind? error.kind = some k) {storage : Storage}
    (looked : Storing.storeUpTo (Store.depth - 1 + 1) (.object e) {} now =
      (.ok (⟨⟩, storage), now))
    (members : ∀ entry ∈ storage.stored, Stored.AsMember entry.1 entry.2)
    {κ : Ref} {k' : Kind} {memory : Memory} {mid : Session}
    (back : Cloning.ReadBack now storage.stored (Store.depth - 1) error.kind κ k' memory mid)
    {text : String} (shows : k.Shows now.store text)
    (shows' : ∀ t, mid.store.Extends t → k'.Shows t text) :
    ∃ c last, Restored now last e c κ k' ∧ mid.store.Extends last.store := by
  have newer := Store.extends_push mid.store (.error (cloned κ text))
  have there := Store.get?_push_size mid.store (.error (cloned κ text))
  have whole := back.more.trans newer
  have old := whole.kind? holds
  have kept := newer.kind? back.holds
  have run := clone_stored_apply found looked members back
    ((shows' _ (.refl _)).textOf back.holds)
  exact ⟨_, _, ⟨run, whole, back.log, back.more.size_le, kept, text, there,
    shows.plain_error found holds,
    (shows.extends closed whole holds).plain_error (whole.get? found) old,
    (shows' _ newer).plain_error there kept⟩, newer⟩

variable (sound : now.store.Sound) (found : now.store.get? e = some (.error error))
  (unreplaced : error.attributes.partsCall? .stored true = none)
include sound found unreplaced

theorem restored_like (holds : now.store.kind? error.kind = some k)
    (declared : k.Declared now.store) (noFault : k.isTransport = false)
    (bare : k.Bare now.store error.kind) :
    ∃ c κ k' last, Restored now last e c κ k' ∧ k.Like last.store k' ∧ k'.Bare last.store κ ∧
      last.store.equal (.object error.kind) (.object κ) = true := by
  obtain ⟨storage, looked, members⟩ := (Storing.passes_error (m := Store.depth - 1) found unreplaced
    (Storing.passes_of_isData (declared.isData noFault holds bare) (by decide))).start
  obtain ⟨κ, k', memory, mid, back, like, bare', equal⟩ := Cloning.read_like (m := Store.depth - 1)
    sound.closed.fresh sound.emptyTuple members holds declared noFault bare (by decide)
  obtain ⟨text, shows⟩ := Kind.shows_of_ok fun n => declared.plain_ok noFault (n + 1)
  obtain ⟨c, last, restored, newer⟩ := restored_of_read found sound.closed holds looked members back
    shows fun t newer =>
      (like.extends newer).shows (shows.extends sound.closed (back.more.trans newer) holds)
  exact ⟨c, κ, k', last, restored, like.extends newer, bare'.extends newer, equal _ newer⟩

theorem restored_transport {f : Ref} {fault : Fault}
    (holds : now.store.kind? error.kind = some (.transport (.object f)))
    (bare : (Kind.transport (.object f)).Bare now.store error.kind)
    (there : now.store.get? f = some (.fault fault)) (constant : fault.FromConstants)
    (storable : fault.Storable now.store (Store.depth - 3)) :
    ∃ c κ g last copy, Restored now last e c κ (.transport (.object g)) ∧
      (Kind.transport (.object g)).Bare last.store κ ∧ now.store.size ≤ g ∧
      last.store.get? g = some (.fault copy) ∧
      fault.Restores now.store last.store (fun _ => True) (Store.depth - 3) copy := by
  have deep : Store.depth - 3 = Store.depth - 4 + 1 := rfl
  rw [deep] at storable ⊢
  obtain ⟨storage, looked, members⟩ := (Storing.passes_error (m := Store.depth - 1) found unreplaced
    (Storing.passes_transport holds (bare.attributesOf holds)
      (Storing.passes_fault (m := Store.depth - 3) there storable (by decide)))).start
  obtain ⟨κ, g, copy, memory, mid, back, new, new', found', restores⟩ := Cloning.read_transport
    (m := Store.depth - 3) sound.closed.fresh sound.emptyTuple members holds
    (bare _ List.mem_cons_self) there storable (by decide)
  obtain ⟨text, shows, -⟩ := constant.shows there
  obtain ⟨c, last, restored, newer⟩ := restored_of_read found sound.closed holds looked members back
    shows fun t newer => by
      have whole := back.more.trans newer
      obtain ⟨text', same, copies⟩ := constant.shows (whole.get? there)
      cases (shows.extends sound.closed whole holds 0).symm.trans (same 0)
      exact copies g copy (newer.get? found') restores.slots
  have untouched : ∀ {q : Ref}, now.store.size ≤ q → last.store.Untouched (.object q) :=
    fun behind => restored.more.bare (sound.closed.fresh _ behind)
  refine ⟨c, κ, g, last, copy, restored, List.forall_mem_cons.mpr ⟨untouched new,
    List.forall_mem_singleton.mpr (untouched new')⟩, new', newer.get? found', restores.slots, ?_⟩
  exact restores.attributes.imp fun a b twins =>
    ⟨twins.1, twins.2.imp fun q o _ there => ⟨trivial, newer.get? there⟩⟩

end Error

/-- An error with a kind of the declared types comes back from its stored form, around a kind of
the same class. A kind without a fault is equal to the one that comes back, and the two errors
answer alike; a fault comes back as a new one of its class, with the same slots and with equal
attributes. -/
theorem restored_alike {now : Session} (sound : now.store.Sound) {e : Ref} {error : Error}
    {k : Kind} (found : now.store.get? e = some (.error error))
    (holds : now.store.kind? error.kind = some k) (declared : k.Declared now.store)
    (bare : k.Bare now.store error.kind)
    (unreplaced : error.attributes.partsCall? .stored true = none)
    (ordinary : ∀ f, k = .transport (.object f) → ∃ fault, Fault.Ordinary now f fault) :
    ∃ c κ k' last, Error.Restored now last e c κ k' ∧
      k'.record.className = k.record.className ∧
      (k.isTransport = false → last.store.equal (.object error.kind) (.object κ) = true ∧
        ∀ q : Inspection, error.attributes.get? q.method = none →
          Error.AnswerAlike last e c q) ∧
      ∀ f fault, k = .transport (.object f) → now.store.get? f = some (.fault fault) →
        ∃ g copy, k' = .transport (.object g) ∧ now.store.size ≤ g ∧
          last.store.get? g = some (.fault copy) ∧ fault.SameSlots copy ∧
          List.Forall₂ (fun a b => b.1 = a.1 ∧ last.store.equal a.2 b.2 = true)
            fault.attributes copy.attributes := by
  cases transport : k.isTransport with
  | false =>
    obtain ⟨c, κ, k', last, restored, like, -, equal⟩ :=
      Error.restored_like sound found unreplaced holds declared transport bare
    refine ⟨c, κ, k', last, restored, like.className, fun _ => ⟨equal, fun q visible => ?_⟩, ?_⟩
    · obtain ⟨text, there, -⟩ := restored.shown
      have old : last.store.kind? error.kind = some k := restored.more.kind? holds
      rw [Error.AnswerAlike, Error.inspect_of_kind (restored.more.get? found) old visible,
        Error.inspect_of_kind there restored.holds rfl]
      exact like.inspect _ q
    · rintro f fault rfl
      cases transport
  | true =>
    obtain ⟨f, fault, rfl, here⟩ := declared.transport transport
    obtain ⟨fault, ord⟩ := ordinary f rfl
    obtain ⟨c, κ, g, last, copy, restored, -, new, found', restores⟩ :=
      Error.restored_transport sound found unreplaced holds bare ord.found ord.fromConstants.1
        ord.storable
    refine ⟨c, κ, _, last, restored, rfl, nofun, ?_⟩
    rintro _ fault' ⟨⟩ found''
    cases ord.found.symm.trans found''
    refine ⟨g, copy, rfl, new, found', restores.slots, restores.attributes.imp fun a b twins => ?_⟩
    exact ⟨twins.1, twins.2.equal restored.more (by decide)⟩

/-- A missing file with two names and a list as an attribute, within an error of an application. -/
theorem restored_alike_fileNotFound :
    let fault : Fault :=
      { cls := .fileNotFound, args := [.int 2, .text "gone"], errorNumber := some (.int 2),
        errorText := some (.text "gone"), fileName := some (.text "a"),
        fileName2 := some (.bytes [98]), attributes := [("seen", .object 16)] }
    let error : Error :=
      { cls := .application, kind := 18, args := [.text "gone"], attributes := [("extra", .int 1)] }
    let now : Session :=
      ⟨(((Store.initial.push (.list [.int 3])).push (.fault fault)).push
        (.kind (.transport (.object 17)))).push (.error error), []⟩
    ∃ c κ last g copy, Error.Restored now last 19 c κ (.transport (.object g)) ∧ 20 ≤ g ∧
      last.store.get? g = some (.fault copy) ∧ fault.SameSlots copy ∧
      List.Forall₂ (fun a b => b.1 = a.1 ∧ last.store.equal a.2 b.2 = true)
        fault.attributes copy.attributes := by
  intro fault error now
  have there : now.store.get? 17 = some (.fault fault) := by decide
  have found : now.store.get? 19 = some (.error error) := by decide
  have holds : now.store.kind? error.kind = some (.transport (.object 17)) := by decide
  have sound : now.store.Sound :=
    (((Store.initial_sound.push (by decide)).push (by decide)).push (by decide)).push (by decide)
  have data : now.store.IsData (Store.depth - 3) (.object 16) := by
    have list : now.store.get? 16 = some (.list [.int 3]) := by decide
    refine .object list rfl rfl fun v hv => ?_
    cases List.mem_singleton.mp hv
    exact .immediate trivial
  have ordinary : Fault.Ordinary now 17 fault := by
    let start : Session := ⟨Store.initial.push (.list [.int 3]), []⟩
    let args : List Value := [.int 2, .text "gone", .text "a", .null, .bytes [98]]
    have immediate : ∀ v ∈ args, v.Immediate := by
      simp only [args, List.forall_mem_cons]
      exact ⟨trivial, trivial, trivial, trivial, trivial, nofun⟩
    refine ⟨there, ⟨start, _, .general, args, rfl, immediate, rfl, ?_⟩, by decide, ?_⟩
    · exact .elsewhere (.change (.refl _) (.set "seen" (.object 16)) rfl) (by decide)
    · intro v hv
      cases List.mem_singleton.mp hv
      exact data
  obtain ⟨c, κ, k', last, restored, -, -, outcome⟩ := restored_alike sound found holds
    (.ofFailure (.transport there)) (by decide) rfl fun f same => by
      cases same
      exact ⟨fault, ordinary⟩
  obtain ⟨g, copy, rfl, new, found', same, attributes⟩ := outcome 17 fault rfl there
  exact ⟨c, κ, last, g, copy, restored, new, found', same, attributes⟩

/-- What is not promised. The fault at 18 has attributes that are no data, an exception and a number
that is not equal to itself, and what comes back of them is not equal to them. An attribute of the
error at 22 stands in the place of a method that gives out its parts, so that it cannot be stored;
one of the error at 23 hides a question, which the error that comes back answers. -/
theorem restored_apart :
    let fault : Fault :=
      { cls := .general, attributes := [("origin", .object 16), ("ratio", .object 17)] }
    let now : Session :=
      ⟨(((((((Store.initial.push (.exception { cls := .value })).push
        (.float 0x7ff8000000000000)).push (.fault fault)).push
        (.kind (.transport (.object 18)))).push (.error { cls := .base, kind := 19 })).push
        (.kind (.misuse (.misuse .rejected)))).push
        (.error { cls := .base, kind := 21, attributes := [("__reduce_ex__", .int 5)] })).push
        (.error { cls := .base, kind := 21, attributes := [("is_user", .int 5)] }), []⟩
    now.store.Sound ∧
    (∃ start built, (Script.Constructor.fault .general).apply [] start = (.ok (.object 18), built) ∧
      Adorned 18 built now) ∧
    (∃ c κ last g copy, Error.Restored now last 20 c κ (.transport (.object g)) ∧
      last.store.get? g = some (.fault copy) ∧
      List.Forall₂ (fun a b => b.1 = a.1 ∧ last.store.equal a.2 b.2 = false)
        fault.attributes copy.attributes) ∧
    Action.clone .stored (.object 22) now = (.error (.notCallable "int"), now) ∧
    ∃ c κ k last, Error.Restored now last 23 c κ k ∧
      ¬ Error.AnswerAlike last 23 c .isMisuse := by
  intro fault now
  have sound : now.store.Sound :=
    (((((((Store.initial_sound.push (by decide)).push (by decide)).push (by decide)).push
      (by decide)).push (by decide)).push (by decide)).push (by decide)).push (by decide)
  refine ⟨sound, ?_, ?_, ?_, ?_⟩
  · let start : Session :=
      ⟨(Store.initial.push (.exception { cls := .value })).push (.float 0x7ff8000000000000), []⟩
    refine ⟨start, _, rfl, .elsewhere (.change (.change (.refl _) (.set "origin" (.object 16)) rfl)
      (.set "ratio" (.object 17)) rfl) ?_⟩
    decide
  · let copy : Fault :=
      { cls := .general, attributes := [("origin", .object 26), ("ratio", .object 27)] }
    let last : Session :=
      ⟨((((now.store.push (.kind (.transport (.object 25)))).push (.fault copy)).push
        (.exception { cls := .value })).push (.float 0x7ff8000000000000)).push
        (.error (Error.cloned 24 "")), []⟩
    have run : Action.clone .stored (.object 20) now = (.ok (.object 28), last) := by
      decide +kernel
    have more : now.store.Extends last.store :=
      ((((Store.extends_push _ _).trans (Store.extends_push _ _)).trans
        (Store.extends_push _ _)).trans (Store.extends_push _ _)).trans (Store.extends_push _ _)
    refine ⟨28, 24, last, 25, copy, ⟨run, more, rfl, by decide, by decide, "", ?_⟩, by decide,
      .cons ⟨rfl, ?_⟩ (.cons ⟨rfl, ?_⟩ .nil)⟩
    all_goals decide +kernel
  · decide +kernel
  · let last : Session :=
      ⟨(now.store.push (.kind (.misuse (.misuse .rejected)))).push
        (.error (Error.cloned 24 "user error: rejected")), []⟩
    have run : Action.clone .stored (.object 23) now = (.ok (.object 25), last) := by
      decide +kernel
    have more : now.store.Extends last.store :=
      (Store.extends_push _ _).trans (Store.extends_push _ _)
    have asked : (Action.inspect (.object 23) .isMisuse last).1 = .error (.notCallable "int") := by
      decide +kernel
    have answered : (Action.inspect (.object 25) .isMisuse last).1 = .ok (.bool true) := by
      decide +kernel
    refine ⟨25, 24, .misuse (.misuse .rejected), last,
      ⟨run, more, rfl, by decide, by decide, "user error: rejected", ?_⟩, ?_⟩
    · decide +kernel
    · rintro (same | ⟨v, w, given, -⟩)
      · rw [same, asked] at answered
        cases answered
      · rw [given] at asked
        cases asked

end Http2Failure
