import Http2Failure.Proofs.Change
import Http2Failure.Proofs.Holding
import Http2Failure.Proofs.Untouched
import Mathlib.Data.List.Forall2

/-!
# What actions do to a session

Everything that an action does to a session is a sequence of a few deeds: it makes new objects,
writes into those that are there, calls the constructor of a frozen one again, gives something to a
value, and writes to the log. A clone is made first and filled with its parts later, which counts as
one deed, since nothing that was there before is touched by it. What an action may do beside making
objects is a matter of a licence, so that one walk through the program serves for all that is
claimed of its effects. A tidy licence is about sound stores: every deed then keeps its store sound,
and what an action returns is there.
-/

namespace Http2Failure

def Action.NamesMethod (name : String) : Prop :=
  ∃ call v o?, (Action.method? call v o? name).isSome

inductive Deed where
  | write
  /-- The constructor of the frozen object at the place is called again. -/
  | remake (r : Ref)
  /-- A state is entered into the frozen object at the place, under the name of a field. -/
  | restate (r : Ref)
  /-- The error at the place is given other arguments. -/
  | assign (r : Ref)
  /-- The error at the place is given other attributes. -/
  | wear (r : Ref)
  /-- A member of an enumeration is given something, or a frozen object beside its fields. -/
  | give (v : Value)
  | log
deriving DecidableEq

/-- What may be done in a store. Objects may always be made. -/
structure Licence where
  may : Store → Deed → Prop
  /-- Whether the stores are sound. -/
  tidy : Prop

namespace Licence

/-- The value is there, where the stores are sound. -/
abbrev Has (L : Licence) (s : Store) (v : Value) : Prop := L.tidy → s.Has v

abbrev HasAll (L : Licence) (s : Store) (vs : List Value) : Prop := ∀ v ∈ vs, L.Has s v

abbrev Sound (L : Licence) (s : Store) : Prop := L.tidy → s.Sound

variable {L : Licence} {s t : Store} {v : Value} {vs : List Value}

theorem hasAll_of (h : L.tidy → ∀ v ∈ vs, s.Has v) : L.HasAll s vs := fun v hv tidy => h tidy v hv

theorem HasAll.tidy (h : L.HasAll s vs) (tidy : L.tidy) : ∀ v ∈ vs, s.Has v :=
  fun v hv => h v hv tidy

theorem Has.grows (has : L.Has s v) (grown : s.Grows t) : L.Has t v :=
  fun tidy => grown.has (has tidy)

theorem HasAll.grows (has : L.HasAll s vs) (grown : s.Grows t) : L.HasAll t vs :=
  fun v hv => (has v hv).grows grown

theorem Sound.parts (sound : L.Sound s) {r : Ref} {o : Object} (found : s.get? r = some o) :
    L.HasAll s o.parts := fun v hv tidy => (sound tidy).closed.parts r o found v hv

theorem has_place {r : Ref} {o : Object} (found : s.get? r = some o) : L.Has s (.object r) :=
  fun _ => Store.lt_size_of_get? found

theorem hasAll_nil : L.HasAll s [] := nofun

theorem hasAll_cons {v : Value} (has : L.Has s v) (rest : L.HasAll s vs) : L.HasAll s (v :: vs) :=
  List.forall_mem_cons.mpr ⟨has, rest⟩

theorem hasAll_one {v : Value} (has : L.Has s v) : L.HasAll s [v] := hasAll_cons has hasAll_nil

theorem hasAll_append {ws : List Value} (first : L.HasAll s vs) (second : L.HasAll s ws) :
    L.HasAll s (vs ++ ws) := fun v hv => (List.mem_append.mp hv).elim (first v) (second v)

end Licence

namespace Store

def giveMaybe (s : Store) (v : Value) : Option Attributes → Store
  | some attrs => s.give v attrs
  | none => s

def pushWith (s : Store) (o : Object) (given? : Option Attributes) : Store :=
  (s.push o).giveMaybe (.object s.size) given?

end Store

namespace Object

/-- What a write makes of an object that is there. -/
inductive Revises (s : Store) : Object → Object → Prop
  | list (items items' : List Value) : Revises s (.list items) (.list items')
  | buffer (content content' : List UInt8) : Revises s (.buffer content) (.buffer content')
  | view (source : Value) : Revises s (.view source) .released
  | released : Revises s .released .released
  | set {o o' : Object} {name : String} {v : Value} (h : o.withAttribute s name v = .ok o') :
    Revises s o o'
  | delete {o o' : Object} {name : String} (h : o.withoutAttribute name = .ok o') : Revises s o o'
  | argsTuple {o : Object} {c : Carried} (carried : o.carried? = some c) {place : Ref}
    (held : c.args ≠ [] → s.get? place = some (.tuple c.args)) :
    Revises s o (o.withCarried { c with argsTuple := some place })
  | cause {o : Object} {c : Carried} (carried : o.carried? = some c) (cause : Option Ref) :
    Revises s o (o.withCarried (c.withCause cause))
  | arguments {e : PlainException} (args : List Value) :
    Revises s (.exception e) (.exception { e with toCarried := e.toCarried.withArgs args none })
  | fault {f f' : Fault} (same : f'.cls = f.cls) : Revises s (.fault f) (.fault f')
  | checked {o o' : Object} (h : o.checked s = .ok o') : Revises s o o'

/-- Where an object comes from when it is made. A frozen one whose constructor looks at its parts
comes from there, or is like one that is there already and to which nothing was given. A bound
method has the name of some method, or of one that is bound already. -/
structure MadeIn (o : Object) (s : Store) : Prop where
  checked : o.isChecked = true →
    (∃ r, s.get? r = some o ∧ s.given.lookup (.object r) = none) ∨
      ∃ o₀ : Object, o₀.checked s = .ok o
  bound : ∀ owner name, o = .method owner name →
    Action.NamesMethod name ∨ ∃ r owner, s.get? r = some (.method owner name)

/-- Nothing is asked of where the object comes from. -/
def isPlain : Object → Bool
  | .reason _ | .streamId _ | .report (.goAway ..) | .method .. => false
  | _ => true

/-- What becomes of a clone that is filled: a frozen one keeps its immediate fields. -/
inductive FilledWith : Object → Object → Prop
  | loose {o o' : Object} (noRecord : o.record? = none) (nature : o'.nature = o.nature) :
    FilledWith o o'
  | frozen {o : Object} {record : Record} {fields : List Value} (frozen : o.record? = some record)
    (same : List.Forall₂ (fun field v => field.2.Immediate → v = field.2) record.fields fields) :
    FilledWith o (o.withFields fields)

def errorArgs : Object → List Value
  | .error e => e.args
  | _ => []

def errorAttributes : Object → Attributes
  | .error e => e.attributes
  | _ => []

end Object

/-- An object that can be made, with what it is given. A frozen one that is given something may come
from anywhere. -/
structure MadeWith (L : Licence) (s : Store) (o : Object) (given? : Option Attributes) : Prop where
  made : o.MadeIn s ∨ o.record?.isSome ∧ given?.isSome
  held : L.HasAll s o.parts
  given : ∀ attrs, given? = some attrs → L.HasAll s (attrs.map Prod.snd)

theorem MadeWith.of_madeIn {L : Licence} {s : Store} {o : Object} (made : o.MadeIn s)
    (held : L.HasAll s o.parts) : MadeWith L s o none := ⟨.inl made, held, nofun⟩

/-- All that was done between two sessions. -/
inductive Deeds (L : Licence) : Session → Session → Prop
  | none (now : Session) : Deeds L now now
  | trans {now mid after : Session} : Deeds L now mid → Deeds L mid after → Deeds L now after
  | push {now : Session} {o : Object} {given? : Option Attributes}
    (made : MadeWith L now.store o given?) :
    Deeds L now { now with store := now.store.pushWith o given? }
  /-- A clone that is made empty and filled later, whatever was done in between. -/
  | around {now mid : Session} {o o' : Object} {given? given'? : Option Attributes}
    (made : MadeWith L now.store o given?)
    (inner : Deeds L { now with store := now.store.pushWith o given? } mid)
    (filled : o.FilledWith o') (held : L.HasAll mid.store o'.parts)
    (given : ∀ attrs, given'? = some attrs → L.HasAll mid.store (attrs.map Prod.snd)) :
    Deeds L now { mid with
      store := (mid.store.giveMaybe (.object now.store.size) given'?).put now.store.size o' }
  | write {now : Session} {r : Ref} {o o' : Object} (may : L.may now.store .write)
    (found : now.store.get? r = some o) (revises : o.Revises now.store o')
    (held : L.HasAll now.store o'.parts)
    (assigns : o'.errorArgs ≠ o.errorArgs → L.may now.store (.assign r))
    (wears : o'.errorAttributes ≠ o.errorAttributes → L.may now.store (.wear r)) :
    Deeds L now { now with store := now.store.put r o' }
  | give {now : Session} {v : Value} (may : L.may now.store (.give v)) (has : L.Has now.store v)
    {attrs : Attributes} (held : L.HasAll now.store (attrs.map Prod.snd)) :
    Deeds L now { now with store := now.store.give v attrs }
  | remake {now : Session} {r : Ref} {o : Object} (may : L.may now.store (.remake r))
    (found : now.store.get? r = some o) (frozen : o.record?.isSome) {fields : List Value}
    (held : L.HasAll now.store fields) :
    Deeds L now { now with store := now.store.put r (o.withFields fields) }
  /-- To an object that is given a state something was given before. -/
  | restate {now : Session} {r : Ref} {o : Object} {record : Record}
    (may : L.may now.store (.restate r)) (found : now.store.get? r = some o)
    (frozen : o.record? = some record) (touched : now.store.given.lookup (.object r) ≠ .none)
    (name : String) {value : Value} (held : L.Has now.store value) :
    Deeds L now { now with store := now.store.put r (o.withField record name value) }
  | log {now : Session} (may : L.may now.store .log) (record : LogRecord) :
    Deeds L now { now with log := now.log ++ [record] }

namespace Carried

variable {c c' : Carried}

def SameArgs (c c' : Carried) : Prop := c'.args = c.args ∧ c'.argsTuple = c.argsTuple

theorem sameArgs_of_setSlot {s : Store} {name : String} {v : Value} {slot : Slot}
    (set : c.setSlot s name v slot = .ok c') (other : slot ≠ .args) : c.SameArgs c' := by
  cases slot with
  | args => exact absurd rfl other
  | cause | context | suppressContext | traceback =>
    simp only [setSlot] at set
    split at set
    · cases set
      exact ⟨rfl, rfl⟩
    · cases set
  | cls | dictionary | kind => cases set
  | _ =>
    cases set
    exact ⟨rfl, rfl⟩

theorem sameArgs_of_deleteSlot {className name : String} {slot : Slot}
    (deleted : c.deleteSlot className name slot = .ok c') : c.SameArgs c' := by
  cases slot with
  | args | cause | context | traceback | suppressContext | cls | dictionary | kind => cases deleted
  | _ =>
    simp only [deleteSlot, deleteFree] at deleted
    split at deleted
    · cases deleted
      exact ⟨rfl, rfl⟩
    · cases deleted

end Carried

namespace Object

variable {s : Store} {o o' : Object}

theorem eq_method_of_nature {owner : Value} {name : String} (h : o.nature = .method owner name) :
    o = .method owner name := by
  have loose := loose_of_nature (p := .method owner name) h rfl
  cases o with
  | method => exact h
  | report | sendFailure | kind => cases loose
  | _ => cases h

theorem eq_tuple_of_nature {items : List Value} (h : o.nature = .tuple items) :
    o = .tuple items := by
  have loose := loose_of_nature (p := .tuple items) h rfl
  cases o with
  | tuple => exact h
  | report | sendFailure | kind => cases loose
  | _ => cases h

theorem eq_error_of_nature {e : Error} (h : o.nature = (Object.error e).nature) :
    ∃ e', o = .error e' ∧ e'.kind = e.kind := by
  have loose := loose_of_nature h rfl
  cases o with
  | error e' =>
    cases e'
    cases h
    exact ⟨_, rfl, rfl⟩
  | report | sendFailure | kind => cases loose
  | _ => cases h

theorem eq_fault_of_nature {f : Fault} (h : o.nature = (Object.fault f).nature) :
    ∃ f', o = .fault f' ∧ f'.cls = f.cls := by
  have loose := loose_of_nature h rfl
  cases o with
  | fault f' =>
    cases f'
    cases h
    exact ⟨_, rfl, rfl⟩
  | report | sendFailure | kind => cases loose
  | _ => cases h

theorem Revises.nature (h : o.Revises s o') : o'.nature = o.nature := by
  cases h with
  | set h => exact nature_withAttribute h
  | delete h => exact nature_withoutAttribute h
  | argsTuple | cause => exact nature_withCarried _ _
  | fault same => exact nature_fault same
  | checked h => exact nature_of_checked h
  | _ => rfl

/-- Nothing can be written into a frozen object but what its constructor has checked. -/
theorem Revises.of_frozen (h : o.Revises s o') (frozen : o.record?.isSome) :
    o.checked s = .ok o' := by
  cases h with
  | checked h => exact h
  | set h =>
    have exception := isException_of_withAttribute h
    cases o <;> cases frozen <;> cases exception
  | delete h =>
    have exception := isException_of_withoutAttribute h
    cases o <;> cases frozen <;> cases exception
  | argsTuple carried | cause carried => cases o <;> cases frozen <;> cases carried
  | _ => cases frozen

theorem errorArgs_withoutAttribute {name : String} (h : o.withoutAttribute name = .ok o') :
    o'.errorArgs = o.errorArgs := by
  cases o with
  | fault f =>
    obtain ⟨f', -, h⟩ := bind_eq_ok.mp h
    cases h
    rfl
  | exception e =>
    obtain ⟨c, -, h⟩ := bind_eq_ok.mp h
    cases h
    rfl
  | error e =>
    obtain ⟨c, deleted, h⟩ := bind_eq_ok.mp h
    cases h
    exact (Carried.sameArgs_of_deleteSlot deleted).1
  | _ => exact absurd (isException_of_withoutAttribute h) Bool.false_ne_true

theorem errorArgs_withAttribute {name : String} {v : Value} (other : name ≠ "args")
    (h : o.withAttribute s name v = .ok o') : o'.errorArgs = o.errorArgs := by
  cases o with
  | fault f =>
    obtain ⟨f', -, h⟩ := bind_eq_ok.mp h
    cases h
    rfl
  | exception e =>
    obtain ⟨c, -, h⟩ := bind_eq_ok.mp h
    cases h
    rfl
  | error e =>
    obtain ⟨e', set, h⟩ := bind_eq_ok.mp h
    cases h
    obtain ⟨cls, rfl⟩ | ⟨c, carried, rfl⟩ := Error.cases_of_setSlot set
    · rfl
    · exact (Carried.sameArgs_of_setSlot carried fun slot => other (eq_args_of_slot slot)).1
  | _ => exact absurd (isException_of_withAttribute h) Bool.false_ne_true

theorem errorParts_of_checked (h : o.checked s = .ok o') :
    o'.errorArgs = o.errorArgs ∧ o'.errorAttributes = o.errorAttributes := by
  unfold checked at h
  split at h
  · obtain ⟨r, -, h⟩ := bind_eq_ok.mp h
    cases h
    exact ⟨rfl, rfl⟩
  · obtain ⟨i, -, h⟩ := bind_eq_ok.mp h
    cases h
    exact ⟨rfl, rfl⟩
  · split at h
    · cases h
      exact ⟨rfl, rfl⟩
    · cases h
  · cases h
    exact ⟨rfl, rfl⟩

theorem FilledWith.nature (h : o.FilledWith o') : o'.nature = o.nature := by
  cases h with
  | loose noRecord nature => exact nature
  | frozen => exact nature_withFields _ _

theorem madeIn_of_plain (plain : o.isPlain = true) : o.MadeIn s := by
  cases o with
  | reason | streamId | method => cases plain
  | report r =>
    cases r with
    | goAway => cases plain
    | _ => exact ⟨nofun, nofun⟩
  | _ => exact ⟨nofun, nofun⟩

theorem madeIn_method {owner : Value} {name : String}
    (bound : Action.NamesMethod name ∨ ∃ r owner, s.get? r = some (.method owner name)) :
    (Object.method owner name).MadeIn s where
  checked := nofun
  bound _ _ same := by
    cases same
    exact bound

theorem madeIn_of_found {r : Ref} (found : s.get? r = some o)
    (bare : s.given.lookup (.object r) = none) : o.MadeIn s where
  checked _ := .inl ⟨r, found, bare⟩
  bound owner _ same := .inr ⟨r, owner, same ▸ found⟩

theorem nature_withField (o : Object) (record : Record) (name : String) (v : Value) :
    (o.withField record name v).nature = o.nature := nature_withFields _ _

theorem Held.withField {record : Record} (frozen : o.record? = some record) {name : String}
    {v : Value} (held : o.Held s) (has : s.Has v) : (o.withField record name v).Held s := by
  refine Held.withFields held fun w hw => ?_
  obtain ⟨field, member, rfl⟩ := List.mem_map.mp hw
  split
  · exact has
  · exact held_field held frozen _ (List.mem_map_of_mem member)

end Object

namespace Store

variable {s : Store} {v : Value} {given? : Option Attributes}

@[simp] theorem get?_giveMaybe (r : Ref) : (s.giveMaybe v given?).get? r = s.get? r := by
  cases given? <;> rfl

@[simp] theorem size_giveMaybe : (s.giveMaybe v given?).size = s.size := by
  cases given? <;> rfl

theorem grows_giveMaybe (s : Store) (v : Value) (given? : Option Attributes) :
    s.Grows (s.giveMaybe v given?) :=
  fun r o found => ⟨o, (get?_giveMaybe r).trans found, rfl⟩

theorem lookup_giveMaybe_of_ne {w : Value} (s : Store) (given? : Option Attributes)
    (other : w ≠ v) :
    (s.giveMaybe v given?).given.lookup w = s.given.lookup w := by
  cases given? with
  | none => rfl
  | some attrs => exact lookup_give_of_ne s attrs other

theorem untouched_of_giveMaybe {w : Value} (untouched : (s.giveMaybe v given?).Untouched w) :
    s.Untouched w := by
  cases given? with
  | none => exact untouched
  | some attrs => exact untouched_of_give untouched

theorem eq_none_of_untouched (untouched : (s.giveMaybe v given?).Untouched v) : given? = none := by
  cases given? with
  | none => rfl
  | some attrs => cases (lookup_give_self s v attrs).symm.trans untouched

theorem get?_pushWith_size (s : Store) (o : Object) (given? : Option Attributes) :
    (s.pushWith o given?).get? s.size = some o :=
  (get?_giveMaybe _).trans (get?_push_size s o)

theorem grows_pushWith (s : Store) (o : Object) (given? : Option Attributes) :
    s.Grows (s.pushWith o given?) := (s.grows_push o).trans (grows_giveMaybe _ _ _)

theorem Sound.giveMaybe (sound : s.Sound) (has : s.Has v)
    (held : ∀ attrs, given? = some attrs → ∀ w ∈ attrs.map Prod.snd, s.Has w) :
    (s.giveMaybe v given?).Sound := by
  cases given? with
  | none => exact sound
  | some attrs => exact sound.give has (held attrs rfl)

end Store

theorem MadeWith.sound {L : Licence} {s : Store} {o : Object} {given? : Option Attributes}
    (made : MadeWith L s o given?) (tidy : L.tidy) (sound : s.Sound) :
    (s.pushWith o given?).Sound :=
  (sound.push (made.held.tidy tidy)).giveMaybe (Store.lt_size_of_get? (Store.get?_push_size s o))
    fun attrs h => (s.grows_push o).hasAll ((made.given attrs h).tidy tidy)

namespace Deeds

variable {L L' : Licence} {now after : Session}

theorem grows (h : Deeds L now after) : now.store.Grows after.store := by
  induction h with
  | none => exact .refl _
  | trans _ _ ih ih' => exact ih.trans ih'
  | push => exact Store.grows_pushWith _ _ _
  | @around now mid o o' given? given'? made inner filled _ _ ih =>
    obtain ⟨o₀, found, nature⟩ := ih _ _ (Store.get?_pushWith_size _ _ _)
    refine (Store.grows_pushWith now.store o given?).trans (ih.trans ?_)
    refine (Store.grows_giveMaybe _ _ _).trans (Store.grows_put ?_
      (filled.nature.trans nature.symm))
    exact (Store.get?_giveMaybe _).trans found
  | write _ found revises => exact Store.grows_put found revises.nature
  | remake _ found => exact Store.grows_put found (Object.nature_withFields _ _)
  | restate _ found => exact Store.grows_put found (Object.nature_withField _ _ _ _)
  | give => exact .refl _
  | log => exact .refl _

/-- A clone still lies where it was made when it is filled, so the store grows once more. -/
theorem grows_filled {o o' : Object} {mid : Session} {given? : Option Attributes}
    (given'? : Option Attributes)
    (inner : Deeds L { now with store := now.store.pushWith o given? } mid)
    (filled : o.FilledWith o') :
    mid.store.Grows
      ((mid.store.giveMaybe (.object now.store.size) given'?).put now.store.size o') := by
  obtain ⟨o₀, found, nature⟩ := inner.grows _ _ (Store.get?_pushWith_size _ _ _)
  refine (Store.grows_giveMaybe _ _ _).trans (Store.grows_put ?_ (filled.nature.trans nature.symm))
  exact (Store.get?_giveMaybe _).trans found

theorem sound (h : Deeds L now after) (sound : L.Sound now.store) : L.Sound after.store := by
  intro tidy
  induction h with
  | none => exact sound tidy
  | trans _ _ ih ih' => exact ih' fun _ => ih sound
  | push made => exact made.sound tidy (sound tidy)
  | @around now mid o o' given? given'? made inner filled held given ih =>
    have inside := ih fun _ => made.sound tidy (sound tidy)
    obtain ⟨o₀, found, nature⟩ := inner.grows _ _ (Store.get?_pushWith_size _ _ _)
    have there : mid.store.Has (.object now.store.size) := Store.lt_size_of_get? found
    have marked := inside.giveMaybe there fun attrs h => (given attrs h).tidy tidy
    refine marked.put ((Store.get?_giveMaybe _).trans found) (filled.nature.trans nature.symm) ?_
    exact (Store.grows_giveMaybe _ _ _).hasAll (held.tidy tidy)
  | write _ found revises held => exact (sound tidy).put found revises.nature (held.tidy tidy)
  | give _ has held => exact (sound tidy).give (has tidy) (held.tidy tidy)
  | remake _ found _ held =>
    have there := (sound tidy).closed.parts _ _ found
    exact (sound tidy).put found (Object.nature_withFields _ _)
      (Object.Held.withFields there (held.tidy tidy))
  | restate _ found frozen _ name held =>
    have there := (sound tidy).closed.parts _ _ found
    exact (sound tidy).put found (Object.nature_withField _ _ _ _)
      (Object.Held.withField frozen there (held tidy))
  | log => exact sound tidy

/-- What something was given to is never as if nothing had been. -/
theorem untouched (h : Deeds L now after) {v : Value} (untouched : after.store.Untouched v) :
    now.store.Untouched v := by
  induction h with
  | none | write | remake | restate | log => exact untouched
  | trans _ _ ih ih' => exact ih (ih' untouched)
  | @push now o => exact Store.untouched_of_giveMaybe (s := now.store.push o) untouched
  | @around now _ o _ _ _ _ _ _ _ _ ih =>
    exact Store.untouched_of_giveMaybe (s := now.store.push o)
      (ih (Store.untouched_of_giveMaybe untouched))
  | give => exact Store.untouched_of_give untouched

/-- Another licence will do if it allows the same in all stores that grew into the last one. -/
theorem mono_of_grows (h : Deeds L now after) (tidy : L'.tidy → L.tidy)
    (weaker : ∀ s d, s.Grows after.store → L.may s d → L'.may s d) : Deeds L' now after := by
  have less : ∀ {s : Store} {vs : List Value}, L.HasAll s vs → L'.HasAll s vs :=
    fun held v hv neat => held v hv (tidy neat)
  induction h with
  | none => exact .none _
  | trans _ last ih ih' =>
    exact (ih fun s d grown => weaker s d (grown.trans last.grows)).trans (ih' weaker)
  | push made => exact .push ⟨made.made, less made.held, fun attrs h => less (made.given attrs h)⟩
  | @around now mid o o' given? given'? made inner filled held given ih =>
    have inner' := ih fun s d grown => weaker s d (grown.trans (inner.grows_filled given'? filled))
    refine .around ⟨made.made, less made.held, fun attrs h => less (made.given attrs h)⟩
      inner' filled (less held) fun attrs h => less (given attrs h)
  | write may found revises held assigns wears =>
    have grown := Store.grows_put found revises.nature
    exact .write (weaker _ _ grown may) found revises (less held)
      (fun changed => weaker _ _ grown (assigns changed))
      fun changed => weaker _ _ grown (wears changed)
  | @remake now r o may found frozen fields held =>
    have grown := Store.grows_put found (o.nature_withFields fields)
    exact .remake (weaker _ _ grown may) found frozen (less held)
  | @restate now r o record may found frozen touched name value held =>
    have grown := Store.grows_put found (o.nature_withField record name value)
    exact .restate (weaker _ _ grown may) found frozen touched name fun neat => held (tidy neat)
  | @give now v may has attrs held =>
    exact .give (weaker _ _ (.refl now.store) may) (fun neat => has (tidy neat)) (less held)
  | @log now may record => exact .log (weaker _ _ (.refl now.store) may) record

theorem mono (h : Deeds L now after) (tidy : L'.tidy → L.tidy)
    (weaker : ∀ s d, L.may s d → L'.may s d) : Deeds L' now after :=
  h.mono_of_grows tidy fun s d _ => weaker s d

end Deeds

end Http2Failure
