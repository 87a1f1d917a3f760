import Http2Failure.Proofs.Deeds.Actions
import Http2Failure.Sequence

/-!
# Deeds of attributes and sequences

An attribute is set or deleted by one write, and so is a frozen object checked again. Lists, buffers
and views are written in place.
-/

namespace Http2Failure

/-- Whether no method is bound. -/
def Store.isUnbound (s : Store) : Bool :=
  s.objects.all fun
    | .method .. => false
    | _ => true

theorem Store.get?_ne_method {s : Store} (unbound : s.isUnbound = true) {r : Ref} {owner : Value}
    {name : String} : s.get? r ≠ some (.method owner name) := by
  intro found
  obtain ⟨inside, here⟩ := Array.getElem?_eq_some_iff.mp found
  have allowed := Array.all_eq_true.mp unbound r inside
  rw [here] at allowed
  cases allowed

/-- A constructor of a frozen object was bound, so that it may be called under another name. -/
def Store.BindsConstructor (s : Store) : Prop :=
  ∃ q r o, s.get? q = some (.method (.object r) "__init__") ∧ s.get? r = some o ∧ o.record?.isSome

def Store.IsFrozen (s : Store) (v : Value) : Prop := ∃ o, s.object? v = some o ∧ o.record?.isSome

theorem Store.bindsConstructor {s : Store} {v owner : Value}
    (bound : s.object? v = some (.method owner "__init__")) (frozen : s.IsFrozen owner) :
    s.BindsConstructor := by
  obtain ⟨o, found, record⟩ := frozen
  cases v with
  | object q =>
    cases owner with
    | object r => exact ⟨q, r, o, bound, found, record⟩
    | _ => cases found
  | _ => cases bound

/-- The method that sets attributes of the value at the place was bound, so that it may be called
under another name. -/
def Store.BindsAssignment (s : Store) (r : Ref) : Prop :=
  ∃ q, s.get? q = some (.method (.object r) "__setattr__")

theorem Store.bindsAssignment {s : Store} {v : Value} {r : Ref}
    (bound : s.object? v = some (.method (.object r) "__setattr__")) : s.BindsAssignment r := by
  cases v with
  | object q => exact ⟨q, bound⟩
  | _ => cases bound

namespace Licence

variable (L : Licence)

abbrev Writes : Prop := ∀ s, L.may s .write

abbrev Logs : Prop := ∀ s, L.may s .log

/-- Every way of setting and deleting attributes, but for the arguments of errors. -/
structure Sets : Prop where
  write : L.Writes
  wear : ∀ s r, L.may s (.wear r)
  give : ∀ s v, L.may s (.give v)

/-- Everything is allowed but calls of the constructor of a frozen object that was not bound, and
other arguments for an error whose method for that was not bound. -/
structure Free : Prop extends L.Sets where
  logs : L.Logs
  restate : ∀ s r, L.may s (.restate r)
  remake : ∀ s r, s.BindsConstructor → L.may s (.remake r)
  assign : ∀ s r, s.BindsAssignment r → L.may s (.assign r)

def anything : Licence := ⟨fun _ _ => True, True⟩

theorem anything_free : anything.Free where
  write _ := trivial
  logs _ := trivial
  wear _ _ := trivial
  give _ _ := trivial
  restate _ _ := trivial
  remake _ _ _ := trivial
  assign _ _ _ := trivial

end Licence

namespace Object

theorem errorParts_of_loose {o : Object} (other : ∀ e, o ≠ .error e) :
    o.errorArgs = [] ∧ o.errorAttributes = [] := by
  cases o with
  | error e => exact absurd rfl (other e)
  | _ => exact ⟨rfl, rfl⟩

end Object

namespace Action

variable {L : Licence} {now : Session} {r : Ref} {o : Object} {v : Value} {name : String}

theorem does_make (checks : o.isChecked = true) (held : L.HasAll now.store o.parts) :
    Does L (make o) now L.Has := by
  refine .read_bind fun o' checked => .create ⟨fun _ => .inr ⟨o, checked⟩, ?_⟩ fun v hv tidy => ?_
  · rintro owner name rfl
    cases Object.eq_method_of_nature (Object.nature_of_checked checked).symm
    cases checks
  · exact Object.Held.checked (held.tidy tidy) checked v hv

theorem does_check (may : L.Writes) (found : now.store.get? r = some o) :
    Does L (check r o) now Anything := by
  refine .of_sound fun sound => .read_bind fun o' checked => ?_
  refine (Does.put (may _) found (.checked checked) (fun v hv tidy => ?_)
    (Object.errorParts_of_checked checked)).anything
  exact Object.Held.checked ((sound.parts found).tidy tidy) checked v hv

theorem does_tuple {items : List Value} (held : L.HasAll now.store items) :
    Does L (tuple items) now fun t place => L.Has t (.object place) ∧
      (items ≠ [] → t.get? place = some (.tuple items)) ∧
        ∀ q p, now.store.get? q = some p → t.get? q = some p := by
  refine .ite (fun empty => .pure fun sound => ⟨fun tidy => (sound tidy).has_emptyTuple, ?_⟩)
    fun _ => ?_
  · exact ⟨fun some => absurd (List.isEmpty_iff.mp empty) some, fun _ _ found => found⟩
  · refine .of_deeds (allocate_apply now _)
      (.push (.of_madeIn (Object.madeIn_of_plain rfl) held)) ?_
    rintro place ⟨⟩
    have there := Store.get?_push_size now.store (.tuple items)
    refine ⟨Licence.has_place there, fun _ => there, fun q p found => ?_⟩
    exact (Store.get?_push_of_lt _ (Store.lt_size_of_get? found)).trans found

def MayAssign (L : Licence) (now : Session) (v : Value) : Prop :=
  ∀ r e, v = .object r → now.store.get? r = some (.error e) → L.may now.store (.assign r)

theorem does_argsTuple (may : L.Writes) (found : now.store.get? r = some o) {c : Carried}
    (carried : o.carried? = some c) :
    Does L (argsTuple r o c) now fun t place => L.Has t (.object place) := by
  refine .of_sound fun sound => ?_
  have held : L.tidy → c.Held now.store := fun tidy =>
    Object.held_carried ((sound.parts found).tidy tidy) carried
  unfold argsTuple
  split
  · exact .pure fun _ tidy => (held tidy).argsTuple _ ‹_›
  · refine (does_tuple fun v hv tidy => (held tidy).args v hv).bind fun place mid deeds made => ?_
    obtain ⟨has, holds, kept⟩ := made
    have same : (o.withCarried { c with argsTuple := some place }).errorArgs = o.errorArgs ∧
        (o.withCarried { c with argsTuple := some place }).errorAttributes =
          o.errorAttributes := by
      cases o <;> cases carried <;> exact ⟨rfl, rfl⟩
    have held' : L.HasAll mid.store (o.withCarried { c with argsTuple := some place }).parts := by
      refine Licence.hasAll_of fun tidy => ?_
      have there : o.Held mid.store := deeds.grows.hasAll ((sound.parts found).tidy tidy)
      exact there.withCarried ((Object.held_carried there carried).withArgsTuple (has tidy))
    refine (Does.put (may _) (kept r o found) (.argsTuple carried holds) held' same).bind
      fun _ _ written _ => .pure fun _ => has.grows written.grows

theorem does_getAttribute {name : String} (may : name = "args" → L.Writes)
    (has : L.Has now.store v) : Does L (getAttribute v name) now L.Has := by
  refine .ask_bind ?_
  split
  · rename_i r o found
    split
    · rename_i c carried slot
      exact (does_argsTuple (may (Object.eq_args_of_slot slot)) found carried).bind
        fun _ _ _ bound => .pure fun _ => bound
    · refine .read fun sound w read tidy => ?_
      cases given : now.store.extra? (.object r) o name with
      | none =>
        simp only [given, Option.elim_none] at read
        exact Object.Held.getAttribute (sound tidy) ((sound tidy).closed.parts r o found) read
      | some w' =>
        simp only [given, Option.elim_some] at read
        cases read
        unfold Store.extra? at given
        split at given
        · exact (sound tidy).get?_attributesOf given
        · cases given
  · refine .ite (fun _ => .read fun sound w read tidy => ?_) fun _ => .ask_bind (.throw _)
    exact (sound tidy).memberAttribute read

section

variable (sets : L.Sets)
include sets

theorem does_setAttribute (there : L.Has now.store v) {name : String} {value : Value}
    (has : L.Has now.store value) (assigns : name = "args" → MayAssign L now v) :
    Does L (setAttribute v name value) now Anything := by
  refine .of_sound fun sound => .ask_bind ?_
  split
  · rename_i r o found
    refine .read_bind fun o' set => .of_deeds (put_apply _ _ _) ?_ fun _ _ => trivial
    refine .write (sets.write _) found (.set set) ?_ (fun changed => ?_) fun _ => sets.wear _ _
    · refine Licence.hasAll_of fun tidy => ?_
      exact Object.Held.withAttribute (sound tidy) ((sound.parts found).tidy tidy) (has tidy) set
    · have named : name = "args" := by
        by_contra other
        exact changed (Object.errorArgs_withAttribute other set)
      cases o with
      | error e => exact assigns named r e rfl found
      | _ =>
        have other : ∀ e, o' ≠ .error e := by
          rintro e rfl
          obtain ⟨e', same, -⟩ := Object.eq_error_of_nature (Object.nature_withAttribute set).symm
          cases same
        exact absurd (Object.errorParts_of_loose other).1 changed
  · refine .ite (fun _ => .ask_bind (.throw _)) fun _ => .ite (fun _ => .ask_bind (.throw _))
      fun _ => ?_
    refine .ite (fun _ => .throw _) fun _ => .ite (fun _ => .ask_bind (.throw _)) fun _ => ?_
    refine .ask_bind (.give (sets.give _ _) there fun w hw tidy => ?_)
    rcases Attributes.mem_of_mem_insert hw with rfl | hw
    · exact has tidy
    · exact (sound tidy).closed.attributesOf _ w hw

theorem does_deleteAttribute (there : L.Has now.store v) (name : String) :
    Does L (deleteAttribute v name) now Anything := by
  refine .of_sound fun sound => .ask_bind ?_
  split
  · rename_i r o found
    refine .read_bind fun o' deleted => .of_deeds (put_apply _ _ _) ?_ fun _ _ => trivial
    refine .write (sets.write _) found (.delete deleted) ?_ (fun changed => ?_)
      fun _ => sets.wear _ _
    · refine Licence.hasAll_of fun tidy => ?_
      exact Object.Held.withoutAttribute ((sound.parts found).tidy tidy) deleted
    · exact absurd (Object.errorArgs_withoutAttribute deleted) changed
  · refine .ite (fun _ => .throw_bind _ _) fun _ => .ite (fun _ => .throw_bind _ _) fun _ => ?_
    refine .ite (fun _ => .give (sets.give _ _) there Licence.hasAll_nil) fun _ => .ask_bind ?_
    split
    · refine .give (sets.give _ _) there fun w hw tidy => ?_
      exact (sound tidy).closed.attributesOf _ w (Attributes.mem_of_mem_erase hw)
    · exact .ask_bind (.throw _)

theorem does_addNote (there : L.Has now.store v) {note : Value} (has : L.Has now.store note) :
    Does L (addNote v note) now Anything := by
  refine .of_sound fun sound => ?_
  unfold addNote
  split
  · refine .ask_bind ?_
    split
    · refine (Does.createFreely rfl (Licence.hasAll_one has)).bind fun notes mid more made => ?_
      exact does_setAttribute sets (there.grows more.grows) made nofun
    · refine .ask_bind ?_
      split
      · rename_i r items found
        refine .anything (.put (sets.write _) found (.list _ _) ?_ ⟨rfl, rfl⟩)
        exact Licence.hasAll_append (sound.parts found) (Licence.hasAll_one has)
      · exact .throw _
  · exact .ask_bind (.throw _)

end

theorem reads_placeOf (v : Value) : Reads (placeOf v) := by
  unfold placeOf
  split
  · exact .ite (.pure _) (.throw _)
  · exact (Reads.ask _).bind fun _ => .throw _

theorem reads_byteOf (v : Value) : Reads (byteOf v) := by
  unfold byteOf
  split
  · exact .ite (.pure _) (.throw _)
  · exact (Reads.ask _).bind fun _ => .throw _

theorem reads_keyOf (notWhole : String → Refusal) (key : Value) : Reads (keyOf notWhole key) := by
  unfold keyOf
  split
  · exact .ite (.pure _) ((Reads.ask _).bind fun _ => .throw _)
  · exact (Reads.ask _).bind fun _ => .throw _

theorem reads_takenFrom (type : String) (length : Nat) (place? : Option Value) :
    Reads (takenFrom type length place?) := by
  cases place? with
  | none =>
    refine .ite (.throw _) ?_
    split
    · exact .pure _
    · exact .throw _
  | some v =>
    refine (reads_placeOf v).bind fun place => .ite (.throw _) ?_
    split
    · exact .pure _
    · exact .throw _

theorem reads_bytesOf (v : Value) : Reads (bytesOf v) := by
  refine (Reads.ask _).bind fun given => ?_
  split
  · exact .pure _
  · exact .mapM reads_byteOf _
  · exact (Reads.ask _).bind fun _ => .throw _
  · exact (Reads.ask _).bind fun _ => .throw _

section

variable (may : L.Writes)
include may

theorem does_relist {items items' : List Value} (found : now.store.get? r = some (.list items))
    (held : L.HasAll now.store items') : Does L (relist r items') now L.Has :=
  (Does.put (may _) found (.list _ items') held ⟨rfl, rfl⟩).bind fun _ _ _ _ => .null

theorem does_listMethod? (sound : L.Sound now.store) {items : List Value}
    (found : now.store.get? r = some (.list items)) {args : List Value} (method : String) :
    DoesMethod L (listMethod? r items method) args now := by
  have held : L.HasAll now.store items := sound.parts found
  have kept : ∀ {items' : List Value}, items' ⊆ items → Does L (relist r items') now L.Has :=
    fun less => does_relist may found fun v hv => held v (less hv)
  have place : ∀ v, Reads (placeIn? items v) := fun v => .ask _
  have elements : ∀ {v items'}, L.Has now.store v → now.store.elements v = .ok items' →
      L.HasAll now.store items' := fun has read w hw tidy =>
    (sound tidy).elements (has tidy) read w hw
  refine .ite (fun _ => .exactlyOne fun v _ has => ?append) fun _ => ?_
  case append => exact does_relist may found (Licence.hasAll_append held (Licence.hasAll_one has))
  refine .ite (fun _ => .exactlyOne fun v _ has => .read_bind fun more read => ?extend)
    fun _ => ?_
  case extend => exact does_relist may found (Licence.hasAll_append held (elements has read))
  refine .ite (fun _ => .exactlyTwo fun place v _ _ has => ?insert) fun _ => ?_
  case insert =>
    refine (reads_placeOf place).does_bind fun _ _ => does_relist may found ?_
    refine Licence.hasAll_append (fun v hv => held v (List.mem_of_mem_take hv)) ?_
    exact Licence.hasAll_cons has fun v hv => held v (List.mem_of_mem_drop hv)
  refine .ite (fun _ => .atMostOne fun place? _ => ?pop) fun _ => ?_
  case pop =>
    refine (reads_takenFrom _ _ _).does_bind fun taken _ => ?_
    have rest := fun v hv => held v (List.eraseIdx_subset (k := taken) hv)
    refine (Does.put (may _) found (.list _ _) rest ⟨rfl, rfl⟩).bind fun _ mid deeds _ =>
      .pure fun _ => ?_
    rw [List.getD_eq_getElem?_getD]
    cases there : items[taken]? with
    | none => exact fun _ => trivial
    | some w => exact (held w (List.mem_of_getElem? there)).grows deeds.grows
  refine .ite (fun _ => .exactlyOne fun v _ _ => (place v).does_bind fun place? _ => ?remove)
    fun _ => ?_
  case remove =>
    split
    · exact kept List.eraseIdx_subset
    · exact .throw _
  refine .ite (fun _ => .noArguments (kept (List.nil_subset _))) fun _ => ?_
  refine .ite (fun _ => .noArguments (kept fun v hv => List.mem_reverse.mp hv)) fun _ => ?_
  refine .ite (fun _ => .noArguments (.createFreely rfl held)) fun _ => ?_
  refine .ite (fun _ => .exactlyOne fun v _ _ => .ask_bind (.pure fun _ _ => trivial)) fun _ => ?_
  refine .ite (fun _ => .exactlyOne fun v _ _ => (place v).does_bind fun place? _ => ?index)
    fun _ => ?_
  case index =>
    split
    · exact .pure fun _ _ => trivial
    · exact .read_bind fun _ _ => .throw _
  refine .ite (fun _ => .atMostOne fun v? has => ?init) fun _ => .absent
  case init =>
    split
    · exact kept (List.nil_subset _)
    · refine (Does.put (may _) found (.list _ []) Licence.hasAll_nil ⟨rfl, rfl⟩).bind
        fun _ mid deeds there => .of_sound fun sound' => .read_bind fun more read => ?_
      refine does_relist may there fun w hw tidy => ?_
      exact (sound' tidy).elements (((has _ rfl).grows deeds.grows) tidy) read w hw

theorem does_rebuffer {content : List UInt8} (found : now.store.get? r = some (.buffer content))
    (before after : List UInt8) : Does L (rebuffer r before after) now fun t v =>
      v = .null ∧ t.get? r = some (.buffer after) :=
  .ask_bind (.ite (fun _ => .throw_bind _ _) fun _ =>
    (Does.put (may _) found (.buffer _ after) Licence.hasAll_nil ⟨rfl, rfl⟩).bind
      fun _ _ _ there => .pure fun _ => ⟨rfl, there⟩)

theorem does_become {content : List UInt8} (found : now.store.get? r = some (.buffer content))
    (before after : List UInt8) : Does L (rebuffer r before after) now L.Has := by
  refine (does_rebuffer may found before after).imp ?_
  rintro _ _ _ ⟨rfl, -⟩ -
  trivial

theorem does_refilled {content : List UInt8} (found : now.store.get? r = some (.buffer content))
    (before after : List UInt8) : Does L (discard (rebuffer r before after)) now fun t _ =>
      t.get? r = some (.buffer after) := by
  change Does L (rebuffer r before after >>= fun _ => pure ()) now _
  exact (does_rebuffer may found before after).bind fun _ _ _ there => .pure fun _ => there.2

theorem does_fill {content : List UInt8} (found : now.store.get? r = some (.buffer content))
    (content' : List UInt8) (items : List Value) : Does L (fill r content' items) now L.Has := by
  induction items generalizing content content' now with
  | nil => exact .null
  | cons item rest ih =>
    refine (reads_byteOf item).does_bind fun b _ => ?_
    exact (does_refilled may found _ _).bind fun _ mid _ there => ih there _

theorem does_refill {content : List UInt8} (found : now.store.get? r = some (.buffer content))
    (source? : Option Value) : Does L (refill r content source?) now L.Has := by
  refine (does_refilled may found _ _).bind fun _ mid _ there => ?_
  split
  · exact .null
  · refine .ask_bind ?_
    split
    · exact .throw _
    · refine .ite (fun _ => .ask_bind (.throw _)) fun _ => .ite (fun _ => .throw _) fun _ => ?_
      exact .ite (fun _ => .throw _) fun _ => does_become may there _ _
    · exact does_become may there _ _
    · exact does_fill may there _ _
    · exact .throw _
    · exact .ask_bind (.throw _)

theorem does_bufferMethod? {content : List UInt8}
    (found : now.store.get? r = some (.buffer content)) {args : List Value} (method : String) :
    DoesMethod L (bufferMethod? r content method) args now := by
  have become := fun after => does_become may found content after
  refine .ite (fun _ => .exactlyOne fun v _ _ => (reads_byteOf v).does_bind fun _ _ => become _)
    fun _ => ?_
  refine .ite (fun _ => .exactlyOne fun v _ _ => (reads_bytesOf v).does_bind fun _ _ => become _)
    fun _ => ?_
  refine .ite (fun _ => .exactlyTwo fun place v _ _ _ => (reads_placeOf place).does_bind fun _ _ =>
    (reads_byteOf v).does_bind fun _ _ => become _) fun _ => ?_
  refine .ite (fun _ => .atMostOne fun place? _ => (reads_takenFrom _ _ _).does_bind fun _ _ =>
    (become _).discard.bind fun _ _ _ _ => .pure fun _ _ => trivial) fun _ => ?_
  refine .ite (fun _ => .exactlyOne fun v _ _ => (reads_byteOf v).does_bind fun b _ => ?remove)
    fun _ => ?_
  case remove =>
    split
    · exact become _
    · exact .throw _
  refine .ite (fun _ => .noArguments (become _)) fun _ => ?_
  refine .ite (fun _ => .noArguments (become _)) fun _ => ?_
  refine .ite (fun _ => .noArguments (.createFreely rfl Licence.hasAll_nil)) fun _ => ?_
  exact .ite (fun _ => .atMostOne fun source? _ => does_refill may found source?) fun _ => .absent

theorem does_viewMethod? (found : now.store.get? r = some o) (looks : o.nature = .released)
    {args : List Value} (method : String) : DoesMethod L (viewMethod? r o method) args now := by
  unfold viewMethod?
  extract_lets bare content
  have bytes : Reads content := by
    refine (Reads.ask _).bind fun given => ?_
    split
    · exact .pure _
    · exact .throw _
  have revises : o.Revises now.store .released := by
    have loose := Object.loose_of_nature (p := .released) looks rfl
    cases o with
    | view source => exact .view source
    | released => exact .released
    | report | sendFailure | kind => cases loose
    | _ => cases looks
  have unheld := Object.errorParts_of_loose (o := o) fun e same => by
    rw [same] at looks
    cases looks
  refine .ite (fun _ => .noArguments ?release) fun _ => ?_
  case release =>
    exact (Does.put (may _) found revises Licence.hasAll_nil
      ⟨unheld.1.symm, unheld.2.symm⟩).bind fun _ _ _ _ => .null
  refine .ite (fun _ => .noArguments (bytes.does_bind fun _ _ => .pure fun _ _ => trivial))
    fun _ => ?_
  refine .ite (fun _ => .noArguments (bytes.does_bind fun content _ => .createFreely rfl ?_))
    fun _ => .absent
  intro v hv _
  obtain ⟨b, -, rfl⟩ := List.mem_map.mp hv
  trivial

theorem does_setByte {content : List UInt8} (found : now.store.get? r = some (.buffer content))
    (key item : Value) : Does L (setByte r content key item) now Anything := by
  refine (reads_keyOf _ _).does_bind fun place _ => (reads_byteOf _).does_bind fun b _ => ?_
  split
  · exact .anything (.put (may _) found (.buffer _ _) Licence.hasAll_nil ⟨rfl, rfl⟩)
  · exact .throw _

theorem does_setByteInView {content : List UInt8}
    (found : now.store.get? r = some (.buffer content)) (key item : Value) :
    Does L (setByteInView r content key item) now Anything := by
  refine (reads_keyOf _ _).does_bind fun place _ => ?_
  split
  · exact .throw _
  · exact .throw _
  · refine .ite (fun _ => ?_) fun _ => .throw _
    exact .anything (.put (may _) found (.buffer _ _) Licence.hasAll_nil ⟨rfl, rfl⟩)

theorem does_setItem (v key : Value) {item : Value} (has : L.Has now.store item) :
    Does L (setItem v key item) now Anything := by
  refine .of_sound fun sound => .ask_bind ?_
  split
  · exact does_setByte may ‹_› _ _
  · refine .ask_bind ?_
    split
    · exact does_setByteInView may ‹_› _ _
    · exact .throw _
  · exact .throw _
  · rename_i r items found
    refine (reads_keyOf _ _).does_bind fun place _ => ?_
    split
    · refine .anything (.put (may _) found (.list _ _) (fun w hw => ?_) ⟨rfl, rfl⟩)
      rcases List.mem_or_eq_of_mem_set hw with hw | rfl
      · exact sound.parts found w hw
      · exact has
    · exact .throw _
  · exact .ask_bind (.throw _)

end

end Action

end Http2Failure
