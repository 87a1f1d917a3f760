import Http2Failure.Call
import Http2Failure.Proofs.Deeds.Sequences

/-!
# Deeds of calls

A conversion makes objects and writes to the log. A call may do whatever methods do, and calls the
constructor of a frozen object again, or gives an error other arguments, only where this is named in
the call or was bound before. A call without arguments does no more than write in place.
-/

namespace Http2Failure

open Http2Failure.Action

namespace Error

variable {L : Licence} {now : Session} {v : Value}

theorem does_around (cls : Class) {kind : Ref} (has : L.Has now.store (.object kind)) :
    Does L (around cls kind) now L.Has := by
  refine .read_bind fun text _ => .createFreely rfl fun w hw => ?_
  have parts : ∀ w ∈ (Object.error { cls, kind, args := [.text text] }).parts,
      w = .object kind ∨ w = .text text := by simp [Object.parts, Carried.parts]
  rcases parts w hw with rfl | rfl
  · exact has
  · exact fun _ => trivial

theorem does_ofKind (cls : Class) {k : Kind} (held : L.HasAll now.store (Object.kind k).parts) :
    Does L (ofKind cls k) now L.Has :=
  (Does.allocate (Object.madeIn_of_plain rfl) held).bind fun _ _ _ there =>
    does_around cls (Licence.has_place there)

theorem does_ofValue (cls : Class) (v : Value) : Does L (ofValue cls v) now L.Has := by
  refine .ask_bind ?_
  split
  · rename_i found
    exact does_around cls (Licence.has_place found)
  · exact .ask_bind (.throw _)

theorem does_ofReport (cls : Class) (v : Value) : Does L (ofReport cls v) now L.Has := by
  refine .of_sound fun sound => .ask_bind ?_
  split
  · rename_i r found
    refine does_ofKind cls fun w hw tidy => (sound tidy).object found w ?_
    cases r <;> exact hw
  · exact .read_bind fun _ _ => .throw _

theorem does_ofReason (cls : Class) (has : L.Has now.store v) :
    Does L (ofReason cls v) now L.Has := does_ofKind cls (Licence.hasAll_one has)

theorem does_ofMisuse (cls : Class) (has : L.Has now.store v) :
    Does L (ofMisuse cls v) now L.Has := does_ofKind cls (Licence.hasAll_one has)

section

variable (logs : L.Logs)
include logs

theorem does_logged (record : LogRecord) {x : Action Value}
    (h : ∀ mid, Deeds L now mid → Does L x mid L.Has) :
    Does L (do Action.log record; x) now L.Has :=
  (Does.log (logs _)).bind fun _ mid deeds _ => h mid deeds

theorem does_ofTransport (cls : Class) (has : L.Has now.store v) :
    Does L (ofTransport cls v) now L.Has :=
  .read_bind fun _ _ => does_logged logs _ fun _ deeds =>
    does_ofKind cls (Licence.hasAll_one (has.grows deeds.grows))

theorem does_ofSendFailure (cls : Class) (v : Value) :
    Does L (ofSendFailure cls v) now L.Has := by
  refine .of_sound fun sound => .ask_bind ?_
  split
  · rename_i m found
    refine .read_bind fun _ _ => does_logged logs _ fun mid deeds => does_ofMisuse cls ?_
    have has : L.Has now.store m := fun tidy => (sound tidy).object found m List.mem_cons_self
    exact has.grows deeds.grows
  · exact .read_bind fun _ _ => does_logged logs _ fun _ _ => does_ofReport cls _
  · exact .read_bind fun _ _ => .throw _

theorem does_convert (cls : Class) (has : L.Has now.store v) :
    Does L (convert cls v) now L.Has := by
  refine .ask_bind ?_
  split
  · exact .pure fun _ => has
  · exact does_ofReport cls _
  · exact does_ofReason cls has
  · exact does_ofSendFailure logs cls _
  · exact does_ofMisuse cls has
  · exact does_ofTransport logs cls has
  · exact .ask_bind (.throw _)

theorem does_via (cls : Class) (route : Route) (has : L.Has now.store v) :
    Does L (via cls route v) now L.Has := by
  cases route with
  | kind => exact does_ofValue cls v
  | report => exact does_ofReport cls v
  | reason => exact does_ofReason cls has
  | sendFailure => exact does_ofSendFailure logs cls v
  | misuse => exact does_ofMisuse cls has
  | transport => exact does_ofTransport logs cls has
  | any => exact does_convert logs cls has

end

theorem reads_again (v : Value) : Reads (again v) := by
  refine (Reads.ask _).bind fun o? => ?_
  split
  · exact .throw _
  · exact (Reads.ask _).bind fun _ => .throw _

end Error

def Inspection.side? : Inspection → Option Initiator
  | .isRemote => some .peer
  | .isLibrary => some .library
  | _ => none

namespace Kind

variable {L : Licence} {now : Session} {call : Caller} {k : Kind}

theorem mem_parts_of_asked {field : Kind → Option Value}
    (asked : field ∈ [reason?, initiator?, streamId?, debugData?, fault?]) {v : Value}
    (given : field k = some v) : v ∈ (Object.kind k).parts := by
  simp only [List.mem_cons, List.not_mem_nil, or_false] at asked
  rcases asked with rfl | rfl | rfl | rfl | rfl <;>
    cases k <;> cases given <;> simp [Object.parts, Object.record?, record]

theorem does_inspect {q : Inspection} (held : L.HasAll now.store (Object.kind k).parts)
    (asked : ∀ v side, q.side? = some side → k.initiator? = some v →
      Does L (call v (Initiator.method side) []) now L.Has) :
    Does L (k.inspect call q) now L.Has := by
  have side : ∀ side, q.side? = some side → Does L (k.askSide call side) now L.Has := by
    intro side given
    unfold askSide
    split
    · exact asked _ _ given ‹_›
    · exact .pure fun _ _ => trivial
  have field : ∀ {field : Kind → Option Value},
      field ∈ [reason?, initiator?, streamId?, debugData?, fault?] →
        Does L (pure ((field k).getD .null)) now L.Has := by
    intro field asked
    refine .pure fun _ => ?_
    cases given : field k with
    | none => exact fun _ => trivial
    | some v => exact held v (mem_parts_of_asked asked given)
  cases q with
  | isTransport | isReset | isGoAway | isMisuse => exact .pure fun _ _ => trivial
  | isRemote => exact side .peer rfl
  | isLibrary => exact side .library rfl
  | reason | fault | streamId | debugData => exact field (by simp)

theorem does_intoFault (k : Kind) : Does L k.intoFault now L.Has := by
  refine .of_sound fun sound => ?_
  unfold intoFault
  split
  · refine .ask_bind ?_
    split
    · rename_i r f found
      refine .read_bind fun rebuilt rebuild => .createFreely rfl fun w hw tidy => ?_
      obtain ⟨fresh, given, rfl⟩ := Fault.rebuild_eq_ok_iff.mp rebuild
      rcases Fault.parts_onto given hw with hw | rfl
      · exact sound.parts found w hw tidy
      · exact Store.lt_size_of_get? found
    · exact .throw _
    · exact .throw _
    · refine .ask_bind (.ask_bind ?_)
      split
      · refine .ask_bind ?_
        split
        · exact .throw _
        · exact .throw _
        · exact .ask_bind (.throw _)
      · exact .throw _
  · exact .null

end Kind

namespace StreamId

variable {s : Store} {v : Value} {plain : Value → Except Refusal String} {w : Value}

theorem has_increased (h : increased s plain v = .ok w) : s.Has w := by
  unfold increased at h
  split at h
  · rename_i n _
    by_cases exhausted : (Number.ofInt (StreamId.max - 2)).less n
    · simp only [exhausted, if_true] at h
      obtain ⟨shown, -, h⟩ := bind_eq_ok.mp h
      cases h
    · dsimp only at h
      rw [if_neg exhausted] at h
      split at h
      · cases h
        trivial
      · cases h
  all_goals cases h

theorem has_nextOf (h : nextOf s plain v = .ok w) : s.Has w := by
  unfold nextOf at h
  split at h
  · split at h
    · cases h
      trivial
    · cases h
  · exact has_increased h

end StreamId

theorem Object.fields_ne_nil {o : Object} {record : Record} (frozen : o.record? = some record) :
    record.fields ≠ [] := by
  cases o with
  | report r => cases r <;> cases frozen <;> exact List.cons_ne_nil _ _
  | sendFailure f => cases f <;> cases frozen <;> exact List.cons_ne_nil _ _
  | kind k => cases k <;> cases frozen <;> exact List.cons_ne_nil _ _
  | reason | streamId =>
    cases frozen
    exact List.cons_ne_nil _ _
  | _ => cases frozen

namespace Action

variable {L : Licence} {now : Session} {r : Ref} {o : Object} {v : Value} {call : Caller}
  {args : List Value}

/-- The call does not name the constructor of a frozen object without a licence, nor the arguments
of an error. Without arguments it does neither. -/
structure Licensed (L : Licence) (now : Session) (v : Value) (name : String)
    (args : List Value) : Prop where
  free : args ≠ [] → L.Free
  remake : name = "__init__" → args ≠ [] → now.store.IsFrozen v → ∀ r, v = .object r →
    L.may now.store (.remake r)
  assign : name = "__setattr__" → args.head? = some (.text "args") → MayAssign L now v

theorem licensed_of_ne {name : String} (free : args ≠ [] → L.Free)
    (other : name ≠ "__init__" ∧ name ≠ "__setattr__") : Licensed L now v name args where
  free := free
  remake same := absurd same other.1
  assign same := absurd same other.2

theorem licensed_nil {name : String} : Licensed L now v name [] where
  free some := absurd rfl some
  remake _ some := absurd rfl some
  assign _ first := nomatch first

theorem licensed_of_bound {owner : Value} {name : String} (free : args ≠ [] → L.Free)
    (bound : now.store.object? v = some (.method owner name)) :
    Licensed L now owner name args where
  free := free
  remake same some frozen r _ := by
    subst same
    exact (free some).remake _ r (Store.bindsConstructor bound frozen)
  assign same first r e here _ := by
    subst same here
    have some : args ≠ [] := fun none => by
      rw [none] at first
      cases first
    exact (free some).assign _ _ (Store.bindsAssignment bound)

def DoesCaller (L : Licence) (call : Caller) : Prop :=
  ∀ now v name args, Licensed L now v name args → L.Has now.store v → L.HasAll now.store args →
    Does L (call v name args) now L.Has

theorem does_conversion? {method : String}
    (logs : (Error.Route.ofMethod? method).isSome → args ≠ [] → L.Logs) (cls : Error.Class) :
    DoesMethod L (conversion? cls method) args now := by
  unfold conversion?
  cases named : Error.Route.ofMethod? method with
  | none => exact .absent
  | some route =>
    refine .oneArgument fun v one has => Error.does_via (logs (named ▸ rfl) ?_) cls route has
    rw [one]
    exact List.cons_ne_nil _ _

theorem does_errorMethod? {e : Error} {method : String}
    (logs : (Error.Route.ofMethod? method).isSome → args ≠ [] → L.Logs)
    (sound : L.Sound now.store) (has : L.Has now.store (.object e.kind))
    (asked : ∀ q side k v, Inspection.ofMethod? method = some q → q.side? = some side →
      now.store.kind? e.kind = some k → k.initiator? = some v →
        Does L (call v (Initiator.method side) []) now L.Has) :
    DoesMethod L (errorMethod? call e method) args now := by
  unfold errorMethod?
  extract_lets plainCall ofKind stored
  have doesOfKind : ∀ {result : Kind → Action Value},
      (∀ k, now.store.kind? e.kind = some k → Does L (result k) now L.Has) →
        DoesMethod L (some (ofKind result)) args now := by
    intro result h
    refine .noArguments (.ask_bind ?_)
    split
    · exact h _ ‹_›
    · exact .throw _
  have doesStored : Does L stored now L.Has := by
    refine (Does.createFreely rfl (Licence.hasAll_one has)).bind fun parts _ _ made => ?_
    exact .createFreely rfl (Licence.hasAll_cons (fun _ => trivial) (Licence.hasAll_one made))
  split
  · rename_i q known
    refine doesOfKind fun k holds => k.does_inspect ?_ fun v side given =>
      asked q side k v known given holds
    exact sound.parts (Store.kind?_eq_some_iff.mp holds)
  refine .ite (fun _ => doesOfKind fun k _ => k.does_intoFault) fun _ => ?_
  refine .ite (fun _ => .oneArgument fun v _ _ => (Error.reads_again v).does_bind fun _ _ => .null)
    fun _ => ?_
  refine .ite (fun _ => .noArguments (Error.does_around _ has)) fun _ => ?_
  refine .ite (fun _ => .oneArgument fun _ _ _ => Error.does_around _ has) fun _ => ?_
  refine .ite (fun _ => .noArguments doesStored) fun _ => ?_
  exact .ite (fun _ => .oneArgument fun _ _ _ => doesStored) fun _ => does_conversion? logs _

theorem does_reasonMethod? {code : Value} (has : L.Has now.store code) (method : String) :
    DoesMethod L (reasonMethod? code method) args now :=
  .ite (fun _ => .noArguments (.read_bind fun _ _ => .pure fun _ _ => trivial)) fun _ =>
    .ite (fun _ => .noArguments (.pure fun _ => has)) fun _ => .absent

theorem does_streamIdMethod? {value : Value} (has : L.Has now.store value) (method : String) :
    DoesMethod L (streamIdMethod? value method) args now := by
  have answer : ∀ {g : Store → Except Refusal Bool},
      Does L (do return Value.bool (← read g)) now L.Has :=
    .read_bind fun _ _ => .pure fun _ _ => trivial
  refine .ite (fun _ => .noArguments answer) fun _ => ?_
  refine .ite (fun _ => .noArguments answer) fun _ => ?_
  refine .ite (fun _ => .noArguments answer) fun _ => ?_
  refine .ite (fun _ => .noArguments (.pure fun _ => has)) fun _ => ?_
  refine .ite (fun _ => .noArguments (.read_bind fun w next => does_make rfl ?_)) fun _ => .absent
  exact Licence.hasAll_one fun _ => StreamId.has_nextOf next

theorem does_memberMethod? (has : L.Has now.store v) (method : String) :
    DoesMethod L (memberMethod? v method) args now := by
  refine .ite (fun _ => .found fun _ => .ask_bind (.ite (fun _ => ?_) fun _ => .throw _))
    fun _ => ?_
  · exact .read fun sound w held tidy => (sound tidy).heldByMember held
  · exact .ite (fun _ => .noArguments (.pure fun _ => has)) fun _ =>
      .ite (fun _ => .oneArgument fun _ _ _ => .pure fun _ => has) fun _ => .absent

theorem does_initiatorMethod? (i : Initiator) (method : String) :
    DoesMethod L (initiatorMethod? i method) args now :=
  .ite (fun _ => .noArguments (.pure fun _ _ => trivial)) fun _ =>
    .ite (fun _ => .noArguments (.pure fun _ _ => trivial)) fun _ => .absent

/-- What a constructor refuses stays in the object. -/
theorem does_remake (may : L.Writes) (found : now.store.get? r = some o)
    (frozen : o.record?.isSome) (allowed : L.may now.store (.remake r)) {fields : List Value}
    (held : L.HasAll now.store fields) : Does L (remake r o fields) now Anything := by
  have again : Does L (put r (o.withFields fields)) now fun t _ =>
      t.get? r = some (o.withFields fields) :=
    .of_deeds (put_apply _ _ _) (.remake allowed found frozen held) fun _ _ =>
      Store.get?_put_self _ (Store.lt_size_of_get? found)
  exact again.bind fun _ mid _ there => does_check may there

theorem does_frozenMethod? (may : L.Writes) (found : now.store.get? r = some o) {record : Record}
    (frozen : o.record? = some record) {method : String}
    (allowed : method = "__init__" → args ≠ [] → L.may now.store (.remake r)) :
    DoesMethod L (frozenMethod? r o record method) args now := by
  refine .ite (fun init => .found fun held => ?_) fun _ => ?_
  · refine .ite (fun _ => .throw _) fun enough => .ite (fun _ => .throw _) fun _ => ?_
    have given : args ≠ [] := by
      rintro rfl
      refine enough (List.length_pos_of_ne_nil fun none => ?_)
      exact Object.fields_ne_nil frozen (List.map_eq_nil_iff.mp none)
    exact (does_remake may found (frozen ▸ rfl) (allowed init given) held).bind
      fun _ _ _ _ => .null
  · refine .ite (fun _ => .noArguments ?_) fun _ => .absent
    exact (does_check may found).bind fun _ _ _ _ => .null

theorem does_exceptionMethod? (may : L.Writes) (free : args ≠ [] → L.Free)
    (sound : L.Sound now.store) (found : now.store.get? r = some o) {c : Carried}
    (carried : o.carried? = some c) (method : String) :
    DoesMethod L (exceptionMethod? r o c method) args now := by
  refine .ite (fun _ => .exactlyOne fun note one has => ?addNote) fun _ => ?_
  case addNote =>
    have given : args ≠ [] := one ▸ List.cons_ne_nil _ _
    exact (does_addNote (free given).toSets (Licence.has_place found) has).bind fun _ _ _ _ => .null
  refine .ite (fun _ => .exactlyOne fun v _ _ => ?withTraceback) fun _ => ?_
  case withTraceback =>
    split
    · exact .pure fun _ => Licence.has_place found
    · exact .throw _
  refine .ite (fun _ => .exactlyOne fun v _ _ => ?setState) fun _ => ?_
  case setState =>
    split
    · exact .null
    · exact .throw _
  refine .ite (fun _ => .found fun has => ?init) fun _ => .absent
  cases o with
  | exception e =>
    cases carried
    refine (Does.put (may _) found (.arguments args) ?_ ⟨rfl, rfl⟩).bind fun _ _ _ _ => .null
    refine Licence.hasAll_of fun tidy => ?_
    have held := (sound.parts found).tidy tidy
    exact Object.Held.withCarried (o := .exception e) held
      ((Object.held_carried held rfl).withArgs (has.tidy tidy) nofun)
  | fault f =>
    refine .ite (fun _ => .null) fun special => .read_bind fun fresh construct => ?_
    have notGeneral : f.cls ≠ .general := fun general => special (by rw [general]; rfl)
    have kept : fresh.cls = f.cls := Fault.cls_of_construct notGeneral construct
    have same : (f.reconstruct fresh).cls = f.cls := kept
    refine (Does.put (may _) found (.fault same) ?_ ⟨rfl, rfl⟩).bind fun _ _ _ _ => .null
    refine Licence.hasAll_of fun tidy => ?_
    have held := (sound.parts found).tidy tidy
    have freshHeld := Fault.held_of_construct (has.tidy tidy) construct
    exact Fault.held_iff.mp ((Fault.held_iff.mpr held).reconstruct freshHeld)
  | _ => exact .null

theorem does_comparison? (v : Value) (method : String) :
    DoesMethod L (comparison? v method) args now := by
  unfold comparison?
  extract_lets ofAnswer result equal? related?
  have answer : ∀ answer?, DoesMethod L (result answer?) args now := by
    intro answer?
    refine .found fun _ => ?_
    split
    · refine .read_bind fun a _ => .pure fun _ _ => ?_
      cases a <;> trivial
    · exact .throw _
  refine .ite (fun _ => answer _) fun _ => .ite (fun _ => answer _) fun _ => ?_
  refine .ite (fun _ => answer _) fun _ => .ite (fun _ => answer _) fun _ => ?_
  exact .ite (fun _ => answer _) fun _ => .ite (fun _ => answer _) fun _ => .absent

theorem does_named (o? : Option Object) (name : Value) (frozen : String → Refusal)
    {act : String → Action Unit} (h : ∀ t, name = .text t → Does L (act t) now Anything) :
    Does L (named o? name frozen act) now L.Has := by
  unfold named
  split
  · exact (h _ rfl).bind fun _ _ _ _ => .null
  · exact .read_bind fun _ _ => .throw_bind _ _
  · exact .ask_bind (.throw_bind _ _)

theorem ownMethod?_setattr (call : Caller) (v : Value) (o? : Option Object) :
    ownMethod? call v o? "__setattr__" = none := by
  unfold ownMethod?
  split
  · rfl
  · rfl
  · rfl
  · rename_i r o
    cases o with
    | report r => cases r <;> rfl
    | sendFailure f => cases f <;> rfl
    | kind k => cases k <;> rfl
    | _ => rfl
  · rfl

theorem does_setattr (free : args ≠ [] → L.Free) {v : Value} (there : L.Has now.store v)
    {o? : Option Object}
    (assigns : args.head? = some (.text "args") → MayAssign L now v) :
    DoesMethod L (commonMethod? v o? "__setattr__") args now := by
  refine .exactlyTwo fun name value two _ has => does_named o? name _ fun t given => ?_
  have some : args ≠ [] := two ▸ List.cons_ne_nil _ _
  refine does_setAttribute (free some).toSets there has fun same => assigns ?_
  rw [two, given, same]
  rfl

theorem does_commonMethod? (free : args ≠ [] → L.Free) {v : Value} (there : L.Has now.store v)
    (o? : Option Object)
    {method : String} (other : method ≠ "__setattr__") :
    DoesMethod L (commonMethod? v o? method) args now := by
  have form : ∀ {write : Store → Value → Except Refusal String}, DoesMethod L (some fun args => do
      let owner ← ask fun s => s.methodOwner v method
      noArguments owner method (do return .text (← read fun s => write s v)) args) args now :=
    .found fun _ => .ask_bind (.ite (fun _ => .read_bind fun _ _ => .pure fun _ _ => trivial)
      fun _ => .throw _)
  refine .ite (fun _ => form) fun _ => .ite (fun _ => form) fun _ => ?_
  refine .ite (fun same => absurd same other) fun _ => ?_
  refine .ite (fun _ => .found fun _ => ?_) fun _ => ?_
  · split
    · exact does_named _ _ _ fun _ _ =>
        does_deleteAttribute (free (List.cons_ne_nil _ _)).toSets there _
    · exact .throw _
  refine .ite (fun _ => .found fun _ => .null) fun _ => .ite (fun _ => ?_) fun _ => ?_
  · cases Store.whole? v with
    | none => exact .absent
    | some i => exact .noArguments (.pure fun _ _ => trivial)
  · exact does_comparison? _ _

section

variable (may : L.Writes)
include may

theorem does_method? (sound : L.Sound now.store) (calls : DoesCaller L call) {method : String}
    (licensed : Licensed L now v method args) (has : L.Has now.store v) :
    DoesMethod L (method? call v (now.store.object? v) method) args now := by
  by_cases set : method = "__setattr__"
  · subst set
    rw [method?, ownMethod?_setattr]
    exact does_setattr licensed.free has (licensed.assign rfl)
  refine .orElse ?_ (does_commonMethod? licensed.free has _ set)
  unfold ownMethod?
  split
  · exact does_conversion? (fun _ some => (licensed.free some).logs) _
  · exact .orElse (does_initiatorMethod? _ _) (does_memberMethod? has _)
  · exact does_memberMethod? has _
  · rename_i r o there
    have found : now.store.get? r = some o := there
    have held : L.HasAll now.store o.parts := sound.parts found
    have general : DoesMethod L
        ((o.record?.bind fun record => frozenMethod? r o record method) <|>
          o.carried?.bind fun c => exceptionMethod? r o c method) args now := by
      refine .orElse (.bind fun record frozen => ?_) (.bind fun c carried => ?_)
      · exact does_frozenMethod? may found frozen fun init some =>
          licensed.remake init some ⟨o, there, frozen ▸ rfl⟩ r rfl
      · exact does_exceptionMethod? may licensed.free sound found carried _
    cases o with
    | reason code => exact .orElse (does_reasonMethod? (held code List.mem_cons_self) _) general
    | streamId value =>
      exact .orElse (does_streamIdMethod? (held value List.mem_cons_self) _) general
    | error e =>
      refine .orElse (does_errorMethod? (fun _ some => (licensed.free some).logs) sound
        (held _ List.mem_cons_self) fun q side k v _ _ holds given => ?_) general
      refine calls _ _ _ _ licensed_nil ?_ Licence.hasAll_nil
      exact sound.parts (Store.kind?_eq_some_iff.mp holds) v
        (Kind.mem_parts_of_asked (by simp) given)
    | list items => exact does_listMethod? may sound found _
    | buffer content => exact does_bufferMethod? may found _
    | view source => exact does_viewMethod? may found rfl _
    | released => exact does_viewMethod? may found rfl _
    | _ => exact general
  · exact .absent

theorem does_callValue (calls : DoesCaller L call) (free : args ≠ [] → L.Free) (v : Value)
    (given : L.HasAll now.store args) : Does L (callValue call v args) now L.Has := by
  refine .of_sound fun sound => .ask_bind ?_
  split
  · rename_i o? cls
    refine DoesMethod.oneArgument (fun w (one : args = [w]) has => ?_) _ rfl given
    exact Error.does_via (free (one ▸ List.cons_ne_nil _ _)).logs cls .kind has
  · rename_i owner name _ bound
    refine .ask_bind ?_
    have has : L.Has now.store owner := fun tidy =>
      (sound tidy).object bound owner List.mem_cons_self
    split
    · exact does_method? may sound calls (licensed_of_bound free bound) has _ ‹_› given
    · exact .ask_bind (.throw _)
  · exact .ask_bind (.throw _)

theorem does_callAttribute (calls : DoesCaller L call) (free : args ≠ [] → L.Free)
    (has : L.Has now.store v) (name : String) (given : L.HasAll now.store args) :
    Does L (callAttribute call v name args) now L.Has := by
  have got : Does L (do callValue call (← getAttribute v name) args) now L.Has :=
    (does_getAttribute (fun _ => may) has).bind fun w mid deeds _ =>
      does_callValue may calls free w (given.grows deeds.grows)
  refine .ask_bind ?_
  split
  · exact .ite (fun _ => does_callValue may calls free v given) fun _ => got
  · exact got

theorem does_callUpTo (depth : Nat) : DoesCaller L (callUpTo depth) := by
  induction depth with
  | zero => exact fun _ _ _ _ _ _ _ => .throw _
  | succ depth ih =>
    intro now v name args licensed has given
    unfold callUpTo
    refine .of_sound fun sound => .ask_bind (.ask_bind ?_)
    split
    · exact does_callValue may ih licensed.free _ given
    · exact does_method? may sound ih licensed has _ ‹_› given
    · exact does_callAttribute may ih licensed.free has name given

theorem does_call : DoesCaller L Action.call := does_callUpTo may _

theorem does_apply (free : args ≠ [] → L.Free) (v : Value) (given : L.HasAll now.store args) :
    Does L (apply v args) now L.Has := does_callValue may (does_call may) free v given

theorem does_ask (has : L.Has now.store v) (q : Inspection) :
    Does L (inspect v q) now L.Has :=
  does_call may _ _ _ _ licensed_nil has Licence.hasAll_nil

end

theorem does_get {name : String} (may : name = "args" → L.Writes) (has : L.Has now.store v) :
    Does L (get v name) now L.Has := by
  refine .ask_bind (.ask_bind ?_)
  split
  · rename_i call _ found
    have named : NamesMethod name := ⟨_, _, _, Option.isSome_iff_exists.mpr ⟨call, found⟩⟩
    split
    · exact .create (Object.madeIn_method (.inl named)) (Licence.hasAll_one fun _ => trivial)
    · exact .create (Object.madeIn_method (.inl named)) (Licence.hasAll_one has)
  · exact does_getAttribute may has

end Action

end Http2Failure
