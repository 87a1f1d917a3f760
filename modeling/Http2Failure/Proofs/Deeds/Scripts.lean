import Http2Failure.Proofs.Deeds.Storing
import Http2Failure.Script.Step

/-!
# Deeds of scripts

Every step of a script, and the writing of its answer, is made of the deeds that are there. The
constructor of a frozen object is called again only by a step that names it, or where it was bound.
So no script, however it was put together and whichever of its steps were refused, comes to a
reference that dangles, and the objects that it made keep their places and their natures.
-/

namespace Http2Failure

open Http2Failure.Action

variable {L : Licence} {now : Session} {v : Value}

namespace Recovery

variable (may : L.Writes)
include may

theorem does_affirms (has : L.Has now.store v) (q : Inspection) :
    Does L (affirms v q) now Anything :=
  (does_ask may has q).bind fun _ _ _ _ => .read fun _ _ _ => trivial

theorem does_classify (has : L.Has now.store v) : Does L (classify v) now Anything := by
  refine (does_affirms may has _).bind fun _ _ first _ => .ite (fun _ => .done) fun _ => ?_
  have has := has.grows first.grows
  refine (does_affirms may has _).bind fun _ _ second _ => .ite (fun _ => .done) fun _ => ?_
  have has := has.grows second.grows
  refine (does_ask may has _).bind fun _ _ third _ => .ask_bind (.ite (fun _ => .done) fun _ => ?_)
  have has := has.grows third.grows
  exact (does_affirms may has _).bind fun _ _ _ _ => .ite (fun _ => .done) fun _ => .done

end Recovery

namespace Survey

theorem does_made {β : Type} {R : Store → β → Prop} {made : List Value}
    (has : L.HasAll now.store made) {x : Action Value} {f : Value → Action β}
    (hx : Does L x now L.Has)
    (hf : ∀ v mid, L.HasAll mid.store (v :: made) → Does L (f v) mid R) : Does L (x >>= f) now R :=
  hx.bind fun v mid deeds here => hf v mid (Licence.hasAll_cons here (has.grows deeds.grows))

theorem hasAll_three {s : Store} {a b c : Value} (ha : L.Has s a) (hb : L.Has s b)
    (hc : L.Has s c) : L.HasAll s [a, b, c] :=
  Licence.hasAll_cons ha (Licence.hasAll_cons hb (Licence.hasAll_one hc))

theorem does_sources : Does L sources now L.HasAll := by
  have immediate : ∀ {s : Store} {v : Value}, v.Immediate → L.Has s v := Licence.has_of_immediate
  have member : ∀ {s : Store} {v : Value}, v.isMember = true → L.Has s v := fun member _ =>
    Store.has_of_isMember member
  have constant : ∀ {now : Session} {code : Nat}, L.Sound now.store → code < Reason.names.length →
      L.Has now.store (known code) := fun sound bound tidy => (sound tidy).has_constant bound
  have pushed : ∀ {now : Session} {args : List Value} {f : Fault} {cls : Fault.Class},
      (∀ w ∈ args, w.Immediate) → Fault.construct now.store cls args = .ok f →
        Does L (create (.fault f)) now L.Has := fun plain construct =>
    .createFreely rfl (Licence.hasAll_of fun tidy => Fault.held_iff.mp
      (Fault.held_of_construct ((Licence.hasAll_of_immediate plain).tidy tidy) construct))
  have numbered : ∀ {i : Int} {text : String}, ∀ w ∈ [Value.int i, Value.text text], w.Immediate :=
    fun {i text} => List.forall_mem_cons.mpr ⟨trivial, List.forall_mem_singleton.mpr trivial⟩
  have streamId : ∀ {now : Session} {n : Int}, Does L (make (.streamId (.int n))) now L.Has :=
    does_make rfl (Licence.hasAll_one (immediate trivial))
  refine does_made Licence.hasAll_nil streamId fun first now has => .of_sound fun sound => ?_
  refine does_made has (.createFreely rfl ?_) fun refused now has => .of_sound fun sound => ?_
  · exact hasAll_three (has first (by simp)) (constant sound (by decide)) (member rfl)
  refine does_made has (does_make rfl ?_) fun calm now has => ?_
  · exact hasAll_three (immediate trivial) (constant sound (by decide)) (member rfl)
  refine does_made has streamId fun third now has => .of_sound fun sound => ?_
  refine does_made has (.createFreely rfl ?_) fun broken now has => ?_
  · exact hasAll_three (has third (by simp)) (constant sound (by decide)) (member rfl)
  refine does_made has (.createFreely rfl ?_) fun tooBig now has => ?_
  · exact Licence.hasAll_one (member rfl)
  refine .read_bind fun pipe construct => ?_
  refine does_made has (pushed numbered construct) fun pipe now has => ?_
  refine does_made has (.createFreely rfl ?_) fun transport now has => ?_
  · exact Licence.hasAll_one (has pipe (by simp))
  refine does_made has (.createFreely rfl ?_) fun connection now has => ?_
  · exact Licence.hasAll_one (has transport (by simp))
  refine .read_bind fun reset construct => ?_
  refine does_made has (pushed numbered construct) fun reset now has => .pure fun sound => ?_
  have shared : L.Has now.store (known 2) := constant sound (by decide)
  intro w hw
  simp only [List.mem_cons, List.not_mem_nil, or_false] at hw
  rcases hw with rfl | rfl | rfl | rfl | rfl | rfl | rfl | rfl
  · exact has _ (by simp)
  · exact has _ (by simp)
  · exact has _ (by simp)
  · exact shared
  · exact member rfl
  · exact has _ (by simp)
  · exact has _ (by simp)
  · exact has _ (by simp)

variable (may : L.Writes) (logs : L.Logs)
include may logs

theorem does_report (has : L.Has now.store v) : Does L (report v) now Anything := by
  refine (Error.does_via logs .base .any has).bind fun error _ _ made => ?_
  refine .read_bind fun shown _ => (Recovery.does_classify may made).bind fun _ _ _ _ => ?_
  exact .log (logs _)

theorem does_run : Does L run now Anything :=
  does_sources.bind fun _ _ _ has => .forIn fun source hs _ more =>
    does_report may logs ((has source hs).grows more.grows)

end Survey

namespace Script

namespace Answer

abbrev Shows {α : Type} (L : Licence) (x : Action α) (now : Session) : Prop := Does L x now Anything

def DoesWriter (L : Licence) (write : Value → Action Answer) : Prop :=
  ∀ now v, L.Has now.store v → Shows L (write v) now

variable {write : Value → Action Answer} (writes : DoesWriter L write)

theorem does_mapM {α β : Type} {f : α → Action β} {items : List α}
    (h : ∀ a ∈ items, ∀ mid, Deeds L now mid → Shows L (f a) mid) : Shows L (items.mapM f) now :=
  (Does.mapM lasting_anything h).anything

theorem does_forms (v : Value) : Shows L (forms v) now :=
  .ask_bind (.read_bind fun _ _ => .read_bind fun _ _ => .done)

theorem does_ofQuoted (v : Value) : Shows L (ofQuoted v) now :=
  .ask_bind (.read_bind fun _ _ => .done)

theorem does_ofCause (cause : Option Ref) : Shows L (ofCause cause) now := by
  cases cause with
  | none => exact .done
  | some r => exact .ask_bind (.read_bind fun _ _ => .done)

section

include writes

theorem does_ofFields {fields : List (String × Value)}
    (has : L.HasAll now.store (fields.map Prod.snd)) : Shows L (ofFields write fields) now := by
  refine (does_mapM fun field hf mid more => ?_).bind fun _ _ _ _ => .done
  exact (writes _ _ ((has _ (List.mem_map_of_mem hf)).grows more.grows)).bind fun _ _ _ _ => .done

theorem does_ofList {items : List Value} (has : L.HasAll now.store items) :
    Shows L (ofList write items) now :=
  (does_mapM fun w hw _ more => writes _ w ((has w hw).grows more.grows)).bind fun _ _ _ _ => .done

theorem does_ofCarried {c : Carried} (has : L.HasAll now.store c.parts) :
    Shows L (ofCarried write c) now := by
  refine (does_ofList writes fun w hw => has w ?_).bind fun _ _ more _ => ?_
  · exact Carried.mem_parts_iff.mpr (.inl hw)
  refine (does_ofFields writes fun w hw => ?_).bind fun _ _ _ _ =>
    (does_ofCause _).bind fun _ _ _ _ => .done
  have listed := Attributes.mem_sorted_iff.mp hw
  exact (has w (Carried.mem_parts_iff.mpr (.inr (.inl listed)))).grows more.grows

theorem does_ofFault {f : Fault} (has : L.HasAll now.store f.slots) :
    Shows L (ofFault write f) now := by
  have slot : ∀ {v? : Option Value}, (∀ v, v? = some v → v ∈ f.slots) →
      L.Has now.store (v?.getD .null) := by
    intro v? among
    cases v? with
    | none => exact Licence.has_of_immediate trivial
    | some v => exact has v (among v rfl)
  refine (does_mapM fun entry he mid more => ?_).bind fun _ _ _ _ => .done
  have held : L.Has now.store (entry.2.getD .null) := by
    simp only [List.mem_cons, List.not_mem_nil, or_false] at he
    rcases he with rfl | rfl | rfl | rfl
    · exact slot fun v hv => Fault.mem_slots_iff.mpr (.inl hv)
    · exact slot fun v hv => Fault.mem_slots_iff.mpr (.inr (.inl hv))
    · exact slot fun v hv => Fault.mem_slots_iff.mpr (.inr (.inr (.inl hv)))
    · exact slot fun v hv => Fault.mem_slots_iff.mpr (.inr (.inr (.inr hv)))
  exact (writes _ _ (held.grows more.grows)).bind fun _ _ _ _ => .done

end

theorem does_ofMember (writes : DoesWriter L write) (may : L.Writes) (has : L.Has now.store v) :
    Shows L (ofMember write v) now := by
  refine (does_forms v).bind fun _ _ more _ => (does_mapM fun name _ mid further => ?_).bind
    fun _ _ _ _ => .done
  exact (does_getAttribute (fun _ => may) (has.grows (more.trans further).grows)).bind
    fun _ _ _ read => (writes _ _ read).bind fun _ _ _ _ => .done

variable (may : L.Writes)
include may

include writes in
theorem does_ofInspections (has : L.Has now.store v) : Shows L (ofInspections write v) now := by
  refine does_mapM fun q _ mid more => ?_
  have answered : Shows L (inspect v q >>= write) mid :=
    (does_ask may (has.grows more.grows) q).bind fun _ _ _ there => writes _ _ there
  refine answered.attempt.bind fun result _ _ _ => ?_
  split
  · exact .done
  · exact .done

include writes in
theorem does_ofObject (has : L.Has now.store v) {o : Object} (held : L.HasAll now.store o.parts) :
    Shows L (ofObject write v o) now := by
  have fields : ∀ record : Record, o.record? = some record → Shows L (do
      let quoted ← Action.read fun s => s.quoted v
      return Answer.entries [("type", .text record.className), ("repr", .text quoted),
        ("fields", ← ofFields write record.fields)]) now := fun record frozen =>
    .read_bind fun _ _ => (does_ofFields writes fun w hw => held w (Object.shown_subset_parts o
      (Object.fields_subset_shown frozen hw))).bind fun _ _ _ _ => .done
  have first : ∀ {w : Value} {mid : Session}, w ∈ o.parts → Deeds L now mid →
      L.Has mid.store w := fun hw more => (held _ hw).grows more.grows
  cases o with
  | reason code =>
    have shown : Shows L (ofReason write code) now :=
      (writes _ _ (held code List.mem_cons_self)).bind fun _ _ _ _ => .read_bind fun _ _ =>
        .read_bind fun _ _ => .read_bind fun _ _ => .read_bind fun _ _ => .done
    exact shown.bind fun _ _ _ _ => (does_forms v).bind fun _ _ _ _ => .done
  | streamId value =>
    have shown : Shows L (ofStreamId write value) now :=
      (writes _ _ (held value List.mem_cons_self)).bind fun _ _ _ _ => .read_bind fun _ _ =>
        .ask_bind <| .read_bind fun _ _ => .read_bind fun _ _ => .done
    exact shown.bind fun _ _ _ _ => (does_forms v).bind fun _ _ _ _ => .done
  | fault f =>
    refine (does_forms v).bind fun _ _ more _ => ?_
    refine (does_ofCarried writes fun w hw => first (Fault.mem_parts_iff.mpr (.inl hw)) more).bind
      fun _ _ further _ => ?_
    exact (does_ofFault writes fun w hw => first (Fault.mem_parts_iff.mpr (.inr hw))
      (more.trans further)).bind fun _ _ _ _ => .done
  | exception e => exact does_ofQuoted v
  | method owner name => exact does_ofQuoted v
  | error e =>
    refine (does_forms v).bind fun _ _ more _ => ?_
    refine (does_ofCarried writes fun w hw => first (List.mem_cons_of_mem _ hw) more).bind
      fun _ _ further _ => .ask_bind ?_
    exact (does_ofInspections writes may (has.grows (more.trans further).grows)).bind
      fun _ _ _ _ => .done
  | buffer content => exact .done
  | view source => exact .ask_bind .done
  | released => exact .throw _
  | list items => exact (does_ofList writes held).bind fun _ _ _ _ => .done
  | tuple items => exact (does_ofList writes held).bind fun _ _ _ _ => .done
  | float word => exact .done
  | report r => exact fields _ rfl
  | sendFailure f => exact fields _ rfl
  | kind k => exact fields _ rfl

theorem does_writeUpTo (depth : Nat) : DoesWriter L (writeUpTo depth) := by
  induction depth with
  | zero => exact fun _ _ _ => .throw _
  | succ depth ih =>
    intro now v has
    cases v with
    | null | bool b | int i | text t | bytes content => exact .done
    | errorClass cls => exact does_ofQuoted _
    | undecided => exact does_ofQuoted _
    | misuse m => exact (does_ofMember ih may has).bind fun _ _ _ _ => .done
    | initiator i =>
      refine (does_ofMember ih may has).bind fun _ _ more _ => ?_
      refine (does_mapM fun side _ mid further => ?_).bind fun _ _ _ _ => .done
      have called := does_call may mid (.initiator i) side.method [] licensed_nil
        (has.grows (more.trans further).grows) Licence.hasAll_nil
      exact called.bind fun _ _ _ there => (ih _ _ there).bind fun _ _ _ _ => .done
    | object r =>
      refine .of_sound fun sound => .ask_bind ?_
      split
      · exact does_ofObject ih may has (sound.parts ‹_›)
      · exact .throw _

theorem does_write : DoesWriter L Answer.write := does_writeUpTo may _

end Answer

namespace Constructor

theorem does_apply (logs : L.Logs) (c : Constructor) {args : List Value}
    (has : L.HasAll now.store args) : Does L (c.apply args) now L.Has := by
  -- Only the parts that are immediate values need a word; the others are among the arguments.
  have plain : ∀ {v : Value}, v.Immediate → L.Has now.store v := Licence.has_of_immediate
  have member : ∀ {v : Value}, v.isMember = true → L.Has now.store v := fun member _ =>
    Store.has_of_isMember member
  unfold Constructor.apply
  split
  case h_1 => exact (does_tuple has).bind fun _ _ _ there => .pure fun _ => there.1
  case h_2 v =>
    refine .of_sound fun sound => .ask_bind ?_
    split
    · exact .createFreely rfl has
    · exact .createFreely rfl has
    · rename_i source found
      exact .createFreely rfl (Licence.hasAll_of fun tidy => (sound tidy).object found)
    · exact .throw _
    · exact .ask_bind (.throw _)
  case h_3 v => exact does_make rfl has
  case h_4 v => exact does_make rfl has
  case h_5 e v =>
    exact .read fun _ w found _ => Store.has_of_isMember (Store.isMember_of_memberOf found)
  case h_6 id code side => exact .createFreely rfl has
  case h_7 data code side => exact does_make rfl has
  case h_8 v => exact .createFreely rfl has
  case h_9 side id code =>
    exact .createFreely rfl (Survey.hasAll_three (has id (by simp)) (has code (by simp))
      (member rfl))
  case h_10 side code =>
    exact does_make rfl (Survey.hasAll_three (plain trivial) (has code (by simp)) (member rfl))
  case h_11 side code data =>
    exact does_make rfl (Survey.hasAll_three (has data (by simp)) (has code (by simp)) (member rfl))
  case h_12 v => exact .createFreely rfl has
  case h_13 v => exact .createFreely rfl has
  case h_14 id code side => exact .createFreely rfl has
  case h_15 data code side => exact .createFreely rfl has
  case h_16 v => exact .createFreely rfl has
  case h_17 v => exact .createFreely rfl has
  case h_18 v => exact .createFreely rfl has
  case h_19 cls =>
    refine .read_bind fun f construct => .createFreely rfl (Licence.hasAll_of fun tidy => ?_)
    exact Fault.held_iff.mp (Fault.held_of_construct (has.tidy tidy) construct)
  case h_20 cls =>
    refine .createFreely rfl (Licence.hasAll_of fun tidy => Carried.held_iff.mp ?_)
    exact ⟨has.tidy tidy, nofun, nofun, nofun, nofun⟩
  case h_21 cls route v => exact Error.does_via logs cls route (has v List.mem_cons_self)
  case h_22 => exact .throw _

end Constructor

def Bindings.Held (s : Store) (vars : Bindings) : Prop := ∀ v ∈ vars.values, s.Has v

theorem Bindings.Held.grows {vars : Bindings} {s t : Store} (h : vars.Held s) (grown : s.Grows t) :
    vars.Held t := grown.hasAll h

theorem Bindings.Held.named {vars : Bindings} {s : Store} (h : vars.Held s) (has : s.Has v)
    (name? : Option String) (origin : Option Nat) :
    Held s ((name?.map fun name => vars.bind name ⟨v, origin⟩).getD vars) := by
  cases name? with
  | none => exact h
  | some name =>
    intro w hw
    obtain ⟨entry, he, rfl⟩ := List.mem_map.mp hw
    rcases List.mem_cons.mp he with rfl | he
    · exact has
    · exact h _ (List.mem_map_of_mem (List.mem_filter.mp he).1)

namespace Expr

variable {vars : Bindings}

mutual

theorem does_eval (logs : L.Logs) : ∀ (e : Expr) {now : Session},
    (L.tidy → vars.Held now.store) → Does L (e.eval vars) now L.Has
  | .null, _, _ | .bool _, _, _ | .int _, _, _ | .text _, _, _ | .bytes _, _, _ =>
    .pure fun _ _ => trivial
  | .numeral _, _, _ => .read_bind fun _ _ => .pure fun _ _ => trivial
  | .float _, _, _ | .buffer _, _, _ => .createFreely rfl Licence.hasAll_nil
  | .var name, _, held => by
    unfold eval
    split
    · rename_i b bound
      refine .pure fun _ tidy => held tidy _ ?_
      obtain ⟨before, after, rfl, -⟩ := List.lookup_eq_some_iff.mp bound
      simp [Bindings.values]
    · exact .throw _
  | .reasonNamed name, _, _ => by
    unfold eval
    refine .ite (fun _ => .pure fun _ _ => trivial) fun _ => ?_
    split
    · rename_i code named
      exact .pure fun sound tidy => (sound tidy).has_codeOfName named
    · exact .throw _
  | .member e name, _, _ => by
    unfold eval
    split
    · exact .pure fun _ _ => Store.has_of_isMember (Store.isMember_of_ofName? ‹_›)
    · exact .throw _
  | .list items, _, held =>
    (does_evalAll logs items held).bind fun _ _ _ has => .createFreely rfl has
  | .build c args, _, held =>
    (does_evalAll logs args held).bind fun _ _ _ has => c.does_apply logs has

theorem does_evalAll (logs : L.Logs) : ∀ (es : List Expr) {now : Session},
    (L.tidy → vars.Held now.store) → Does L (evalAll vars es) now L.HasAll
  | [], _, _ => .pure fun _ => Licence.hasAll_nil
  | e :: rest, _, held => (does_eval logs e held).bind fun _ _ more has =>
    (does_evalAll logs rest fun tidy => (held tidy).grows more.grows).bind fun _ _ further others =>
      .pure fun _ => Licence.hasAll_cons (has.grows further.grows) others

end

end Expr

namespace Step

theorem does_raised (may : L.Writes) (v : Value) (cause? : Option Value) :
    Does L (raised v cause?) now Anything := by
  refine .of_sound fun sound => .ask_bind ?_
  split
  · rename_i r o there
    have found : now.store.get? r = some o := there
    split
    · exact .throw _
    · rename_i c carried
      cases cause? with
      | none => exact .done
      | some cause =>
        refine .ask_bind ?_
        split
        · rename_i cause given
          refine .anything (.put (may _) found (.cause carried _) ?_ ?_)
          · refine Licence.hasAll_of fun tidy => ?_
            have held := (sound.parts found).tidy tidy
            refine Object.Held.withCarried held ((Object.held_carried held carried).withCause ?_)
            exact fun r hr => Store.lt_size_of_exception? (hr ▸ given)
          · cases o <;> cases carried <;> exact ⟨rfl, rfl⟩
        · exact .throw _
  · exact .throw _

/-- The step calls the constructor of a frozen object again, by its name. -/
def Recalls (vars : Bindings) (now : Session) : Step → Prop
  | .call target method args _ => method = "__init__" ∧ ∃ v given mid after,
    target.eval vars now = (.ok v, mid) ∧ Expr.evalAll vars args mid = (.ok given, after) ∧
      after.store.IsFrozen v
  | _ => False

/-- The step gives the error at the place other arguments, by their name. -/
def Assigns (vars : Bindings) (now : Session) (r : Ref) : Step → Prop
  | .set target attr _ => attr = "args" ∧ ∃ mid, target.eval vars now = (.ok (.object r), mid)
  | .call target method args _ => method = "__setattr__" ∧ ∃ given mid after,
    target.eval vars now = (.ok (.object r), mid) ∧
      Expr.evalAll vars args mid = (.ok given, after) ∧ given.head? = some (.text "args")
  | _ => False

/-- What a step clones is cloned by no more than may be done. -/
def ClonesBy (L : Licence) (vars : Bindings) (now : Session) (step : Step) : Prop :=
  ∀ e mode name? v mid, step = .clone e mode name? → e.eval vars now = (.ok v, mid) →
    L.Has mid.store v → Does L (Action.clone mode v) mid L.Has

theorem clonesBy_of_assigns {vars : Bindings} {step : Step} (free : L.Free) (assigns : L.Assigns) :
    step.ClonesBy L vars now := fun _ mode _ _ _ _ _ has => does_clone free assigns mode has

def Product.Held (s : Store) : Product → Prop
  | .value v _ => s.Has v
  | .answer _ => True

theorem does_constantsAnswer (may : L.Writes) : Does L constantsAnswer now Anything := by
  have write := Answer.does_write may
  have member : ∀ {s : Store} {v : Value}, v.isMember = true → L.Has s v := fun member _ =>
    Store.has_of_isMember member
  refine .of_sound fun sound => ?_
  have zero : L.Has now.store (.object Store.zeroRef) := fun tidy => (sound tidy).has_zero
  refine (write _ _ zero).bind fun _ _ _ _ => ?_
  refine (Answer.does_mapM fun code hc mid _ => .of_sound fun sound => ?_).bind fun _ _ _ _ => ?_
  · have known : L.Has mid.store (.object code) := fun tidy =>
      (sound tidy).has_constant (List.mem_range.mp hc)
    exact write _ _ known
  refine (Answer.does_mapM fun m _ mid _ => write _ _ (member rfl)).bind fun _ _ _ _ => ?_
  exact (Answer.does_mapM fun i _ mid _ => write _ _ (member rfl)).bind fun _ _ _ _ => .done

variable (free : L.Free)
include free

theorem does_perform {vars : Bindings} {step : Step} (held : L.tidy → vars.Held now.store)
    (recalls : step.Recalls vars now → ∀ s r, L.may s (.remake r))
    (assigns : ∀ r, step.Assigns vars now r → ∀ s, L.may s (.assign r))
    (clones : step.ClonesBy L vars now) :
    Does L (step.perform vars) now fun t product => L.tidy → product.Held t := by
  have eval : ∀ {mid : Session} (e : Expr), Deeds L now mid → Does L (e.eval vars) mid L.Has :=
    fun e more => Expr.does_eval free.logs e fun tidy => (held tidy).grows more.grows
  have write := Answer.does_write free.write
  have here := Deeds.none (L := L) now
  have shown : ∀ {mid : Session} (a : Answer), Does L (pure (Product.answer a)) mid
      fun t product => L.tidy → product.Held t := fun _ => .pure fun _ _ => trivial
  have value : ∀ {mid : Session} {x : Action Value} (name? : Option String), Does L x mid L.Has →
      Does L (do return Product.value (← x) name?) mid fun t product => L.tidy → product.Held t :=
    fun name? h => h.bind fun _ _ _ has => .pure fun _ tidy => has tidy
  cases step with
  | display e name? => exact value name? (eval e here)
  | call target method args name? =>
    refine (eval target here).bind_run fun v mid run more has => ?_
    refine (Expr.does_evalAll free.logs args fun tidy => (held tidy).grows more.grows).bind_run
      fun given after run' further givenHas => ?_
    refine value name? (does_call free.write _ _ _ _ ?_ (has.grows further.grows) givenHas)
    constructor
    · exact fun _ => free
    · exact fun init _ frozen r _ => recalls ⟨init, v, given, mid, after, run, run', frozen⟩ _ r
    · rintro set named r e rfl -
      exact assigns r ⟨set, given, mid, after, run, run', named⟩ _
  | get target attr name? =>
    exact (eval target here).bind fun _ _ _ has => value name? (does_get (fun _ => free.write) has)
  | set target attr e =>
    refine (eval target here).bind_run fun v mid run more there =>
      (eval e more).bind fun w _ further has => ?_
    refine (does_setAttribute free.toSets (there.grows further.grows) has fun named => ?_).bind
      fun _ _ _ _ => shown _
    rintro r error rfl -
    exact assigns r ⟨named, mid, run⟩ _
  | delete target attr =>
    exact (eval target here).bind fun _ _ _ there =>
      (does_deleteAttribute free.toSets there _).bind fun _ _ _ _ => shown _
  | poke target index byte =>
    refine (eval target here).bind fun v mid _ _ => ?_
    have item : L.Has mid.store (.int byte) := fun _ => trivial
    exact (does_setItem free.write v (.int index) item).bind fun _ _ _ _ => shown _
  | same a b =>
    exact (eval a here).bind fun _ _ more _ => (eval b more).bind fun _ _ _ _ => shown _
  | equal a b =>
    exact (eval a here).bind fun _ _ more _ => (eval b more).bind fun _ _ _ _ =>
      .ask_bind (shown _)
  | less a b =>
    exact (eval a here).bind fun _ _ more _ => (eval b more).bind fun _ _ _ _ =>
      .read_bind fun _ _ => shown _
  | distinct values =>
    exact (Expr.does_evalAll free.logs values held).bind fun _ _ _ _ =>
      .read_bind fun _ _ => shown _
  | clone e mode name? =>
    refine (eval e here).bind_run fun v mid run _ has => value name? ?_
    exact clones e mode name? v mid rfl run has
  | raise exception cause? =>
    refine (eval exception here).bind fun exception mid more has => ?_
    have caught : ∀ {mid : Session} (cause? : Option Value), L.Has mid.store exception →
        Does L (do
          raised exception cause?
          let caught ← Answer.write exception
          let suppressed ← .getAttribute exception "__suppress_context__"
          return Product.answer (.entries [("caught", caught),
            ("suppress_context", ← Answer.write suppressed)])) mid
          fun t product => L.tidy → product.Held t := by
      intro mid cause? has
      refine (does_raised free.write exception cause?).bind fun _ _ first _ => ?_
      have has := has.grows first.grows
      refine (write _ exception has).bind fun _ _ second _ => ?_
      refine (does_getAttribute (fun _ => free.write) (has.grows second.grows)).bind
        fun _ _ _ read => ?_
      exact (write _ _ read).bind fun _ _ _ _ => shown _
    cases cause? with
    | none => exact caught none has
    | some cause =>
      exact (eval cause more).bind fun v _ further _ => caught (some v) (has.grows further.grows)
  | renderKind kind => exact (eval kind here).bind fun _ _ _ _ => .read_bind fun _ _ => shown _
  | classify error =>
    exact (eval error here).bind fun _ _ _ has =>
      (Recovery.does_classify free.write has).bind fun _ _ _ _ => shown _
  | survey => exact (Survey.does_run free.write free.logs).bind fun _ _ _ _ => shown _
  | constants => exact (does_constantsAnswer free.write).bind fun _ _ _ _ => shown _

/-- Where a step starts: the views are gone that no variable holds, and the log is empty. -/
def start (state : State) : Session := { state.session with store := state.held, log := [] }

end Step

namespace State

structure Sound (state : State) : Prop where
  store : state.session.store.Sound
  vars : state.vars.Held state.session.store

theorem initial_sound : Sound .initial := ⟨Store.initial_sound, nofun⟩

/-- The state after some steps. -/
def after (state : State) (steps : List Step) : State :=
  steps.foldl (fun state step => (step.run state).2) state

end State

namespace Step

/-- All that a step does, its value being shown in the end. -/
theorem deeds_run (free : L.Free) {state : State} {step : Step} (sound : L.tidy → state.Sound)
    (recalls : step.Recalls state.vars (start state) → ∀ s r, L.may s (.remake r))
    (assigns : ∀ r, step.Assigns state.vars (start state) r → ∀ s, L.may s (.assign r))
    (clones : step.ClonesBy L state.vars (start state)) :
    Deeds L (start state) (step.run state).2.session ∧
      (L.tidy → (step.run state).2.vars.Held (step.run state).2.session.store) := by
  have released := state.session.store.grows_releaseGone state.vars.values
  have sound' : L.Sound (start state).store := fun tidy => (sound tidy).store.releaseGone _
  have held : L.tidy → state.vars.Held (start state).store := fun tidy =>
    (sound tidy).vars.grows released
  obtain ⟨performed, product⟩ := does_perform free held recalls assigns clones sound'
  unfold Step.run
  change Deeds L (start state) (step.perform state.vars ⟨state.held, []⟩).2 at performed
  change ∀ product, (step.perform state.vars ⟨state.held, []⟩).1 = .ok product →
    L.tidy → product.Held (step.perform state.vars ⟨state.held, []⟩).2.store at product
  generalize step.perform state.vars ⟨state.held, []⟩ = outcome at performed product ⊢
  obtain ⟨result, session⟩ := outcome
  have kept : L.tidy → state.vars.Held session.store := fun tidy =>
    (held tidy).grows performed.grows
  match result with
  | .error r => exact ⟨performed, kept⟩
  | .ok (.answer a) => exact ⟨performed, kept⟩
  | .ok (.value v name?) =>
    have has : L.Has session.store v := product _ rfl
    have written := (Answer.does_write free.write session v has).deeds (performed.sound sound')
    refine ⟨performed.trans written, fun tidy => ?_⟩
    exact ((kept tidy).named (has tidy) name? _).grows written.grows

end Step

namespace State

theorem deeds_step {state : State} (sound : state.Sound) (step : Step) :
    Deeds Licence.anything (Step.start state) (step.run state).2.session ∧
      (step.run state).2.vars.Held (step.run state).2.session.store := by
  have free := Licence.anything_free
  have clones : step.ClonesBy Licence.anything state.vars (Step.start state) :=
    Step.clonesBy_of_assigns free fun _ _ => trivial
  have ⟨deeds, held⟩ := Step.deeds_run free (fun _ => sound) (fun _ _ _ => trivial)
    (fun _ _ _ => trivial) clones
  exact ⟨deeds, held trivial⟩

theorem Sound.step {state : State} (sound : state.Sound) (step : Step) :
    (step.run state).2.Sound ∧ state.session.store.Grows (step.run state).2.session.store := by
  obtain ⟨deeds, held⟩ := deeds_step sound step
  have released := state.session.store.grows_releaseGone state.vars.values
  exact ⟨⟨deeds.sound (fun _ => sound.store.releaseGone _) trivial, held⟩,
    released.trans deeds.grows⟩

theorem Sound.after {state : State} (sound : state.Sound) (steps : List Step) :
    (state.after steps).Sound ∧
      state.session.store.Grows (state.after steps).session.store := by
  induction steps generalizing state with
  | nil => exact ⟨sound, .refl _⟩
  | cons step rest ih =>
    obtain ⟨next, grown⟩ := sound.step step
    obtain ⟨last, grown'⟩ := ih next
    exact ⟨last, grown.trans grown'⟩

theorem closed_after (steps : List Step) : (initial.after steps).session.store.Closed :=
  (initial_sound.after steps).1.store.closed

end State

end Script

end Http2Failure
