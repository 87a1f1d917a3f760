import Http2Failure.Proofs.Holders
import Http2Failure.Proofs.Naming
import Http2Failure.Proofs.Settled

/-!
# What may change nothing

Questions and clones look for methods among attributes first. What stands there is called in the
place of the method, but nothing can be called but a bound method or a class of errors, and a class
refuses what it is given here. So where no attribute is a bound method, nothing happens to what was
there before, and new objects and records in the log are all that is left behind.
-/

namespace Http2Failure

open Http2Failure.Action

def Licence.readOnly : Licence := ⟨fun _ deed => deed = .log, True⟩

theorem Licence.readOnly_logs : readOnly.Logs := fun _ => rfl

abbrev Licence.IsQuiet (L : Licence) : Prop := ∀ s deed, L.may s deed → deed = .log

/-- Not even writing to the log is allowed, and nothing is asked of the stores. -/
def Licence.silent : Licence := ⟨fun _ _ => False, False⟩

theorem Licence.silent_isQuiet : silent.IsQuiet := fun _ _ allowed => allowed.elim

theorem Licence.silent_sound (s : Store) : silent.Sound s := False.elim

theorem Licence.silent_has (s : Store) (v : Value) : silent.Has s v := False.elim

/-- All objects, all that was given to a value, and the log are as before, as far as they were
there. -/
structure Session.Extends (now after : Session) : Prop where
  store : Store.AgreesOn (Older now.store.size) now.store after.store
  log : ∃ written, after.log = now.log ++ written

namespace Session.Extends

variable {now mid after : Session} {v : Value} {r : Ref} {o : Object}

theorem refl (now : Session) : now.Extends now := ⟨.refl _ _, [], (List.append_nil _).symm⟩

theorem trans (h : now.Extends mid) (h' : mid.Extends after) : now.Extends after where
  store := h.store.trans (h'.store.mono (Older.mono h.store.size_le))
  log := by
    obtain ⟨first, h⟩ := h.log
    obtain ⟨second, h'⟩ := h'.log
    exact ⟨first ++ second, by rw [h', h, List.append_assoc]⟩

theorem get? (h : now.Extends after) (found : now.store.get? r = some o) :
    after.store.get? r = some o :=
  (h.store.objects (Store.lt_size_of_get? found)).trans found

end Session.Extends

theorem Deeds.extends {L : Licence} {now after : Session} (quiet : L.IsQuiet)
    (h : Deeds L now after) : now.Extends after := by
  have none : ∀ (now : Session), ∃ written, now.log = now.log ++ written := fun now =>
    ⟨[], (List.append_nil _).symm⟩
  induction h with
  | none => exact .refl _
  | trans _ _ ih ih' => exact ih.trans ih'
  | push => exact ⟨Store.agreesOn_pushWith _ _ _, none _⟩
  | @around now mid o o' given? given'? _ _ _ _ _ ih =>
    have made := Store.agreesOn_pushWith now.store o given?
    have inner := made.trans (ih.store.mono (Older.mono made.size_le))
    exact ⟨inner.trans (Store.agreesOn_filled mid.store now.store.size o' given'?), ih.log⟩
  | write may | give may | remake may | restate may => exact nomatch quiet _ _ may
  | log _ record => exact ⟨.refl _ _, [record], rfl⟩

namespace Store

/-- The value can be come by from the subject: it is the subject, a part of an object, or something
that a value was given. -/
inductive Reaches (s : Store) (subject : Value) : Value → Prop
  | here : Reaches s subject subject
  | part {r : Ref} {o : Object} {v : Value} (path : Reaches s subject (.object r))
    (found : s.get? r = some o) (part : v ∈ o.parts) : Reaches s subject v
  | worn {v w : Value} (path : Reaches s subject v)
    (worn : w ∈ (s.attributesOf v).map Prod.snd) : Reaches s subject w

def IsBound (s : Store) (v : Value) : Prop :=
  ∃ owner name, s.object? v = some (.method owner name)

/-- No value that the subject reaches has an attribute of that name that is a bound method. -/
def Unhooked (s : Store) (subject : Value) (name : String) : Prop :=
  ∀ v, s.Reaches subject v → ∀ w, s.hiding? v name = some w → ¬ s.IsBound w

variable {s : Store} {subject v : Value}

theorem not_isBound (unbound : s.isUnbound = true) (v : Value) : ¬ s.IsBound v := by
  rintro ⟨owner, name, found⟩
  cases v with
  | object r => exact get?_ne_method unbound found
  | _ => cases found

theorem Reaches.has (closed : s.Closed) (has : s.Has subject) (path : s.Reaches subject v) :
    s.Has v := by
  cases path with
  | here => exact has
  | part _ found part => exact closed.parts _ _ found _ part
  | worn _ worn => exact closed.attributesOf _ _ worn

end Store

namespace Action

variable {now : Session} {call : Caller} {v : Value} {name : String} {args : List Value}

/-- Nothing else than a bound method can be called with these arguments. -/
theorem refused_callValue (unbound : ¬ now.store.IsBound v) (plain : ∀ w ∈ args, w.Immediate) :
    Refused (callValue call v args) now := by
  refine .ask_bind ?_
  split
  · match args, plain with
    | [], _ => exact .throw _
    | [w], plain =>
      refine Refused.ask_bind ?_
      split
      · exact (plain _ List.mem_cons_self).elim
      · exact .ask_bind (.throw _)
    | _ :: _ :: _, _ => exact .throw _
  · exact absurd ⟨_, _, ‹_›⟩ unbound
  · exact .ask_bind (.throw _)

theorem refused_callValue_nil (unbound : ¬ now.store.IsBound v) :
    Refused (callValue call v []) now :=
  refused_callValue unbound nofun

/-- By these names a value is asked that may be no error. No slot and no field has them. -/
def bareQuestions : List String := ["is_io", "is_local", "is_remote"]

theorem slot_of_question (question : name ∈ bareQuestions) (o : Object) : o.slot name = .free := by
  simp only [bareQuestions, List.mem_cons, List.not_mem_nil, or_false] at question
  rcases question with rfl | rfl | rfl <;> cases o <;> rfl

theorem refused_ofObject (question : name ∈ bareQuestions) (s : Store) {o : Object}
    (bare : ∀ c, o.carried? = some c → c.attributes.get? name = none) :
    ∃ refusal, o.getAttribute s name = .error refusal := by
  have free : ∀ (c : Carried) className, o.carried? = some c →
      c.getSlot className name .free = .error (.noAttribute className name) := by
    intro c className carried
    simp only [Carried.getSlot, Carried.getFree, bare c carried]
  have slot := slot_of_question question o
  simp only [bareQuestions, List.mem_cons, List.not_mem_nil, or_false] at question
  cases o with
  | fault f => exact ⟨_, by rw [Object.getAttribute, slot]; exact free _ _ rfl⟩
  | exception e => exact ⟨_, by rw [Object.getAttribute, slot]; exact free _ _ rfl⟩
  | error e => exact ⟨_, by simp only [Object.getAttribute, slot]; exact free _ _ rfl⟩
  | report x | sendFailure x | kind x =>
    rcases question with rfl | rfl | rfl <;> cases x <;> exact ⟨_, rfl⟩
  | _ => rcases question with rfl | rfl | rfl <;> exact ⟨_, rfl⟩

theorem refused_ofMember (question : name ∈ bareQuestions) (s : Store)
    (visible : (s.attributesOf v).get? name = none) :
    ∃ refusal, s.memberAttribute v name = .error refusal := by
  have unknown : v.enumeration?.bind (Enumeration.ofName? name) = none := by
    simp only [bareQuestions, List.mem_cons, List.not_mem_nil, or_false] at question
    cases v with
    | misuse | initiator => rcases question with rfl | rfl | rfl <;> rfl
    | _ => rfl
  have source : Store.sourceInMember name = name := by
    simp only [bareQuestions, List.mem_cons, List.not_mem_nil, or_false] at question
    rcases question with rfl | rfl | rfl <;> rfl
  simp only [Store.memberAttribute, Store.heldByMember, source, visible]
  exact ⟨_, by rw [unknown]⟩

theorem refused_getAttribute (question : name ∈ bareQuestions)
    (visible : now.store.hiding? v name = none) : Refused (getAttribute v name) now := by
  refine .ask_bind ?_
  split
  · rename_i r o found
    have found : now.store.get? r = some o := found
    have bare : ∀ c, o.carried? = some c → c.attributes.get? name = none := by
      intro c carried
      rwa [Store.hiding?, Store.attributesOf_of_carried found carried] at visible
    have plain : now.store.extra? (.object r) o name = none := by
      unfold Store.extra?
      split
      · exact visible
      · rfl
    obtain ⟨refusal, refused⟩ := refused_ofObject question now.store bare
    split
    · rename_i slot
      cases (slot_of_question question o).symm.trans slot
    · exact ⟨refusal, by simp only [read_apply, plain, Option.elim_none, refused]⟩
  · split
    · obtain ⟨refusal, refused⟩ := refused_ofMember question now.store visible
      exact ⟨refusal, by simp only [read_apply, refused]⟩
    · exact .ask_bind (.throw _)

theorem refused_callAttribute (question : name ∈ bareQuestions)
    (visible : now.store.hiding? v name = none) : Refused (callAttribute call v name args) now := by
  have other : name ≠ "__call__" := by
    rintro rfl
    revert question
    decide
  have unread := refused_getAttribute question visible
  refine .ask_bind ?_
  split
  · rw [if_neg other]
    exact unread.bind
  · exact unread.bind

end Action

/-- The value is one that the subject reached before, and everything is there as it was. -/
structure Visited (base : Session) (subject : Value) (now : Session) (v : Value) : Prop where
  more : base.Extends now
  path : base.store.Reaches subject v

section

variable {base now : Session} {subject v : Value} {r : Ref} {name : String}

namespace Visited

theorem later {L : Licence} (quiet : L.IsQuiet) {mid : Session}
    (visited : Visited base subject now v) (deeds : Deeds L now mid) : Visited base subject mid v :=
  ⟨visited.more.trans (deeds.extends quiet), visited.path⟩

variable (sound : base.store.Sound) (has : base.store.Has subject)
include sound has

theorem object?_eq (visited : Visited base subject now v) :
    now.store.object? v = base.store.object? v :=
  visited.more.store.object? (visited.path.has sound.closed has)

theorem attributesOf_eq (visited : Visited base subject now v) :
    now.store.attributesOf v = base.store.attributesOf v :=
  visited.more.store.attributesOf (visited.path.has sound.closed has)

theorem part {o : Object} (visited : Visited base subject now (.object r))
    (found : now.store.get? r = some o) : ∀ w ∈ o.parts, Visited base subject now w :=
  fun _ hw =>
    ⟨visited.more, .part visited.path ((visited.object?_eq sound has).symm.trans found) hw⟩

/-- What hides a method of a value is there as it was, and is no bound method. -/
theorem unbound {w : Value} (visited : Visited base subject now v)
    (unhooked : base.store.Unhooked subject name) (hidden : now.store.hiding? v name = some w) :
    ¬ now.store.IsBound w := by
  have before : base.store.hiding? v name = some w := by
    rw [← hidden, Store.hiding?, Store.hiding?, visited.attributesOf_eq sound has]
  have there : now.store.object? w = base.store.object? w :=
    visited.more.store.object? (sound.get?_attributesOf before)
  rw [Store.IsBound, there]
  exact unhooked v visited.path w before

end Visited

namespace Action

variable {L : Licence} (sound : base.store.Sound) (has : base.store.Has subject)
include sound has

theorem does_askSide {side : Initiator} (unhooked : base.store.Unhooked subject side.method)
    (depth : Nat) {now : Session} {v : Value} (visited : Visited base subject now v) :
    Does L (callUpTo depth v side.method []) now L.Has := by
  have question : side.method ∈ bareQuestions := by cases side <;> decide
  have other : side.method ∉ commonNames ∧ side.method ∉ sortNames ∧
      Error.Route.ofMethod? side.method = none := by cases side <;> decide
  have same : ∀ q side', Inspection.ofMethod? side.method = some q → q.side? = some side' →
      side' = side := by
    intro q side' known given
    cases side with
    | library => cases known
    | peer =>
      cases known
      cases given
      rfl
  induction depth generalizing now v with
  | zero => exact .throw _
  | succ depth ih =>
    refine .of_sound fun here => .ask_bind (.ask_bind ?_)
    split
    · rename_i hidden
      exact (refused_callValue_nil (visited.unbound sound has unhooked hidden)).does
    · rename_i found
      rw [method?_of_other other.1 other.2.1 other.2.2] at found
      split at found
      · cases side <;> cases found <;> exact .pure fun _ _ => trivial
      · rename_i r e visible there
        have asked : ∀ q side' k w, Inspection.ofMethod? side.method = some q →
            q.side? = some side' → now.store.kind? e.kind = some k → k.initiator? = some w →
              Does L (callUpTo depth w side'.method []) now L.Has := by
          intro q side' k w known given holds held
          cases same q side' known given
          have kind := visited.part sound has there (.object e.kind) List.mem_cons_self
          exact ih (kind.part sound has (Store.kind?_eq_some_iff.mp holds) w
            (Kind.mem_parts_of_asked (by simp) held))
        exact does_errorMethod? (fun _ none => absurd rfl none) here
          (here.parts there _ List.mem_cons_self) asked _ found Licence.hasAll_nil
      · cases found
    · exact (refused_callAttribute question ‹_›).does

theorem does_callError (visited : Visited base subject now (.object r)) {e : Error}
    (found : now.store.get? r = some (.error e)) {depth : Nat}
    (known : (errorMethod? (callUpTo depth) e name).isSome)
    (unhooked : base.store.Unhooked subject name)
    (asked : ∀ q side, Inspection.ofMethod? name = some q → q.side? = some side →
      base.store.Unhooked subject side.method) :
    Does L (callUpTo (depth + 1) (.object r) name []) now L.Has := by
  obtain ⟨result, given⟩ := Option.isSome_iff_exists.mp known
  refine .of_sound fun here => ?_
  have answers : Does L (result []) now L.Has := by
    refine does_errorMethod? (fun _ none => absurd rfl none) here
      (here.parts found _ List.mem_cons_self)
      (fun q side k w named other holds held => ?_) _ given Licence.hasAll_nil
    have kind := visited.part sound has found (.object e.kind) List.mem_cons_self
    exact does_askSide sound has (asked q side named other) depth
      (kind.part sound has (Store.kind?_eq_some_iff.mp holds) w
        (Kind.mem_parts_of_asked (by simp) held))
  have method : method? (callUpTo depth) (.object r) (some (.error e)) name = some result := by
    simp only [method?, ownMethod?, given]
    rfl
  refine .ask_bind (.ask_bind ?_)
  simp only [Store.object?, found, method]
  split
  · exact (refused_callValue_nil (visited.unbound sound has unhooked ‹_›)).does
  · rename_i same
    cases same
    exact answers
  · rename_i absent
    cases absent

theorem does_question (visited : Visited base subject now (.object r)) {e : Error}
    (found : now.store.get? r = some (.error e)) {q : Inspection}
    (unhooked : base.store.Unhooked subject q.method)
    (asked : ∀ side, q.side? = some side → base.store.Unhooked subject side.method) :
    Does L (inspect (.object r) q) now L.Has := by
  have known : Inspection.ofMethod? q.method = some q := by cases q <;> decide
  refine does_callError sound has visited found ?_ unhooked fun q' side known' given => ?_
  · rw [errorMethod?]
    simp only [known, Option.isSome_some]
  · cases known.symm.trans known'
    exact asked side given

theorem does_rebuild (visited : Visited base subject now (.object r)) {e : Error}
    (found : now.store.get? r = some (.error e))
    (unhooked : base.store.Unhooked subject "into_io") :
    Does L (call (.object r) "into_io" []) now L.Has := by
  refine does_callError sound has visited found ?_ unhooked fun q side known => ?_
  · rw [Error.errorMethod?_into_io, Option.isSome_some]
  · cases known

theorem does_classify (quiet : L.IsQuiet) (visited : Visited base subject now v)
    (unhooked : ∀ name ∈ ["is_io", "is_user", "reason", "is_remote"],
      base.store.Unhooked subject name) : Does L (Recovery.classify v) now Anything := by
  by_cases isError : ∃ r e, v = .object r ∧ now.store.get? r = some (.error e)
  · obtain ⟨r, e, rfl, found⟩ := isError
    have asks : ∀ {mid : Session} (q : Inspection), q.method ∈ ["is_io", "is_user", "reason",
        "is_remote"] → Deeds L now mid → Does L (inspect (.object r) q) mid L.Has := by
      intro mid q listed deeds
      refine does_question sound has (visited.later quiet deeds) ((deeds.extends quiet).get? found)
        (unhooked _ listed) fun side given => ?_
      cases q <;> cases given
      · exact unhooked _ (by decide)
      · exact absurd listed (by decide)
    have affirms : ∀ {mid : Session} (q : Inspection), q.method ∈ ["is_io", "is_user", "reason",
        "is_remote"] → Deeds L now mid →
          Does L (Recovery.affirms (.object r) q) mid Anything := fun q listed deeds =>
      (asks q listed deeds).bind fun _ _ _ _ => .read fun _ _ _ => trivial
    refine (affirms .isTransport (by decide) (.none _)).bind fun _ _ first _ => ?_
    refine .ite (fun _ => .done) fun _ => ?_
    refine (affirms .isMisuse (by decide) first).bind fun _ _ second _ => ?_
    refine .ite (fun _ => .done) fun _ => ?_
    have first := first.trans second
    refine (asks .reason (by decide) first).bind fun _ _ third _ => .ask_bind ?_
    refine .ite (fun _ => .done) fun _ => ?_
    refine (affirms .isRemote (by decide) (first.trans third)).bind fun _ _ _ _ => ?_
    exact .ite (fun _ => .done) fun _ => .done
  · have refused : Refused (inspect v .isTransport) now := by
      have question : Inspection.isTransport.method ∈ bareQuestions := by decide
      refine .ask_bind (.ask_bind ?_)
      split
      · rename_i hidden
        exact refused_callValue_nil (visited.unbound sound has (unhooked _ (by decide)) hidden)
      · rename_i found
        rw [method?_of_other (by decide) (by decide) (by decide)] at found
        split at found
        · cases found
        · exact absurd ⟨_, _, rfl, ‹_›⟩ isError
        · cases found
      · exact refused_callAttribute question ‹_›
    exact refused.bind.bind.does

omit L in
theorem refused_replaced (visited : Visited base subject now v) {mode : CloneMode}
    (unhooked : ∀ name ∈ mode.hooks, base.store.Unhooked subject name) {value : Value}
    {args : List Value}
    (replaces : (now.store.attributesOf v).Replaces mode (now.store.asksForParts v) value args) :
    Refused (apply value args) now := by
  obtain ⟨⟨name, listed, given⟩, plain⟩ := replaces.given
  exact refused_callValue (visited.unbound sound has (unhooked name listed) given) plain

/-- A clone is made of what the value reaches, and nothing is called for it that does anything. -/
theorem tour_unhooked (quiet : L.IsQuiet) {mode : CloneMode} (named : base.store.MethodsNamed)
    (unhooked : ∀ name ∈ mode.hooks, base.store.Unhooked subject name) :
    Cloning.Tour L base mode fun v => v.Immediate ∨ base.store.Reaches subject v := by
  have visited : ∀ {mid : Session} {v : Value}, Deeds L base mid →
      base.store.Reaches subject v → Visited base subject mid v := fun deeds path =>
    ⟨deeds.extends quiet, path⟩
  constructor
  case parts =>
    intro mid deeds r o visits found w hw
    have path := visits.resolve_left id
    exact .inr ((visited deeds path).part sound has found w hw).path
  case worn =>
    intro mid deeds v visits w hw
    rcases visits with immediate | path
    · rw [Store.attributesOf_of_immediate immediate] at hw
      cases hw
    · rw [(visited deeds path).attributesOf_eq sound has] at hw
      exact .inr (.worn path hw)
  case immediate => exact fun immediate => .inl immediate
  case bound =>
    intro mid deeds r owner name visits found later owner' there
    have path := visits.resolve_left id
    have before := ((visited deeds path).object?_eq sound has).symm.trans found
    exact does_get (fun same => absurd same (named _ _ _ before).ne_args) there
  case replaced =>
    intro mid deeds v visits value args replaces
    obtain ⟨⟨name, -, given⟩, -⟩ := replaces.given
    have path := visits.resolve_left (Store.not_immediate_of_get? given)
    exact .inl (refused_replaced sound has (visited deeds path) unhooked replaces)

/-- Such a clone leaves nothing behind but new objects, and the tuple of the arguments of an
exception that is copied on its surface. -/
theorem does_clone_unhooked (writes : L.Writes) (logs : L.Logs) (named : base.store.MethodsNamed)
    (mode : CloneMode) (unhooked : ∀ name ∈ mode.hooks, base.store.Unhooked subject name) :
    Does L (clone mode subject) base L.Has := by
  have quiet : Licence.readOnly.IsQuiet := fun _ _ allowed => allowed
  have extended : ∀ {x : Action Value}, Does .readOnly x base Licence.readOnly.Has →
      Does L x base L.Has := by
    intro x does _
    obtain ⟨deeds, returned⟩ := does fun _ => sound
    refine ⟨deeds.mono (fun _ => trivial) fun s deed allowed => ?_, fun v run _ => ?_⟩
    · cases allowed
      exact logs s
    · exact returned v run trivial
  cases mode with
  | shallow =>
    have hooked : ∀ value args, (base.store.attributesOf subject).Replaces .shallow
        (base.store.asksForParts subject) value args →
          Refused (apply value args) base ∨ Cloning.Roams L fun _ => True := fun _ _ replaces =>
      .inl (refused_replaced sound has ⟨.refl _, .here⟩ unhooked replaces)
    exact does_copy writes hooked fun _ => has
  | deep =>
    have tour := tour_unhooked sound has quiet named unhooked
    exact extended (does_deepClone tour (.inr .here) fun _ => has)
  | stored =>
    have tour := tour_unhooked sound has quiet named unhooked
    exact extended (does_storedClone tour (.inr .here) fun _ => has)

end Action

end

end Http2Failure
