import Http2Failure.Proofs.Declared
import Http2Failure.Proofs.Flat
import Http2Failure.Proofs.Restored

/-!
# Which questions are always answered

Every question to an error with fields of the declared types has an answer, and the error has a
quoted form. Two things depend on the fault that it may wrap, which is as it was left by whoever
holds it: the fault is rebuilt only if the constructor accepts the arguments that it has now, and
one class of faults has a text only as long as it has the attributes that this is made of.
-/

namespace Http2Failure

namespace Fault

def IsCount (i : Int) : Prop := -0x8000000000000000 ≤ i ∧ i < 0x8000000000000000

instance (i : Int) : Decidable (IsCount i) := inferInstanceAs (Decidable (_ ∧ _))

/-- The constructor accepts the arguments that the fault has now. The blocking class takes a whole
number behind number and text for a count. -/
def Replayable (f : Fault) : Prop :=
  classOf f.cls f.args = .blocking → ∀ i, thirdOf f.args = some (.int i) → IsCount i

/-- What the text of the fault is made of is there. One class makes it of two attributes. -/
def Readable (f : Fault) : Prop :=
  f.cls = .tls → (f.attributes.get? "host").isSome ∧ (f.attributes.get? "alert").isSome

variable {s : Store} {f : Fault} {v : Value}

theorem size?_eq_error_iff (immediate : v.Immediate) :
    (∃ r, s.size? v = some (.error r)) ↔ ∃ i, v = .int i ∧ ¬ IsCount i := by
  cases v with
  | object => exact immediate.elim
  | int i =>
    change (∃ r, some (if IsCount i then .ok i else .error (Refusal.indexTooLarge "int")) =
      some (Except.error r)) ↔ _
    by_cases count : IsCount i <;> simp [count]
  | _ => simp [Store.size?]

theorem ofArgs_ok_iff {cls : Class} {args : List Value} :
    (∃ fresh, ofArgs s cls args = .ok fresh) ↔
      ∀ third, thirdOf args = some third →
        ∀ r, countIn? s (classOf cls args) third ≠ some (.error r) := by
  rw [ofArgs_eq]
  cases thirdOf args with
  | none => simp
  | some third =>
    simp only [Option.some.injEq, forall_eq']
    match countIn? s (classOf cls args) third with
    | none => simp
    | some (.ok count) => simp [bind, Except.bind, pure, Except.pure]
    | some (.error r) => simp [bind, Except.bind]

theorem Flat.ofArgs_ok_iff (flat : f.Flat) :
    (∃ fresh, ofArgs s f.cls f.args = .ok fresh) ↔ f.Replayable := by
  rw [Fault.ofArgs_ok_iff]
  constructor
  · intro accepted blocking i third
    by_contra large
    obtain ⟨r, refused⟩ := (size?_eq_error_iff (s := s) (v := .int i) trivial).mpr ⟨i, rfl, large⟩
    exact accepted _ third r ((if_pos blocking).trans refused)
  · intro replayable third found r refused
    unfold countIn? at refused
    split at refused
    · rename_i blocking
      have immediate := flat.carried.args third (mem_of_thirdOf found)
      obtain ⟨i, rfl, large⟩ := (size?_eq_error_iff immediate).mp ⟨r, refused⟩
      exact large (replayable blocking i found)
    · cases refused

theorem rebuild_ok_iff (self : Ref) :
    (∃ rebuilt, f.rebuild s self = .ok rebuilt) ↔ ∃ fresh, ofArgs s f.cls f.args = .ok fresh := by
  simp only [rebuild_eq_ok_iff]
  exact ⟨fun ⟨_, fresh, given, _⟩ => ⟨fresh, given⟩, fun ⟨fresh, given⟩ => ⟨_, fresh, given, rfl⟩⟩

section

variable (flat : f.Flat) (n : Nat)
include flat

theorem Flat.attribute_ok_iff {className name : String} :
    (∃ text, (do s.renderUpTo (n + 1) [] .plain (← f.attributeNamed className name)) = .ok text) ↔
      (f.attributes.get? name).isSome := by
  simp only [bind_eq_ok, Carried.attributeNamed]
  cases held : f.attributes.get? name with
  | none => simp
  | some v =>
    have immediate := flat.carried.attributes v (Attributes.mem_map_of_get? held)
    obtain ⟨text, written⟩ := renderUpTo_immediate immediate s n [] .plain
    simp [written]

theorem Flat.plain_ok_iff (x : Ref) :
    (∃ text, f.plain (s.renderUpTo (n + 1)) [] x = .ok text) ↔ f.Readable := by
  by_cases tls : f.cls = .tls
  · have laid : f.plain (s.renderUpTo (n + 1)) [] x = do
        let host ← (do s.renderUpTo (n + 1) [] .plain (← f.attributeNamed f.cls.name "host"))
        let alert ← (do s.renderUpTo (n + 1) [] .plain (← f.attributeNamed f.cls.name "alert"))
        return "TLS alert from " ++ host ++ ": " ++ alert := by
      rw [Fault.plain, if_pos tls]
      simp only [bind_assoc]
    rw [laid]
    constructor
    · rintro ⟨text, told⟩ -
      obtain ⟨host, here, told⟩ := bind_eq_ok.mp told
      obtain ⟨alert, there, -⟩ := bind_eq_ok.mp told
      exact ⟨(flat.attribute_ok_iff n).mp ⟨host, here⟩,
        (flat.attribute_ok_iff n).mp ⟨alert, there⟩⟩
    · intro readable
      obtain ⟨host, here⟩ := (flat.attribute_ok_iff (s := s) n).mpr (readable tls).1
      obtain ⟨alert, there⟩ := (flat.attribute_ok_iff (s := s) n).mpr (readable tls).2
      exact ⟨_, by rw [here, there]; rfl⟩
  · exact ⟨fun _ own => absurd own tls, fun _ => plain_ok tls flat.carried.args flat.slots n x⟩

theorem Flat.quoted_ok (s : Store) (p : Pending) (x : Ref) :
    ∃ text, f.toCarried.quoted (s.renderUpTo (n + 1)) p x f.cls.name = .ok text := by
  have args := flat.carried.args
  unfold Carried.quoted
  split
  · exact ⟨_, rfl⟩
  · rename_i arg only
    obtain ⟨text, written⟩ :=
      renderUpTo_immediate (args arg (only ▸ List.mem_cons_self)) s n p .quoted
    exact ⟨f.cls.name ++ "(" ++ text ++ ")", by rw [written]; rfl⟩
  · obtain ⟨text, written⟩ := argsForm_ok args s n p x
    exact ⟨f.cls.name ++ text, by rw [written]; rfl⟩

end

end Fault

namespace Kind

def FaultMeets (s : Store) (P : Fault → Prop) (k : Kind) : Prop :=
  ∀ x f, k = .transport (.object x) → s.get? x = some (.fault f) → P f

variable {s : Store} {P : Fault → Prop} {k : Kind} {x : Ref} {f : Fault} {now : Session}

theorem faultMeets_iff (found : s.get? x = some (.fault f)) :
    FaultMeets s P (.transport (.object x)) ↔ P f := by
  constructor
  · exact fun meets => meets x f rfl found
  · rintro holds _ f' ⟨⟩ found'
    cases found.symm.trans found'
    exact holds

theorem faultMeets_of_noFault (noFault : k.isTransport = false) : k.FaultMeets s P := by
  rintro x f rfl
  cases noFault

theorem Declared.initiator? (declared : k.Declared s) {v : Value} (held : k.initiator? = some v) :
    ∃ i, v = .initiator i ∧ s.Untouched v := by
  cases declared with
  | ofFailure typed =>
    cases typed with
    | reset _ _ untouched | goAway _ _ untouched =>
      cases held
      exact ⟨_, rfl, untouched⟩
    | misuse | transport => cases held
  | reason => cases held

theorem hiding?_side {i : Initiator} (untouched : s.Untouched (.initiator i)) (side : Initiator) :
    s.hiding? (.initiator i) side.method = none := by
  rw [Store.hiding?, Store.attributesOf_of_untouched rfl untouched]
  cases side <;> rfl

theorem askSide_eq (declared : k.Declared now.store) (n : Nat) (side : Initiator) :
    k.askSide (Action.callUpTo (n + 1)) side now =
      (.ok (.bool (k.initiator? = some (.initiator side))), now) := by
  unfold askSide
  cases held : k.initiator? with
  | none => rfl
  | some v =>
    obtain ⟨i, rfl, untouched⟩ := declared.initiator? held
    have visible := hiding?_side untouched side
    simp only [Action.callUpTo, Action.bind_apply, Action.ask_apply, visible]
    cases i <;> cases side <;> rfl

theorem inspect_ok (declared : k.Declared now.store) (n : Nat) (q : Inspection) :
    ∃ v, k.inspect (Action.callUpTo (n + 1)) q now = (.ok v, now) := by
  cases q with
  | isRemote | isLibrary => exact ⟨_, askSide_eq declared n _⟩
  | _ => exact ⟨_, rfl⟩

/-- A fault is given out anew where the constructor takes its arguments, and every other kind has
the null value to give. -/
theorem intoFault_ok_iff (declared : k.Declared now.store)
    (flat : ∀ x, k = .transport (.object x) → Fault.FlatAt now.store x) :
    (∃ v after, k.intoFault now = (.ok v, after)) ↔ k.FaultMeets now.store Fault.Replayable := by
  by_cases wraps : k.isTransport = true
  · obtain ⟨x, f, rfl, found⟩ := declared.transport wraps
    obtain ⟨f', found', flat⟩ := flat x rfl
    cases found.symm.trans found'
    rw [faultMeets_iff found, ← flat.ofArgs_ok_iff (s := now.store), ← Fault.rebuild_ok_iff x]
    simp only [intoFault, Action.bind_apply, Action.ask_apply, Action.read_apply, Store.object?,
      found]
    cases f.rebuild now.store x with
    | ok => simp
    | error => simp
  · have noFault := Bool.eq_false_iff.mpr wraps
    refine ⟨fun _ => faultMeets_of_noFault noFault, fun _ => ?_⟩
    cases k with
    | transport => cases noFault
    | _ => exact ⟨_, _, rfl⟩

end Kind

namespace Error

variable {now : Session} {e : Ref} {k : Kind}

theorem plain_ok_iff (opened : Open now.store e k) (declared : k.Declared now.store)
    (flat : ∀ x, k = .transport (.object x) → Fault.FlatAt now.store x) :
    (∃ text, now.store.plain (.object e) = .ok text) ↔ k.FaultMeets now.store Fault.Readable := by
  obtain ⟨error, found, holds, -⟩ := opened
  by_cases wraps : k.isTransport = true
  · obtain ⟨x, f, rfl, there⟩ := declared.transport wraps
    obtain ⟨f', there', flat⟩ := flat x rfl
    cases there.symm.trans there'
    rw [Kind.faultMeets_iff there, Store.plain, Store.render_object found]
    simp only [Object.render, holds, Kind.plain]
    change (∃ text, now.store.renderUpTo (Store.depth - 2 + 1) [] .plain (.object x) = .ok text) ↔ _
    simp only [Store.renderUpTo, there, Object.render]
    exact flat.plain_ok_iff (Store.depth - 3) x
  · have noFault := Bool.eq_false_iff.mpr wraps
    exact ⟨fun _ => Kind.faultMeets_of_noFault noFault,
      fun _ => declared.render_ok noFault found holds .plain⟩

theorem quoted_ok (opened : Open now.store e k) (declared : k.Declared now.store)
    (flat : ∀ x, k = .transport (.object x) → Fault.FlatAt now.store x) :
    ∃ text, now.store.quoted (.object e) = .ok text := by
  obtain ⟨error, found, holds, -⟩ := opened
  by_cases wraps : k.isTransport = true
  · obtain ⟨x, f, rfl, there⟩ := declared.transport wraps
    obtain ⟨f', there', flat⟩ := flat x rfl
    cases there.symm.trans there'
    refine Kind.quoted_of_fields found holds fun v hv => ?_
    cases List.mem_singleton.mp hv
    change ∃ text, now.store.renderUpTo (Store.depth - 3 + 1) _ .quoted (.object x) = .ok text
    simp only [Store.renderUpTo, there, Object.render]
    exact flat.quoted_ok (Store.depth - 4) now.store _ x
  · exact declared.render_ok (Bool.eq_false_iff.mpr wraps) found holds .quoted

end Error

/-- An error with fields of the declared types answers every question, and it has a quoted form. Its
text can always be made but for a fault of the one class that makes it of attributes, after one of
these was deleted; and it always gives out a fault anew, or the null value, unless the fault that it
holds has come to arguments that the constructor refuses: a blocking fault with a number that is too
large for a count. -/
theorem inspection_returns_iff {now : Session} {e : Ref} {k : Kind}
    (opened : Error.Open now.store e k) (declared : k.Declared now.store)
    (data : ∀ x, k = .transport (.object x) → Fault.OfData now x) :
    (∀ q, ∃ v, Action.inspect (.object e) q now = (.ok v, now)) ∧
    (∃ text, now.store.quoted (.object e) = .ok text) ∧
    ((∃ text, now.store.plain (.object e) = .ok text) ↔ k.FaultMeets now.store Fault.Readable) ∧
    ((∃ v after, Action.call (.object e) "into_io" [] now = (.ok v, after)) ↔
      k.FaultMeets now.store Fault.Replayable) := by
  have flat : ∀ x, k = .transport (.object x) → Fault.FlatAt now.store x := fun x holds =>
    (data x holds).flatAt
  refine ⟨fun q => ?_, Error.quoted_ok opened declared flat,
    Error.plain_ok_iff opened declared flat, ?_⟩
  · rw [Error.inspect_of_open opened]
    exact Kind.inspect_ok declared _ q
  · rw [Error.intoFault_of_open opened]
    exact Kind.intoFault_ok_iff declared flat

/-- A blocking fault whose arguments were set to three, the last of them too large for a count. -/
theorem inspection_returns_iff_oversized :
    let args : List Value := [.int 11, .text "x", .int 1180591620717411303424]
    let blocked : Fault :=
      { cls := .blocking, args := [.int 11, .text "x"], errorNumber := some (.int 11),
        errorText := some (.text "x") }
    let built : Session := ⟨Store.initial.push (.fault blocked), []⟩
    let listed : Session := ⟨built.store.push (.tuple args), []⟩
    let changed := (Change.run 16 [.set "args" (.object 17)] listed).store
    let now : Session :=
      ⟨(changed.push (.kind (.transport (.object 16)))).push (.error { cls := .base, kind := 18 }),
        []⟩
    (Script.Constructor.fault .general).apply [.int 11, .text "x"] Session.initial =
      (.ok (.object 16), built) ∧
    (∀ q, ∃ v, Action.inspect (.object 19) q now = (.ok v, now)) ∧
    (∃ text, now.store.quoted (.object 19) = .ok text) ∧
    (∃ text, now.store.plain (.object 19) = .ok text) ∧
    ¬ ∃ v after, Action.call (.object 19) "into_io" [] now = (.ok v, after) := by
  intro args blocked built listed changed now
  let large : Fault := { blocked with args, argsTuple := some 17 }
  have found : now.store.get? 16 = some (.fault large) := by decide
  have construction : (Script.Constructor.fault .general).apply [.int 11, .text "x"]
      Session.initial = (.ok (.object 16), built) := rfl
  have opened : Error.Open now.store 19 (.transport (.object 16)) :=
    ⟨{ cls := .base, kind := 18 }, by decide, by decide, fun _ _ => rfl⟩
  have declared : (Kind.transport (.object 16)).Declared now.store := .ofFailure (.transport found)
  have immediate : ∀ v ∈ args, v.Immediate := by
    simp only [args, List.forall_mem_cons]
    exact ⟨trivial, trivial, trivial, nofun⟩
  have keeps : (Change.set "args" (.object 17)).KeepsFlat listed.store := by
    intro items read
    cases read
    exact immediate
  have listing : GivenData 16 built listed := (GivenData.refl built).elsewhere (by decide)
  have given : GivenData 16 built now := (listing.change _ keeps).elsewhere (by decide)
  have data : Fault.OfData now 16 :=
    ⟨_, built, _, _, fun v hv => immediate v (List.mem_of_mem_take (i := 2) hv), construction,
      given⟩
  obtain ⟨answers, quoted, plain, anew⟩ := inspection_returns_iff opened declared
    (by rintro x ⟨⟩; exact data)
  refine ⟨construction, answers, quoted, plain.mpr ?_, fun returned => ?_⟩
  · exact (Kind.faultMeets_iff found).mpr nofun
  · have replayable := (Kind.faultMeets_iff found).mp (anew.mp returned)
    exact absurd (replayable (by decide) _ rfl) (by decide)

end Http2Failure
