import Http2Failure.Proofs.Action
import Http2Failure.Proofs.History
import Http2Failure.Proofs.Locality

/-!
# Rebuilding the fault of an error
-/

namespace Http2Failure

namespace Error

/-- The method of an error that rebuilds its fault, whatever attributes of the error hide it. -/
def intoFault (e : Ref) : Action Value := fun session =>
  match Action.method? Action.call (.object e) (session.store.get? e) "into_io" with
  | some method => method [] session
  | none => Action.refuse .dangling session

variable {e : Ref} {error : Error} {session : Session}

theorem errorMethod?_into_io (call : Caller) (error : Error) :
    Action.errorMethod? call error "into_io" =
      some (Action.noArguments "Error" "into_io" do
        match ← Action.ask fun s => s.kind? error.kind with
        | some k => k.intoFault
        | none => throw .dangling) := by
  have ask : Inspection.ofMethod? "into_io" = none := by decide
  unfold Action.errorMethod?
  split
  · rename_i known
    exact nomatch ask.symm.trans known
  · exact if_pos rfl

theorem method?_into_io (call : Caller) (e : Ref) (error : Error) :
    Action.method? call (.object e) (some (.error error)) "into_io" =
      Action.errorMethod? call error "into_io" := by
  rw [Action.method?, Action.ownMethod?, errorMethod?_into_io]
  rfl

theorem intoFault_apply (holder : session.store.get? e = some (.error error)) {k : Kind}
    (holds : session.store.kind? error.kind = some k) :
    intoFault e session = k.intoFault session := by
  rw [intoFault, holder, method?_into_io, errorMethod?_into_io]
  simp only [Action.noArguments, List.isEmpty_nil, if_true, Action.bind_apply, Action.ask_apply,
    holds]

theorem call_into_io (holder : session.store.get? e = some (.error error))
    (visible : session.store.hiding? (.object e) "into_io" = none) :
    Action.call (.object e) "into_io" [] session = intoFault e session := by
  have there : session.store.object? (.object e) = some (.error error) := holder
  have own (call : Caller) := (method?_into_io call e error).trans (errorMethod?_into_io call error)
  rw [Action.call_of_method there own visible, intoFault, holder, own]

theorem intoFault_of_transport {f : Ref} {fault : Fault}
    (holder : session.store.get? e = some (.error error))
    (holds : session.store.kind? error.kind = some (.transport (.object f)))
    (found : session.store.get? f = some (.fault fault)) :
    intoFault e session =
      match fault.rebuild session.store f with
      | .ok rebuilt =>
        (.ok (.object session.store.size),
          { session with store := session.store.push (.fault rebuilt) })
      | .error r => (.error r, session) := by
  rw [intoFault_apply holder holds]
  simp only [Kind.intoFault, Action.bind_apply, Action.ask_apply, Action.read_apply, Store.object?,
    found]
  cases fault.rebuild session.store f <;> rfl

end Error

namespace Fault

/-- `rebuilt` is a fault like `fault`, which lies at `f` and is its cause. -/
structure RebuiltFrom (f : Ref) (fault rebuilt : Fault) : Prop where
  cls : rebuilt.cls = fault.cls
  args : rebuilt.args = fault.args
  errorNumber : rebuilt.errorNumber = fault.errorNumber
  errorText : rebuilt.errorText = fault.errorText
  fileName : rebuilt.fileName = fault.fileName
  fileName2 : rebuilt.fileName2 = fault.fileName2
  charactersWritten : rebuilt.charactersWritten = fault.charactersWritten
  attributes : rebuilt.attributes = fault.attributes
  cause : rebuilt.cause = some f
  suppressContext : rebuilt.suppressContext = true

section

variable {f y : Ref} {fault rebuilt : Fault} (like : fault.RebuiltFrom f rebuilt) {P : Value → Prop}
  {render : Renderer} (alike : render.AlikeOn P render) (held : ∀ v ∈ fault.args, v.Inside P)
  (hf : fault.args ≠ [] → ¬ P (.object (fault.argsTuple.getD f)))
  (hy : ¬ P (.object (rebuilt.argsTuple.getD y)))
include like alike held hf hy

theorem RebuiltFrom.argsForm_eq : rebuilt.argsForm render [] y = fault.argsForm render [] f := by
  by_cases empty : fault.args = []
  · simp only [Carried.argsForm, Rendering.enclosed, List.not_mem_nil, if_false, like.args, empty,
      List.mapM_nil]
  · exact Carried.argsForm_eq_of_outside alike like.args held (hf empty) hy

theorem RebuiltFrom.plain_eq : rebuilt.plain render [] y = fault.plain render [] f := by
  have carried : rebuilt.toCarried.plain render [] y = fault.toCarried.plain render [] f :=
    Carried.plain_eq_of_argsForm like.args (fun _ _ => rfl) (like.argsForm_eq alike held hf hy)
  simp only [Fault.plain, Fault.heading, Carried.attributeNamed, like.cls, like.attributes,
    like.errorNumber, like.errorText, like.fileName, like.fileName2, carried]

theorem RebuiltFrom.quoted_eq (name : String) :
    rebuilt.toCarried.quoted render [] y name = fault.toCarried.quoted render [] f name := by
  unfold Carried.quoted
  rw [like.args]
  split
  · rfl
  · rfl
  · rw [like.argsForm_eq alike held hf hy]

end

theorem rebuiltFrom_again (f : Ref) (fault : Fault) : fault.RebuiltFrom f (again f fault) :=
  ⟨rfl, rfl, rfl, rfl, rfl, rfl, rfl, rfl, rfl, rfl⟩

end Fault

/-- What a settled fault is rebuilt as is written like the fault itself. -/
theorem Store.Settled.render_again {s : Store} {f : Ref} {fault : Fault} (settled : s.Settled f)
    (found : s.get? f = some (.fault fault)) (form : Form) :
    let t := s.push (.fault (Fault.again f fault))
    t.render form (.object s.size) = t.render form (.object f) := by
  intro t
  have bound : f < s.size := lt_size_of_get? found
  have here : t.get? s.size = some (.fault (Fault.again f fault)) := get?_push_size s _
  have there : t.get? f = some (.fault fault) := (get?_push_of_lt _ bound).trans found
  obtain ⟨⟨fault', found', -, args, tuple⟩, older⟩ := settled
  cases found.symm.trans found'
  have older' : t.ClosedOn (Older f) :=
    ((agreesOn_push s _).mono (Older.mono (Nat.le_of_lt bound))).closedOn older
  have alike := (AgreesOn.refl _ t).renderUpTo older' (depth - 1)
  have like := Fault.rebuiltFrom_again f fault
  have place : fault.args ≠ [] → ¬ fault.argsTuple.getD f < f := by
    intro given
    cases held : fault.argsTuple with
    | none => exact Nat.lt_irrefl f
    | some place => exact Nat.not_lt_of_ge (tuple given place held)
  rw [render_object here, render_object there]
  cases form with
  | plain => exact like.plain_eq alike args place (Nat.not_lt_of_gt bound)
  | quoted => exact like.quoted_eq alike args place (Nat.not_lt_of_gt bound) fault.cls.name

/-- A fault of a standard class, built from any arguments and then changed in its attributes, notes,
cause and file names, is rebuilt by every error that holds it: as a new object of the same class,
with the same slots, attributes and text. -/
theorem rebuilt_faithful {start built now : Session} {cls : Fault.Class} {args : List Value}
    {f e : Ref} {error : Error} (closed : start.store.Closed)
    (given : ∀ v ∈ args, v.Below start.store.size) (standard : cls.isStandard)
    (construction :
      (Script.Constructor.fault cls).apply args start = (.ok (.object f), built))
    (history : History Change.IsMild f built now)
    (holder : now.store.get? e = some (.error error))
    (holds : now.store.kind? error.kind = some (.transport (.object f))) :
    ∃ (fault rebuilt : Fault) (after : Session),
      now.store.get? f = some (.fault fault) ∧ fault.RebuiltFrom f rebuilt ∧
      after = { now with store := now.store.push (.fault rebuilt) } ∧
      Error.intoFault e now = (.ok (.object now.store.size), after) ∧
      (now.store.hiding? (.object e) "into_io" = none →
        Action.call (.object e) "into_io" [] now = (.ok (.object now.store.size), after)) ∧
      after.store.plain (.object now.store.size) = after.store.plain (.object f) := by
  have settled : now.store.Settled f :=
    (Store.Settled.of_construction closed given standard construction).history history
  obtain ⟨fault, found, faithful, -⟩ := settled.fault
  have outcome : Error.intoFault e now = (.ok (.object now.store.size),
      { now with store := now.store.push (.fault (Fault.again f fault)) }) := by
    rw [Error.intoFault_of_transport holder holds found, faithful.rebuild_eq]
  exact ⟨fault, Fault.again f fault, _, found, Fault.rebuiltFrom_again f fault, rfl, outcome,
    fun visible => (Error.call_into_io holder visible).trans outcome,
    settled.render_again found .plain⟩

/-- A missing file, noted and then renamed, within an error. -/
theorem rebuilt_faithful_fileNotFound :
    let renamed : Fault :=
      { cls := .fileNotFound, args := [.int 2, .text "gone"], errorNumber := some (.int 2),
        errorText := some (.text "gone"), fileName := some (.text "c"),
        attributes := [("__notes__", .object 17)] }
    ∃ (built now : Session) (rebuilt : Fault),
      (Script.Constructor.fault .general).apply
        [.int 2, .text "gone", .text "a", .null, .text "b"] Session.initial =
          (.ok (.object 16), built) ∧
      History Change.IsMild 16 built now ∧ now.store.get? 16 = some (.fault renamed) ∧
      renamed.RebuiltFrom 16 rebuilt ∧
      Error.intoFault 19 now =
        (.ok (.object 20), { now with store := now.store.push (.fault rebuilt) }) := by
  intro renamed
  let missing : Fault := { renamed with
    fileName := some (.text "a"), fileName2 := some (.text "b"), attributes := [] }
  let built : Session := ⟨Store.initial.push (.fault missing), []⟩
  let changes : List Change :=
    [.note (.text "late"), .set "filename" (.text "c"), .delete "filename2"]
  let changed := (Change.run 16 changes built).store
  let now : Session :=
    ⟨(changed.push (.kind (.transport (.object 16)))).push
      (.error { cls := .base, kind := 18 }), []⟩
  have mild : ∀ c ∈ changes, c.IsMild := by
    intro c hc
    rcases List.mem_cons.mp hc with rfl | hc
    · trivial
    rcases List.mem_cons.mp hc with rfl | hc
    · exact .inr (.inr ⟨.inl rfl, by decide⟩)
    · cases List.mem_singleton.mp hc
      exact .inr (.inr rfl)
  have changing : History Change.IsMild 16 built (Change.run 16 changes built) :=
    (History.refl built).run mild
  have kind : History Change.IsMild 16 built ⟨changed.push (.kind (.transport (.object 16))), []⟩ :=
    changing.elsewhere (Store.spares_push (by decide) _)
  have history : History Change.IsMild 16 built now :=
    kind.elsewhere (Store.spares_push (by decide) _)
  have found : now.store.get? 16 = some (.fault renamed) := by decide
  have size : now.store.size = 20 := by decide
  have given : ∀ v ∈ [Value.int 2, .text "gone", .text "a", .null, .text "b"],
      v.Below Session.initial.store.size := by
    intro v hv
    simp only [List.mem_cons, List.not_mem_nil, or_false] at hv
    rcases hv with rfl | rfl | rfl | rfl | rfl <;> trivial
  have construction : (Script.Constructor.fault .general).apply
      [.int 2, .text "gone", .text "a", .null, .text "b"] Session.initial =
        (.ok (.object 16), built) := rfl
  have holder : now.store.get? 19 = some (.error { cls := .base, kind := 18 }) := by decide
  have holds : now.store.kind? 18 = some (.transport (.object 16)) := by decide
  obtain ⟨fault, rebuilt, after, found', like, rfl, outcome, -⟩ :=
    rebuilt_faithful Store.initial_closed given rfl construction history holder holds
  cases found.symm.trans found'
  exact ⟨built, now, rebuilt, construction, history, found, like, size ▸ outcome⟩

end Http2Failure
