import Http2Failure.Proofs.Declared
import Http2Failure.Proofs.Deeds.Scripts

/-!
# The kind of an error is fixed
-/

namespace Http2Failure

namespace Action

variable {now : Session} {v : Value} {name : String} {args : List Value}

/-- The outcome of a method of `v`, when it is called by its name and no attribute hides it, and
when it is called as a method that was bound to `v` before. -/
def Yields (now : Session) (v : Value) (name : String) (args : List Value)
    (outcome : Except Refusal Value × Session) : Prop :=
  (now.store.hiding? v name = none → call v name args now = outcome) ∧
    ∀ b, now.store.get? b = some (.method v name) → apply (.object b) args now = outcome

theorem yields_of_method {act : Call}
    (own : ∀ call, method? call v (now.store.object? v) name = some act) :
    Yields now v name args (act args now) := by
  constructor
  · intro visible
    exact call_of_method rfl own visible
  · intro b bound
    have bound : now.store.object? (.object b) = some (.method v name) := bound
    simp only [apply, callValue, bind_apply, ask_apply, bound, own]

end Action

namespace Error

variable {s : Store} {e : Ref} {error : Error} {now : Session}

theorem method?_init (call : Caller) (e : Ref) (error : Error) :
    Action.method? call (.object e) (some (.error error)) "__init__" =
      some (Action.oneArgument "Error" "__init__" "kind" fun v => do Error.again v; return .null) :=
  rfl

theorem method?_setattr (call : Caller) (e : Ref) (error : Error) :
    Action.method? call (.object e) (some (.error error)) "__setattr__" =
      some (Action.exactlyTwo fun name value =>
        Action.named (some (.error error)) name .frozenField fun name =>
          Action.setAttribute (.object e) name value) :=
  rfl

theorem method?_delattr (call : Caller) (e : Ref) (error : Error) :
    Action.method? call (.object e) (some (.error error)) "__delattr__" =
      some fun
        | [name] => Action.named (some (.error error)) name .frozenDeletion fun name =>
          Action.deleteAttribute (.object e) name
        | args => throw (.otherArguments 1 args.length) :=
  rfl

theorem setAttribute_kind (found : now.store.get? e = some (.error error)) (v : Value) :
    Action.setAttribute (.object e) "_kind" v now = (.error .kindIsFixed, now) := by
  rw [Change.setAttribute_apply found]
  rfl

theorem deleteAttribute_kind (found : now.store.get? e = some (.error error)) :
    Action.deleteAttribute (.object e) "_kind" now = (.error .kindIsFixed, now) := by
  rw [Change.deleteAttribute_apply found]
  rfl

theorem again_of_kind {v : Value} {k : Kind} (found : now.store.object? v = some (.kind k)) :
    Error.again v now = (.error .kindIsFixed, now) := by
  simp only [Error.again, Action.bind_apply, Action.ask_apply, found]
  rfl

theorem again_of_other {v : Value} (other : ∀ k, now.store.object? v ≠ some (.kind k)) :
    Error.again v now = (.error (.unsupportedKind (now.store.typeName v)), now) := by
  simp only [Error.again, Action.bind_apply, Action.ask_apply]
  match found : now.store.object? v with
  | none => rfl
  | some (.kind k) => exact absurd found (other k)
  | some (.reason _) | some (.streamId _) | some (.report _) | some (.sendFailure _)
  | some (.fault _) | some (.exception _) | some (.error _) | some (.buffer _) | some (.view _)
  | some .released | some (.list _) | some (.tuple _) | some (.float _) | some (.method ..) => rfl

/-- Every attempt to give the error at `e` another kind, or none, is refused, and nothing is
different afterwards. -/
structure Guarded (now : Session) (e : Ref) : Prop where
  set (v : Value) : Action.setAttribute (.object e) "_kind" v now = (.error .kindIsFixed, now)
  delete : Action.deleteAttribute (.object e) "_kind" now = (.error .kindIsFixed, now)
  setDirectly (v : Value) :
    Action.Yields now (.object e) "__setattr__" [.text "_kind", v] (.error .kindIsFixed, now)
  deleteDirectly :
    Action.Yields now (.object e) "__delattr__" [.text "_kind"] (.error .kindIsFixed, now)
  againWithKind (v : Value) (k : Kind) (found : now.store.object? v = some (.kind k)) :
    Action.Yields now (.object e) "__init__" [v] (.error .kindIsFixed, now)
  againWithOther (v : Value) (other : ∀ k, now.store.object? v ≠ some (.kind k)) :
    Action.Yields now (.object e) "__init__" [v]
      (.error (.unsupportedKind (now.store.typeName v)), now)

theorem guarded (found : now.store.get? e = some (.error error)) : Guarded now e := by
  have object : now.store.object? (.object e) = some (.error error) := found
  have yields : ∀ (args : List Value) {name} {act : Call},
      (∀ call, Action.method? call (.object e) (some (.error error)) name = some act) →
        Action.Yields now (.object e) name args (act args now) := fun _ _ _ own =>
    Action.yields_of_method fun call => object ▸ own call
  have again : ∀ {v : Value} {r : Refusal}, Error.again v now = (.error r, now) →
      Action.Yields now (.object e) "__init__" [v] (.error r, now) := by
    intro v r refused
    have outcome := yields [v] fun call => method?_init call e error
    simpa only [Action.oneArgument, Action.bind_apply, refused] using outcome
  refine ⟨setAttribute_kind found, deleteAttribute_kind found, fun v => ?_, ?_,
    fun v k kind => again (again_of_kind kind), fun v other => again (again_of_other other)⟩
  · have outcome := yields [.text "_kind", v] fun call => method?_setattr call e error
    simpa only [Action.exactlyTwo, Action.named, Action.bind_apply, setAttribute_kind found]
      using outcome
  · have outcome := yields [.text "_kind"] fun call => method?_delattr call e error
    simpa only [Action.named, Action.bind_apply, deleteAttribute_kind found] using outcome

end Error

namespace Change

variable {x : Ref} {s t : Store} {error : Error} {c : Change} {session : Session}

theorem Effect.keeps_error (effect : Effect x s (.error error) c t)
    (found : s.get? x = some (.error error)) :
    ∃ later : Error, t.get? x = some (.error later) ∧ later.kind = error.kind := by
  have bound : x < s.size := Store.lt_size_of_get? found
  have written : ∀ {u : Store} {o : Object}, x < u.size →
      o.nature = (Object.error error).nature →
        ∃ later : Error, (u.put x o).get? x = some (.error later) ∧ later.kind = error.kind := by
    intro u o bound nature
    obtain ⟨later, rfl, kind⟩ := Object.eq_error_of_nature nature
    exact ⟨later, Store.get?_put_self _ bound, kind⟩
  cases effect with
  | refused => exact ⟨error, found, rfl⟩
  | set h => exact written bound (Object.nature_withAttribute h)
  | delete h => exact written bound (Object.nature_withoutAttribute h)
  | stray => exact ⟨error, (Store.get?_push_of_lt _ bound).trans found, rfl⟩
  | firstNote h => exact written (Store.lt_size_push bound _) (Object.nature_withAttribute h)
  | @note _ _ n _ _ _ listed =>
    have apart : n ≠ x := fun same => by
      rw [same, found] at listed
      cases listed
    exact ⟨error, (Store.get?_put_ne _ apart).trans found, rfl⟩

theorem error_run (found : session.store.get? x = some (.error error)) (cs : List Change) :
    ∃ later : Error, (run x cs session).store.get? x = some (.error later) ∧
      later.kind = error.kind := by
  induction cs generalizing session error with
  | nil => exact ⟨error, found, rfl⟩
  | cons c rest ih =>
    obtain ⟨next, found', kind⟩ := (effect_perform found c).keeps_error found
    obtain ⟨last, found'', kind'⟩ := ih found'
    exact ⟨last, found'', kind'.trans kind⟩

end Change

namespace Error

variable {now : Session} {e : Ref} {error : Error} {k : Kind}

theorem render_run (found : now.store.get? e = some (.error error))
    (holds : now.store.kind? error.kind = some k) (declared : k.Declared now.store)
    (noFault : k.isTransport = false) (cs : List Change) (form : Form) :
    (Change.run e cs now).store.render form (.object e) = now.store.render form (.object e) := by
  obtain ⟨later, found', same⟩ := Change.error_run found cs
  have kept : ∀ {r : Ref} {o : Object}, now.store.get? r = some o → o.record?.isSome →
      (Change.run e cs now).store.get? r = now.store.get? r := by
    intro r o there frozen
    have apart : r ≠ e := fun here => by
      rw [here, found] at there
      cases there
      cases frozen
    have noList : ∀ items, o ≠ .list items := fun items list => by
      rw [list] at frozen
      cases frozen
    exact (Change.get?_run found apart there noList cs).trans there.symm
  refine Store.render_error_congr found found' same
    (Store.agreesOn_of_given_eq (Change.given_run found cs) fun r path => ?_) form
  rcases declared.leads noFault holds path with same | checked
  · cases same
    exact kept (Store.kind?_eq_some_iff.mp holds) rfl
  · cases checked with
    | streamId there | reason there => exact kept there rfl
    | member h => cases h

end Error

theorem Store.Grows.error {s t : Store} (grown : s.Grows t) {e : Ref} {error : Error}
    (found : s.get? e = some (.error error)) :
    ∃ later : Error, t.get? e = some (.error later) ∧ later.kind = error.kind := by
  obtain ⟨o, found', same⟩ := grown e _ found
  obtain ⟨later, rfl, kind⟩ := Object.eq_error_of_nature same
  exact ⟨later, found', kind⟩

/-- An error holds the kind object that it was built with after every run. All that is tried to give
it another one is refused and changes nothing, and what else is done to its attributes does not show
in its forms, as long as it holds no fault. -/
theorem kind_never_changes {state : Script.State} (sound : state.Sound) {e : Ref} {error : Error}
    (found : state.session.store.get? e = some (.error error)) :
    (∀ steps, ∃ later : Error, (state.after steps).session.store.get? e = some (.error later) ∧
      later.kind = error.kind) ∧
    ∀ (now : Session) (held : Error), now.store.get? e = some (.error held) →
      Error.Guarded now e ∧
      ∀ k, now.store.kind? held.kind = some k → k.Declared now.store → k.isTransport = false →
        ∀ (cs : List Change) (form : Form), ∃ text,
          now.store.render form (.object e) = .ok text ∧
          (Change.run e cs now).store.render form (.object e) = .ok text := by
  refine ⟨fun steps => ?_, fun now held here => ⟨Error.guarded here, ?_⟩⟩
  · exact (sound.after steps).2.error found
  · intro k holds declared noFault cs form
    obtain ⟨text, shown⟩ := declared.render_ok noFault here holds form
    exact ⟨text, shown, (Error.render_run here holds declared noFault cs form).trans shown⟩

/-- A cancellation by an application's own class, to which another kind is given twice and then an
attribute. -/
theorem kind_never_changes_cancelled :
    let error : Error :=
      { cls := .application, kind := 16, args := [.text "protocol error: cancel"] }
    let store := (Store.initial.push (.kind (.reason (.object 8)))).push (.error error)
    let state : Script.State := { session := ⟨store, []⟩, vars := [("e", ⟨.object 17, none⟩)] }
    let steps : List Script.Step :=
      [.set (.var "e") "_kind" .null, .call (.var "e") "__init__" [.reasonNamed "CANCEL"] none]
    (∃ later : Error, (state.after steps).session.store.get? 17 = some (.error later) ∧
      later.kind = 16) ∧
    Error.Guarded state.session 17 ∧
    ∃ text, store.plain (.object 17) = .ok text ∧
      (Change.run 17 [.set "extra" .null] ⟨store, []⟩).store.plain (.object 17) = .ok text := by
  intro error store state steps
  have kindHeld : ∀ v ∈ (Object.kind (.reason (.object 8))).parts, Store.initial.Has v := by decide
  have errorHeld : ∀ v ∈ (Object.error error).parts,
      (Store.initial.push (.kind (.reason (.object 8)))).Has v := by decide
  have sound : state.Sound := by
    refine ⟨(Store.initial_sound.push kindHeld).push errorHeld, fun v hv => ?_⟩
    cases List.mem_singleton.mp hv
    change (17 : Nat) < store.size
    decide
  have found : store.get? 17 = some (.error error) := by decide
  have holds : store.kind? 16 = some (.reason (.object 8)) := by decide
  have declared : (Kind.reason (.object 8)).Declared store :=
    .reason (r := ⟨8, by decide⟩) (by decide)
  obtain ⟨kept, guarded⟩ := kind_never_changes sound found
  obtain ⟨guarded, shown⟩ := guarded state.session _ found
  exact ⟨kept steps, guarded, shown _ holds declared rfl [.set "extra" .null] .plain⟩

end Http2Failure
