import Http2Failure.Proofs.Derivation
import Http2Failure.Proofs.PayloadEquality

/-!
# The payload of a termination

A termination takes the bytes that its buffer holds when it is made. Whatever is then written to the
buffer, in whatever order with conversions, clones and questions, these bytes are the payload of the
termination and of everything that is derived from it, and all that is shown of them stays the same.
-/

namespace Http2Failure

namespace Action

variable {now : Session} {q : Ref}

theorem get_field {o : Object} {record : Record} {name : String} {v : Value}
    (found : now.store.get? q = some o) (bare : now.store.Untouched (.object q))
    (noMethod : method? call (.object q) (some o) name = none)
    (read : o.getAttribute now.store name = .ok v) (frozen : o.record? = some record) :
    get (.object q) name now = (.ok v, now) := by
  have there : now.store.object? (.object q) = some o := found
  have plain := Object.carried?_of_record? frozen
  have nothing : now.store.extra? (.object q) o name = none := by
    rw [Store.extra?, Store.attributesOf_of_bare found plain bare]
    split <;> rfl
  rw [get_of_no_method there noMethod]
  simp only [getAttribute, bind_apply, ask_apply, there, plain, read_apply, nothing]
  exact Prod.ext read rfl

end Action

def Role.debugData : Role → Value → Action Value
  | .report, v => .get v "debug_data"
  | .failure, v => do .get (← .get v "error") "debug_data"
  | .error, v => .inspect v .debugData

namespace Payload

variable {p : Payload} {now first last next : Session} {role : Role} {v w : Value}
  {given family : List (Role × Value)}

theorem Holds.debugData (holds : p.Holds now.store role v) :
    role.debugData v now = (.ok (.bytes p.content), now) := by
  cases holds with
  | report found bare => exact Action.get_field found bare rfl rfl rfl
  | @failure q v found bare inner =>
    have outer : Action.get (.object q) "error" now = (.ok v, now) :=
      Action.get_field found bare rfl rfl rfl
    cases inner with
    | report found' bare' =>
      simp only [Role.debugData, Action.bind_apply, outer]
      exact Action.get_field found' bare' rfl rfl rfl
  | error found unadorned holds =>
    exact Error.inspect_of_kind found holds (by rw [unadorned]; rfl)

/-- All that can be seen of what shows a payload, which is a matter of the payload alone, and all
that can be made from it. -/
structure Seen (p : Payload) (now : Session) (role : Role) (v : Value) : Prop where
  holds : p.Holds now.store role v
  debugData : role.debugData v now = (.ok (.bytes p.content), now)
  text (form : Form) : now.store.render form v = .ok (p.text role form)
  hashable : now.store.hashable v = .ok ()
  hash (h : Hashing) : now.store.hash h v = .ok (p.hash h role v)
  equal {p' : Payload} {role' : Role} {w : Value} (other : p'.Holds now.store role' w) :
    now.store.equal v w = decide (role = role' ∧ p = p' ∧ (role = .error → v = w))
  convert {route : Error.Route} (known : route ∈ role.routes) (cls : Error.Class) :
    ∃ w next, Error.via cls route v now = (.ok w, next)
  clone (mode : CloneMode) : ∃ w next, Action.clone mode v now = (.ok w, next)

theorem Holds.seen (holds : p.Holds now.store role v) (fresh : now.store.Fresh)
    (shared : now.store.get? Store.emptyTupleRef = some (.tuple [])) : p.Seen now role v where
  holds := holds
  debugData := holds.debugData
  text := holds.render
  hashable := holds.hashable
  hash := holds.hash
  equal := holds.equal
  convert known cls := by
    obtain ⟨w, next, run, -⟩ := holds.via fresh known cls
    exact ⟨w, next, run⟩
  clone mode := by
    obtain ⟨w, next, run, -⟩ := holds.clone fresh shared mode
    exact ⟨w, next, run⟩

end Payload

/-- A run that starts with some objects and derives others from them, while buffers are written,
questions are put to any objects and other things happen that leave everything settled alone. -/
inductive Lineage (first : Session) (given : List (Role × Value)) :
    Session → List (Role × Value) → Prop
  | refl : Lineage first given first given
  /-- A buffer comes to hold any other bytes. -/
  | write {last family r before} (run : Lineage first given last family)
    (found : last.store.get? r = some (.buffer before)) (after : List UInt8) :
    Lineage first given { last with store := last.store.put r (.buffer after) } family
  | poke {last family next result} (run : Lineage first given last family) (v key item : Value)
    (step : Action.setItem v key item last = (result, next)) : Lineage first given next family
  | bufferMethod {last family next result r content method call}
    (run : Lineage first given last family) (found : last.store.get? r = some (.buffer content))
    (known : Action.bufferMethod? r content method = some call) (args : List Value)
    (step : call args last = (result, next)) : Lineage first given next family
  | viewMethod {last family next result r source method call}
    (run : Lineage first given last family) (found : last.store.get? r = some (.view source))
    (known : Action.viewMethod? r (.view source) method = some call) (args : List Value)
    (step : call args last = (result, next)) : Lineage first given next family
  /-- The views that nothing holds any more are released. -/
  | releaseGone {last family} (run : Lineage first given last family) (outside : List Value) :
    Lineage first given { last with store := last.store.releaseGone outside } family
  | inspect {last family next result} (run : Lineage first given last family) (v : Value)
    (q : Inspection) (step : Action.inspect v q last = (result, next)) :
    Lineage first given next family
  | get {last family next result} (run : Lineage first given last family) (v : Value)
    (name : String) (step : Action.get v name last = (result, next)) :
    Lineage first given next family
  | wrap {last family next v w} (run : Lineage first given last family)
    (member : (Role.report, v) ∈ family)
    (step : Script.Constructor.sendConnection.apply [v] last = (.ok w, next)) :
    Lineage first given next ((.failure, w) :: family)
  | convert {last family next role v w route} (run : Lineage first given last family)
    (member : (role, v) ∈ family) (known : route ∈ role.routes) (cls : Error.Class)
    (step : Error.via cls route v last = (.ok w, next)) :
    Lineage first given next ((.error, w) :: family)
  | clone {last family next role v w} (run : Lineage first given last family)
    (member : (role, v) ∈ family) (mode : CloneMode)
    (step : Action.clone mode v last = (.ok w, next)) :
    Lineage first given next ((role, w) :: family)
  | elsewhere {last family next} (run : Lineage first given last family)
    (kept : last.store.Keeps next.store) : Lineage first given next family

namespace Payload

variable {p : Payload} {first mid next last : Session} {given family : List (Role × Value)}

/-- Everything settled has stayed as it was, and all that was derived shows the payload. -/
structure Kept (p : Payload) (first last : Session) (family : List (Role × Value)) : Prop where
  keeps : first.store.Keeps last.store
  holds (role : Role) (v : Value) (member : (role, v) ∈ family) : p.Holds last.store role v

theorem Kept.onward (kept : p.Kept first mid family) (more : mid.store.Keeps next.store) :
    p.Kept first next family where
  keeps := kept.keeps.trans more
  holds role v member := (kept.holds role v member).keeps more

theorem Kept.joined (kept : p.Kept first mid family) {x : Action Value} {role : Role} {w : Value}
    (step : x mid = (.ok w, next))
    (derived : ∃ w next, x mid = (.ok w, next) ∧ mid.store.Keeps next.store ∧
      p.Holds next.store role w) : p.Kept first next ((role, w) :: family) := by
  obtain ⟨w', next', step', more, new⟩ := derived
  cases step.symm.trans step'
  refine ⟨kept.keeps.trans more, fun role' v member => ?_⟩
  rcases List.mem_cons.mp member with same | member
  · cases same
    exact new
  · exact (kept.onward more).holds role' v member

end Payload

/-- Whatever such a run does, everything settled stays, and what it derives shows the payload. -/
theorem Lineage.kept {p : Payload} {first last : Session} {given family : List (Role × Value)}
    (run : Lineage first given last family) (fresh : first.store.Fresh)
    (shared : first.store.get? Store.emptyTupleRef = some (.tuple []))
    (start : ∀ role v, (role, v) ∈ given → p.Holds first.store role v) :
    p.Kept first last family := by
  -- A step leaves everything settled alone, and what shows the payload is settled but for errors,
  -- whose kinds and attributes stay.
  have may := Licence.writes_writing
  induction run with
  | refl => exact ⟨.refl _, start⟩
  | @write last _ r before _ found after ih =>
    have written : Deeds Licence.writing last
        { last with store := last.store.put r (.buffer after) } :=
      .write (may _) found (.buffer _ _) Licence.hasAll_nil (absurd rfl) (absurd rfl)
    exact ih.onward written.keeps
  | poke _ v key item step ih =>
    exact ih.onward ((Action.does_setItem may v key Licence.has_writing).keeps step)
  | bufferMethod _ found known args step ih =>
    exact ih.onward
      ((Action.does_bufferMethod? may found _ _ known Licence.hasAll_writing).keeps step)
  | viewMethod _ found known args step ih =>
    exact ih.onward
      ((Action.does_viewMethod? may found rfl _ _ known Licence.hasAll_writing).keeps step)
  | releaseGone _ outside ih => exact ih.onward (Store.keeps_releaseGone _ outside)
  | inspect _ v q step ih =>
    exact ih.onward ((Action.does_ask may Licence.has_writing q).keeps step)
  | get _ v name step ih =>
    exact ih.onward ((Action.does_get (fun _ => may) Licence.has_writing).keeps step)
  | wrap _ member step ih =>
    exact ih.joined step ((ih.holds _ _ member).wrap (ih.keeps.fresh fresh))
  | convert _ member known cls step ih =>
    exact ih.joined step ((ih.holds _ _ member).via (ih.keeps.fresh fresh) known cls)
  | clone _ member mode step ih =>
    -- The empty tuple is settled, so it is still there for a clone to share.
    have shared := ih.keeps.settled _ _ shared (.inl ⟨[], rfl⟩)
    exact ih.joined step ((ih.holds _ _ member).clone (ih.keeps.fresh fresh) shared mode)
  | elsewhere _ kept ih => exact ih.onward kept

/-- Every constructor of terminations takes the bytes of a buffer as they are when it is called, and
refuses what is no buffer as a wrong value. Whatever happens to the buffer in the runs that follow,
all that is seen of the termination, and of what is derived from it, is a matter of these bytes, of
the reason and of the initiator, to both of which nothing was given. Compared with a value that
stays as it is, it answers alike for good. -/
theorem payload_frozen {start : Session} (sound : start.store.Sound) {code : Ref} {reason : Reason}
    (typed : start.store.get? code = some (.ofReason reason))
    (bare : start.store.Untouched (.object code)) (side : Initiator)
    (untouched : start.store.Untouched (.initiator side)) (data : Value)
    {make : Action Value} (maker : make ∈ Payload.makers data (.object code) side) :
    (∀ content, start.store.Buffer data content →
      ∃ g built, make start = (.ok g, built) ∧
        ∀ mid family, Lineage built [(.report, g)] mid family →
          ∀ role v, (role, v) ∈ family →
            Payload.Seen ⟨content, reason, side⟩ mid role v ∧
            ∀ last later, Lineage mid family last later →
              ∀ w, Store.AgreesOn (mid.store.Leads w) mid.store last.store →
                last.store.equal v w = mid.store.equal v w) ∧
    ((∀ content, ¬ start.store.Buffer data content) →
      ∃ r : Refusal, make start = (.error r, start) ∧ r.category = .wrongValue) := by
  refine ⟨fun content buffer => ?_, Payload.make_refused maker⟩
  have made := Payload.make_of_buffer maker buffer
  refine ⟨_, _, made, fun mid family run role v member => ?_⟩
  let p : Payload := ⟨content, reason, side⟩
  have more := Store.extends_push start.store (.report (p.report code))
  have shared := more.get? sound.emptyTuple
  have fresh := sound.closed.fresh
  have there : p.Typed start.store code := ⟨typed, bare, untouched⟩
  have first : p.Holds (start.store.push (.report (p.report code))) .report
      (.object start.store.size) :=
    .report (Store.get?_push_size _ _) (more.bare (fresh _ (Nat.le_refl _))) (there.extends more)
  have kept : p.Kept _ mid family := run.kept (more.fresh fresh) shared fun role v given => by
    cases List.mem_singleton.mp given
    exact first
  have holds := kept.holds role v member
  have shared := kept.keeps.settled _ _ shared (.inl ⟨[], rfl⟩)
  have fresh := kept.keeps.fresh (more.fresh fresh)
  refine ⟨holds.seen fresh shared, fun last later on w same => ?_⟩
  exact holds.equal_congr (on.kept fresh shared kept.holds).keeps same

/-- A view of a buffer that is written through the view and then released, while the termination is
converted and the error cloned. -/
theorem payload_frozen_view :
    let start : Session := ⟨(Store.initial.push (.buffer [1, 2])).push (.view (.object 16)), []⟩
    let family : List (Role × Value) :=
      [(.error, .object 21), (.error, .object 20), (.report, .object 18)]
    ∃ built last, (Script.Constructor.goAwayBy .peer).apply [.object 0, .object 17] start =
        (.ok (.object 18), built) ∧
      Lineage built [(.report, .object 18)] last family ∧
      last.store.get? 16 = some (.buffer [9, 2]) ∧ last.store.get? 17 = some .released ∧
      ∀ role v, (role, v) ∈ family → Payload.Seen ⟨[1, 2], ⟨0, by decide⟩, .peer⟩ last role v := by
  intro start family
  have sound : start.store.Sound := (Store.initial_sound.push (by decide)).push (by decide)
  have typed : start.store.get? 0 = some (.ofReason ⟨0, by decide⟩) := by decide
  have view : start.store.Buffer (.object 17) [1, 2] :=
    .viewOfBuffer (q := 16) (by decide) (by decide)
  have maker : (Script.Constructor.goAwayBy .peer).apply [.object 0, .object 17] ∈
      Payload.makers (.object 17) (.object 0) .peer := List.mem_cons_of_mem _ List.mem_cons_self
  obtain ⟨g, built, made, seen⟩ :=
    (payload_frozen sound typed (by decide) .peer (by decide) (.object 17) maker).1 [1, 2] view
  cases made.symm.trans (Payload.make_of_buffer maker view)
  let built : Session := ⟨start.store.push
    (.report (.goAway (.bytes [1, 2]) (.object 0) (.initiator .peer))), []⟩
  let written : Session := ⟨built.store.put 16 (.buffer [9, 2]), []⟩
  let converted := (Error.via .base .report (.object 18) written).2
  let cloned := (Action.clone .deep (.object 20) converted).2
  let last : Session := { cloned with store := cloned.store.put 17 .released }
  have conversion : Error.via .base .report (.object 18) written =
      (.ok (.object 20), converted) := Action.run_of_returned (by decide +kernel)
  have clone : Action.clone .deep (.object 20) converted = (.ok (.object 21), cloned) :=
    Action.run_of_returned (by decide +kernel)
  have there : cloned.store.get? 17 = some (.view (.object 16)) := by decide +kernel
  have releases : ∀ now : Session, ∃ call,
      Action.viewMethod? 17 (.view (.object 16)) "release" = some call ∧
        call [] now = (.ok .null, { now with store := now.store.put 17 .released }) :=
    fun _ => ⟨_, rfl, rfl⟩
  obtain ⟨release, known, released⟩ := releases cloned
  have run : Lineage built [(.report, .object 18)] last family := by
    have first : Lineage built [(.report, .object 18)] written _ :=
      .poke .refl (.object 17) (.int 0) (.int 9) (by rfl)
    have second := first.convert List.mem_cons_self List.mem_cons_self .base conversion
    have third := second.clone List.mem_cons_self .deep clone
    exact third.viewMethod there known [] released
  refine ⟨built, last, made, run, by decide +kernel, by decide +kernel, fun role v member => ?_⟩
  exact (seen _ _ run role v member).1

end Http2Failure
