import Http2Failure.Proofs.Change
import Http2Failure.Proofs.Replay
import Http2Failure.Script.Constructor

/-!
# Histories of a fault

Between its construction and the moment when it is rebuilt a fault may be changed in its attributes,
its notes, its file names and its cause, and the rest of the program goes on. None of this touches
what its arguments replay, and what is older than the fault never comes to show it.
-/

namespace Http2Failure

namespace Change

/-- A name that is none of the slots of a fault, so its value is kept among the attributes. -/
def IsPlain (name : String) : Prop := (Slot.common ++ Slot.ofFault).lookup name = none

/-- Changes of attributes, notes, cause and file names that make no file name the null value. -/
def IsMild : Change → Prop
  | .set name v =>
    IsPlain name ∨ name = "__cause__" ∨ (name = "filename" ∨ name = "filename2") ∧ v ≠ .null
  | .delete name => IsPlain name ∨ name = "filename" ∨ name = "filename2"
  | .note _ => True

end Change

/-- What happens elsewhere: it leaves the fault as it is, and nothing older comes to show the fault
or anything newer. -/
structure Store.Spares (x : Ref) (s t : Store) : Prop where
  kept : t.get? x = s.get? x
  older : s.ClosedOn (Older x) → t.ClosedOn (Older x)

inductive History (allowed : Change → Prop) (x : Ref) : Session → Session → Prop
  | refl (session : Session) : History allowed x session session
  | change {first last : Session} (before : History allowed x first last) (c : Change)
    (h : allowed c) : History allowed x first (c.perform x last).2
  | look {first last : Session} (before : History allowed x first last) (name : String) :
    History allowed x first (Action.getAttribute (.object x) name last).2
  | elsewhere {first last next : Session} (before : History allowed x first last)
    (spared : Store.Spares x last.store next.store) : History allowed x first next

theorem Store.spares_push {s : Store} {x : Ref} (bound : x < s.size) (o : Object) :
    Spares x s (s.push o) where
  kept := get?_push_of_lt o bound
  older := ((agreesOn_push s o).mono (Older.mono (Nat.le_of_lt bound))).closedOn

theorem History.run {allowed : Change → Prop} {x : Ref} {cs : List Change}
    (h : ∀ c ∈ cs, allowed c) {first last : Session} (before : History allowed x first last) :
    History allowed x first (Change.run x cs last) := by
  induction cs generalizing last with
  | nil => exact before
  | cons c rest ih =>
    exact ih (fun c hc => h c (List.mem_cons_of_mem _ hc))
      (before.change c (h c List.mem_cons_self))

namespace Fault

theorem slot_of_isPlain {name : String} (h : Change.IsPlain name) (f : Fault) :
    (Object.fault f).slot name = .free := by
  rw [Object.slot, Object.slots, h]
  rfl

structure Kept (f f' : Fault) : Prop where
  faithful : f'.Faithful
  args : f'.args = f.args
  argsTuple : f'.argsTuple = f.argsTuple

theorem kept_of_set {s : Store} {f : Fault} (faithful : f.Faithful) {name : String} {v : Value}
    (mild : (Change.set name v).IsMild) {o : Object}
    (h : (Object.fault f).withAttribute s name v = .ok o) : ∃ f', o = .fault f' ∧ Kept f f' := by
  rcases mild with plain | rfl | ⟨rfl | rfl, notNull⟩
  · simp only [Object.withAttribute, slot_of_isPlain plain, setSlot, Carried.setSlot] at h
    cases h
    exact ⟨_, rfl, ⟨⟨faithful.replays, faithful.fileName, faithful.fileName2⟩, rfl, rfl⟩⟩
  · have slot : (Object.fault f).slot "__cause__" = .cause := rfl
    simp only [Object.withAttribute, slot, setSlot, Carried.setSlot] at h
    cases cause : s.exception? v with
    | none =>
      simp only [cause] at h
      cases h
    | some cause' =>
      simp only [cause] at h
      cases h
      exact ⟨_, rfl, ⟨⟨faithful.replays, faithful.fileName, faithful.fileName2⟩, rfl, rfl⟩⟩
  · cases h
    exact ⟨_, rfl, ⟨⟨faithful.replays, fun same => notNull (Option.some.inj same),
      faithful.fileName2⟩, rfl, rfl⟩⟩
  · cases h
    exact ⟨_, rfl, ⟨⟨faithful.replays, faithful.fileName,
      fun same => notNull (Option.some.inj same)⟩, rfl, rfl⟩⟩

theorem kept_of_delete {f : Fault} (faithful : f.Faithful) {name : String}
    (mild : (Change.delete name).IsMild) {o : Object}
    (h : (Object.fault f).withoutAttribute name = .ok o) : ∃ f', o = .fault f' ∧ Kept f f' := by
  rcases mild with plain | rfl | rfl
  · simp only [Object.withoutAttribute, slot_of_isPlain plain, deleteSlot, Carried.deleteSlot,
      Carried.deleteFree] at h
    cases given : f.attributes.get? name with
    | none =>
      simp only [given] at h
      cases h
    | some v =>
      simp only [given] at h
      cases h
      exact ⟨_, rfl, ⟨⟨faithful.replays, faithful.fileName, faithful.fileName2⟩, rfl, rfl⟩⟩
  · cases h
    exact ⟨_, rfl, ⟨⟨faithful.replays, nofun, faithful.fileName2⟩, rfl, rfl⟩⟩
  · cases h
    exact ⟨_, rfl, ⟨⟨faithful.replays, faithful.fileName, nofun⟩, rfl, rfl⟩⟩

end Fault

namespace Store

/-- A faithful fault lies at `x`, and its arguments and all that is shown of them are older. -/
structure Settled (s : Store) (x : Ref) : Prop where
  fault : ∃ f, s.get? x = some (.fault f) ∧ f.Faithful ∧ (∀ v ∈ f.args, v.Below x) ∧
    (f.args ≠ [] → ∀ place, f.argsTuple = some place → x ≤ place)
  older : s.ClosedOn (Older x)

theorem settled_of_kept {t : Store} {x : Ref} {f f' : Fault} (kept : f.Kept f')
    (args : ∀ v ∈ f.args, v.Below x)
    (tuple : f.args ≠ [] → ∀ place, f.argsTuple = some place → x ≤ place)
    (found : t.get? x = some (.fault f')) (older : t.ClosedOn (Older x)) : t.Settled x := by
  refine ⟨⟨f', found, kept.faithful, ?_, ?_⟩, older⟩
  · rw [kept.args]
    exact args
  · rw [kept.args, kept.argsTuple]
    exact tuple

theorem Settled.effect {s t : Store} {x : Ref} (h : s.Settled x) {c : Change} (mild : c.IsMild)
    (effect : ∀ o, s.get? x = some o → Change.Effect x s o c t) : t.Settled x := by
  obtain ⟨⟨f, found, faithful, args, tuple⟩, older⟩ := h
  have bound : x < s.size := lt_size_of_get? found
  have written : ∀ (u : Store) (o : Object), AgreesOn (Older x) u (u.put x o) := fun u o =>
    agreesOn_put (P := Older x) u (Nat.lt_irrefl x) o
  have pushed : ∀ o : Object, AgreesOn (Older x) s (s.push o) := fun o =>
    (agreesOn_push s o).mono (Older.mono (Nat.le_of_lt bound))
  cases effect _ found with
  | refused => exact ⟨⟨f, found, faithful, args, tuple⟩, older⟩
  | set h =>
    obtain ⟨f', rfl, kept⟩ := Fault.kept_of_set faithful mild h
    exact settled_of_kept kept args tuple (get?_put_self _ bound)
      ((written s _).closedOn older)
  | delete h =>
    obtain ⟨f', rfl, kept⟩ := Fault.kept_of_delete faithful mild h
    exact settled_of_kept kept args tuple (get?_put_self _ bound)
      ((written s _).closedOn older)
  | stray note =>
    exact ⟨⟨f, (get?_push_of_lt _ bound).trans found, faithful, args, tuple⟩,
      (pushed _).closedOn older⟩
  | firstNote h =>
    have plain : Change.IsPlain "__notes__" := rfl
    obtain ⟨f', rfl, kept⟩ := Fault.kept_of_set faithful (.inl plain) h
    exact settled_of_kept kept args tuple (get?_put_self _ (lt_size_push bound _))
      ((written _ _).closedOn ((pushed _).closedOn older))
  | @note _ _ n _ _ _ listed =>
    have apart : n ≠ x := fun same => by
      rw [same, found] at listed
      cases listed
    exact ⟨⟨f, (get?_put_ne _ apart).trans found, faithful, args, tuple⟩, older.put_note listed _⟩

end Store

namespace Fault

/-- Reading an attribute of a fault changes nothing, but that the tuple of the arguments is made
when it is read for the first time. -/
theorem look_cases {session : Session} {x : Ref} {f : Fault}
    (found : session.store.get? x = some (.fault f)) (name : String) :
    let t := (Action.getAttribute (.object x) name session).2.store
    t = session.store ∨
    (f.args = [] ∧ t = session.store.put x
      (.fault { f with argsTuple := some Store.emptyTupleRef })) ∨
    t = (session.store.push (.tuple f.args)).put x
      (.fault { f with argsTuple := some session.store.size }) := by
  simp only [Action.getAttribute, Action.bind_apply, Action.ask_apply, Store.object?, found,
    Object.carried?]
  cases (Object.fault f).slot name with
  | args =>
    cases given : f.argsTuple with
    | some place => exact .inl (by simp [Action.argsTuple, given])
    | none =>
      by_cases empty : f.args = []
      · exact .inr (.inl ⟨empty, by simp [Action.argsTuple, Action.tuple, given, empty]; rfl⟩)
      · exact .inr (.inr (by simp [Action.argsTuple, Action.tuple, given, empty]; rfl))
  | _ => exact .inl rfl

theorem kept_of_look {P : Fault → Prop} {session : Session} {x : Ref}
    (shared : ∀ f place, P f → P { f with argsTuple := some place }) (name : String)
    (held : ∃ f, session.store.get? x = some (.fault f) ∧ P f) :
    ∃ f, (Action.getAttribute (.object x) name session).2.store.get? x = some (.fault f) ∧ P f := by
  obtain ⟨f, found, holds⟩ := held
  have bound := Store.lt_size_of_get? found
  rcases look_cases found name with looked | ⟨-, looked⟩ | looked
  · exact ⟨f, looked ▸ found, holds⟩
  · exact ⟨_, looked ▸ Store.get?_put_self _ bound, shared f _ holds⟩
  · exact ⟨_, looked ▸ Store.get?_put_self _ (Store.lt_size_push bound _), shared f _ holds⟩

end Fault

namespace Store.Settled

theorem look {session : Session} {x : Ref} (h : session.store.Settled x) (name : String) :
    (Action.getAttribute (.object x) name session).2.store.Settled x := by
  obtain ⟨⟨f, found, faithful, args, tuple⟩, older⟩ := h
  have bound : x < session.store.size := lt_size_of_get? found
  have kept : ∀ place, f.Faithful → ({ f with argsTuple := place } : Fault).Faithful :=
    fun _ h => ⟨h.replays, h.fileName, h.fileName2⟩
  have written : ∀ (u : Store) (o : Object), AgreesOn (Older x) u (u.put x o) := fun u o =>
    agreesOn_put (P := Older x) u (Nat.lt_irrefl x) o
  rcases Fault.look_cases found name with same | ⟨empty, same⟩ | same
  · rw [same]
    exact ⟨⟨f, found, faithful, args, tuple⟩, older⟩
  · rw [same]
    exact ⟨⟨_, get?_put_self _ bound, kept _ faithful, args, fun h => absurd empty h⟩,
      (written _ _).closedOn older⟩
  · rw [same]
    have pushed : AgreesOn (Older x) session.store (session.store.push (.tuple f.args)) :=
      (agreesOn_push session.store _).mono (Older.mono (Nat.le_of_lt bound))
    refine ⟨⟨_, get?_put_self _ (lt_size_push bound _), kept _ faithful, args, ?_⟩,
      (written _ _).closedOn (pushed.closedOn older)⟩
    intro _ place given
    cases given
    exact Nat.le_of_lt bound

theorem spares {s t : Store} {x : Ref} (h : s.Settled x) (spared : Spares x s t) : t.Settled x := by
  obtain ⟨⟨f, found, rest⟩, older⟩ := h
  exact ⟨⟨f, spared.kept.trans found, rest⟩, spared.older older⟩

theorem history {first last : Session} {x : Ref} (h : first.store.Settled x)
    (history : History Change.IsMild x first last) : last.store.Settled x := by
  induction history with
  | refl => exact h
  | change _ c mild ih => exact ih.effect mild fun _ found => Change.effect_perform found c
  | look _ name ih => exact ih.look name
  | elsewhere _ spared ih => exact ih.spares spared

theorem of_construction {start built : Session} {cls : Fault.Class} {args : List Value} {x : Ref}
    (closed : start.store.Closed) (given : ∀ v ∈ args, v.Below start.store.size)
    (standard : cls.isStandard)
    (construction :
      (Script.Constructor.fault cls).apply args start = (.ok (.object x), built)) :
    built.store.Settled x := by
  simp only [Script.Constructor.apply, Action.bind_apply, Action.read_apply,
    Fault.construct_of_isStandard standard] at construction
  cases built' : Fault.ofArgs start.store cls args with
  | error => simp only [built'] at construction; cases construction
  | ok f =>
    simp only [built', Action.create_apply] at construction
    cases construction
    have subset := Fault.args_of_ofArgs built'
    have noTuple : f.argsTuple = none := congrArg Carried.argsTuple (Fault.carried_of_ofArgs built')
    refine ⟨⟨f, get?_push_size _ _, Fault.faithful_of_ofArgs built', ?_, ?_⟩, ?_⟩
    · exact fun v hv => given v (subset hv)
    · rw [noTuple]
      intro _ place same
      cases same
    · exact (agreesOn_push start.store _).closedOn closed.closedOn

end Store.Settled

end Http2Failure
