import Http2Failure.Proofs.Containment
import Http2Failure.Proofs.Currency

/-!
# What a rebuilt fault shares with the first one

The rebuilt fault is an object of its own, but it takes over the attributes of the first one, and so
the very list of its notes. A note that is added to one of the two is added to both. Apart from that
a change of one object writes no other, so nothing else that the other one holds or shows changes,
unless the one itself is part of it, or a list that is part of it is made the notes of the one.
-/

namespace Http2Failure

namespace Store

variable {s t : Store} {x y : Ref}

/-- The lists among the attributes of the exception at `x`; its notes are one of them. -/
def HasList (s : Store) (x n : Ref) : Prop :=
  .object n ∈ (s.attributesOf (.object x)).map Prod.snd ∧ s.IsList n

/-- Nothing of the exception at `x` is different in `t`: not the exception with its slots and
attributes, not the items of a list among these, nothing that it can show, and so not its text. -/
structure SameAt (x : Ref) (s t : Store) : Prop where
  object : t.get? x = s.get? x
  lists : SameObjects (s.HasList x) s t
  shown : AgreesOn (s.Leads (.object x)) s t
  text : t.plain (.object x) = s.plain (.object x)

theorem hasList_of_notes {f : Fault} (found : s.get? x = some (.fault f)) {n : Ref}
    (notes : f.notes = some (.object n)) (list : s.IsList n) : s.HasList x n := by
  refine ⟨?_, list⟩
  rw [attributesOf_of_carried found rfl]
  exact List.mem_map_of_mem (f := Prod.snd) (Attributes.mem_of_get? notes)

theorem Contained.sameAt {given : Ref → Prop} (contained : s.Contained given x t)
    (closed : s.Closed) {f : Fault} (found : s.get? x = some (.fault f)) (bound : y < s.size)
    (apart : ¬ s.Leads (.object y) (.object x))
    (spared : ∀ n, given n → s.IsList n → ¬ s.Leads (.object y) (.object n) ∧ ¬ s.HasList y n) :
    SameAt y s t := by
  have shown : AgreesOn (s.Leads (.object y)) s t := by
    refine agreesOn_of_given_eq contained.given_eq fun z path => ?_
    have inside : z < s.size := path.inside closed.closedOn (v := .object y) bound
    rcases contained.others z inside (fun same => apart (same ▸ path)) with ⟨taken, list⟩ | same
    · exact absurd path (spared z taken list).1
    · exact same
  have lists : SameObjects (s.HasList y) s t := by
    intro n has
    obtain ⟨items, listed⟩ := has.2
    have other : n ≠ x := fun same => by
      rw [same, found] at listed
      cases listed
    rcases contained.others n (lt_size_of_get? listed) other with ⟨taken, list⟩ | same
    · exact absurd has (spared n taken list).2
    · exact same
  exact ⟨shown.objects (.here _), lists, shown, shown.render (closedOn_leads s _) .plain (.here _)⟩

end Store

namespace Change

variable {x n : Ref} {f : Fault} {items : List Value} {session : Session}

theorem note_apply (found : session.store.get? x = some (.fault f))
    (held : f.notes = some (.object n)) (listed : session.store.get? n = some (.list items))
    (note : String) :
    (Change.note (.text note)).perform x session =
      (.ok (), { session with store := session.store.put n (.list (items ++ [.text note])) }) := by
  have held' : f.attributes.get? "__notes__" = some (.object n) := held
  simp only [perform, Action.addNote, Action.bind_apply, Action.ask_apply, Store.object?, found,
    Option.bind_some, Object.carried?, held', listed, Action.put_apply]

theorem run_note (found : session.store.get? x = some (.fault f))
    (held : f.notes = some (.object n)) (listed : session.store.get? n = some (.list items)) :
    (run x [.note (.text "")] session).store.get? n ≠ session.store.get? n := by
  rw [run, run, note_apply found held listed, listed,
    Store.get?_put_self _ (Store.lt_size_of_get? listed)]
  intro same
  have length := congrArg List.length (Object.list.inj (Option.some.inj same))
  simp at length

theorem run_take (found : session.store.get? x = some (.fault f))
    (listed : session.store.get? n = some (.list items)) :
    (run x [.set "__notes__" (.object n), .note (.text "")] session).store.get? n ≠
      session.store.get? n := by
  have apart : x ≠ n := fun same => by
    rw [← same, found] at listed
    cases listed
  let taken : Fault := { f with attributes := f.attributes.insert "__notes__" (.object n) }
  have step : (Change.set "__notes__" (.object n)).perform x session =
      (.ok (), { session with store := session.store.put x (.fault taken) }) := by
    rw [perform, setAttribute_apply found]
    rfl
  have bound : x < session.store.size := Store.lt_size_of_get? found
  have listed' : (session.store.put x (.fault taken)).get? n = some (.list items) :=
    (Store.get?_put_ne _ apart).trans listed
  rw [run, step, listed, ← listed']
  exact run_note (Store.get?_put_self _ bound) (Attributes.get?_insert_self ..) listed'

end Change

namespace Store

def HasNotes (s : Store) (x : Ref) : Prop :=
  ∃ n, (s.attributesOf (.object x)).get? "__notes__" = some (.object n) ∧ s.IsList n

variable {x y : Ref} {g : Fault} {given : Ref → Prop} {session : Session}

theorem run_renumber_ne (found : session.store.get? x = some (.fault g)) :
    ∃ v, (Change.run x [.set "errno" v] session).store.get? x ≠ session.store.get? x := by
  obtain ⟨v, differs⟩ : ∃ v, some v ≠ g.errorNumber := by
    by_cases null : g.errorNumber = some .null
    · exact ⟨.int 0, null ▸ by decide⟩
    · exact ⟨.null, Ne.symm null⟩
  refine ⟨v, ?_⟩
  have step : (Change.set "errno" v).perform x session =
      (.ok (), { session with
        store := session.store.put x (.fault { g with errorNumber := some v }) }) := by
    rw [Change.perform, Change.setAttribute_apply found]
    rfl
  rw [Change.run, Change.run, step, found, get?_put_self _ (lt_size_of_get? found)]
  intro same
  exact differs (congrArg Fault.errorNumber (Object.fault.inj (Option.some.inj same)))

/-- Another exception stays the same under all changes of the fault at `x` exactly where it does not
show that fault, and has no part in the lists that get the notes. -/
theorem sameAt_iff (closed : session.store.Closed)
    (found : session.store.get? x = some (.fault g)) (bound : y < session.store.size) :
    (∀ cs, Change.Takes given session.store cs →
        SameAt y session.store (Change.run x cs session).store) ↔
      ¬ session.store.Leads (.object y) (.object x) ∧
        ∀ n, g.notes = some (.object n) ∨ given n → session.store.IsList n →
          ¬ session.store.Leads (.object y) (.object n) ∧ ¬ session.store.HasList y n := by
  constructor
  · intro same
    have unwritten : ∀ n, g.notes = some (.object n) ∨ given n → session.store.IsList n →
        ∃ cs, Change.Takes given session.store cs ∧
          (Change.run x cs session).store.get? n ≠ session.store.get? n := by
      rintro n (held | taken) ⟨items, listed⟩
      · exact ⟨_, fun m member => (by simp at member), Change.run_note found held listed⟩
      · refine ⟨_, fun m member _ => ?_, Change.run_take found listed⟩
        simp only [List.mem_cons, Change.set.injEq, Value.object.injEq, true_and,
          List.not_mem_nil, or_false, reduceCtorEq] at member
        exact member ▸ taken
    constructor
    · intro path
      obtain ⟨v, written⟩ := run_renumber_ne found
      exact written ((same _ fun m member => by simp at member).shown.objects path)
    · intro n reason list
      obtain ⟨cs, takes, written⟩ := unwritten n reason list
      exact ⟨fun path => written ((same cs takes).shown.objects path),
        fun has => written ((same cs takes).lists n has)⟩
  · rintro ⟨apart, spared⟩ cs takes
    have start : session.store.Contained (fun n => g.notes = some (.object n) ∨ given n) x
        session.store := .refl found fun n held _ => .inl held
    have contained := start.run fun n member list => .inr (takes n member list)
    exact contained.sameAt closed found bound apart spared

theorem sameAt_iff_of_shared (closed : session.store.Closed)
    (found : session.store.get? x = some (.fault g)) {h : Fault}
    (found' : session.store.get? y = some (.fault h)) (shared : h.attributes = g.attributes) :
    (∀ cs, Change.Takes given session.store cs →
        SameAt y session.store (Change.run x cs session).store) ↔
      ¬ session.store.HasNotes y ∧ ¬ session.store.Leads (.object y) (.object x) ∧
        ∀ n, given n → session.store.IsList n →
          ¬ session.store.Leads (.object y) (.object n) ∧ ¬ session.store.HasList y n := by
  have notes : ∀ n, g.notes = some (.object n) ↔
      (session.store.attributesOf (.object y)).get? "__notes__" = some (.object n) := by
    intro n
    rw [attributesOf_of_carried found' rfl, shared]
    rfl
  rw [sameAt_iff closed found (lt_size_of_get? found')]
  constructor
  · rintro ⟨apart, spared⟩
    refine ⟨?_, apart, fun n taken => spared n (.inr taken)⟩
    rintro ⟨n, held, list⟩
    have notes' : h.notes = some (.object n) := by
      rw [Fault.notes, shared]
      exact (notes n).mpr held
    exact (spared n (.inl ((notes n).mpr held)) list).2 (hasList_of_notes found' notes' list)
  · rintro ⟨unnoted, apart, spared⟩
    refine ⟨apart, ?_⟩
    rintro n (held | taken) list
    · exact absurd ⟨n, (notes n).mp held, list⟩ unnoted
    · exact spared n taken list

theorem get?_run_of_fault (found : session.store.get? x = some (.fault g)) {h : Fault}
    (found' : session.store.get? y = some (.fault h)) (other : y ≠ x) (cs : List Change) :
    (Change.run x cs session).store.get? y = session.store.get? y := by
  have start : session.store.Contained (fun _ => True) x session.store :=
    .refl found fun _ _ _ => trivial
  have contained : session.store.Contained (fun _ => True) x (Change.run x cs session).store :=
    start.run fun _ _ _ => trivial
  rcases contained.others y (lt_size_of_get? found') other with ⟨-, items, listed⟩ | same
  · rw [found'] at listed
    cases listed
  · exact same

end Store

/-- A fault and the one that it is rebuilt as are two objects, and no change of one of them writes
the slots and attributes of the other one. The other one stays the same in all it shows, under all
changes that make only some given lists the notes of the changed one, exactly where the fault has no
notes yet and the other one has no part in those lists; and the rebuilt fault must not show the
first one. -/
theorem rebuilt_apart_iff {now after : Session} {e f : Ref} {error : Error} {fault : Fault}
    {v : Value} (closed : now.store.Closed) (holder : now.store.get? e = some (.error error))
    (holds : now.store.kind? error.kind = some (.transport (.object f)))
    (found : now.store.get? f = some (.fault fault))
    (returned : Error.intoFault e now = (.ok v, after)) :
    let r := now.store.size
    v = .object r ∧
      (∀ cs, (Change.run r cs after).store.get? f = after.store.get? f) ∧
      (∀ cs, (Change.run f cs after).store.get? r = after.store.get? r) ∧
      ∀ given : Ref → Prop,
        ((∀ cs, Change.Takes given after.store cs →
            Store.SameAt f after.store (Change.run r cs after).store) ↔
          ¬ after.store.HasNotes f ∧ ∀ n, given n → after.store.IsList n →
            ¬ after.store.Leads (.object f) (.object n) ∧ ¬ after.store.HasList f n) ∧
        ((∀ cs, Change.Takes given after.store cs →
            Store.SameAt r after.store (Change.run f cs after).store) ↔
          ¬ after.store.HasNotes f ∧ ¬ after.store.Leads (.object r) (.object f) ∧
            ∀ n, given n → after.store.IsList n →
              ¬ after.store.Leads (.object r) (.object n) ∧ ¬ after.store.HasList r n) := by
  intro r
  obtain ⟨fresh, constructed, rfl, pushed⟩ := Error.intoFault_eq_ok holder holds found returned
  have store : after.store = now.store.push (.fault (fault.onto fresh f)) := by rw [pushed]
  have bound : f < r := Store.lt_size_of_get? found
  have here : after.store.get? r = some (.fault (fault.onto fresh f)) := by
    rw [store]
    exact Store.get?_push_size ..
  have there : after.store.get? f = some (.fault fault) := by
    rw [store]
    exact (Store.get?_push_of_lt _ bound).trans found
  have closed' : after.store.Closed := by
    rw [store]
    refine closed.push fun w hw => ?_
    rcases Fault.parts_onto constructed hw with hw | rfl
    · exact closed.parts f _ found w hw
    · exact bound
  have older : after.store.ClosedOn (Older r) := by
    rw [store]
    exact (Store.agreesOn_push now.store _).closedOn closed.closedOn
  have notBack : ¬ after.store.Leads (.object f) (.object r) := fun path =>
    Nat.lt_irrefl r (path.inside older (v := .object f) bound)
  have shared : (fault.onto fresh f).attributes = fault.attributes := rfl
  have noted : after.store.HasNotes r ↔ after.store.HasNotes f := by
    unfold Store.HasNotes
    rw [Store.attributesOf_of_carried here rfl, Store.attributesOf_of_carried there rfl, shared]
  refine ⟨rfl, Store.get?_run_of_fault here there (Nat.ne_of_lt bound),
    Store.get?_run_of_fault there here (Nat.ne_of_gt bound), fun given => ⟨?_, ?_⟩⟩
  · rw [Store.sameAt_iff_of_shared closed' here there shared.symm]
    exact and_congr_right fun _ => and_iff_right notBack
  · rw [← noted]
    exact Store.sameAt_iff_of_shared closed' there here shared

/-- A missing file that was noted once: a second note would be added to both faults. -/
theorem rebuilt_apart_iff_noted :
    let missing : Fault :=
      { cls := .fileNotFound, args := [.int 2, .text "x"], errorNumber := some (.int 2),
        errorText := some (.text "x") }
    let built : Session := ⟨Store.initial.push (.fault missing), []⟩
    let noted := (Change.run 16 [.note (.text "first")] built).store
    let now : Session :=
      ⟨(noted.push (.kind (.transport (.object 16)))).push
        (.error { cls := .base, kind := 18 }), []⟩
    now.store.Closed ∧ ∃ after, Error.intoFault 19 now = (.ok (.object 20), after) ∧
      (∀ cs, (Change.run 20 cs after).store.get? 16 = after.store.get? 16) ∧
      ¬ ∀ cs, Change.Takes (fun _ => False) after.store cs →
        Store.SameAt 16 after.store (Change.run 20 cs after).store := by
  intro missing built noted now
  have closed : now.store.Closed := by decide
  have holder : now.store.get? 19 = some (.error { cls := .base, kind := 18 }) := by decide
  have holds : now.store.kind? 18 = some (.transport (.object 16)) := by decide
  have found : now.store.get? 16 =
      some (.fault { missing with attributes := [("__notes__", .object 17)] }) := by decide
  have size : now.store.size = 20 := by decide
  have returned : Error.intoFault 19 now = (.ok (.object now.store.size), _) :=
    Error.intoFault_of_transport holder holds found
  obtain ⟨-, written, -, same⟩ := rebuilt_apart_iff closed holder holds found returned
  rw [size] at returned written same
  refine ⟨closed, _, returned, written, fun all => ?_⟩
  exact ((same fun _ => False).1.mp all).1 ⟨17, by decide, [.text "first"], by decide⟩

end Http2Failure
