import Http2Failure.Attribute
import Http2Failure.Proofs.Action
import Http2Failure.Proofs.Reach

/-!
# Changes of an exception

The changes that can be made to an exception from outside: an attribute is set or deleted, or a
note is added. A change writes the exception itself, or it puts a text at the end of the list of
its notes; every other object stays as it is.
-/

namespace Http2Failure

theorem Object.mem_slots_of_slot {o : Object} {name : String} {slot : Slot}
    (h : o.slot name = slot) (declared : slot ≠ .free) : (name, slot) ∈ o.slots := by
  unfold Object.slot at h
  cases found : o.slots.lookup name with
  | none =>
    rw [found] at h
    exact absurd h.symm declared
  | some given =>
    rw [found] at h
    cases h
    obtain ⟨before, after, members, -⟩ := List.lookup_eq_some_iff.mp found
    rw [members]
    exact List.mem_append_right _ List.mem_cons_self

theorem Object.eq_args_of_slot {o : Object} {name : String} (slot : o.slot name = .args) :
    name = "args" := by
  have listed := Object.mem_slots_of_slot slot nofun
  cases o <;> simpa [Object.slots, Slot.common, Slot.ofFault, Slot.ofError] using listed

inductive Change where
  | set (name : String) (v : Value)
  | delete (name : String)
  | note (v : Value)
deriving DecidableEq

namespace Change

def perform (x : Ref) : Change → Action Unit
  | .set name v => .setAttribute (.object x) name v
  | .delete name => .deleteAttribute (.object x) name
  | .note v => .addNote (.object x) v

/-- Changes made one after the other. One that is refused does not end the run. -/
def run (x : Ref) : List Change → Session → Session
  | [], session => session
  | c :: rest, session => run x rest (c.perform x session).2

/-- Everything that a change of the object `o` at `x` can do to the store. -/
inductive Effect (x : Ref) (s : Store) (o : Object) : Change → Store → Prop
  | refused (c : Change) : Effect x s o c s
  | set {name : String} {v : Value} {o' : Object} (h : o.withAttribute s name v = .ok o') :
    Effect x s o (.set name v) (s.put x o')
  | delete {name : String} {o' : Object} (h : o.withoutAttribute name = .ok o') :
    Effect x s o (.delete name) (s.put x o')
  /-- A list for the note was made and not accepted. -/
  | stray (note : String) : Effect x s o (.note (.text note)) (s.push (.list [.text note]))
  | firstNote {note : String} {o' : Object}
    (h : o.withAttribute (s.push (.list [.text note])) "__notes__" (.object s.size) = .ok o') :
    Effect x s o (.note (.text note)) ((s.push (.list [.text note])).put x o')
  | note {note : String} {c : Carried} {n : Ref} {items : List Value}
    (carried : o.carried? = some c) (held : c.attributes.get? "__notes__" = some (.object n))
    (found : s.get? n = some (.list items)) :
    Effect x s o (.note (.text note)) (s.put n (.list (items ++ [.text note])))

theorem setAttribute_apply {x : Ref} {o : Object} {session : Session}
    (found : session.store.get? x = some o) (name : String) (v : Value) :
    Action.setAttribute (.object x) name v session =
      match o.withAttribute session.store name v with
      | .ok o' => (.ok (), { session with store := session.store.put x o' })
      | .error r => (.error r, session) := by
  simp only [Action.setAttribute, Action.bind_apply, Action.ask_apply, Action.read_apply,
    Action.put_apply, Store.object?, found]
  cases o.withAttribute session.store name v <;> rfl

theorem deleteAttribute_apply {x : Ref} {o : Object} {session : Session}
    (found : session.store.get? x = some o) (name : String) :
    Action.deleteAttribute (.object x) name session =
      match o.withoutAttribute name with
      | .ok o' => (.ok (), { session with store := session.store.put x o' })
      | .error r => (.error r, session) := by
  simp only [Action.deleteAttribute, Action.bind_apply, Action.ask_apply, Action.read_apply,
    Action.put_apply, Store.object?, found]
  cases o.withoutAttribute name <;> rfl

theorem effect_perform {x : Ref} {o : Object} {session : Session}
    (found : session.store.get? x = some o) (c : Change) :
    Effect x session.store o c (c.perform x session).2.store := by
  cases c with
  | set name v =>
    rw [perform, setAttribute_apply found]
    split
    · exact .set ‹_›
    · exact .refused _
  | delete name =>
    rw [perform, deleteAttribute_apply found]
    split
    · exact .delete ‹_›
    · exact .refused _
  | note v =>
    cases v with
    | text note =>
      have pushed : (session.store.push (.list [.text note])).get? x = some o :=
        (Store.get?_push_of_lt _ (Store.lt_size_of_get? found)).trans found
      simp only [perform, Action.addNote, Action.bind_apply, Action.ask_apply, Store.object?, found,
        Option.bind_some]
      cases carried : o.carried? with
      | none =>
        simp only [Option.bind_none, Action.bind_apply, Action.create_apply]
        rw [setAttribute_apply pushed]
        split
        · exact .firstNote ‹_›
        · exact .stray note
      | some c =>
        simp only [Option.bind_some]
        cases held : c.attributes.get? "__notes__" with
        | none =>
          simp only [Action.bind_apply, Action.create_apply]
          rw [setAttribute_apply pushed]
          split
          · exact .firstNote ‹_›
          · exact .stray note
        | some notes =>
          cases notes with
          | object n =>
            simp only [Action.bind_apply, Action.ask_apply]
            cases listed : session.store.get? n with
            | none => exact .refused _
            | some notes =>
              cases notes with
              | list items => exact .note carried held listed
              | _ => exact .refused _
          | _ => exact .refused _
    | _ => exact .refused _

namespace Effect

variable {x y : Ref} {s t : Store} {o p : Object} {c : Change}

theorem size_le (effect : Effect x s o c t) : s.size ≤ t.size := by
  cases effect with
  | refused => exact Nat.le_refl _
  | set | delete | note => exact Nat.le_of_eq (Store.size_put ..).symm
  | stray =>
    rw [Store.size_push]
    exact Nat.le_succ _
  | firstNote =>
    rw [Store.size_put, Store.size_push]
    exact Nat.le_succ _

theorem given_eq (effect : Effect x s o c t) : t.given = s.given := by
  cases effect <;> rfl

theorem get?_eq (effect : Effect x s o c t) (other : y ≠ x) (found : s.get? y = some p)
    (noList : ∀ items, p ≠ .list items) : t.get? y = some p := by
  have bound : y < s.size := Store.lt_size_of_get? found
  cases effect with
  | refused => exact found
  | set | delete => exact (Store.get?_put_ne _ (Ne.symm other)).trans found
  | stray => exact (Store.get?_push_of_lt _ bound).trans found
  | firstNote =>
    exact (Store.get?_put_ne _ (Ne.symm other)).trans ((Store.get?_push_of_lt _ bound).trans found)
  | @note _ _ n items _ _ listed =>
    have apart : n ≠ y := fun same => by
      rw [same, found] at listed
      exact noList items (Option.some.inj listed)
    exact (Store.get?_put_ne _ apart).trans found

end Effect

variable {x y : Ref} {o p : Object} {session : Session}

/-- Changes of one object leave every other one as it is, but for the lists of its notes. -/
theorem get?_run (found : session.store.get? x = some o) (other : y ≠ x)
    (found' : session.store.get? y = some p) (noList : ∀ items, p ≠ .list items)
    (cs : List Change) : (run x cs session).store.get? y = some p := by
  induction cs generalizing session o with
  | nil => exact found'
  | cons c rest ih =>
    have effect := effect_perform found c
    have bound := Nat.lt_of_lt_of_le (Store.lt_size_of_get? found) effect.size_le
    obtain ⟨o', found''⟩ := Store.get?_isSome_iff.mpr bound
    exact ih found'' (effect.get?_eq other found' noList)

theorem given_run (found : session.store.get? x = some o) (cs : List Change) :
    (run x cs session).store.given = session.store.given := by
  induction cs generalizing session o with
  | nil => rfl
  | cons c rest ih =>
    have effect := effect_perform found c
    have bound := Nat.lt_of_lt_of_le (Store.lt_size_of_get? found) effect.size_le
    obtain ⟨o', found'⟩ := Store.get?_isSome_iff.mpr bound
    exact (ih found').trans effect.given_eq

end Change

end Http2Failure
