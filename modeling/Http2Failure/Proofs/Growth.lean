import Http2Failure.Frozen
import Http2Failure.Proofs.Reach

/-!
# How a store grows

Whatever a program does, an object stays where it is and keeps its nature: a fault its class, an
error its kind, a tuple its items, a method its owner. A sound store has no reference
that dangles, neither in an object nor in what was given to a value, and has the shared objects
at their places.
-/

namespace Http2Failure

namespace Object

/-- What can never be changed of an object. The fields of a frozen one are not part of it, since its
constructor can be called again. -/
def nature : Object → Object
  | .fault f => .fault { cls := f.cls }
  | .exception e => .exception { cls := e.cls }
  | .error e => .error { cls := .base, kind := e.kind }
  | .buffer _ => .buffer []
  | .view _ | .released => .released
  | .list _ => .list []
  | .tuple items => .tuple items
  | .float word => .float word
  | .method owner name => .method owner name
  | .reason _ => .reason .null
  | .streamId _ => .streamId .null
  | .report (.reset ..) => .report (.reset .null .null .null)
  | .report (.goAway ..) => .report (.goAway .null .null .null)
  | .report (.transport _) => .report (.transport .null)
  | .sendFailure (.misuse _) => .sendFailure (.misuse .null)
  | .sendFailure (.connection _) => .sendFailure (.connection .null)
  | .kind (.reset ..) => .kind (.reset .null .null .null)
  | .kind (.goAway ..) => .kind (.goAway .null .null .null)
  | .kind (.reason _) => .kind (.reason .null)
  | .kind (.misuse _) => .kind (.misuse .null)
  | .kind (.transport _) => .kind (.transport .null)

theorem nature_withCarried (o : Object) (c : Carried) : (o.withCarried c).nature = o.nature := by
  cases o <;> rfl

theorem nature_withFields (o : Object) (fields : List Value) :
    (o.withFields fields).nature = o.nature := by
  unfold withFields
  split
  · rfl
  · rfl
  · rename_i r fields
    cases r <;> unfold Report.withFields <;> split <;> rfl
  · rename_i f fields
    cases f <;> unfold SendFailure.withFields <;> split <;> rfl
  · rename_i k fields
    cases k <;> unfold Kind.withFields <;> split <;> rfl
  · rfl

theorem isFrozen_nature (o : Object) : o.nature.record?.isSome = o.record?.isSome := by
  cases o with
  | report r => cases r <;> rfl
  | sendFailure f => cases f <;> rfl
  | kind k => cases k <;> rfl
  | _ => rfl

theorem loose_of_nature {o p : Object} (h : o.nature = p.nature) (loose : p.record? = none) :
    o.record? = none := by
  rw [← Option.not_isSome_iff_eq_none, ← isFrozen_nature, h, isFrozen_nature, loose]
  exact Bool.false_ne_true

theorem nature_of_checked {s : Store} {o o' : Object} (h : o.checked s = .ok o') :
    o'.nature = o.nature := by
  unfold checked at h
  split at h
  · rename_i code
    cases checked : Reason.ofValue code with
    | error => rw [checked] at h; cases h
    | ok r => rw [checked] at h; cases h; rfl
  · rename_i value
    cases checked : StreamId.ofValue value with
    | error => rw [checked] at h; cases h
    | ok i => rw [checked] at h; cases h; rfl
  · split at h
    · cases h
      rfl
    · cases h
  · cases h
    rfl

end Object

namespace Store

abbrev Has (s : Store) (v : Value) : Prop := v.Below s.size

def Grows (s t : Store) : Prop :=
  ∀ r o, s.get? r = some o → ∃ o', t.get? r = some o' ∧ o'.nature = o.nature

theorem Grows.refl (s : Store) : s.Grows s := fun _ o found => ⟨o, found, rfl⟩

theorem Grows.trans {s t u : Store} (h : s.Grows t) (h' : t.Grows u) : s.Grows u := by
  intro r o found
  obtain ⟨o', found', same⟩ := h r o found
  obtain ⟨o'', found'', same'⟩ := h' r o' found'
  exact ⟨o'', found'', same'.trans same⟩

theorem Grows.size_le {s t : Store} (h : s.Grows t) : s.size ≤ t.size := by
  cases last : s.size with
  | zero => exact Nat.zero_le _
  | succ n =>
    have bound : n < s.size := last ▸ Nat.lt_succ_self n
    obtain ⟨o, found⟩ := get?_isSome_iff.mpr bound
    obtain ⟨o', found', -⟩ := h n o found
    exact lt_size_of_get? found'

theorem Grows.has {s t : Store} (h : s.Grows t) {v : Value} (has : s.Has v) : t.Has v :=
  has.mono (Older.mono h.size_le)

theorem Grows.hasAll {s t : Store} (h : s.Grows t) {vs : List Value} (has : ∀ v ∈ vs, s.Has v) :
    ∀ v ∈ vs, t.Has v := fun v hv => h.has (has v hv)

theorem grows_push (s : Store) (o : Object) : s.Grows (s.push o) := fun _ o' found =>
  ⟨o', (get?_push_of_lt o (lt_size_of_get? found)).trans found, rfl⟩

theorem grows_put {s : Store} {r : Ref} {o o' : Object} (found : s.get? r = some o)
    (same : o'.nature = o.nature) : s.Grows (s.put r o') := by
  intro t x found'
  by_cases here : r = t
  · subst here
    cases found.symm.trans found'
    exact ⟨o', get?_put_self _ (lt_size_of_get? found), same⟩
  · exact ⟨x, (get?_put_ne _ here).trans found', rfl⟩

theorem Closed.put {s : Store} (closed : s.Closed) (r : Ref) {o : Object}
    (held : ∀ v ∈ o.parts, s.Has v) : (s.put r o).Closed := by
  refine ⟨fun t o' found v hv => ?_,
    fun entry given v hv => size_put s r o ▸ closed.given entry given v hv⟩
  rw [size_put]
  by_cases same : r = t
  · subst same
    have bound : r < s.size := size_put s r o ▸ lt_size_of_get? found
    rw [get?_put_self o bound] at found
    cases found
    exact held v hv
  · rw [get?_put_ne o same] at found
    exact closed.parts t o' found v hv

/-- No reference dangles, and the shared objects are there. -/
structure Sound (s : Store) : Prop where
  closed : s.Closed
  shared : initial.Grows s

theorem initial_sound : initial.Sound := ⟨initial_closed, .refl _⟩

theorem Sound.push {s : Store} (sound : s.Sound) {o : Object} (held : ∀ v ∈ o.parts, s.Has v) :
    (s.push o).Sound where
  closed := sound.closed.push held
  shared := sound.shared.trans (grows_push s o)

theorem Sound.put {s : Store} (sound : s.Sound) {r : Ref} {o o' : Object}
    (found : s.get? r = some o) (same : o'.nature = o.nature) (held : ∀ v ∈ o'.parts, s.Has v) :
    (s.put r o').Sound where
  closed := sound.closed.put r held
  shared := sound.shared.trans (grows_put found same)

theorem Closed.give {s : Store} (closed : s.Closed) {v : Value} {attrs : Attributes}
    (has : s.Has v) (held : ∀ w ∈ attrs.map Prod.snd, s.Has w) : (s.give v attrs).Closed where
  parts := closed.parts
  given entry he w hw := by
    rcases List.mem_cons.mp he with rfl | he
    · exact List.forall_mem_cons.mpr ⟨has, held⟩ w hw
    · exact closed.given entry (List.mem_filter.mp he).1 w hw

theorem Sound.give {s : Store} (sound : s.Sound) {v : Value} {attrs : Attributes}
    (has : s.Has v) (held : ∀ w ∈ attrs.map Prod.snd, s.Has w) : (s.give v attrs).Sound where
  closed := sound.closed.give has held
  shared := sound.shared

theorem size_releaseGone (s : Store) (outside : List Value) :
    (s.releaseGone outside).size = s.size := by
  unfold releaseGone
  split
  · simp [size]
  · rfl

theorem get?_releaseGone (s : Store) (outside : List Value) (r : Ref) :
    (s.releaseGone outside).get? r = s.get? r ∨
      ∃ source, s.get? r = some (.view source) ∧
        (s.releaseGone outside).get? r = some .released := by
  unfold releaseGone
  split
  · simp only [get?, List.getElem?_toArray, List.getElem?_mapIdx, Array.getElem?_toList]
    cases found : s.objects[r]? with
    | none => exact .inl rfl
    | some o =>
      simp only [Option.map_some]
      split
      · rename_i gone
        cases o with
        | view source => exact .inr ⟨source, rfl, rfl⟩
        | _ => exact absurd gone Bool.false_ne_true
      · exact .inl rfl
  · exact .inl rfl

theorem grows_releaseGone (s : Store) (outside : List Value) : s.Grows (s.releaseGone outside) := by
  intro r o found
  rcases get?_releaseGone s outside r with same | ⟨source, view, released⟩
  · exact ⟨o, same.trans found, rfl⟩
  · cases view.symm.trans found
    exact ⟨.released, released, rfl⟩

theorem given_releaseGone (s : Store) (outside : List Value) :
    (s.releaseGone outside).given = s.given := by
  unfold releaseGone
  split
  · rfl
  · rfl

theorem Sound.releaseGone {s : Store} (sound : s.Sound) (outside : List Value) :
    (s.releaseGone outside).Sound where
  closed.parts r o found v hv := by
    rw [size_releaseGone]
    rcases get?_releaseGone s outside r with same | ⟨source, -, released⟩
    · exact sound.closed.parts r o (same.symm.trans found) v hv
    · cases released.symm.trans found
      cases hv
  closed.given entry he v hv := by
    rw [size_releaseGone]
    exact sound.closed.given entry (given_releaseGone s outside ▸ he) v hv
  shared := sound.shared.trans (grows_releaseGone s outside)

end Store

end Http2Failure
