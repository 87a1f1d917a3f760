import Http2Failure.Rendering
import Http2Failure.View

/-!
# What a value leads to

The written form of an object is made from some of the values that it holds: an exception shows
its arguments, and neither its cause nor, as a rule, its attributes. A set of places is closed when
what is shown of the objects there refers to no place outside of it; the places that a value leads
to are such a set. A store is closed when no reference in it dangles.
-/

namespace Http2Failure

namespace Carried

/-- The arguments, and the place of the tuple that holds them. -/
def shown (c : Carried) : List Value := c.args ++ c.argsTuple.toList.map Value.object

theorem args_subset_shown (c : Carried) : c.args ⊆ c.shown := List.subset_append_left ..

theorem shown_subset_parts (c : Carried) : c.shown ⊆ c.parts := by
  intro v hv
  rcases List.mem_append.mp hv with hv | hv
  · exact List.mem_append_left _ (List.mem_append_left _ hv)
  · exact List.mem_append_right _
      (List.map_subset _ (fun r hr => List.mem_append_left _ (List.mem_append_left _ hr)) hv)

theorem mem_parts_iff {c : Carried} {v : Value} :
    v ∈ c.parts ↔ v ∈ c.args ∨ v ∈ c.attributes.map Prod.snd ∨
      ∃ r, (c.argsTuple = some r ∨ c.cause = some r ∨ c.context = some r) ∧ .object r = v := by
  simp only [parts, List.mem_append, List.mem_map, Option.mem_toList, or_assoc]

end Carried

namespace Fault

def slots (f : Fault) : List Value :=
  f.errorNumber.toList ++ f.errorText.toList ++ f.fileName.toList ++ f.fileName2.toList

theorem mem_slots_iff {f : Fault} {v : Value} :
    v ∈ f.slots ↔ f.errorNumber = some v ∨ f.errorText = some v ∨ f.fileName = some v ∨
      f.fileName2 = some v := by
  simp only [slots, List.mem_append, Option.mem_toList, or_assoc]

theorem mem_parts_iff {f : Fault} {v : Value} :
    v ∈ (Object.fault f).parts ↔ v ∈ f.toCarried.parts ∨ v ∈ f.slots := by
  simp only [Object.parts, slots, List.mem_append, or_assoc]

/-- Attributes are shown by one class alone. -/
def shown (f : Fault) : List Value :=
  f.toCarried.shown ++ f.slots ++ if f.cls = .tls then f.attributes.map Prod.snd else []

end Fault

namespace Object

/-- The values that the written forms of an object are made from. -/
def shown : Object → List Value
  | .fault f => f.shown
  | .exception e => e.toCarried.shown
  | .error e => [.object e.kind]
  | o => o.parts

theorem shown_subset_parts (o : Object) : o.shown ⊆ o.parts := by
  cases o with
  | fault f =>
    intro v hv
    rcases List.mem_append.mp hv with hv | hv
    · rcases List.mem_append.mp hv with hv | hv
      · simp [parts, f.toCarried.shown_subset_parts hv]
      · simp only [Fault.slots, List.mem_append] at hv
        rcases hv with ((hv | hv) | hv) | hv <;> simp [parts, hv]
    · split at hv
      · simp [parts, Carried.parts, hv]
      · cases hv
  | exception e => exact e.toCarried.shown_subset_parts
  | error e => exact List.cons_subset_cons _ (List.nil_subset _)
  | _ => exact List.Subset.refl _

theorem fields_subset_shown {o : Object} {record : Record} (h : o.record? = some record) :
    record.fields.map Prod.snd ⊆ o.shown := by
  cases o with
  | reason | streamId | report | sendFailure | kind =>
    cases h
    exact List.Subset.refl _
  | _ => cases h

end Object

/-- A value that is none of the places outside `P`. The objects are the places, and the members of
enumerations, each by its value. -/
def Value.Inside (P : Value → Prop) : Value → Prop
  | .object r => P (.object r)
  | .misuse m => P (.misuse m)
  | .initiator i => P (.initiator i)
  | _ => True

/-- A value that is no object and no member of an enumeration, and so only itself. -/
abbrev Value.Immediate (v : Value) : Prop := v.Inside fun _ => False

/-- The members of enumerations, and the objects before `bound`. -/
def Older (bound : Ref) : Value → Prop
  | .object r => r < bound
  | _ => True

abbrev Value.Below (bound : Ref) (v : Value) : Prop := v.Inside (Older bound)

instance (bound : Ref) : DecidablePred (Older bound)
  | .object r => inferInstanceAs (Decidable (r < bound))
  | .null | .bool _ | .int _ | .text _ | .bytes _ | .misuse _ | .initiator _ | .errorClass _
  | .undecided => .isTrue trivial

instance {P : Value → Prop} [DecidablePred P] (v : Value) : Decidable (v.Inside P) :=
  match v with
  | .object r => inferInstanceAs (Decidable (P (.object r)))
  | .misuse m => inferInstanceAs (Decidable (P (.misuse m)))
  | .initiator i => inferInstanceAs (Decidable (P (.initiator i)))
  | .null | .bool _ | .int _ | .text _ | .bytes _ | .errorClass _ | .undecided => .isTrue trivial

theorem Value.inside_of {P : Value → Prop} {v : Value} (h : P v) : v.Inside P := by
  cases v with
  | object | misuse | initiator => exact h
  | _ => trivial

theorem Value.Inside.mono {P Q : Value → Prop} (h : ∀ v, P v → Q v) {v : Value}
    (inside : v.Inside P) : v.Inside Q := by
  cases v with
  | object | misuse | initiator => exact h _ inside
  | _ => trivial

theorem Older.mono {m n : Ref} (le : m ≤ n) (v : Value) (older : Older m v) : Older n v := by
  cases v with
  | object => exact Nat.lt_of_lt_of_le older le
  | _ => trivial

theorem Older.of_isMember {v : Value} (member : v.isMember = true) (bound : Ref) :
    Older bound v := by
  cases v with
  | object => cases member
  | _ => trivial

namespace Store

/-- What is shown of the objects in `P`, and what the members of enumerations in `P` hold, is no
place outside `P`. -/
structure ClosedOn (s : Store) (P : Value → Prop) : Prop where
  shown (r : Ref) (o : Object) (inside : P (.object r)) (found : s.get? r = some o) :
    ∀ v ∈ o.shown, v.Inside P
  members (v : Value) (inside : P v) (member : v.isMember = true) :
    ∀ w ∈ (s.attributesOf v).map Prod.snd, w.Inside P

/-- No object holds a reference that dangles, and neither is one given nor is anything given to one.
Every script keeps its store so. -/
structure Closed (s : Store) : Prop where
  parts (r : Ref) (o : Object) (found : s.get? r = some o) : ∀ v ∈ o.parts, v.Below s.size
  given : ∀ entry ∈ s.given, ∀ v ∈ entry.1 :: entry.2.map Prod.snd, v.Below s.size

/-- The second store has the same objects in `P` as the first one, and the same was given to what is
in `P`. -/
structure AgreesOn (P : Value → Prop) (s t : Store) : Prop where
  objects {r : Ref} (inside : P (.object r)) : t.get? r = s.get? r
  given {v : Value} (inside : P v) : t.given.lookup v = s.given.lookup v

def SameObjects (P : Ref → Prop) (s t : Store) : Prop := ∀ r, P r → t.get? r = s.get? r

/-- The written form of a value can show another one. -/
inductive Leads (s : Store) : Value → Value → Prop
  | here (v : Value) : Leads s v v
  | there {r : Ref} {o : Object} {v p : Value} (found : s.get? r = some o) (held : v ∈ o.shown)
      (rest : Leads s v p) : Leads s (.object r) p
  | member {m v p : Value} (member : m.isMember = true)
      (held : v ∈ (s.attributesOf m).map Prod.snd) (rest : Leads s v p) : Leads s m p

theorem Leads.trans {s : Store} {u v w : Value} (first : s.Leads u v) (second : s.Leads v w) :
    s.Leads u w := by
  induction first with
  | here => exact second
  | there found held _ ih => exact .there found held (ih second)
  | member member held _ ih => exact .member member held (ih second)

theorem closedOn_leads (s : Store) (v : Value) : s.ClosedOn (s.Leads v) where
  shown _ _ path found w held := Value.inside_of (path.trans (.there found held (.here w)))
  members _ path member w held := Value.inside_of (path.trans (.member member held (.here w)))

theorem Leads.inside {s : Store} {P : Value → Prop} (closed : s.ClosedOn P) {v w : Value}
    (path : s.Leads v w) (inside : v.Inside P) : w.Inside P := by
  induction path with
  | here => exact inside
  | there found held _ ih => exact ih (closed.shown _ _ inside found _ held)
  | @member m _ _ member held _ ih =>
    refine ih (closed.members m ?_ member _ held)
    cases m with
    | misuse | initiator => exact inside
    | _ => cases member

theorem below_ownAttributes {v w : Value} (held : w ∈ v.ownAttributes.map Prod.snd) (bound : Ref) :
    w.Below bound := by
  cases v with
  | misuse | initiator =>
    simp only [Value.ownAttributes, Value.ofMember, List.map_cons, List.map_nil, List.mem_cons,
      List.not_mem_nil, or_false] at held
    rcases held with rfl | rfl | rfl <;> trivial
  | _ => cases held

theorem attributesOf_cases (s : Store) (v : Value) :
    (∃ r o c, v = .object r ∧ s.get? r = some o ∧ o.carried? = some c ∧
      s.attributesOf v = c.attributes) ∨
    (∃ attrs, s.given.lookup v = some attrs ∧ s.attributesOf v = attrs) ∨
    s.attributesOf v = v.ownAttributes := by
  have given : ∀ own, (∃ attrs, s.given.lookup v = some attrs ∧
      (s.given.lookup v).getD own = attrs) ∨ (s.given.lookup v).getD own = own := by
    intro own
    cases s.given.lookup v with
    | none => exact .inr rfl
    | some attrs => exact .inl ⟨attrs, rfl, rfl⟩
  cases v with
  | object r =>
    cases carried : (s.object? (.object r)).bind Object.carried? with
    | none => exact .inr (by simpa only [Store.attributesOf, carried] using given _)
    | some c =>
      obtain ⟨o, found, carried'⟩ := Option.bind_eq_some_iff.mp carried
      exact .inl ⟨r, o, c, rfl, found, carried', by simp only [Store.attributesOf, carried]⟩
  | misuse | initiator => exact .inr (given _)
  | _ => exact .inr (.inr rfl)

theorem Closed.attributesOf {s : Store} (closed : s.Closed) (v : Value) :
    ∀ w ∈ (s.attributesOf v).map Prod.snd, w.Below s.size := by
  intro w hw
  rcases attributesOf_cases s v with ⟨r, o, c, rfl, found, carried, same⟩ | ⟨attrs, listed, same⟩ |
    same
  · rw [same] at hw
    have held := Carried.mem_parts_iff.mpr (.inr (.inl hw))
    refine closed.parts r o found w ?_
    cases o with
    | fault f => cases carried; exact Fault.mem_parts_iff.mpr (.inl held)
    | exception e => cases carried; exact held
    | error e => cases carried; exact List.mem_cons_of_mem _ held
    | _ => cases carried
  · rw [same] at hw
    obtain ⟨before, after, entries, -⟩ := List.lookup_eq_some_iff.mp listed
    exact closed.given (v, attrs) (entries ▸ List.mem_append_right before List.mem_cons_self) w
      (List.mem_cons_of_mem v hw)
  · rw [same] at hw
    exact below_ownAttributes hw _

theorem Closed.closedOn {s : Store} (closed : s.Closed) : s.ClosedOn (Older s.size) where
  shown r o _ found v hv := closed.parts r o found v (o.shown_subset_parts hv)
  members v _ _ := closed.attributesOf v

theorem lt_size_of_get? {s : Store} {r : Ref} {o : Object} (found : s.get? r = some o) :
    r < s.size := by
  obtain ⟨bound, -⟩ := Array.getElem?_eq_some_iff.mp found
  exact bound

theorem lt_size_push {s : Store} {r : Ref} (bound : r < s.size) (o : Object) :
    r < (s.push o).size := by
  rw [size_push]
  exact Nat.lt_succ_of_lt bound

theorem Closed.push {s : Store} (closed : s.Closed) {o : Object}
    (held : ∀ v ∈ o.parts, v.Below s.size) : (s.push o).Closed := by
  have grown : ∀ {v : Value}, v.Below s.size → v.Below (s.push o).size := fun below =>
    below.mono (Older.mono (size_push s o ▸ Nat.le_succ _))
  refine ⟨fun r o' found v hv => ?_, fun entry given v hv => grown (closed.given entry given v hv)⟩
  rcases Nat.lt_or_ge r s.size with old | new
  · rw [get?_push_of_lt o old] at found
    exact grown (closed.parts r o' found v hv)
  · have last : r = s.size := by
      have bound := lt_size_of_get? found
      rw [size_push] at bound
      exact Nat.le_antisymm (Nat.le_of_lt_succ bound) new
    rw [last, get?_push_size] at found
    cases found
    exact grown (held v hv)

theorem get?_isSome_iff {s : Store} {r : Ref} : (∃ o, s.get? r = some o) ↔ r < s.size := by
  constructor
  · rintro ⟨o, found⟩
    exact lt_size_of_get? found
  · intro bound
    exact ⟨s.objects[r], Array.getElem?_eq_getElem bound⟩

theorem kind?_eq_some_iff {s : Store} {r : Ref} {k : Kind} :
    s.kind? r = some k ↔ s.get? r = some (.kind k) := by
  unfold kind?
  constructor
  · intro h
    split at h
    · cases h
      assumption
    · cases h
  · intro h
    rw [h]

theorem AgreesOn.refl (P : Value → Prop) (s : Store) : AgreesOn P s s :=
  ⟨fun _ => rfl, fun _ => rfl⟩

theorem agreesOn_of_given_eq {P : Value → Prop} {s t : Store} (same : t.given = s.given)
    (h : SameObjects (fun r => P (.object r)) s t) : AgreesOn P s t :=
  ⟨fun inside => h _ inside, fun _ => by rw [same]⟩

theorem AgreesOn.mono {P Q : Value → Prop} {s t : Store} (agree : AgreesOn Q s t)
    (h : ∀ v, P v → Q v) : AgreesOn P s t :=
  ⟨fun inside => agree.objects (h _ inside), fun inside => agree.given (h _ inside)⟩

theorem AgreesOn.trans {P : Value → Prop} {s t u : Store} (first : AgreesOn P s t)
    (second : AgreesOn P t u) : AgreesOn P s u where
  objects inside := (second.objects inside).trans (first.objects inside)
  given inside := (second.given inside).trans (first.given inside)

theorem AgreesOn.attributesOf {P : Value → Prop} {s t : Store} (agree : AgreesOn P s t) {v : Value}
    (inside : v.Inside P) : t.attributesOf v = s.attributesOf v := by
  cases v with
  | object r => simp only [Store.attributesOf, object?, agree.objects inside, agree.given inside]
  | misuse | initiator => simp only [Store.attributesOf, object?, agree.given inside]
  | _ => rfl

theorem AgreesOn.closedOn {P : Value → Prop} {s t : Store} (agree : AgreesOn P s t)
    (closed : s.ClosedOn P) : t.ClosedOn P where
  shown r o inside found := closed.shown r o inside ((agree.objects inside).symm.trans found)
  members v inside member := by
    rw [agree.attributesOf (Value.inside_of inside)]
    exact closed.members v inside member

theorem agreesOn_push (s : Store) (o : Object) : AgreesOn (Older s.size) s (s.push o) :=
  ⟨get?_push_of_lt o, fun _ => rfl⟩

theorem agreesOn_put {P : Value → Prop} (s : Store) {r : Ref} (h : ¬ P (.object r)) (o : Object) :
    AgreesOn P s (s.put r o) :=
  ⟨fun inside => get?_put_ne o fun same => h (same ▸ inside), fun _ => rfl⟩

theorem ClosedOn.or {P Q : Value → Prop} {s : Store} (first : s.ClosedOn P)
    (second : s.ClosedOn Q) : s.ClosedOn fun v => P v ∨ Q v where
  shown := by
    rintro r o (inside | inside) found v hv
    · exact (first.shown r o inside found v hv).mono fun _ => .inl
    · exact (second.shown r o inside found v hv).mono fun _ => .inr
  members := by
    rintro v (inside | inside) member w hw
    · exact (first.members v inside member w hw).mono fun _ => .inl
    · exact (second.members v inside member w hw).mono fun _ => .inr

theorem attributesOf_of_isMember {s : Store} {v : Value} (member : v.isMember = true) :
    s.attributesOf v = (s.given.lookup v).getD v.ownAttributes := by
  cases v with
  | misuse | initiator => rfl
  | _ => cases member

theorem ClosedOn.put {P : Value → Prop} {s : Store} (closed : s.ClosedOn P) (r : Ref) {o : Object}
    (held : ∀ v ∈ o.shown, v.Inside P) : (s.put r o).ClosedOn P where
  shown := by
    intro t o' ht found
    by_cases same : r = t
    · subst same
      have bound : r < s.size := size_put s r o ▸ lt_size_of_get? found
      rw [get?_put_self o bound] at found
      cases found
      exact held
    · rw [get?_put_ne o same] at found
      exact closed.shown t o' ht found
  members v inside member := by
    rw [attributesOf_of_isMember member]
    exact attributesOf_of_isMember (s := s) member ▸ closed.members v inside member

theorem ClosedOn.put_note {P : Value → Prop} {s : Store} (closed : s.ClosedOn P) {n : Ref}
    {items : List Value} (found : s.get? n = some (.list items)) (note : String) :
    (s.put n (.list (items ++ [.text note]))).ClosedOn P := by
  by_cases inside : P (.object n)
  · have held : ∀ v ∈ (Object.list (items ++ [.text note])).shown, v.Inside P := by
      intro v hv
      rcases List.mem_append.mp hv with hv | hv
      · exact closed.shown n _ inside found v hv
      · cases List.mem_singleton.mp hv
        trivial
    exact closed.put n held
  · exact (agreesOn_put s inside _).closedOn closed

theorem closed_iff {s : Store} :
    s.Closed ↔ (∀ o ∈ s.objects.toList, ∀ v ∈ o.parts, v.Below s.size) ∧
      ∀ entry ∈ s.given, ∀ v ∈ entry.1 :: entry.2.map Prod.snd, v.Below s.size := by
  constructor
  · intro closed
    refine ⟨fun o member v hv => ?_, closed.given⟩
    obtain ⟨r, bound, found⟩ := List.mem_iff_getElem.mp member
    exact closed.parts r o (by rw [get?, Array.getElem?_eq_some_iff]; exact ⟨bound, found⟩) v hv
  · rintro ⟨all, given⟩
    refine ⟨fun r o found v hv => ?_, given⟩
    obtain ⟨bound, rfl⟩ := Array.getElem?_eq_some_iff.mp found
    exact all _ (Array.getElem_mem_toList bound) v hv

instance (s : Store) : Decidable s.Closed := decidable_of_iff' _ closed_iff

theorem initial_closed : initial.Closed := by decide

end Store

end Http2Failure
