import Http2Failure.Clone
import Http2Failure.Proofs.Action
import Http2Failure.Proofs.Growth
import Http2Failure.Proofs.Locality
import Http2Failure.Proofs.Replay

/-!
# What objects hold

What is read out of a sound store was in it, and an object that is made from values of the store
holds nothing else.
-/

namespace Http2Failure

namespace Attributes

variable {attrs more : Attributes} {name : String} {v w : Value}

theorem mem_of_mem_insert (h : w ∈ (attrs.insert name v).map Prod.snd) :
    w = v ∨ w ∈ attrs.map Prod.snd := by
  unfold insert at h
  split at h
  · obtain ⟨entry, mapped, rfl⟩ := List.mem_map.mp h
    obtain ⟨entry', member, rfl⟩ := List.mem_map.mp mapped
    split
    · exact .inl rfl
    · exact .inr (List.mem_map_of_mem member)
  · rw [List.map_append] at h
    rcases List.mem_append.mp h with h | h
    · exact .inr h
    · exact .inl (List.mem_singleton.mp h)

theorem mem_of_mem_insertAll (h : w ∈ (attrs.insertAll more).map Prod.snd) :
    w ∈ attrs.map Prod.snd ∨ w ∈ more.map Prod.snd := by
  induction more generalizing attrs with
  | nil => exact .inl h
  | cons entry rest ih =>
    rcases ih h with inserted | later
    · rcases mem_of_mem_insert inserted with rfl | before
      · exact .inr List.mem_cons_self
      · exact .inl before
    · exact .inr (List.mem_cons_of_mem _ later)

theorem has_insertAll {s : Store} (h : ∀ v ∈ attrs.map Prod.snd, s.Has v)
    (h' : ∀ v ∈ more.map Prod.snd, s.Has v) :
    ∀ v ∈ (attrs.insertAll more).map Prod.snd, s.Has v := by
  intro v hv
  rcases mem_of_mem_insertAll hv with hv | hv
  · exact h v hv
  · exact h' v hv

theorem mem_of_mem_erase (h : w ∈ (attrs.erase name).map Prod.snd) : w ∈ attrs.map Prod.snd := by
  obtain ⟨entry, kept, rfl⟩ := List.mem_map.mp h
  exact List.mem_map_of_mem (List.mem_filter.mp kept).1

theorem place_perm (entry : String × Value) (attrs : Attributes) :
    (place entry attrs).Perm (entry :: attrs) := by
  induction attrs with
  | nil => exact .refl _
  | cons first rest ih =>
    unfold place
    split
    · exact .refl _
    · exact (ih.cons first).trans (.swap entry first rest)

theorem sorted_perm (attrs : Attributes) : attrs.sorted.Perm attrs := by
  induction attrs with
  | nil => exact .refl _
  | cons entry rest ih => exact (place_perm entry (sorted rest)).trans (ih.cons entry)

theorem mem_sorted_iff : w ∈ attrs.sorted.map Prod.snd ↔ w ∈ attrs.map Prod.snd :=
  ((sorted_perm attrs).map Prod.snd).mem_iff

theorem mem_map_of_get? (h : attrs.get? name = some v) : v ∈ attrs.map Prod.snd :=
  List.mem_map_of_mem (f := Prod.snd) (mem_of_get? h)

end Attributes

namespace Carried

structure Held (s : Store) (c : Carried) : Prop where
  args : ∀ v ∈ c.args, s.Has v
  attributes : ∀ v ∈ c.attributes.map Prod.snd, s.Has v
  argsTuple : ∀ r, c.argsTuple = some r → r < s.size
  cause : ∀ r, c.cause = some r → r < s.size
  context : ∀ r, c.context = some r → r < s.size

theorem held_iff {s : Store} {c : Carried} : c.Held s ↔ ∀ v ∈ c.parts, s.Has v := by
  constructor
  · intro h v hv
    rcases mem_parts_iff.mp hv with hv | hv | ⟨r, hr, rfl⟩
    · exact h.args v hv
    · exact h.attributes v hv
    · rcases hr with hr | hr | hr
      · exact h.argsTuple r hr
      · exact h.cause r hr
      · exact h.context r hr
  · intro h
    refine ⟨fun v hv => ?_, fun v hv => ?_, fun r hr => ?_, fun r hr => ?_, fun r hr => ?_⟩
    · exact h v (mem_parts_iff.mpr (.inl hv))
    · exact h v (mem_parts_iff.mpr (.inr (.inl hv)))
    · exact h (.object r) (mem_parts_iff.mpr (.inr (.inr ⟨r, .inl hr, rfl⟩)))
    · exact h (.object r) (mem_parts_iff.mpr (.inr (.inr ⟨r, .inr (.inl hr), rfl⟩)))
    · exact h (.object r) (mem_parts_iff.mpr (.inr (.inr ⟨r, .inr (.inr hr), rfl⟩)))

end Carried

abbrev Object.Held (s : Store) (o : Object) : Prop := ∀ v ∈ o.parts, s.Has v

theorem Object.held_carried {s : Store} {o : Object} {c : Carried} (held : o.Held s)
    (h : o.carried? = some c) : c.Held s := by
  refine Carried.held_iff.mpr fun w hw => held w ?_
  cases o with
  | fault f =>
    cases h
    exact Fault.mem_parts_iff.mpr (.inl hw)
  | exception e =>
    cases h
    exact hw
  | error e =>
    cases h
    exact List.mem_cons_of_mem _ hw
  | _ => cases h

namespace Store

variable {s : Store} {v w : Value} {r : Ref} {o : Object} {name : String}

theorem Sound.elements (sound : s.Sound) (has : s.Has v) {items : List Value}
    (h : s.elements v = .ok items) : ∀ w ∈ items, s.Has w :=
  sound.closed.closedOn.elements has h

theorem Sound.object (sound : s.Sound) (h : s.object? v = some o) : o.Held s := by
  cases v with
  | object r => exact sound.closed.parts r o h
  | _ => cases h

theorem Sound.get?_attributesOf (sound : s.Sound) (h : (s.attributesOf v).get? name = some w) :
    s.Has w :=
  sound.closed.attributesOf v w (Attributes.mem_map_of_get? h)

theorem lt_size_of_exception? (h : s.exception? v = some (some r)) : r < s.size := by
  unfold exception? at h
  split at h
  · cases h
  · rename_i r'
    split at h
    · rename_i is
      cases h
      cases found : s.get? r with
      | none => rw [found] at is; cases is
      | some o => exact lt_size_of_get? found
    · cases h
  · cases h

theorem lt_size_of_tuple? (h : s.tuple? v = some r) : r < s.size := by
  unfold tuple? at h
  split at h
  · split at h
    · rename_i found
      cases h
      exact lt_size_of_get? found
    · cases h
  · cases h

theorem Sound.initial_le (sound : s.Sound) : initial.size ≤ s.size := sound.shared.size_le

theorem Sound.has_emptyTuple (sound : s.Sound) : emptyTupleRef < s.size :=
  Nat.lt_of_lt_of_le (by decide) sound.initial_le

theorem Sound.has_zero (sound : s.Sound) : zeroRef < s.size :=
  Nat.lt_of_lt_of_le (by decide) sound.initial_le

/-- The named constants of the reasons. -/
theorem Sound.has_constant (sound : s.Sound) {code : Nat} (h : code < Reason.names.length) :
    code < s.size :=
  Nat.lt_trans h sound.has_zero

theorem Sound.has_codeOfName (sound : s.Sound) {place : Nat}
    (h : Reason.codeOfName? name = some place) : place < s.size := by
  refine sound.has_constant ?_
  obtain ⟨entry, named, rfl⟩ := Option.map_eq_some_iff.mp h
  exact Reason.lt_of_mem_names (List.mem_of_find?_eq_some named)

end Store

namespace Carried

variable {s : Store} {c c' : Carried} {name className : String} {v : Value} {slot : Slot}

theorem Held.withCause (h : c.Held s) {cause : Option Ref}
    (bound : ∀ r, cause = some r → r < s.size) : (c.withCause cause).Held s :=
  { h with cause := bound }

theorem Held.withArgs (h : c.Held s) {args : List Value} {place : Option Ref}
    (held : ∀ v ∈ args, s.Has v) (bound : ∀ r, place = some r → r < s.size) :
    (c.withArgs args place).Held s := { h with args := held, argsTuple := bound }

theorem Held.withArgsTuple (h : c.Held s) {place : Ref} (bound : place < s.size) :
    Held s { c with argsTuple := some place } := by
  refine { h with argsTuple := fun r same => ?_ }
  cases same
  exact bound

theorem Held.withAttributes (h : c.Held s) {attrs : Attributes}
    (held : ∀ v ∈ attrs.map Prod.snd, s.Has v) : Held s { c with attributes := attrs } :=
  { h with attributes := held }

theorem Held.setSlot (sound : s.Sound) (h : c.Held s) (has : s.Has v)
    (set : c.setSlot s name v slot = .ok c') : c'.Held s := by
  cases slot with
  | args =>
    obtain ⟨items, read, set⟩ := bind_eq_ok.mp set
    cases set
    exact h.withArgs (sound.elements has read) fun r => Store.lt_size_of_tuple?
  | cause =>
    simp only [Carried.setSlot] at set
    split at set
    · rename_i cause given
      cases set
      exact h.withCause fun r hr => Store.lt_size_of_exception? (hr ▸ given)
    · cases set
  | context =>
    simp only [Carried.setSlot] at set
    split at set
    · rename_i context given
      cases set
      have bound : ∀ r, context = some r → r < s.size := fun r hr =>
        Store.lt_size_of_exception? (hr ▸ given)
      exact { h with context := bound }
    · cases set
  | suppressContext =>
    simp only [Carried.setSlot] at set
    split at set
    · cases set
      exact { h with }
    · cases set
  | traceback =>
    simp only [Carried.setSlot] at set
    split at set
    · cases set
      exact h
    · cases set
  | cls | dictionary | kind => cases set
  | _ =>
    cases set
    refine h.withAttributes fun w hw => ?_
    rcases Attributes.mem_of_mem_insert hw with rfl | hw
    · exact has
    · exact h.attributes w hw

theorem Held.deleteSlot (h : c.Held s) (deleted : c.deleteSlot className name slot = .ok c') :
    c'.Held s := by
  cases slot with
  | args | cause | context | traceback | suppressContext | cls | dictionary | kind => cases deleted
  | _ =>
    simp only [Carried.deleteSlot, deleteFree] at deleted
    split at deleted
    · cases deleted
      exact h.withAttributes fun w hw => h.attributes w (Attributes.mem_of_mem_erase hw)
    · cases deleted

theorem Held.getSlot (h : c.Held s) (read : c.getSlot className name slot = .ok v) : s.Has v := by
  have free : c.getFree className name = .ok v → s.Has v := by
    intro read
    unfold getFree at read
    split at read
    · rename_i found
      cases read
      exact h.attributes _ (Attributes.mem_map_of_get? found)
    · cases read
  have place : ∀ {r? : Option Ref}, (∀ r, r? = some r → r < s.size) → s.Has (Store.ofRef? r?) := by
    intro r? bound
    cases r? with
    | none => trivial
    | some r => exact bound r rfl
  cases slot with
  | cause =>
    cases read
    exact place h.cause
  | context =>
    cases read
    exact place h.context
  | suppressContext | traceback =>
    cases read
    trivial
  | _ => exact free read

end Carried

namespace Fault

structure Held (s : Store) (f : Fault) : Prop where
  carried : f.toCarried.Held s
  errorNumber : ∀ v, f.errorNumber = some v → s.Has v
  errorText : ∀ v, f.errorText = some v → s.Has v
  fileName : ∀ v, f.fileName = some v → s.Has v
  fileName2 : ∀ v, f.fileName2 = some v → s.Has v

variable {s : Store} {f f' : Fault} {cls : Class} {args : List Value} {name : String} {v : Value}
  {slot : Slot}

theorem held_iff : f.Held s ↔ ∀ v ∈ (Object.fault f).parts, s.Has v := by
  constructor
  · intro h v hv
    rcases mem_parts_iff.mp hv with hv | hv
    · exact Carried.held_iff.mp h.carried v hv
    · rcases mem_slots_iff.mp hv with hv | hv | hv | hv
      · exact h.errorNumber v hv
      · exact h.errorText v hv
      · exact h.fileName v hv
      · exact h.fileName2 v hv
  · intro h
    have slot : ∀ v ∈ f.slots, s.Has v := fun v hv => h v (mem_parts_iff.mpr (.inr hv))
    refine ⟨Carried.held_iff.mpr fun v hv => h v (mem_parts_iff.mpr (.inl hv)), ?_, ?_, ?_, ?_⟩
    · exact fun v hv => slot v (mem_slots_iff.mpr (.inl hv))
    · exact fun v hv => slot v (mem_slots_iff.mpr (.inr (.inl hv)))
    · exact fun v hv => slot v (mem_slots_iff.mpr (.inr (.inr (.inl hv))))
    · exact fun v hv => slot v (mem_slots_iff.mpr (.inr (.inr (.inr hv))))

theorem Held.grows {t : Store} (h : f.Held s) (grown : s.Grows t) : f.Held t :=
  held_iff.mpr (grown.hasAll (held_iff.mp h))

theorem Held.withCarried (h : f.Held s) {c : Carried} (held : c.Held s) :
    Held s { f with toCarried := c } := { h with carried := held }

theorem Held.setSlot (sound : s.Sound) (h : f.Held s) (has : s.Has v)
    (set : f.setSlot s name v slot = .ok f') : f'.Held s := by
  have given : ∀ w, some v = some w → s.Has w := by
    intro w same
    cases same
    exact has
  unfold Fault.setSlot at set
  split at set
  · cases set
    exact { h with errorNumber := given }
  · cases set
    exact { h with errorText := given }
  · cases set
    exact { h with fileName := given }
  · cases set
    exact { h with fileName2 := given }
  · obtain ⟨count, -, set⟩ := bind_eq_ok.mp set
    cases set
    exact { h with }
  · cases set
  · obtain ⟨c, carried, set⟩ := bind_eq_ok.mp set
    cases set
    exact h.withCarried (h.carried.setSlot sound has carried)

theorem Held.deleteSlot (h : f.Held s) (deleted : f.deleteSlot name slot = .ok f') : f'.Held s := by
  unfold Fault.deleteSlot at deleted
  split at deleted
  · cases deleted
    exact { h with errorNumber := nofun }
  · cases deleted
    exact { h with errorText := nofun }
  · cases deleted
    exact { h with fileName := nofun }
  · cases deleted
    exact { h with fileName2 := nofun }
  · split at deleted
    · cases deleted
      exact { h with }
    · cases deleted
  · obtain ⟨c, carried, deleted⟩ := bind_eq_ok.mp deleted
    cases deleted
    exact h.withCarried (h.carried.deleteSlot carried)

theorem cls_of_setSlot (set : f.setSlot s name v slot = .ok f') : f'.cls = f.cls := by
  unfold Fault.setSlot at set
  split at set
  · cases set
    rfl
  · cases set
    rfl
  · cases set
    rfl
  · cases set
    rfl
  · obtain ⟨count, -, set⟩ := bind_eq_ok.mp set
    cases set
    rfl
  · cases set
  · obtain ⟨c, -, set⟩ := bind_eq_ok.mp set
    cases set
    rfl

theorem cls_of_deleteSlot (deleted : f.deleteSlot name slot = .ok f') : f'.cls = f.cls := by
  unfold Fault.deleteSlot at deleted
  split at deleted
  · cases deleted
    rfl
  · cases deleted
    rfl
  · cases deleted
    rfl
  · cases deleted
    rfl
  · split at deleted
    · cases deleted
      rfl
    · cases deleted
  · obtain ⟨c, -, deleted⟩ := bind_eq_ok.mp deleted
    cases deleted
    rfl

theorem has_getD {v? : Option Value} (has : ∀ w, v? = some w → s.Has w) :
    s.Has (v?.getD .null) := by
  cases v? with
  | none => trivial
  | some w => exact has w rfl

theorem Held.getSlot (h : f.Held s) (read : f.getSlot name slot = .ok v) : s.Has v := by
  unfold Fault.getSlot at read
  split at read
  · cases read
    exact has_getD h.errorNumber
  · cases read
    exact has_getD h.errorText
  · cases read
    exact has_getD h.fileName
  · cases read
    exact has_getD h.fileName2
  · split at read
    · cases read
      trivial
    · cases read
  · exact h.carried.getSlot read

theorem held_of_ofArgs (held : ∀ v ∈ args, s.Has v) (h : ofArgs s cls args = .ok f) :
    f.Held s := by
  have slot : ∀ v ∈ f.slots, s.Has v := fun v hv => held v (slots_of_ofArgs h hv)
  refine ⟨?_, ?_, ?_, ?_, ?_⟩
  · rw [carried_of_ofArgs h]
    exact ⟨fun v hv => held v (args_of_ofArgs h hv), nofun, nofun, nofun, nofun⟩
  · exact fun v hv => slot v (mem_slots_iff.mpr (.inl hv))
  · exact fun v hv => slot v (mem_slots_iff.mpr (.inr (.inl hv)))
  · exact fun v hv => slot v (mem_slots_iff.mpr (.inr (.inr (.inl hv))))
  · exact fun v hv => slot v (mem_slots_iff.mpr (.inr (.inr (.inr hv))))

theorem Held.withAttributes (h : f.Held s) {attrs : Attributes}
    (held : ∀ v ∈ attrs.map Prod.snd, s.Has v) : (f.withAttributes attrs).Held s :=
  h.withCarried (h.carried.withAttributes held)

theorem held_of_construct (held : ∀ v ∈ args, s.Has v) (h : construct s cls args = .ok f) :
    f.Held s := by
  cases built_of_construct h with
  | quiet => exact ⟨⟨nofun, nofun, nofun, nofun, nofun⟩, nofun, nofun, nofun, nofun⟩
  | plain read => exact held_of_ofArgs held read
  | attributed read given kept =>
    refine (held_of_ofArgs (fun v hv => ?_) read).withAttributes fun v hv => held v (kept hv)
    rcases given v hv with hv | rfl | ⟨t, rfl⟩
    · exact held v hv
    · trivial
    · trivial

theorem cls_of_construct (special : cls ≠ .general) (h : construct s cls args = .ok f) :
    f.cls = cls := by
  have kept : ∀ args, classOf cls args = cls := by
    intro args
    unfold classOf
    split
    · exact if_neg special
    · rfl
  cases built_of_construct h with
  | quiet => rfl
  | plain read => exact (cls_of_ofArgs read).trans (kept _)
  | attributed read => exact (cls_of_ofArgs read).trans (kept _)

theorem Held.reconstruct {fresh : Fault} (h : f.Held s) (h' : fresh.Held s) :
    (f.reconstruct fresh).Held s := by
  have either : ∀ {new old : Option Value}, (∀ v, new = some v → s.Has v) →
      (∀ v, old = some v → s.Has v) → ∀ v, new.or old = some v → s.Has v := by
    intro new old hnew hold v hv
    rcases Option.or_eq_some_iff.mp hv with hv | ⟨-, hv⟩
    · exact hnew v hv
    · exact hold v hv
  have merged := Attributes.has_insertAll h.carried.attributes h'.carried.attributes
  exact ⟨⟨h'.carried.args, merged, h'.carried.argsTuple, h.carried.cause, h.carried.context⟩,
    h'.errorNumber, h'.errorText, either h'.fileName h.fileName, either h'.fileName2 h.fileName2⟩

end Fault

theorem Error.cases_of_setSlot {s : Store} {e e' : Error} {name : String} {v : Value} {slot : Slot}
    (set : e.setSlot s name v slot = .ok e') :
    (∃ cls, e' = { e with cls }) ∨
      ∃ c, e.toCarried.setSlot s name v slot = .ok c ∧ e' = { e with toCarried := c } := by
  unfold Error.setSlot at set
  split at set
  · split at set
    · cases set
      exact .inl ⟨_, rfl⟩
    · cases set
  · obtain ⟨c, carried, set⟩ := bind_eq_ok.mp set
    cases set
    exact .inr ⟨c, carried, rfl⟩

namespace Object

variable {s : Store} {o o' : Object} {name : String} {v : Value}

theorem Held.withCarried (held : o.Held s) {c : Carried} (carried : c.Held s) :
    (o.withCarried c).Held s := by
  cases o with
  | fault f => exact Fault.held_iff.mp ((Fault.held_iff.mpr held).withCarried carried)
  | exception e => exact Carried.held_iff.mp carried
  | error e =>
    have kind := held _ List.mem_cons_self
    exact List.forall_mem_cons.mpr ⟨kind, Carried.held_iff.mp carried⟩
  | _ => exact held

theorem nature_fault {f f' : Fault} (same : f'.cls = f.cls) :
    (Object.fault f').nature = (Object.fault f).nature := by
  rw [nature, nature, same]

theorem isException_of_withAttribute (h : o.withAttribute s name v = .ok o') :
    o.isException = true := by
  unfold Object.withAttribute at h
  split at h
  · rfl
  · rfl
  · rfl
  · split at h
    · cases h
    · cases h
    · cases h

theorem isException_of_withoutAttribute (h : o.withoutAttribute name = .ok o') :
    o.isException = true := by
  unfold Object.withoutAttribute at h
  split at h
  · rfl
  · rfl
  · rfl
  · split at h
    · cases h
    · cases h
    · cases h

theorem nature_withAttribute (h : o.withAttribute s name v = .ok o') : o'.nature = o.nature := by
  cases o with
  | fault f =>
    obtain ⟨f', set, h⟩ := bind_eq_ok.mp h
    cases h
    exact nature_fault (Fault.cls_of_setSlot set)
  | exception e =>
    obtain ⟨c, -, h⟩ := bind_eq_ok.mp h
    cases h
    rfl
  | error e =>
    obtain ⟨e', set, h⟩ := bind_eq_ok.mp h
    cases h
    obtain ⟨cls, rfl⟩ | ⟨c, -, rfl⟩ := Error.cases_of_setSlot set
    · rfl
    · rfl
  | _ => exact absurd (isException_of_withAttribute h) Bool.false_ne_true

theorem nature_withoutAttribute (h : o.withoutAttribute name = .ok o') : o'.nature = o.nature := by
  cases o with
  | fault f =>
    obtain ⟨f', deleted, h⟩ := bind_eq_ok.mp h
    cases h
    exact nature_fault (Fault.cls_of_deleteSlot deleted)
  | exception e =>
    obtain ⟨c, -, h⟩ := bind_eq_ok.mp h
    cases h
    rfl
  | error e =>
    obtain ⟨c, -, h⟩ := bind_eq_ok.mp h
    cases h
    rfl
  | _ => exact absurd (isException_of_withoutAttribute h) Bool.false_ne_true

theorem Held.withAttribute (sound : s.Sound) (held : o.Held s) (has : s.Has v)
    (h : o.withAttribute s name v = .ok o') : o'.Held s := by
  cases o with
  | fault f =>
    obtain ⟨f', set, h⟩ := bind_eq_ok.mp h
    cases h
    exact Fault.held_iff.mp ((Fault.held_iff.mpr held).setSlot sound has set)
  | exception e =>
    obtain ⟨c, set, h⟩ := bind_eq_ok.mp h
    cases h
    exact Held.withCarried held ((held_carried held rfl).setSlot sound has set)
  | error e =>
    obtain ⟨e', set, h⟩ := bind_eq_ok.mp h
    cases h
    obtain ⟨cls, rfl⟩ | ⟨c, carried, rfl⟩ := Error.cases_of_setSlot set
    · exact held
    · exact Held.withCarried held ((held_carried held rfl).setSlot sound has carried)
  | _ => exact absurd (isException_of_withAttribute h) Bool.false_ne_true

theorem Held.withoutAttribute (held : o.Held s) (h : o.withoutAttribute name = .ok o') :
    o'.Held s := by
  cases o with
  | fault f =>
    obtain ⟨f', deleted, h⟩ := bind_eq_ok.mp h
    cases h
    exact Fault.held_iff.mp ((Fault.held_iff.mpr held).deleteSlot deleted)
  | exception e =>
    obtain ⟨c, deleted, h⟩ := bind_eq_ok.mp h
    cases h
    exact Held.withCarried held ((held_carried held rfl).deleteSlot deleted)
  | error e =>
    obtain ⟨c, deleted, h⟩ := bind_eq_ok.mp h
    cases h
    exact Held.withCarried held ((held_carried held rfl).deleteSlot deleted)
  | _ => exact absurd (isException_of_withoutAttribute h) Bool.false_ne_true

theorem held_field {record : Record} (held : o.Held s) (h : o.record? = some record) :
    ∀ v ∈ record.fields.map Prod.snd, s.Has v := fun v hv =>
  held v (o.shown_subset_parts (fields_subset_shown h hv))

theorem eq_some_of_getD {α : Type} {x? : Option (Except Refusal α)} {r : Refusal} {a : α}
    (h : x?.getD (.error r) = .ok a) : x? = some (.ok a) := by
  cases x? with
  | none => cases h
  | some x => exact congrArg some h

theorem text_of_map {text : Except Refusal String} (h : text.map Value.text = .ok v) :
    ∃ t, v = .text t := by
  cases text with
  | error r => cases h
  | ok t => exact ⟨t, (Except.ok.inj h).symm⟩

theorem has_reasonAttribute (sound : s.Sound) {code : Value} (has : s.Has code)
    (h : s.reasonAttribute? code name = some (.ok v)) : s.Has v := by
  unfold Store.reasonAttribute? at h
  split at h
  · cases h
    exact has
  split at h
  · obtain ⟨t, rfl⟩ := text_of_map (Option.some.inj h)
    trivial
  split at h
  · obtain ⟨t, rfl⟩ := text_of_map (Option.some.inj h)
    trivial
  split at h
  · cases h
    trivial
  · obtain ⟨place, named, same⟩ := Option.map_eq_some_iff.mp h
    cases same
    exact sound.has_codeOfName named

theorem has_streamIdAttribute (sound : s.Sound) {value : Value} (has : s.Has value)
    (h : Store.streamIdAttribute? value name = some v) : s.Has v := by
  unfold Store.streamIdAttribute? at h
  split at h
  · cases h
    exact has
  split at h
  · cases h
    trivial
  split at h
  · cases h
    exact sound.has_zero
  · cases h

theorem has_methodAttribute {owner : Value} {method : String} (has : s.Has owner)
    (h : Store.methodAttribute owner method name = .ok v) : s.Has v := by
  unfold Store.methodAttribute at h
  split at h
  · cases h
    exact has
  split at h
  · cases h
    trivial
  · cases h

theorem Held.getAttribute (sound : s.Sound) (held : o.Held s)
    (h : o.getAttribute s name = .ok v) : s.Has v := by
  have field : ∀ {r : Refusal},
      ((o.record?.bind fun r => r.fields.lookup name).map Except.ok).getD (.error r) = .ok v →
        s.Has v := by
    intro r h
    obtain ⟨w, given, same⟩ := Option.map_eq_some_iff.mp (eq_some_of_getD h)
    cases same
    obtain ⟨record, is, found⟩ := Option.bind_eq_some_iff.mp given
    exact held_field held is _ (Attributes.mem_map_of_get? found)
  cases o with
  | fault f => exact (Fault.held_iff.mpr held).getSlot h
  | exception e => exact (held_carried held rfl).getSlot h
  | error e =>
    simp only [Object.getAttribute] at h
    split at h
    · cases h
      exact held _ List.mem_cons_self
    · cases h
      trivial
    · exact (held_carried (c := e.toCarried) held rfl).getSlot h
  | reason code =>
    exact has_reasonAttribute sound (held code List.mem_cons_self) (eq_some_of_getD h)
  | streamId value =>
    obtain ⟨w, given, same⟩ := Option.map_eq_some_iff.mp (eq_some_of_getD h)
    cases same
    exact has_streamIdAttribute sound (held value List.mem_cons_self) given
  | method owner bound => exact has_methodAttribute (held owner List.mem_cons_self) h
  | _ => exact field h

theorem Held.checked (held : o.Held s) (h : o.checked s = .ok o') : o'.Held s := by
  unfold Object.checked at h
  split at h
  · obtain ⟨r, -, h⟩ := bind_eq_ok.mp h
    cases h
    exact List.forall_mem_singleton.mpr trivial
  · obtain ⟨i, -, h⟩ := bind_eq_ok.mp h
    cases h
    exact List.forall_mem_singleton.mpr trivial
  · split at h
    · cases h
      obtain ⟨-, held⟩ := List.forall_mem_cons.mp held
      exact List.forall_mem_cons.mpr ⟨trivial, held⟩
    · cases h
  · cases h
    exact held

theorem Held.withFields (held : o.Held s) {fields : List Value} (has : ∀ v ∈ fields, s.Has v) :
    (o.withFields fields).Held s := by
  unfold Object.withFields
  split
  · exact has
  · exact has
  · rename_i r fields
    cases r <;> unfold Report.withFields <;> split <;> first | exact has | exact held
  · rename_i f fields
    cases f <;> unfold SendFailure.withFields <;> split <;> first | exact has | exact held
  · rename_i k fields
    cases k <;> unfold Kind.withFields <;> split <;> first | exact has | exact held
  · exact held

end Object

namespace Store

variable {s : Store} {name : String} {v w : Value}

theorem isMember_of_mem_members {e : Enumeration} (h : v ∈ e.members) : v.isMember = true := by
  cases e with
  | misuse | initiator =>
    obtain ⟨_, -, rfl⟩ := List.mem_map.mp h
    rfl

theorem has_of_isMember (member : v.isMember = true) : s.Has v :=
  Value.inside_of (Older.of_isMember member _)

theorem isMember_of_ofName? {e : Enumeration} (h : e.ofName? name = some v) :
    v.isMember = true := by
  cases e with
  | misuse | initiator =>
    obtain ⟨_, -, rfl⟩ := Option.map_eq_some_iff.mp h
    rfl

theorem isMember_of_ofText? {e : Enumeration} (h : e.ofText? name = some v) :
    v.isMember = true := by
  cases e with
  | misuse | initiator =>
    obtain ⟨_, -, rfl⟩ := Option.map_eq_some_iff.mp h
    rfl

theorem get?_of_heldByMember (h : s.heldByMember v name = .ok w) :
    (s.attributesOf v).get? name = some w := by
  unfold heldByMember at h
  split at h
  · cases h
    assumption
  · cases h

theorem Sound.heldByMember (sound : s.Sound) (h : s.heldByMember v name = .ok w) : s.Has w :=
  sound.get?_attributesOf (get?_of_heldByMember h)

theorem Sound.memberAttribute (sound : s.Sound) (h : s.memberAttribute v name = .ok w) :
    s.Has w := by
  unfold Store.memberAttribute at h
  split at h
  · rename_i held
    cases h
    exact sound.heldByMember held
  · rename_i known
    cases h
    obtain ⟨e, -, named⟩ := Option.bind_eq_some_iff.mp known
    exact has_of_isMember (isMember_of_ofName? named)
  · cases h

theorem isMember_of_memberLike {members : List Value} (all : ∀ v ∈ members, v.isMember = true)
    (h : s.memberLike v members = .ok (some w)) : w.isMember = true := by
  induction members with
  | nil => cases h
  | cons member rest ih =>
    obtain ⟨held, -, h⟩ := bind_eq_ok.mp h
    split at h
    · cases h
      exact all _ List.mem_cons_self
    · exact ih (fun v hv => all v (List.mem_cons_of_mem _ hv)) h

theorem isMember_of_memberWith? {e : Enumeration} (h : s.memberWith? e v = .ok (some w)) :
    w.isMember = true := by
  unfold memberWith? at h
  split at h
  · rename_i member
    cases h
    exact isMember_of_mem_members member
  · split at h
    · exact isMember_of_ofText? (Except.ok.inj h)
    · cases h
    · exact isMember_of_memberLike (fun _ => isMember_of_mem_members) h
    · cases h

theorem isMember_of_memberOf {e : Enumeration} (h : s.memberOf e v = .ok w) :
    w.isMember = true := by
  obtain ⟨member?, found, h⟩ := bind_eq_ok.mp h
  split at h
  · cases h
    exact isMember_of_memberWith? found
  · obtain ⟨shown, -, h⟩ := bind_eq_ok.mp h
    cases h

end Store

end Http2Failure
