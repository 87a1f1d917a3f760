import Http2Failure.Proofs.Change

/-!
# What changes of a fault can reach

Changes of a fault write the fault itself and the lists that were made its notes, in one run or in
many. Every other object stays as it is.
-/

namespace Http2Failure

namespace Attributes

variable {attrs : Attributes} {name m : String} {v : Value}

theorem get?_cons (entry : String × Value) (attrs : Attributes) (m : String) :
    Attributes.get? (entry :: attrs) m = if m = entry.1 then some entry.2 else attrs.get? m := by
  obtain ⟨key, w⟩ := entry
  by_cases same : m = key
  · simp [get?, same]
  · have apart : (m == key) = false := beq_false_of_ne same
    simp [get?, List.lookup_cons, apart, same]

theorem get?_insert_of_ne (other : m ≠ name) : (attrs.insert name v).get? m = attrs.get? m := by
  have replaced : ∀ entries : Attributes,
      Attributes.get? (entries.map fun entry => if entry.1 == name then (name, v) else entry) m =
        entries.get? m := by
    intro entries
    induction entries with
    | nil => rfl
    | cons entry rest ih =>
      rw [List.map_cons, get?_cons, get?_cons, ih]
      by_cases here : entry.1 = name
      · simp [here, other]
      · simp [here]
  unfold insert
  split
  · exact replaced attrs
  · simp [get?, List.lookup_append, List.lookup_cons, beq_false_of_ne other]

theorem get?_insert_self (attrs : Attributes) (name : String) (v : Value) :
    (attrs.insert name v).get? name = some v := by
  unfold insert
  split
  · rename_i present
    induction attrs with
    | nil => cases present
    | cons entry rest ih =>
      rw [List.map_cons, get?_cons]
      by_cases here : entry.1 = name
      · simp [here]
      · have apart : name ≠ entry.1 := Ne.symm here
        simp only [beq_iff_eq, here, if_false, if_neg apart]
        simpa only [beq_iff_eq] using ih (by simpa [here] using present)
  · rename_i absent
    have unknown : attrs.lookup name = none := by
      refine List.lookup_eq_none_iff.mpr fun entry held => bne_iff_ne.mpr fun same => absent ?_
      exact List.any_eq_true.mpr ⟨entry, held, beq_iff_eq.mpr same.symm⟩
    simp [get?, List.lookup_append, unknown]

theorem get?_erase (attrs : Attributes) (name m : String) :
    (attrs.erase name).get? m = if m = name then none else attrs.get? m := by
  unfold erase
  induction attrs with
  | nil => simp [get?]
  | cons entry rest ih =>
    by_cases here : entry.1 = name
    · rw [List.filter_cons_of_neg (by simp [here]), ih, get?_cons]
      by_cases asked : m = name
      · simp [asked]
      · simp [asked, here]
    · rw [List.filter_cons_of_pos (by simp [here]), get?_cons, get?_cons, ih]
      by_cases asked : m = name
      · simp [asked, Ne.symm here]
      · simp [asked]
end Attributes

namespace Carried

variable {s : Store} {c c' : Carried} {slot : Slot} {className name : String} {v : Value}

theorem attributes_of_setSlot (h : c.setSlot s name v slot = .ok c') :
    c'.attributes = c.attributes ∨ c'.attributes = c.attributes.insert name v := by
  cases slot with
  | args =>
    obtain ⟨items, -, h⟩ := bind_eq_ok.mp h
    cases h
    exact .inl rfl
  | cause | context | suppressContext | traceback =>
    simp only [setSlot] at h
    split at h
    · cases h
      exact .inl rfl
    · cases h
  | cls | dictionary | kind => cases h
  | _ =>
    cases h
    exact .inr rfl

theorem attributes_of_deleteSlot (h : c.deleteSlot className name slot = .ok c') :
    c'.attributes = c.attributes.erase name := by
  cases slot with
  | args | cause | context | traceback | suppressContext | cls | dictionary | kind => cases h
  | _ =>
    simp only [deleteSlot, deleteFree] at h
    split at h
    · cases h
      rfl
    · cases h

end Carried

namespace Fault

variable {s : Store} {f : Fault} {name : String} {v : Value} {o : Object}

def notes (f : Fault) : Option Value := f.attributes.get? "__notes__"

theorem notes_of_set (h : (Object.fault f).withAttribute s name v = .ok o) :
    ∃ f', o = .fault f' ∧ (f'.notes = f.notes ∨ name = "__notes__" ∧ f'.notes = some v) := by
  obtain ⟨f', set, h⟩ := bind_eq_ok.mp h
  cases h
  have attributes : f'.attributes = f.attributes ∨ f'.attributes = f.attributes.insert name v := by
    unfold setSlot at set
    split at set
    · cases set
      exact .inl rfl
    · cases set
      exact .inl rfl
    · cases set
      exact .inl rfl
    · cases set
      exact .inl rfl
    · obtain ⟨count, -, set⟩ := bind_eq_ok.mp set
      cases set
      exact .inl rfl
    · cases set
    · obtain ⟨c, carried, set⟩ := bind_eq_ok.mp set
      cases set
      exact Carried.attributes_of_setSlot carried
  refine ⟨f', rfl, ?_⟩
  rcases attributes with same | inserted
  · exact .inl (by rw [notes, same]; rfl)
  · by_cases here : name = "__notes__"
    · subst here
      exact .inr ⟨rfl, by rw [notes, inserted, Attributes.get?_insert_self]⟩
    · exact .inl (by rw [notes, inserted, Attributes.get?_insert_of_ne (Ne.symm here)]; rfl)

theorem notes_of_delete (h : (Object.fault f).withoutAttribute name = .ok o) :
    ∃ f', o = .fault f' ∧ (f'.notes = f.notes ∨ f'.notes = none) := by
  obtain ⟨f', deleted, h⟩ := bind_eq_ok.mp h
  cases h
  have attributes : f'.attributes = f.attributes ∨ f'.attributes = f.attributes.erase name := by
    unfold deleteSlot at deleted
    split at deleted
    · cases deleted
      exact .inl rfl
    · cases deleted
      exact .inl rfl
    · cases deleted
      exact .inl rfl
    · cases deleted
      exact .inl rfl
    · split at deleted
      · cases deleted
        exact .inl rfl
      · cases deleted
    · obtain ⟨c, carried, deleted⟩ := bind_eq_ok.mp deleted
      cases deleted
      exact .inr (Carried.attributes_of_deleteSlot carried)
  refine ⟨f', rfl, ?_⟩
  rcases attributes with same | erased
  · exact .inl (by rw [notes, same]; rfl)
  · rw [notes, erased, Attributes.get?_erase]
    split
    · exact .inr rfl
    · exact .inl rfl

end Fault

namespace Store

def IsList (s : Store) (n : Ref) : Prop := ∃ items, s.get? n = some (.list items)

/-- What changes of the fault at `x` made of `s`, when of the lists of `s` only those in `given`
were ever its notes: every other object of `s` is the same in `t`. -/
structure Contained (given : Ref → Prop) (x : Ref) (s t : Store) : Prop where
  fault : ∃ f, t.get? x = some (.fault f) ∧
    ∀ n, f.notes = some (.object n) → s.IsList n → given n
  others : ∀ y, y < s.size → y ≠ x → given y ∧ s.IsList y ∨ t.get? y = s.get? y
  size : s.size ≤ t.size
  given_eq : t.given = s.given

end Store

/-- Of the lists of `s` a run makes only those in `given` the notes. -/
def Change.Takes (given : Ref → Prop) (s : Store) (cs : List Change) : Prop :=
  ∀ n, .set "__notes__" (.object n) ∈ cs → s.IsList n → given n

namespace Store.Contained

variable {given : Ref → Prop} {x : Ref} {s t : Store}

theorem refl {f : Fault} (found : s.get? x = some (.fault f))
    (notes : ∀ n, f.notes = some (.object n) → s.IsList n → given n) : s.Contained given x s :=
  ⟨⟨f, found, notes⟩, fun _ _ _ => .inr rfl, Nat.le_refl _, rfl⟩

theorem put_self (h : s.Contained given x t) {f' : Fault}
    (notes : ∀ n, f'.notes = some (.object n) → s.IsList n → given n) :
    s.Contained given x (t.put x (.fault f')) where
  fault := by
    obtain ⟨f, found, -⟩ := h.fault
    exact ⟨f', get?_put_self _ (lt_size_of_get? found), notes⟩
  others y bound other := by
    rw [get?_put_ne _ (Ne.symm other)]
    exact h.others y bound other
  size := by
    rw [size_put]
    exact h.size
  given_eq := h.given_eq

theorem push (h : s.Contained given x t) (o : Object) : s.Contained given x (t.push o) where
  fault := by
    obtain ⟨f, found, notes⟩ := h.fault
    exact ⟨f, (get?_push_of_lt _ (lt_size_of_get? found)).trans found, notes⟩
  others y bound other := by
    rw [get?_push_of_lt _ (Nat.lt_of_lt_of_le bound h.size)]
    exact h.others y bound other
  size := by
    rw [size_push]
    exact Nat.le_succ_of_le h.size
  given_eq := h.given_eq

theorem put_note (h : s.Contained given x t) {f : Fault} (found : t.get? x = some (.fault f))
    {n : Ref} (held : f.notes = some (.object n)) {items more : List Value}
    (listed : t.get? n = some (.list items)) : s.Contained given x (t.put n (.list more)) where
  fault := by
    obtain ⟨f', found', notes⟩ := h.fault
    have apart : n ≠ x := fun same => by
      rw [same, found] at listed
      cases listed
    exact ⟨f', (get?_put_ne _ apart).trans found', notes⟩
  others y bound other := by
    by_cases same : n = y
    · subst same
      obtain ⟨f', found', notes⟩ := h.fault
      cases found.symm.trans found'
      rcases h.others n bound other with inside | kept
      · exact .inl inside
      · have list : s.IsList n := ⟨items, kept.symm.trans listed⟩
        exact .inl ⟨notes n held list, list⟩
    · rw [get?_put_ne _ same]
      exact h.others y bound other
  size := by
    rw [size_put]
    exact h.size
  given_eq := h.given_eq

theorem effect (h : s.Contained given x t) {c : Change}
    (takes : ∀ n, c = .set "__notes__" (.object n) → s.IsList n → given n) {u : Store}
    (effect : ∀ o, t.get? x = some o → Change.Effect x t o c u) : s.Contained given x u := by
  obtain ⟨f, found, notes⟩ := h.fault
  cases effect _ found with
  | refused => exact h
  | set written =>
    obtain ⟨f', rfl, kept⟩ := Fault.notes_of_set written
    refine h.put_self fun n held list => ?_
    rcases kept with same | ⟨rfl, here⟩
    · exact notes n (same ▸ held) list
    · rw [here] at held
      cases held
      exact takes n rfl list
  | delete written =>
    obtain ⟨f', rfl, kept⟩ := Fault.notes_of_delete written
    refine h.put_self fun n held list => ?_
    rcases kept with same | gone
    · exact notes n (same ▸ held) list
    · rw [gone] at held
      cases held
  | stray note => exact h.push _
  | firstNote written =>
    obtain ⟨f', rfl, kept⟩ := Fault.notes_of_set written
    refine (h.push _).put_self fun n held list => ?_
    rcases kept with same | ⟨-, here⟩
    · exact notes n (same ▸ held) list
    · rw [here] at held
      cases held
      obtain ⟨items, listed⟩ := list
      exact absurd (lt_size_of_get? listed) (Nat.not_lt_of_le h.size)
  | note carried held listed =>
    cases carried
    exact h.put_note found held listed

theorem run {session : Session} (h : s.Contained given x session.store) {cs : List Change}
    (takes : Change.Takes given s cs) :
    s.Contained given x (Change.run x cs session).store := by
  induction cs generalizing session with
  | nil => exact h
  | cons c rest ih =>
    have here : ∀ n, c = .set "__notes__" (.object n) → s.IsList n → given n := fun n same =>
      takes n (same ▸ List.mem_cons_self)
    exact ih (h.effect here fun _ found => Change.effect_perform found c) fun n member =>
      takes n (List.mem_cons_of_mem _ member)

end Store.Contained

end Http2Failure
