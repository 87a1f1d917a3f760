import Http2Failure.Clone
import Http2Failure.Proofs.History
import Http2Failure.Proofs.Twins

/-!
# Faults with attributes of their own

Between its construction and the moment when it is stored a fault may be given attributes and notes,
and the rest of the program goes on. All of its slots are then still those that its constructor
gave it, and the arguments that it is stored with give them once more: a file name that was taken
out of the arguments comes back to its place among them.
-/

namespace Http2Failure

namespace Attributes

def names (attrs : Attributes) : List String := attrs.map Prod.fst

variable {attrs more : Attributes}

theorem nodup_insert (distinct : attrs.names.Nodup) (name : String) (v : Value) :
    (attrs.insert name v).names.Nodup := by
  unfold insert
  split
  · have same : names (attrs.map fun entry => if entry.1 == name then (name, v) else entry) =
        attrs.names := by
      rw [names, List.map_map]
      refine List.map_congr_left fun entry _ => ?_
      by_cases here : entry.1 = name <;> simp [here]
    rw [same]
    exact distinct
  · rename_i absent
    simp only [names, List.map_append, List.map_cons, List.map_nil]
    refine List.nodup_append.mpr ⟨distinct, List.pairwise_singleton _ name, ?_⟩
    intro a ha b hb same
    obtain ⟨entry, held, rfl⟩ := List.mem_map.mp ha
    rw [List.mem_singleton.mp hb] at same
    exact absent (List.any_eq_true.mpr ⟨entry, held, beq_iff_eq.mpr same⟩)

theorem nodup_erase (distinct : attrs.names.Nodup) (name : String) :
    (attrs.erase name).names.Nodup :=
  distinct.sublist (List.filter_sublist.map Prod.fst)

theorem insertAll_of_nodup (distinct : (attrs ++ more).names.Nodup) :
    attrs.insertAll more = attrs ++ more := by
  induction more generalizing attrs with
  | nil => exact (List.append_nil attrs).symm
  | cons entry rest ih =>
    have absent : ¬ attrs.any (fun e => e.1 == entry.1) = true := by
      intro present
      obtain ⟨e, held, same⟩ := List.any_eq_true.mp present
      simp only [names, List.map_append, List.map_cons] at distinct
      exact (List.nodup_append.mp distinct).2.2 _ (List.mem_map_of_mem held) _ List.mem_cons_self
        (beq_iff_eq.mp same)
    have inserted : attrs.insert entry.1 entry.2 = attrs ++ [entry] := if_neg absent
    rw [insertAll, List.foldl_cons, inserted]
    refine (ih ?_).trans ?_
    · rwa [List.append_assoc]
    · rw [List.append_assoc, List.singleton_append]

end Attributes

namespace Change

/-- Changes of attributes that are no slots of a fault, and notes. -/
def IsAttribute : Change → Prop
  | .set name _ | .delete name => IsPlain name
  | .note _ => True

end Change

/-- A run of the program in which the fault at `x` is given attributes and notes, and nothing
else. -/
inductive Adorned (x : Ref) : Session → Session → Prop
  | refl (session : Session) : Adorned x session session
  | change {first last : Session} (before : Adorned x first last) (c : Change)
    (h : c.IsAttribute) : Adorned x first (c.perform x last).2
  | look {first last : Session} (before : Adorned x first last) (name : String) :
    Adorned x first (Action.getAttribute (.object x) name last).2
  | elsewhere {first last next : Session} (before : Adorned x first last)
    (kept : next.store.get? x = last.store.get? x) : Adorned x first next

namespace Fault

structure SameSlots (f f' : Fault) : Prop where
  cls : f'.cls = f.cls
  args : f'.args = f.args
  errorNumber : f'.errorNumber = f.errorNumber
  errorText : f'.errorText = f.errorText
  fileName : f'.fileName = f.fileName
  fileName2 : f'.fileName2 = f.fileName2
  charactersWritten : f'.charactersWritten = f.charactersWritten

variable {f g : Fault} {x : Ref} {s t : Store}

theorem SameSlots.refl (f : Fault) : f.SameSlots f := ⟨rfl, rfl, rfl, rfl, rfl, rfl, rfl⟩

theorem SameSlots.symm (h : f.SameSlots g) : g.SameSlots f :=
  ⟨h.cls.symm, h.args.symm, h.errorNumber.symm, h.errorText.symm, h.fileName.symm,
    h.fileName2.symm, h.charactersWritten.symm⟩

theorem SameSlots.trans {g' : Fault} (h : f.SameSlots g) (h' : g.SameSlots g') : f.SameSlots g' :=
  ⟨h'.cls.trans h.cls, h'.args.trans h.args, h'.errorNumber.trans h.errorNumber,
    h'.errorText.trans h.errorText, h'.fileName.trans h.fileName, h'.fileName2.trans h.fileName2,
    h'.charactersWritten.trans h.charactersWritten⟩

theorem SameSlots.slots (h : f.SameSlots g) : g.slots = f.slots := by
  rw [Fault.slots, Fault.slots, h.errorNumber, h.errorText, h.fileName, h.fileName2]

theorem SameSlots.carrying (h : f.SameSlots g) {c : Carried} (args : c.args = g.args) :
    f.SameSlots { g with toCarried := c } :=
  ⟨h.cls, args.trans h.args, h.errorNumber, h.errorText, h.fileName, h.fileName2,
    h.charactersWritten⟩

/-- In the store lies a fault with the slots of `f`, and no attribute of it has two values. -/
def Wears (f : Fault) (s : Store) (x : Ref) : Prop :=
  ∃ f', s.get? x = some (.fault f') ∧ f.SameSlots f' ∧ f'.attributes.names.Nodup

theorem wears_put {g : Fault} (bound : x < s.size) (same : f.SameSlots g)
    (distinct : g.attributes.names.Nodup) : f.Wears (s.put x (.fault g)) x :=
  ⟨g, Store.get?_put_self _ bound, same, distinct⟩

theorem Wears.effect {c : Change} (wears : f.Wears s x) (allowed : c.IsAttribute)
    (effect : ∀ o, s.get? x = some o → Change.Effect x s o c t) : f.Wears t x := by
  obtain ⟨g, found, same, distinct⟩ := wears
  have bound : x < s.size := Store.lt_size_of_get? found
  have set : ∀ {u : Store} {name : String} {v : Value} {o : Object}, Change.IsPlain name →
      (Object.fault g).withAttribute u name v = .ok o → ∀ {w : Store}, x < w.size →
        f.Wears (w.put x o) x := by
    intro u name v o plain h w bound
    simp only [Object.withAttribute, slot_of_isPlain plain, setSlot, Carried.setSlot] at h
    cases h
    exact wears_put bound (same.carrying rfl) (Attributes.nodup_insert distinct name v)
  cases effect _ found with
  | refused => exact ⟨g, found, same, distinct⟩
  | set h => exact set allowed h bound
  | @delete name _ h =>
    have plain : Change.IsPlain name := allowed
    simp only [Object.withoutAttribute, slot_of_isPlain plain, deleteSlot, Carried.deleteSlot,
      Carried.deleteFree] at h
    cases given : g.attributes.get? name with
    | none =>
      simp only [given] at h
      cases h
    | some v =>
      simp only [given] at h
      cases h
      exact wears_put bound (same.carrying rfl) (Attributes.nodup_erase distinct name)
  | stray => exact ⟨g, (Store.get?_push_of_lt _ bound).trans found, same, distinct⟩
  | firstNote h =>
    have plain : Change.IsPlain "__notes__" := rfl
    exact set plain h (Store.lt_size_push bound _)
  | @note _ _ n _ _ _ listed =>
    have apart : n ≠ x := fun here => by
      rw [here, found] at listed
      cases listed
    exact ⟨g, (Store.get?_put_ne _ apart).trans found, same, distinct⟩

theorem Wears.adorned {first last : Session} (wears : f.Wears first.store x)
    (adorned : Adorned x first last) : f.Wears last.store x := by
  induction adorned with
  | refl => exact wears
  | change _ c allowed ih => exact ih.effect allowed fun _ found => Change.effect_perform found c
  | look _ name ih =>
    exact kept_of_look (fun g place worn => ⟨worn.1.carrying rfl, worn.2⟩) name ih
  | elsewhere _ kept ih =>
    obtain ⟨g, found, same, distinct⟩ := ih
    exact ⟨g, kept.trans found, same, distinct⟩

theorem SameSlots.storedArgs (h : f.SameSlots g) : g.storedArgs = f.storedArgs := by
  rw [Fault.storedArgs, Fault.storedArgs, h.args, h.fileName, h.fileName2]

theorem storedArgs_inside {P : Value → Prop} (args : ∀ v ∈ f.args, v.Inside P)
    (slots : ∀ v ∈ f.slots, v.Inside P) : ∀ v ∈ f.storedArgs, v.Inside P := by
  unfold Fault.storedArgs
  split
  · rename_i number text file file2 list first second
    rw [list] at args
    simp only [List.forall_mem_cons] at args ⊢
    exact ⟨args.1, args.2.1, slots file (mem_slots_iff.mpr (.inr (.inr (.inl first)))), trivial,
      slots file2 (mem_slots_iff.mpr (.inr (.inr (.inr second)))), nofun⟩
  · rename_i number text file list first second
    rw [list] at args
    simp only [List.forall_mem_cons] at args ⊢
    exact ⟨args.1, args.2.1, slots file (mem_slots_iff.mpr (.inr (.inr (.inl first)))), nofun⟩
  · exact args

theorem storedArgs_of_unnamed (unnamed : f.fileName = none) : f.storedArgs = f.args := by
  unfold Fault.storedArgs
  rw [unnamed]
  split
  · cases ‹none = some _›
  · cases ‹none = some _›
  · rfl

theorem size?_of_immediate {v : Value} (h : v.Immediate) (s t : Store) : t.size? v = s.size? v := by
  cases v with
  | object => exact h.elim
  | _ => rfl

theorem args_of_thirdOf {args : List Value} {third : Value} (h : thirdOf args = some third) :
    ∃ number text more, args = number :: text :: third :: more ∧ more.length ≤ 2 ∧
      third ≠ .null := by
  match args with
  | [] | [_] | [_, _] => cases h
  | number :: text :: third' :: more =>
    by_cases kept : more.length ≤ 2 ∧ third' ≠ .null
    · rw [thirdOf, if_pos kept] at h
      cases h
      exact ⟨number, text, more, rfl, kept⟩
    · rw [thirdOf, if_neg kept] at h
      cases h

theorem Class.isStandard_ofErrorNumber? (number : Int) :
    ∀ cls ∈ Class.ofErrorNumber? number, cls.isStandard := by
  have step : ∀ {c : Prop} [Decidable c] {cls : Class} {other : Option Class}, cls.isStandard →
      (∀ cls' ∈ other, cls'.isStandard) →
        ∀ cls' ∈ if c then some cls else other, cls'.isStandard := by
    intro c _ cls other here there
    split
    · rintro _ ⟨⟩
      exact here
    · exact there
  unfold Class.ofErrorNumber?
  iterate 14 refine step rfl ?_
  nofun

theorem Class.isStandard_select {cls : Class} (standard : cls.isStandard) (number : Value) :
    (cls.select number).isStandard := by
  unfold Class.select
  split
  · cases selected : (errorNumber? number).bind Class.ofErrorNumber? with
    | none => exact standard
    | some cls' =>
      obtain ⟨i, -, found⟩ := Option.bind_eq_some_iff.mp selected
      exact Class.isStandard_ofErrorNumber? i cls' found
  · exact standard

theorem isStandard_classOf {cls : Class} (standard : cls.isStandard) (args : List Value) :
    (classOf cls args).isStandard := by
  unfold classOf
  split
  · exact Class.isStandard_select standard _
  · exact standard

theorem ofArgs_named {cls : Class} {number text third : Value} {more : List Value}
    (short : more.length ≤ 2) (notNull : third ≠ .null)
    (counts : countIn? t (cls.select number) third = none) :
    ofArgs t cls (number :: text :: third :: more) = .ok
      { cls := cls.select number
        args := [number, text]
        errorNumber := some number
        errorText := some text
        fileName := some third
        fileName2 := fifthOf (number :: text :: third :: more) } := by
  have heading : headingOf (number :: text :: third :: more) = some (number, text) :=
    if_pos (by simp only [List.length_cons]; omega)
  have third' : thirdOf (number :: text :: third :: more) = some third :=
    if_pos ⟨short, notNull⟩
  rw [ofArgs_eq]
  simp only [third', bare, classOf, heading, counts, Option.map_some, List.take]

theorem ofArgs_storedArgs {cls : Class} {args : List Value} (built : ofArgs s cls args = .ok f)
    (immediate : ∀ v ∈ args, v.Immediate) (t : Store) : ofArgs t f.cls f.storedArgs = .ok f := by
  cases third : thirdOf args with
  | none =>
    rw [ofArgs_eq] at built
    simp only [third] at built
    cases built
    rw [storedArgs_of_unnamed rfl, ofArgs_eq]
    simp only [bare, third, classOf_classOf]
  | some third' =>
    cases counts : countIn? s (classOf cls args) third' with
    | some count =>
      rw [ofArgs_eq] at built
      simp only [third, counts] at built
      obtain ⟨count, rfl, built⟩ := bind_eq_ok.mp built
      cases built
      rw [storedArgs_of_unnamed rfl, ofArgs_eq]
      simp only [bare, third, classOf_classOf, countIn?_of_ok counts t]
      rfl
    | none =>
      obtain ⟨number, text, more, rfl, short, notNull⟩ := args_of_thirdOf third
      have heading : headingOf (number :: text :: third' :: more) = some (number, text) :=
        if_pos (by simp only [List.length_cons]; omega)
      have cls' : classOf cls (number :: text :: third' :: more) = cls.select number := by
        rw [classOf, heading]
      have bare' : third'.Immediate := immediate _ (mem_of_thirdOf third)
      have counts' : countIn? t ((cls.select number).select number) third' = none := by
        rw [Class.select_select, ← cls', ← counts, countIn?, countIn?, size?_of_immediate bare' s t]
      rw [ofArgs_named short notNull (cls' ▸ counts)] at built
      cases built
      cases fifth : fifthOf (number :: text :: third' :: more) with
      | none =>
        simp only [Fault.storedArgs]
        rw [ofArgs_named (by simp) notNull counts', Class.select_select]
        rfl
      | some fifth' =>
        have given : fifthOf [number, text, third', .null, fifth'] = some fifth' :=
          if_pos fun null => fifthOf_ne_null (null ▸ fifth)
        simp only [Fault.storedArgs]
        rw [ofArgs_named (by simp) notNull counts', Class.select_select, given]

end Fault

end Http2Failure
