import Http2Failure.Proofs.Adorned
import Http2Failure.Proofs.Holding

/-!
# Faults that hold plain data

A fault is flat as long as its arguments, its slots and its attributes are numbers, texts, bytes or
other values that refer to no object. Every constructor makes a flat fault of such values, and it
stays flat however often its attributes are set to such values or deleted.
-/

namespace Http2Failure

namespace Change

/-- The change gives an exception values that refer to no object: in its arguments, which are set
from a sequence of them, and under every other name. -/
def KeepsFlat (s : Store) : Change → Prop
  | .set name v =>
    if name = "args" then ∀ items, s.elements v = .ok items → ∀ w ∈ items, w.Immediate
    else v.Immediate
  | .delete _ => True
  | .note _ => False

end Change

/-- A run of the program in which the fault at `x` is given nothing but plain data. -/
inductive GivenData (x : Ref) : Session → Session → Prop
  | refl (session : Session) : GivenData x session session
  | change {first last : Session} (before : GivenData x first last) (c : Change)
    (keeps : c.KeepsFlat last.store) : GivenData x first (c.perform x last).2
  | look {first last : Session} (before : GivenData x first last) (name : String) :
    GivenData x first (Action.getAttribute (.object x) name last).2
  | elsewhere {first last next : Session} (before : GivenData x first last)
    (kept : next.store.get? x = last.store.get? x) : GivenData x first next

namespace Carried

structure Flat (c : Carried) : Prop where
  args : ∀ v ∈ c.args, v.Immediate
  attributes : ∀ v ∈ c.attributes.map Prod.snd, v.Immediate

variable {s : Store} {c c' : Carried} {name : String} {v : Value} {slot : Slot}

theorem Flat.setSlot (flat : c.Flat)
    (items : slot = .args → ∀ items, s.elements v = .ok items → ∀ w ∈ items, w.Immediate)
    (other : slot ≠ .args → v.Immediate) (set : c.setSlot s name v slot = .ok c') : c'.Flat := by
  cases slot with
  | args =>
    obtain ⟨given, read, set⟩ := bind_eq_ok.mp set
    cases set
    exact { flat with args := items rfl given read }
  | cause | context | suppressContext | traceback =>
    simp only [Carried.setSlot] at set
    split at set
    · cases set
      exact { flat with }
    · cases set
  | cls | dictionary | kind => cases set
  | _ =>
    cases set
    refine { flat with attributes := fun w hw => ?_ }
    rcases Attributes.mem_of_mem_insert hw with rfl | hw
    · exact other (by decide)
    · exact flat.attributes w hw

theorem Flat.deleteSlot {className : String} (flat : c.Flat)
    (deleted : c.deleteSlot className name slot = .ok c') : c'.Flat := by
  cases slot with
  | args | cause | context | traceback | suppressContext | cls | dictionary | kind => cases deleted
  | _ =>
    simp only [Carried.deleteSlot, deleteFree] at deleted
    split at deleted
    · cases deleted
      exact { flat with
        attributes := fun w hw => flat.attributes w (Attributes.mem_of_mem_erase hw) }
    · cases deleted

end Carried

namespace Fault

structure Flat (f : Fault) : Prop where
  carried : f.toCarried.Flat
  slots : ∀ v ∈ f.slots, v.Immediate

variable {s : Store} {f f' : Fault} {x : Ref} {name : String} {v : Value} {slot : Slot}

theorem Flat.withCarried (flat : f.Flat) {c : Carried} (carried : c.Flat) :
    Flat { f with toCarried := c } := ⟨carried, flat.slots⟩

theorem Flat.withSlots (flat : f.Flat) (carried : f'.toCarried = f.toCarried)
    (slots : ∀ w ∈ f'.slots, w ∈ f.slots ∨ w.Immediate) : f'.Flat :=
  ⟨carried ▸ flat.carried, fun w hw => (slots w hw).elim (flat.slots w) id⟩

theorem Flat.setSlot (flat : f.Flat)
    (items : slot = .args → ∀ items, s.elements v = .ok items → ∀ w ∈ items, w.Immediate)
    (other : slot ≠ .args → v.Immediate) (set : f.setSlot s name v slot = .ok f') : f'.Flat := by
  unfold Fault.setSlot at set
  split at set
  case h_5 =>
    obtain ⟨count, -, set⟩ := bind_eq_ok.mp set
    cases set
    exact { flat with }
  case h_6 => cases set
  case h_7 =>
    obtain ⟨c, carried, set⟩ := bind_eq_ok.mp set
    cases set
    exact flat.withCarried (flat.carried.setSlot items other carried)
  all_goals
    cases set
    have given := other (by decide)
    refine flat.withSlots rfl fun w hw => ?_
    simp only [mem_slots_iff, Option.some.injEq] at hw ⊢
    rcases hw with hw | hw | hw | hw
    all_goals first
      | exact .inr (hw ▸ given)
      | exact .inl (by tauto)

theorem Flat.deleteSlot (flat : f.Flat) (deleted : f.deleteSlot name slot = .ok f') : f'.Flat := by
  unfold Fault.deleteSlot at deleted
  split at deleted
  case h_5 =>
    split at deleted
    · cases deleted
      exact { flat with }
    · cases deleted
  case h_6 =>
    obtain ⟨c, carried, deleted⟩ := bind_eq_ok.mp deleted
    cases deleted
    exact flat.withCarried (flat.carried.deleteSlot carried)
  all_goals
    cases deleted
    refine flat.withSlots rfl fun w hw => .inl ?_
    simp only [mem_slots_iff, reduceCtorEq, false_or] at hw ⊢
    tauto

theorem flat_of_ofArgs {cls : Class} {args : List Value} (immediate : ∀ v ∈ args, v.Immediate)
    (built : ofArgs s cls args = .ok f) : f.Flat := by
  refine ⟨?_, fun v hv => immediate v (slots_of_ofArgs built hv)⟩
  rw [carried_of_ofArgs built]
  exact ⟨fun v hv => immediate v (args_of_ofArgs built hv), nofun⟩

/-- A constructor that is given such values adds texts and null values to them at most. -/
theorem flat_of_construct {cls : Class} {args : List Value} (immediate : ∀ v ∈ args, v.Immediate)
    (built : construct s cls args = .ok f) : f.Flat := by
  cases built_of_construct built with
  | quiet => exact ⟨⟨nofun, nofun⟩, nofun⟩
  | plain read => exact flat_of_ofArgs immediate read
  | @attributed args' attrs fresh read given kept =>
    have flat : fresh.Flat := by
      refine flat_of_ofArgs (fun v hv => ?_) read
      rcases given v hv with hv | rfl | ⟨t, rfl⟩
      · exact immediate v hv
      · trivial
      · trivial
    exact flat.withCarried ⟨flat.carried.args, fun v hv => immediate v (kept hv)⟩

def FlatAt (s : Store) (x : Ref) : Prop := ∃ f, s.get? x = some (.fault f) ∧ f.Flat

theorem flatAt_put (bound : x < s.size) (flat : f.Flat) : FlatAt (s.put x (.fault f)) x :=
  ⟨f, Store.get?_put_self _ bound, flat⟩

theorem FlatAt.effect {t : Store} {c : Change} (flat : FlatAt s x) (keeps : c.KeepsFlat s)
    (effect : ∀ o, s.get? x = some o → Change.Effect x s o c t) : FlatAt t x := by
  obtain ⟨f, found, flat⟩ := flat
  have bound := Store.lt_size_of_get? found
  cases effect _ found with
  | refused => exact ⟨f, found, flat⟩
  | @set name v o' h =>
    obtain ⟨f', set, h⟩ := bind_eq_ok.mp h
    cases h
    refine flatAt_put bound (flat.setSlot (fun slot => ?_) (fun slot => ?_) set)
    · rwa [Change.KeepsFlat, if_pos (Object.eq_args_of_slot slot)] at keeps
    · have other : name ≠ "args" := fun named => slot (named ▸ rfl)
      rwa [Change.KeepsFlat, if_neg other] at keeps
  | delete h =>
    obtain ⟨f', deleted, h⟩ := bind_eq_ok.mp h
    cases h
    exact flatAt_put bound (flat.deleteSlot deleted)
  | stray | firstNote | note => exact keeps.elim

theorem FlatAt.given {first last : Session} (flat : FlatAt first.store x)
    (given : GivenData x first last) : FlatAt last.store x := by
  induction given with
  | refl => exact flat
  | change _ c keeps ih => exact ih.effect keeps fun _ found => Change.effect_perform found c
  | look _ name ih =>
    exact kept_of_look (fun f place flat => flat.withCarried { flat.carried with }) name ih
  | elsewhere _ kept ih =>
    obtain ⟨f, found, flat⟩ := ih
    exact ⟨f, kept.trans found, flat⟩

theorem flatAt_of_construction {start built : Session} {cls : Class} {args : List Value}
    (immediate : ∀ v ∈ args, v.Immediate)
    (construction :
      (Script.Constructor.fault cls).apply args start = (.ok (.object x), built)) :
    FlatAt built.store x := by
  simp only [Script.Constructor.apply, Action.bind_apply, Action.read_apply] at construction
  cases made : construct start.store cls args with
  | error => simp only [made] at construction; cases construction
  | ok f =>
    simp only [made, Action.create_apply] at construction
    cases construction
    exact ⟨f, Store.get?_push_size _ _, flat_of_construct immediate made⟩

def OfData (now : Session) (x : Ref) : Prop :=
  ∃ start built cls args, (∀ v ∈ args, Value.Immediate v) ∧
    (Script.Constructor.fault cls).apply args start = (.ok (.object x), built) ∧
    GivenData x built now

theorem OfData.flatAt {now : Session} (data : OfData now x) : FlatAt now.store x := by
  obtain ⟨start, built, cls, args, immediate, construction, given⟩ := data
  exact (flatAt_of_construction immediate construction).given given

end Fault

end Http2Failure
