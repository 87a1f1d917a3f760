import Http2Failure.Proofs.Cloning
import Http2Failure.Proofs.Containment
import Http2Failure.Proofs.Course
import Http2Failure.Proofs.Depth
import Http2Failure.Proofs.Rebuilt
import Http2Failure.Proofs.Sharing
import Http2Failure.Proofs.Telling
import Http2Failure.Proofs.Twins
import Http2Failure.Proofs.Unhooked

/-!
# The text that an error was built with

The only argument of an error is the text that it had when it was built. An error without a fault
has that text for good. One with a fault shows what the fault says now, which is the old text
wherever all that it is made of is as it was: the arguments, the error number and text, the file
names, and for a class with a text of its own the attributes that this reads.
-/

namespace Http2Failure

namespace Fault

def told : List String := ["args", "errno", "strerror", "filename", "filename2"]

/-- The names of the attributes that the text of a fault of the class reads. -/
def Class.told : Class → List String
  | .tls => ["host", "alert"]
  | _ => []

structure ToldAlike (f g : Fault) : Prop where
  args : g.args = f.args
  errorNumber : g.errorNumber = f.errorNumber
  errorText : g.errorText = f.errorText
  fileName : g.fileName = f.fileName
  fileName2 : g.fileName2 = f.fileName2
  attributes : ∀ name ∈ f.cls.told, g.attributes.get? name = f.attributes.get? name

structure TellsImmediates (f : Fault) : Prop where
  args : ∀ v ∈ f.args, v.Immediate
  slots : ∀ v ∈ f.slots, v.Immediate
  attributes : ∀ name ∈ f.cls.told, ∀ v, f.attributes.get? name = some v → v.Immediate

variable {f g h : Fault} {render render' : Renderer}

theorem ToldAlike.refl (f : Fault) : f.ToldAlike f := ⟨rfl, rfl, rfl, rfl, rfl, fun _ _ => rfl⟩

theorem ToldAlike.trans (same : f.ToldAlike g) (cls : g.cls = f.cls) (same' : g.ToldAlike h) :
    f.ToldAlike h where
  args := same'.args.trans same.args
  errorNumber := same'.errorNumber.trans same.errorNumber
  errorText := same'.errorText.trans same.errorText
  fileName := same'.fileName.trans same.fileName
  fileName2 := same'.fileName2.trans same.fileName2
  attributes name read :=
    (same'.attributes name (cls ▸ read)).trans (same.attributes name read)

theorem written_immediate {v : Value} (alike : render.AlikeOn (fun _ => False) render')
    (immediate : v.Immediate) (form : Form) : render' [] form v = render [] form v :=
  alike [] [] form v immediate fun _ _ => Iff.rfl

namespace ToldAlike

variable (same : f.ToldAlike g) (immediate : f.TellsImmediates)
  (alike : render.AlikeOn (fun _ => False) render')
include same immediate alike

theorem heading_eq : g.heading (render' []) = f.heading (render []) := by
  have slot : ∀ {v? : Option Value}, (∀ v, v? = some v → v ∈ f.slots) →
      render' [] .plain (v?.getD .null) = render [] .plain (v?.getD .null) := fun h =>
    written_immediate alike
      (Value.inside_getD fun v hv => immediate.slots v (h v (Option.mem_toList.mp hv))) .plain
  simp only [Fault.heading, same.errorNumber, same.errorText,
    slot fun v hv => mem_slots_iff.mpr (.inl hv),
    slot fun v hv => mem_slots_iff.mpr (.inr (.inl hv))]

theorem carried_eq (x y : Ref) :
    g.toCarried.plain render' [] y = f.toCarried.plain render [] x :=
  Carried.plain_eq_of_argsForm same.args
    (fun arg given => written_immediate alike (immediate.args arg given) .plain)
    (Carried.argsForm_eq_of_outside alike same.args immediate.args id id)

theorem attributeNamed_eq {name : String} (read : name ∈ f.cls.told) :
    g.attributeNamed f.cls.name name = f.attributeNamed f.cls.name name ∧
      ∀ v, f.attributeNamed f.cls.name name = .ok v →
        render' [] .plain v = render [] .plain v := by
  unfold Carried.attributeNamed
  rw [same.attributes name read]
  refine ⟨rfl, fun v named => ?_⟩
  split at named
  · rename_i given
    cases named
    exact written_immediate alike (immediate.attributes name read _ given) .plain
  · cases named

theorem plain_eq (cls : g.cls = f.cls) (x y : Ref) :
    g.plain render' [] y = f.plain render [] x := by
  by_cases tls : f.cls = .tls
  · have reads : ∀ name ∈ ["host", "alert"], name ∈ f.cls.told := by
      rw [tls]
      exact fun _ listed => listed
    obtain ⟨host, hostForm⟩ := same.attributeNamed_eq immediate alike
      (reads "host" List.mem_cons_self)
    obtain ⟨alert, alertForm⟩ := same.attributeNamed_eq immediate alike
      (reads "alert" (List.mem_cons_of_mem _ List.mem_cons_self))
    simp only [Fault.plain, cls, if_pos tls, host, alert]
    refine bind_congr_ok fun v named => ?_
    rw [hostForm v named]
    refine bind_congr_ok fun text _ => bind_congr_ok fun w named => ?_
    rw [alertForm w named]
  · have file : ∀ {v : Value}, v ∈ f.slots → render' [] .quoted v = render [] .quoted v :=
      fun hv => written_immediate alike (immediate.slots _ hv) .quoted
    simp only [Fault.plain, cls, if_neg tls, same.fileName, same.fileName2, same.errorNumber,
      same.errorText, same.heading_eq immediate alike, same.carried_eq immediate alike x y]
    split
    · rename_i first second
      simp only [file (mem_slots_iff.mpr (.inr (.inr (.inl first)))),
        file (mem_slots_iff.mpr (.inr (.inr (.inr second))))]
    · rename_i first _
      simp only [file (mem_slots_iff.mpr (.inr (.inr (.inl first))))]
    · rfl

end ToldAlike

theorem slot_of_untold {f : Fault} {name : String} (untold : name ∉ told) :
    (Object.fault f).slot name ∉ [.args, .errorNumber, .errorText, .fileName, .fileName2] := by
  intro inside
  refine untold ?_
  have listed : (name, (Object.fault f).slot name) ∈ (Object.fault f).slots :=
    Object.mem_slots_of_slot rfl fun free => by rw [free] at inside; simp at inside
  simp only [List.mem_cons, List.not_mem_nil, or_false] at inside
  rcases inside with slot | slot | slot | slot | slot
  all_goals
    rw [slot] at listed
    simp [Object.slots, Slot.common, Slot.ofFault] at listed
    simp [told, listed]

theorem toldAlike_of_setSlot {s : Store} {f g : Fault} {name : String} {v : Value} {slot : Slot}
    (set : f.setSlot s name v slot = .ok g)
    (other : slot ∉ [.args, .errorNumber, .errorText, .fileName, .fileName2])
    (untold : name ∉ f.cls.told) : f.ToldAlike g := by
  cases slot with
  | args | errorNumber | errorText | fileName | fileName2 => exact absurd (by decide) other
  | charactersWritten =>
    obtain ⟨count, -, set⟩ := bind_eq_ok.mp set
    cases set
    exact ⟨rfl, rfl, rfl, rfl, rfl, fun _ _ => rfl⟩
  | cls => cases set
  | _ =>
    obtain ⟨c, carried, same⟩ := bind_eq_ok.mp set
    cases same
    refine ⟨(Carried.sameArgs_of_setSlot carried nofun).1, rfl, rfl, rfl, rfl, fun key read => ?_⟩
    rcases Carried.attributes_of_setSlot carried with kept | inserted
    · exact congrArg (fun attrs => attrs.get? key) kept
    · refine (congrArg (fun attrs => attrs.get? key) inserted).trans ?_
      exact Attributes.get?_insert_of_ne fun same => untold (same ▸ read)

theorem toldAlike_of_deleteSlot {f g : Fault} {name : String} {slot : Slot}
    (deleted : f.deleteSlot name slot = .ok g)
    (other : slot ∉ [.args, .errorNumber, .errorText, .fileName, .fileName2])
    (untold : name ∉ f.cls.told) : f.ToldAlike g := by
  cases slot with
  | args | errorNumber | errorText | fileName | fileName2 => exact absurd (by decide) other
  | charactersWritten =>
    simp only [deleteSlot] at deleted
    split at deleted
    · cases deleted
      exact ⟨rfl, rfl, rfl, rfl, rfl, fun _ _ => rfl⟩
    · cases deleted
  | _ =>
    obtain ⟨c, carried, same⟩ := bind_eq_ok.mp deleted
    cases same
    refine ⟨(Carried.sameArgs_of_deleteSlot carried).1, rfl, rfl, rfl, rfl, fun key read => ?_⟩
    refine (congrArg (Attributes.get? · key) (Carried.attributes_of_deleteSlot carried)).trans ?_
    rw [Attributes.get?_erase, if_neg]
    rintro rfl
    exact untold read

end Fault

/-- A change of nothing that the text of a fault of the class is made of: of other attributes, of
the notes, the cause or the count of characters written. -/
def Change.IsIdle (cls : Fault.Class) : Change → Prop
  | .set name _ | .delete name => name ∉ Fault.told ∧ name ∉ cls.told
  | .note _ => True

namespace Fault

def StillTold (f : Fault) (s : Store) (x : Ref) : Prop :=
  ∃ g, s.get? x = some (.fault g) ∧ g.cls = f.cls ∧ f.ToldAlike g

theorem StillTold.effect {s t : Store} {f : Fault} {x : Ref} {c : Change} (h : f.StillTold s x)
    (idle : c.IsIdle f.cls) (effect : ∀ o, s.get? x = some o → Change.Effect x s o c t) :
    f.StillTold t x := by
  obtain ⟨g, found, cls, same⟩ := h
  have bound := Store.lt_size_of_get? found
  have set : ∀ {u : Store} {name : String} {v : Value} {o : Object}, name ∉ told →
      name ∉ f.cls.told → (Object.fault g).withAttribute u name v = .ok o →
        ∃ g', o = .fault g' ∧ g'.cls = f.cls ∧ f.ToldAlike g' := by
    intro u name v o untold unread h
    obtain ⟨g', set, h⟩ := bind_eq_ok.mp h
    cases h
    refine ⟨g', rfl, (cls_of_setSlot set).trans cls, same.trans cls ?_⟩
    exact toldAlike_of_setSlot set (slot_of_untold untold) (cls ▸ unread)
  cases effect _ found with
  | refused => exact ⟨g, found, cls, same⟩
  | set h =>
    obtain ⟨g', rfl, cls', same'⟩ := set idle.1 idle.2 h
    exact ⟨g', Store.get?_put_self _ bound, cls', same'⟩
  | delete h =>
    obtain ⟨g', deleted, h⟩ := bind_eq_ok.mp h
    cases h
    refine ⟨g', Store.get?_put_self _ bound, (cls_of_deleteSlot deleted).trans cls,
      same.trans cls ?_⟩
    exact toldAlike_of_deleteSlot deleted (slot_of_untold idle.1) (cls ▸ idle.2)
  | stray => exact ⟨g, (Store.get?_push_of_lt _ bound).trans found, cls, same⟩
  | firstNote h =>
    have unread : "__notes__" ∉ f.cls.told := by cases f.cls <;> decide
    obtain ⟨g', rfl, cls', same'⟩ := set (by decide) unread h
    exact ⟨g', Store.get?_put_self _ (Store.lt_size_push bound _), cls', same'⟩
  | @note _ _ n _ _ _ listed =>
    have apart : n ≠ x := fun same => by
      rw [same, found] at listed
      cases listed
    exact ⟨g, (Store.get?_put_ne _ apart).trans found, cls, same⟩

end Fault

theorem Change.does_perform {L : Licence} (sets : L.Sets) (untidy : ¬ L.tidy) {now : Session}
    {x : Ref} {f : Fault} (found : now.store.get? x = some (.fault f)) (c : Change) :
    Action.Does L (c.perform x) now Action.Anything := by
  have has : ∀ {s : Store} {v : Value}, L.Has s v := fun tidy => absurd tidy untidy
  cases c with
  | set name v =>
    refine Action.does_setAttribute sets has has fun _ r e same there => ?_
    cases same
    cases found.symm.trans there
  | delete name => exact Action.does_deleteAttribute sets has name
  | note v => exact Action.does_addNote sets has has

theorem Error.does_intoFault {L : Licence} {now : Session} {e : Ref} {error : Error}
    (holder : now.store.get? e = some (.error error)) :
    Action.Does L (intoFault e) now L.Has := by
  rw [Action.Does, intoFault, holder, method?_into_io, errorMethod?_into_io]
  refine Action.Does.ask_bind ?_
  split
  · exact Kind.does_intoFault _
  · exact .throw _

/-- A run that leaves alone all that the text of the fault at `f` is made of, its class being
`cls`, and spares the places of `P`. The fault undergoes idle changes, errors rebuild their faults,
and what happens elsewhere leaves the fault as it is. -/
inductive Idling (P : Ref → Prop) (cls : Fault.Class) (f : Ref) : Session → Session → Prop
  | refl (session : Session) : Idling P cls f session session
  | change {first last : Session} (before : Idling P cls f first last) (c : Change)
    (idle : c.IsIdle cls) : Idling P cls f first (c.perform f last).2
  | rebuild {first last : Session} (before : Idling P cls f first last) {e : Ref} {error : Error}
    (holder : last.store.get? e = some (.error error)) :
    Idling P cls f first (Error.intoFault e last).2
  | elsewhere {first last next : Session} (before : Idling P cls f first last)
    (course : Course P last next) (kept : next.store.get? f = last.store.get? f) :
    Idling P cls f first next

theorem Licence.sparingAt_sets (P : Ref → Prop) : (Licence.sparingAt P).Sets where
  write _ _ _ := ⟨nofun, nofun⟩
  wear _ _ _ _ := ⟨nofun, nofun⟩
  give _ _ _ _ := ⟨nofun, nofun⟩

/-- Such a run is a course, and the fault still tells the same. -/
theorem Idling.stillTold {P : Ref → Prop} {f : Ref} {fault : Fault} {first last : Session}
    (idling : Idling P fault.cls f first last) (told : fault.StillTold first.store f) :
    Course P first last ∧ fault.StillTold last.store f := by
  induction idling with
  | refl => exact ⟨.deeds (.none _), told⟩
  | change _ c idle ih =>
    obtain ⟨course, told⟩ := ih
    obtain ⟨g, found, -⟩ := id told
    refine ⟨course.trans (.deeds ?_), ?_⟩
    · exact (Change.does_perform (Licence.sparingAt_sets P) id found c).deeds
        (Licence.sparingAt_sound _ _)
    · exact told.effect idle fun _ there => Change.effect_perform there c
  | rebuild _ holder ih =>
    obtain ⟨course, g, found, cls, same⟩ := ih
    refine ⟨course.trans (.deeds ?_), g, ?_, cls, same⟩
    · exact (Error.does_intoFault holder).deeds (Licence.sparingAt_sound _ _)
    have silent := (Error.does_intoFault holder).deeds (Licence.silent_sound _)
    exact (silent.extends Licence.silent_isQuiet).get? found
  | elsewhere _ more kept ih =>
    obtain ⟨course, g, found, cls, same⟩ := ih
    exact ⟨course.trans more, g, kept.trans found, cls, same⟩

theorem Store.alikeOn_immediates (s t : Store) (n m : Nat) :
    (s.renderUpTo (n + 1)).AlikeOn (fun _ => False) (t.renderUpTo (m + 1)) := by
  intro p p' form v immediate _
  cases v with
  | object | misuse | initiator => exact immediate.elim
  | _ => rfl

namespace Kind

variable {s t : Store} {k : Kind} {a : Telling}

/-- A kind tells the same wherever the reason that it holds is the same and the member is as it was
from the start. -/
theorem Tells.kept (tells : k.Tells s a)
    (untouched : ∀ v ∈ k.record.fields.map Prod.snd, v.Inside t.Untouched)
    (kept : ∀ code r, .object code ∈ k.record.fields.map Prod.snd →
      s.get? code = some (.ofReason r) → t.get? code = some (.ofReason r)) : k.Tells t a := by
  cases tells with
  | @reset stream code r side found =>
    exact .reset (kept _ _ (by simp [record]) found)
      (untouched (.initiator side) (by simp [record]))
  | @goAway p code found =>
    exact .goAway (kept _ _ (by simp [record, ofReport, Payload.report]) found)
      (untouched (.initiator p.side) (by simp [record, ofReport, Payload.report]))
  | reason found => exact .reason (kept _ _ (by simp [record]) found)
  | @misuse m => exact .misuse (untouched (.misuse m) (by simp [record]))

end Kind

def Error.Core (e κ : Ref) (k : Kind) (r : Ref) : Prop :=
  r = e ∨ r = κ ∨ .object r ∈ k.record.fields.map Prod.snd

namespace Error

theorem around_eq_ok {cls : Class} {κ e : Ref} {before start : Session}
    (built : around cls κ before = (.ok (.object e), start)) :
    ∃ text, textOf before.store (.object κ) = .ok text ∧ e = before.store.size ∧
      start = { before with
        store := before.store.push (.error { cls, kind := κ, args := [.text text] }) } := by
  rw [around_apply] at built
  cases shown : textOf before.store (.object κ) with
  | error r =>
    rw [shown] at built
    cases built
  | ok text =>
    rw [shown] at built
    cases built
    exact ⟨text, rfl, rfl, rfl⟩

theorem args_of_hasArgs {now : Session} {e : Ref} {args : List Value} (notEmpty : args ≠ [])
    (has : now.store.HasArgs e args) :
    ∃ place after, Action.getAttribute (.object e) "args" now = (.ok (.object place), after) ∧
      after.store.get? place = some (.tuple args) := by
  obtain ⟨error, found, rfl, tuple⟩ := has
  have some : error.args.isEmpty = false := by
    rw [List.isEmpty_eq_false_iff]
    exact notEmpty
  have slot : (Object.error error).slot "args" = .args := rfl
  simp only [Action.getAttribute, Action.bind_apply, Action.ask_apply, Store.object?, found,
    Object.carried?, slot]
  cases given : error.argsTuple with
  | some place => exact ⟨place, now, by simp [Action.argsTuple, given], tuple place given⟩
  | none =>
    have apart : e ≠ now.store.size := Nat.ne_of_lt (Store.lt_size_of_get? found)
    refine ⟨now.store.size, _, by simp [Action.argsTuple, Action.tuple, given, some]; rfl, ?_⟩
    exact (Store.get?_put_ne _ apart).trans (Store.get?_push_size _ _)

end Error

namespace Store

variable {s t : Store} {e κ f : Ref} {error : Error} {k : Kind} {fault g : Fault}

theorem plain_error (found : t.get? e = some (.error error)) (holds : t.kind? error.kind = some k) :
    t.plain (.object e) = k.plain t (t.renderUpTo (depth - 2 + 1) []) := by
  rw [plain, render_object found]
  simp only [Object.render, holds]
  rfl

theorem plain_fault_upTo (found : t.get? f = some (.fault g)) (n : Nat) :
    t.renderUpTo (n + 1) [] .plain (.object f) = g.plain (t.renderUpTo n) [] f := by
  simp only [renderUpTo, found, Object.render]

/-- An error shows of its fault what any fault shows that tells the same immediate values. -/
theorem plain_error_of_told (found : t.get? e = some (.error error))
    (holds : t.kind? error.kind = some (.transport (.object f))) (told : fault.StillTold t f)
    (immediate : fault.TellsImmediates) (s : Store) (n : Nat) :
    t.plain (.object e) = fault.plain (s.renderUpTo (n + 1)) [] f := by
  obtain ⟨g, there, cls, same⟩ := told
  rw [plain_error found holds]
  refine (plain_fault_upTo there _).trans ?_
  exact same.plain_eq immediate (alikeOn_immediates s t n (depth - 3)) cls f f

end Store

/-- What a course that spares the core of an error leaves of it, if nothing is given to its kind. -/
structure Error.Stands (s : Store) (e κ : Ref) (k : Kind) (text : String) : Prop where
  found : ∃ error : Error, s.get? e = some (.error error) ∧ error.kind = κ
  holds : s.kind? κ = some k
  args : s.HasArgs e [.text text]

namespace Course

variable {start now : Session} {e κ : Ref} {k : Kind} {text : String}

theorem stands (course : Course (Error.Core e κ k) start now) (bare : k.Bare now.store κ)
    (stands : Error.Stands start.store e κ k text) : Error.Stands now.store e κ k text := by
  obtain ⟨⟨error, found, kind⟩, holds, args⟩ := stands
  refine ⟨?_, ?_, course.hasArgs (.inl rfl) (List.cons_ne_nil _ _) args⟩
  · obtain ⟨o, found', nature⟩ := course.grows _ _ found
    obtain ⟨error', rfl, same⟩ := Object.eq_error_of_nature nature
    exact ⟨error', found', same.trans kind⟩
  · have place := Store.kind?_eq_some_iff.mp holds
    have untouched : now.store.Untouched (.object κ) := bare _ List.mem_cons_self
    exact Store.kind?_eq_some_iff.mpr
      (course.get?_formed (.inr (.inl rfl)) place rfl trivial untouched)

theorem tells {a : Telling} (course : Course (Error.Core e κ k) start now)
    (bare : k.Bare now.store κ) (tells : k.Tells start.store a) : k.Tells now.store a := by
  have untouched := fun v hv => bare v (List.mem_cons_of_mem _ hv)
  exact tells.kept untouched fun _ r held found =>
    course.get?_formed (.inr (.inr held)) found rfl (Object.formed_ofReason r) (untouched _ held)

theorem fault {P : Ref → Prop} {f : Ref} {fault : Fault} (course : Course P start now)
    (found : start.store.get? f = some (.fault fault)) :
    ∃ fault', now.store.get? f = some (.fault fault') ∧ fault'.cls = fault.cls := by
  obtain ⟨o, found', nature⟩ := course.grows _ _ found
  obtain ⟨fault', rfl, cls⟩ := Object.eq_fault_of_nature nature
  exact ⟨fault', found', cls⟩

end Course

/-- The only argument of an error is the text that it was built with, for as long as it is given no
other, no constructor is called again on its kind or what that holds, and neither is given a state
or set anything. An error without a fault always has this text. One with a fault has the text of the
fault as it is now. That is the old text wherever the fault tells what it told then, and neither
changes of anything else nor rebuildings can make the two differ. -/
theorem built_text_kept {before start now : Session} {cls : Error.Class} {κ e : Ref} {k : Kind}
    (holds : before.store.kind? κ = some k) (declared : k.Declared before.store)
    (built : Error.around cls κ before = (.ok (.object e), start))
    (course : Course (Error.Core e κ k) start now) (bare : k.Bare now.store κ) :
    ∃ text, Error.textOf before.store (.object κ) = .ok text ∧
      (∃ place after, Action.getAttribute (.object e) "args" now = (.ok (.object place), after) ∧
        after.store.get? place = some (.tuple [.text text])) ∧
      (k.isTransport = false → now.store.plain (.object e) = .ok text) ∧
      ∀ f, k = .transport (.object f) → ∃ fault fault',
        before.store.get? f = some (.fault fault) ∧ now.store.get? f = some (.fault fault') ∧
        Lasts (now.store.plain (.object e)) (now.store.plain (.object f)) ∧
        (fault'.TellsImmediates → now.store.plain (.object e) = now.store.plain (.object f)) ∧
        (fault.TellsImmediates → fault.ToldAlike fault' → ∀ later,
          Idling (Error.Core e κ k) fault.cls f now later → k.Bare later.store κ →
            later.store.plain (.object e) = .ok text) := by
  obtain ⟨text, shown, rfl, rfl⟩ := Error.around_eq_ok built
  have grown := Store.extends_push before.store (.error { cls, kind := κ, args := [.text text] })
  have stands := course.stands bare ⟨⟨_, Store.get?_push_size _ _, rfl⟩,
    grown.kind? holds, _, Store.get?_push_size _ _, rfl, nofun⟩
  obtain ⟨error, found, rfl⟩ := stands.found
  rw [Error.textOf_of_kind holds] at shown
  refine ⟨text, by rw [Error.textOf_of_kind holds, shown],
    Error.args_of_hasArgs (List.cons_ne_nil _ _) stands.args, fun noFault => ?_, fun f same => ?_⟩
  · obtain ⟨a, tells⟩ := declared.tells noFault
    have first := fun v hv => (bare v (List.mem_cons_of_mem _ hv)).mono fun _ => course.untouched
    have told := course.tells bare (tells.kept first fun _ _ _ found => grown.get? found)
    rw [Store.plain_error found stands.holds, told.plain]
    exact (tells.plain (Store.depth - 1)).symm.trans shown
  · subst same
    obtain ⟨f', fault, same, there⟩ := declared.transport rfl
    cases same
    obtain ⟨fault', there', cls'⟩ := course.fault (grown.get? there)
    refine ⟨fault, fault', there, there', Store.lasts_plain_error found stands.holds, ?_, ?_⟩
    · intro immediate
      rw [Store.plain_error_of_told found stands.holds ⟨fault', there', rfl, .refl _⟩ immediate
        now.store (Store.depth - 2)]
      exact (Store.plain_fault_upTo there' (Store.depth - 1)).symm
    · intro immediate alike later idling bare'
      have told : fault.StillTold now.store f := ⟨fault', there', cls', alike⟩
      obtain ⟨course', told⟩ := idling.stillTold told
      have stands' := course'.stands bare' stands
      obtain ⟨error', found', same⟩ := stands'.found
      rw [Store.plain_error_of_told found' (same ▸ stands'.holds) told immediate before.store
        (Store.depth - 2)]
      exact (Store.plain_fault_upTo there (Store.depth - 1)).symm.trans shown

def adorning : List Script.Step :=
  [.set (.var "f") "host" (.text "b"), .call (.var "f") "add_note" [.text "late"] none,
    .set (.var "f") "characters_written" (.int 7), .call (.var "e") "into_io" [] (some "g")]

theorem built_text_kept_adorned :
    let missing : Fault :=
      { cls := .fileNotFound, args := [.int 2, .text "gone"], errorNumber := some (.int 2),
        errorText := some (.text "gone") }
    let before : Session :=
      ⟨(Store.initial.push (.fault missing)).push (.kind (.transport (.object 16))), []⟩
    let start : Session := ⟨before.store.push
      (.error { cls := .base, kind := 17, args := [.text "[Errno 2] gone"] }), []⟩
    let built : Script.State :=
      { session := start, vars := [("f", ⟨.object 16, none⟩), ("e", ⟨.object 18, none⟩)] }
    let now := (built.after (adorning ++ [.clone (.var "e") .stored none])).session
    Error.around .base 17 before = (.ok (.object 18), start) ∧
      now.store.plain (.object 18) = .ok "[Errno 2] gone" ∧
      ∃ place after, Action.getAttribute (.object 18) "args" now = (.ok (.object place), after) ∧
        after.store.get? place = some (.tuple [.text "[Errno 2] gone"]) := by
  intro missing before start built now
  have made : Error.around .base 17 before = (.ok (.object 18), start) := by rfl
  have declared : (Kind.transport (.object 16)).Declared before.store :=
    .ofFailure (.transport (show before.store.get? 16 = some (.fault missing) from rfl))
  have never : Script.NeverRecalls built (adorning ++ [.clone (.var "e") .stored none]) :=
    ⟨id, fun h => absurd h.1 (by decide), id, fun h => absurd h.1 (by decide), id, trivial⟩
  have sound : built.Sound := by
    refine ⟨((Store.initial_sound.push (by decide)).push (by decide)).push (by decide), ?_⟩
    exact show ∀ v ∈ [Value.object 16, .object 18], start.store.Has v by decide
  have named : start.store.MethodsNamed :=
    ((Store.initial_methodsNamed.pushPlain rfl).pushPlain rfl).pushPlain rfl
  have stored : (Script.Step.clone (.var "e") .stored none).ClonesBy
      (.boundAt (Error.Core 18 17 (.transport (.object 16)))) (built.after adorning).vars
        (Script.Step.start (built.after adorning)) := by
    refine Script.clonesBy_of_unhooked (sound.after _).1
      (Script.after_methodsNamed sound named _) ?_
    intro v mid run name _ owner _ w _
    have same : mid = Script.Step.start (built.after adorning) :=
      (congrArg Prod.snd run).symm.trans (Script.Expr.eval_var _ _ _)
    rw [same]
    exact Store.not_isBound (by decide +kernel) w
  have keeps : Script.NeverAssigns (Error.Core 18 17 (.transport (.object 16))) built
      (adorning ++ [.clone (.var "e") .stored none]) := by
    refine .append ⟨fun _ _ h => absurd h.1 (by decide), Script.clonesBy_of_ne nofun,
      fun _ _ h => absurd h.1 (by decide), Script.clonesBy_of_ne nofun,
      fun _ _ h => absurd h.1 (by decide), Script.clonesBy_of_ne nofun,
      fun _ _ h => absurd h.1 (by decide), Script.clonesBy_of_ne nofun, trivial⟩ ?_
    exact ⟨fun _ _ => id, stored, trivial⟩
  have unbound : now.store.isUnbound = true := by decide +kernel
  have course : Course (Error.Core 18 17 (.transport (.object 16))) start now :=
    Script.course_after never keeps (fun ⟨_, _, _, bound, _⟩ => Store.get?_ne_method unbound bound)
      fun _ _ ⟨_, bound⟩ => Store.get?_ne_method unbound bound
  have bare : (Kind.transport (.object 16)).Bare now.store 17 := by decide +kernel
  obtain ⟨text, shown, args, -, wraps⟩ := built_text_kept rfl declared made course bare
  have text_eq : text = "[Errno 2] gone" := Except.ok.inj (shown.symm.trans (by decide +kernel))
  subst text_eq
  obtain ⟨fault, fault', there, there', -, -, same⟩ := wraps 16 rfl
  have found : now.store.get? 16 = some (.fault { missing with
      charactersWritten := some 7
      attributes := [("host", .text "b"), ("__notes__", .object 19)] }) := by
    decide +kernel
  cases there
  cases found.symm.trans there'
  have immediate : missing.TellsImmediates := by
    refine ⟨?_, ?_, nofun⟩ <;> intro v hv
    · simp only [missing, List.mem_cons, List.not_mem_nil, or_false] at hv
      rcases hv with rfl | rfl <;> trivial
    · rcases Fault.mem_slots_iff.mp hv with h | h | h | h <;> cases h <;> trivial
  exact ⟨made, same immediate ⟨rfl, rfl, rfl, rfl, rfl, nofun⟩ now (.refl _) bare, args⟩

def alerting : List Script.Step :=
  [.display (.build (.fault .tls) [.text "a", .text "b"]) (some "f"),
    .display (.build (.error .base .transport) [.var "f"]) (some "e")]

def recoding : List Script.Step :=
  [.display (.build .reason [.int 5]) (some "r"),
    .display (.build (.error .base .reason) [.var "r"]) (some "e"),
    .call (.var "r") "__init__" [.int 8] none]

def revaluing : List Script.Step :=
  [.display (.build (.error .base .misuse) [.member .misuse "REJECTED"]) (some "e"),
    .set (.member .misuse "REJECTED") "_value_" (.text "x")]

/-- What is not promised. The text of the first fault reads its host, so setting that changes it and
no slot. Another code changes the text of an error that wraps no fault, whether a constructor is
called again for it or a state is given to the reason, and so does another value of the misuse. All
errors keep the text that they were built with as their argument. -/
theorem text_leaves_args :
    let built := Script.State.initial.after alerting
    let alerted := (built.after [.set (.var "f") "host" (.text "c")]).session.store
    let recoded := (Script.State.initial.after recoding).session.store
    let restated := (Script.State.initial.after restating).session.store
    let revalued := (Script.State.initial.after revaluing).session.store
    (∃ fault fault' error, built.session.store.get? 16 = some (.fault fault) ∧
      alerted.get? 16 = some (.fault fault') ∧ Change.IsPlain "host" ∧
      fault'.args = fault.args ∧ fault'.slots = fault.slots ∧
      built.session.store.plain (.object 18) = .ok "TLS alert from a: b" ∧
      alerted.get? 18 = some (.error error) ∧ error.args = [.text "TLS alert from a: b"] ∧
      alerted.plain (.object 18) = .ok "TLS alert from c: b") ∧
    (∃ error, recoded.get? 18 = some (.error error) ∧
      recoded.kind? error.kind = some (.reason (.object 16)) ∧
      error.args = [.text "protocol error: stream closed"] ∧
      recoded.plain (.object 18) = .ok "protocol error: cancel") ∧
    (∃ error, restated.get? 20 = some (.error error) ∧
      error.args = [.text "stream reset by remote: stream closed"] ∧
      restated.plain (.object 20) = .ok "stream reset by remote: unknown reason code: -5") ∧
    ∃ error, revalued.get? 17 = some (.error error) ∧
      error.args = [.text "user error: rejected"] ∧
      revalued.plain (.object 17) = .ok "user error: x" := by
  intro built alerted recoded restated revalued
  let fault : Fault :=
    { cls := .tls, args := [.text "b"],
      attributes := [("host", .text "a"), ("alert", .text "b")] }
  refine ⟨?_, ?_, ?_, ?_⟩
  · refine ⟨fault, { fault with attributes := [("host", .text "c"), ("alert", .text "b")] },
      { cls := .base, kind := 17, args := [.text "TLS alert from a: b"] }, ?_, ?_,
      rfl, rfl, rfl, ?_, ?_, rfl, ?_⟩
    all_goals decide +kernel
  · exact ⟨{ cls := .base, kind := 17, args := [.text "protocol error: stream closed"] },
      by decide +kernel, by decide +kernel, rfl, by decide +kernel⟩
  · exact ⟨{ cls := .base, kind := 19, args := [.text "stream reset by remote: stream closed"] },
      by decide +kernel, rfl, by decide +kernel⟩
  · exact ⟨{ cls := .base, kind := 16, args := [.text "user error: rejected"] },
      by decide +kernel, rfl, by decide +kernel⟩

end Http2Failure
