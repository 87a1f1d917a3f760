import Http2Failure.Proofs.Adorned
import Http2Failure.Proofs.Likeness
import Http2Failure.Proofs.Sharing
import Http2Failure.Proofs.TwinClones

/-!
# Errors that were stored and read back

An error is stored with its kind, and read back with a kind of its own. If that holds no fault it is
a twin of the first one; a fault is built once more from the arguments that it is stored with, and
then gets twins of its attributes.
-/

namespace Http2Failure

namespace Fault

variable {f g : Fault} {s : Store}

theorem SameSlots.plain_eq {render : Renderer} (same : f.SameSlots g)
    (alike : render.AlikeOn (fun _ => False) render) (notTls : f.cls ≠ .tls)
    (args : ∀ v ∈ f.args, v.Immediate) (x y : Ref) :
    g.plain render [] y = f.plain render [] x := by
  have form : g.argsForm render [] y = f.argsForm render [] x :=
    Carried.argsForm_eq_of_outside alike same.args args id id
  have carried : g.toCarried.plain render [] y = f.toCarried.plain render [] x :=
    Carried.plain_eq_of_argsForm same.args (fun _ _ => rfl) form
  simp only [Fault.plain, same.cls, if_neg notTls, same.fileName, same.fileName2, Fault.heading,
    same.errorNumber, same.errorText, carried]

theorem renderUpTo_immediate {v : Value} (h : v.Immediate) (s : Store) (n : Nat) (p : Pending)
    (form : Form) : ∃ text, s.renderUpTo (n + 1) p form v = .ok text := by
  cases v with
  | object | misuse | initiator => exact h.elim
  | _ => exact ⟨_, rfl⟩

theorem argsForm_ok {c : Carried} (args : ∀ v ∈ c.args, v.Immediate) (s : Store) (n : Nat)
    (p : Pending) (x : Ref) : ∃ text, c.argsForm (s.renderUpTo (n + 1)) p x = .ok text := by
  by_cases shown : c.argsTuple.getD x ∈ p
  · exact ⟨"(...)", if_pos shown⟩
  · obtain ⟨items, written⟩ := mapM_ok fun v hv =>
      renderUpTo_immediate (args v hv) s n (c.argsTuple.getD x :: p) .quoted
    exact ⟨Rendering.tupleForm items, by
      rw [Carried.argsForm, Rendering.enclosed, if_neg shown, written]; rfl⟩

theorem plain_ok (notTls : f.cls ≠ .tls) (args : ∀ v ∈ f.args, v.Immediate)
    (slots : ∀ v ∈ f.slots, v.Immediate) (n : Nat) (x : Ref) :
    ∃ text, f.plain (s.renderUpTo (n + 1)) [] x = .ok text := by
  have written : ∀ {v : Value}, v.Immediate → ∀ p form,
      ∃ text, s.renderUpTo (n + 1) p form v = .ok text := fun h => renderUpTo_immediate h s n
  have slot : ∀ {v? : Option Value}, (∀ v, v? = some v → v ∈ f.slots) →
      (v?.getD .null).Immediate := fun h =>
    Value.inside_getD fun v hv => slots v (h v (Option.mem_toList.mp hv))
  obtain ⟨heading, headed⟩ : ∃ text, f.heading (s.renderUpTo (n + 1) []) = .ok text := by
    obtain ⟨number, hn⟩ := written (slot fun v hv => mem_slots_iff.mpr (.inl hv)) [] .plain
    obtain ⟨text, ht⟩ := written (slot fun v hv => mem_slots_iff.mpr (.inr (.inl hv))) [] .plain
    exact ⟨_, by rw [Fault.heading, hn, ht]; rfl⟩
  unfold Fault.plain
  rw [if_neg notTls]
  split
  · rename_i file file2 first second
    obtain ⟨a, ha⟩ := written (slots file (mem_slots_iff.mpr (.inr (.inr (.inl first))))) [] .quoted
    obtain ⟨b, hb⟩ :=
      written (slots file2 (mem_slots_iff.mpr (.inr (.inr (.inr second))))) [] .quoted
    exact ⟨_, by rw [headed, ha, hb]; rfl⟩
  · rename_i file first second
    obtain ⟨a, ha⟩ := written (slots file (mem_slots_iff.mpr (.inr (.inr (.inl first))))) [] .quoted
    exact ⟨_, by rw [headed, ha]; rfl⟩
  · split
    · exact ⟨heading, headed⟩
    · unfold Carried.plain
      split
      · exact ⟨_, rfl⟩
      · rename_i arg only
        exact written (args arg (only ▸ List.mem_cons_self)) [] .plain
      · exact argsForm_ok args s n [] x

/-- What it takes to build a fault once more from what is stored of it: arguments that give its
slots, and attributes that are data, each with one name, none of them in the place of the methods
that give out its parts. -/
structure Storable (s : Store) (n : Nat) (f : Fault) : Prop where
  again : ∃ base : Fault, base.SameSlots f ∧ base.attributes = [] ∧
    ∀ t, construct t f.cls f.storedArgs = .ok base
  args : ∀ v ∈ f.storedArgs, v.Immediate
  distinct : f.attributes.names.Nodup
  unreplaced : f.attributes.partsCall? .stored true = none
  data : ∀ v ∈ f.attributes.map Prod.snd, s.IsData n v

/-- What comes back of a fault: all that is in its slots, and twins of its attributes. -/
structure Restores (s t : Store) (P : Ref → Prop) (n : Nat) (f g : Fault) : Prop where
  slots : f.SameSlots g
  attributes : List.Forall₂ (fun a b => b.1 = a.1 ∧ s.Twins t P n a.2 b.2) f.attributes
    g.attributes

end Fault

namespace Store

variable {s t : Store} {P : Ref → Prop} {n : Nat}

theorem not_isData_fault {f : Ref} {fault : Fault} (found : s.get? f = some (.fault fault)) :
    ¬ s.IsData n (.object f) := by
  intro data
  cases data with
  | immediate h => exact h
  | member h => cases h
  | object found' _ parts =>
    cases found.symm.trans found'
    cases parts

theorem not_isData_transport {f κ : Ref} {fault : Fault}
    (holds : s.kind? κ = some (.transport (.object f))) (found : s.get? f = some (.fault fault)) :
    ¬ s.IsData n (.object κ) := by
  intro data
  cases data with
  | immediate h => exact h
  | member h => cases h
  | object found' _ parts rest =>
    cases (kind?_eq_some_iff.mp holds).symm.trans found'
    cases parts
    exact not_isData_fault found (rest _ List.mem_cons_self)

end Store

namespace Cloning

variable {s t : Store} {opened : List (Ref × Ref)} {n m : Nat}

theorem names_of_forall₂ {attrs attrs' : Attributes} {R : Value → Value → Prop}
    (h : List.Forall₂ (fun a b => b.1 = a.1 ∧ R a.2 b.2) attrs attrs') :
    attrs'.names = attrs.names := by
  induction h with
  | nil => rfl
  | cons first _ ih => exact congrArg₂ List.cons first.1 ih

theorem not_isError_fault {f : Ref} {fault : Fault} (found : s.get? f = some (.fault fault)) :
    ¬ IsError s (.object f) := by
  rintro ⟨error, found'⟩
  cases found.symm.trans found'

theorem cloneFault_run (shared : s.get? Store.emptyTupleRef = some (.tuple [])) {f : Ref}
    {fault : Fault} (found : s.get? f = some (.fault fault)) (storable : fault.Storable s (n + 1))
    (deep : n + 1 ≤ m) (apart : ∀ entry ∈ opened, ∀ n, ¬ s.IsData n (.object entry.1))
    {memory : Memory} (fits : Fits s opened t memory)
    (unknown : memory.clones.lookup (.object f) = none) (log : List LogRecord) :
    ∃ q copy memory' u, cloneObject .stored (cloneUpTo .stored m) f (.fault fault) memory ⟨t, log⟩ =
        (.ok (.object q, memory'), ⟨u, log⟩) ∧ t.Extends u ∧ Fits s opened u memory' ∧
      s.size ≤ q ∧ Finished opened q ∧ u.get? q = some (.fault copy) ∧
      fault.Restores s u (Finished opened) (n + 1) copy := by
  obtain ⟨base, slots, bare, construct⟩ := storable.again
  obtain ⟨m, rfl⟩ : ∃ k, m = k + 1 := ⟨m - 1, by omega⟩
  have filled : Makes s opened t (cloneAround f (.fault base) fun _ => do
      let attrs ← cloneAttributes (cloneUpTo .stored (m + 1)) fault.attributes
      return .fault (base.withAttributes (base.attributes.insertAll attrs))) fun u w =>
        ∃ q copy, w = .object q ∧ s.size ≤ q ∧ Finished opened q ∧ u.get? q = some (.fault copy) ∧
          fault.Restores s u (Finished opened) (n + 1) copy := by
    refine Makes.cloneAround (not_isError_fault found) (P := fun v o => ∃ attrs : Attributes,
      o = .fault (base.withAttributes attrs) ∧
        List.Forall₂ (fun a b => b.1 = a.1 ∧
          s.Twins v (Finished ((f, t.size) :: opened)) (n + 1) a.2 b.2) fault.attributes attrs)
      ?_ ?_ ?_
    · have apart' : ∀ entry ∈ (f, t.size) :: opened, ¬ s.IsData (n + 1) (.object entry.1) :=
        List.forall_mem_cons.mpr ⟨Store.not_isData_fault found, fun entry he => apart entry he _⟩
      refine (Makes.mapM (R := fun v (a b : String × Value) => b.1 = a.1 ∧
        s.Twins v (Finished ((f, t.size) :: opened)) (n + 1) a.2 b.2)
        (fun {_ _ _ _} grown twins => ⟨twins.1, twins_extends twins.2 grown⟩)
        fun entry he v grown => ?_).bind fun v attrs _ rest => .pure ⟨attrs, ?_, rest⟩
      · have held := storable.data entry.2 (List.mem_map_of_mem he)
        have more := (fits.more.trans (Store.extends_push t _)).trans grown
        exact (makes_cloneUpTo .stored shared held deep more apart').bind fun _ w _ twins =>
          .pure ⟨rfl, twins⟩
      · have distinct : Attributes.names ([] ++ attrs) = fault.attributes.names :=
          names_of_forall₂ rest
        rw [bare, Attributes.insertAll_of_nodup (distinct.symm ▸ storable.distinct),
          List.nil_append]
    · rintro v o ⟨attrs, rfl, rest⟩ finished _ bound
      refine ⟨t.size, base.withAttributes attrs, rfl, fits.more.size_le, finished,
        Store.get?_put_self _ bound, slots.symm.carrying rfl,
        rest.imp fun a b twins => ⟨twins.1, ?_⟩⟩
      refine twins.2.imp fun q o' finished' there => ⟨fun entry he => ?_, ?_⟩
      · exact finished' entry (List.mem_cons_of_mem _ he)
      · exact (Store.get?_put_ne _ (finished' _ List.mem_cons_self)).trans there
    · exact fun _ _ _ _ data => absurd data (Store.not_isData_fault found)
  obtain ⟨w, memory', u, run, more, fits', q, copy, rfl, rest⟩ := filled memory log fits
  refine ⟨q, copy, memory', u, ?_, more, fits', rest⟩
  simp only [cloneObject, state_bind_apply, mapM_immediate fits m log storable.args,
    state_lift_apply, Action.read_apply, construct t, unlessReadBack_apply unknown]
  exact run

end Cloning

end Http2Failure
