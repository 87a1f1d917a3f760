import Http2Failure.Proofs.Action
import Http2Failure.Proofs.Reach

/-!
# Stores that agree

Two stores with the same objects at a closed set of places answer every question about a value of
that set alike: its type, its bytes, its items, and what it is equal to.
-/

namespace Http2Failure

theorem mapM_congr {α β ε : Type} {f g : α → Except ε β} {items : List α}
    (h : ∀ a ∈ items, f a = g a) : items.mapM f = items.mapM g := by
  induction items with
  | nil => rfl
  | cons a rest ih =>
    have rest := ih fun b hb => h b (List.mem_cons_of_mem a hb)
    rw [List.mapM_cons, List.mapM_cons, h a List.mem_cons_self, rest]

theorem forM_congr {α ε : Type} {f g : α → Except ε Unit} {items : List α}
    (h : ∀ a ∈ items, f a = g a) : items.forM f = items.forM g := by
  induction items with
  | nil => rfl
  | cons a rest ih =>
    have rest' := ih fun b hb => h b (List.mem_cons_of_mem a hb)
    change (f a >>= fun _ => rest.forM f) = (g a >>= fun _ => rest.forM g)
    rw [h a List.mem_cons_self, rest']

namespace Store

theorem ClosedOn.heldByMember {P : Value → Prop} {s : Store} (closed : s.ClosedOn P) {v w : Value}
    {name : String} (inside : P v) (member : v.isMember = true)
    (held : s.heldByMember v name = .ok w) : w.Inside P := by
  unfold Store.heldByMember at held
  split at held
  · rename_i found
    cases held
    obtain ⟨before, after, entries, -⟩ := List.lookup_eq_some_iff.mp found
    refine closed.members v inside member _ (List.mem_map.mpr ⟨(name, w), ?_, rfl⟩)
    exact entries ▸ List.mem_append_right before List.mem_cons_self
  · cases held

namespace AgreesOn

variable {P : Value → Prop} {s t : Store}

theorem object? (agree : AgreesOn P s t) {v : Value} (inside : v.Inside P) :
    t.object? v = s.object? v := by
  cases v with
  | object r => exact agree.objects inside
  | _ => rfl

theorem typeName (agree : AgreesOn P s t) {v : Value} (inside : v.Inside P) :
    t.typeName v = s.typeName v := by
  cases v with
  | object r => simp only [Store.typeName, agree.objects inside]
  | _ => rfl

theorem kind? (agree : AgreesOn P s t) {r : Ref} (inside : P (.object r)) :
    t.kind? r = s.kind? r := by
  simp only [Store.kind?, agree.objects inside]

theorem number? (agree : AgreesOn P s t) {v : Value} (inside : v.Inside P) :
    t.number? v = s.number? v := by
  cases v with
  | object r => simp only [Store.number?, agree.objects inside]
  | _ => rfl

theorem isReleased (agree : AgreesOn P s t) {v : Value} (inside : v.Inside P) :
    t.isReleased v = s.isReleased v := by
  simp only [Store.isReleased, agree.object? inside]

theorem isView (agree : AgreesOn P s t) {v : Value} (inside : v.Inside P) :
    t.isView v = s.isView v := by
  simp only [Store.isView, agree.object? inside]

theorem methodOwner (agree : AgreesOn P s t) {v : Value} (inside : v.Inside P)
    (method : String) : t.methodOwner v method = s.methodOwner v method := by
  simp only [Store.methodOwner, agree.object? inside, agree.typeName inside]

theorem bytes? (agree : AgreesOn P s t) (closed : s.ClosedOn P) {v : Value}
    (inside : v.Inside P) : t.bytes? v = s.bytes? v := by
  cases v with
  | object r =>
    simp only [Store.bytes?, agree.objects inside]
    cases found : s.get? r with
    | none => rfl
    | some o =>
      cases o with
      | view source =>
        have held : source.Inside P := closed.shown r _ inside found source List.mem_cons_self
        cases source with
        | object b => simp only [agree.objects held]
        | _ => rfl
      | _ => rfl
  | _ => rfl

theorem truthy (agree : AgreesOn P s t) (closed : s.ClosedOn P) {v : Value}
    (inside : v.Inside P) : t.truthy v = s.truthy v := by
  simp only [Store.truthy, agree.bytes? closed inside, agree.number? inside]
  cases v with
  | object r => simp only [agree.objects inside]
  | _ => rfl

theorem elements (agree : AgreesOn P s t) (closed : s.ClosedOn P) {v : Value}
    (inside : v.Inside P) : t.elements v = s.elements v := by
  simp only [Store.elements, agree.bytes? closed inside, agree.typeName inside]
  cases v with
  | object r => simp only [agree.objects inside]
  | _ => rfl

theorem heldByMember (agree : AgreesOn P s t) {v : Value} (inside : v.Inside P) (name : String) :
    t.heldByMember v name = s.heldByMember v name := by
  simp only [Store.heldByMember, agree.attributesOf inside, agree.typeName inside]

end AgreesOn

theorem allEqual_congr {equal equal' : Value → Value → Bool} {as bs : List Value}
    (h : ∀ a ∈ as, ∀ b ∈ bs, equal' a b = equal a b) :
    allEqual equal' as bs = allEqual equal as bs := by
  induction as generalizing bs with
  | nil => cases bs <;> rfl
  | cons a as ih =>
    cases bs with
    | nil => rfl
    | cons b bs =>
      have rest := ih fun x hx y hy => h x (List.mem_cons_of_mem a hx) y (List.mem_cons_of_mem b hy)
      simp only [allEqual, h a List.mem_cons_self b List.mem_cons_self, rest]

theorem equalToObject?_congr {equal equal' : Value → Value → Bool} {x y : Object}
    (h : ∀ a ∈ x.shown, ∀ b ∈ y.shown, equal' a b = equal a b) :
    equalToObject? equal' x y = equalToObject? equal x y := by
  have records : ∀ {p q : Record}, x.record? = some p → y.record? = some q →
      allEqual equal' (p.fields.map Prod.snd) (q.fields.map Prod.snd) =
        allEqual equal (p.fields.map Prod.snd) (q.fields.map Prod.snd) := fun hp hq =>
    allEqual_congr fun a ha b hb =>
      h a (Object.fields_subset_shown hp ha) b (Object.fields_subset_shown hq hb)
  unfold equalToObject?
  split
  · exact congrArg some (allEqual_congr h)
  · exact congrArg some (allEqual_congr h)
  · rfl
  · split
    · rename_i hp hq
      rw [records hp hq]
    · rfl

namespace AgreesOn

variable {P : Value → Prop} {s t : Store}

theorem equalTo? (agree : AgreesOn P s t) (closed : s.ClosedOn P)
    {equal equal' : Value → Value → Bool}
    (h : ∀ a b : Value, a.Inside P → b.Inside P → equal' a b = equal a b)
    {a b : Value} (ha : a.Inside P) (hb : b.Inside P) :
    t.equalTo? equal' a b = s.equalTo? equal a b := by
  simp only [Store.equalTo?, agree.isReleased ha, agree.isReleased hb, agree.isView ha,
    agree.number? ha, agree.number? hb, agree.bytes? closed ha, agree.bytes? closed hb]
  cases a with
  | object r =>
    cases b with
    | object q =>
      simp only [agree.objects ha, agree.objects hb]
      cases found : s.get? r with
      | none => rfl
      | some x =>
        cases found' : s.get? q with
        | none => rfl
        | some y =>
          have same : equalToObject? equal' x y = equalToObject? equal x y :=
            equalToObject?_congr fun v hv w hw =>
              h v w (closed.shown r x ha found v hv) (closed.shown q y hb found' w hw)
          simp only [same]
    | _ => rfl
  | text => cases b <;> rfl
  | _ => rfl

theorem equalUpTo (agree : AgreesOn P s t) (closed : s.ClosedOn P) (depth : Nat) {a b : Value}
    (ha : a.Inside P) (hb : b.Inside P) : t.equalUpTo depth a b = s.equalUpTo depth a b := by
  induction depth generalizing a b with
  | zero => rfl
  | succ depth ih =>
    have inner : ∀ v w : Value, v.Inside P → w.Inside P →
        t.equalUpTo depth v w = s.equalUpTo depth v w := fun v w hv hw => ih hv hw
    simp only [Store.equalUpTo, agree.equalTo? closed inner ha hb,
      agree.equalTo? closed inner hb ha]

theorem hashableUpTo (agree : AgreesOn P s t) (closed : s.ClosedOn P) (depth : Nat) {v : Value}
    (inside : v.Inside P) : t.hashableUpTo depth v = s.hashableUpTo depth v := by
  induction depth generalizing v with
  | zero => rfl
  | succ depth ih =>
    cases v with
    | object r =>
      simp only [Store.hashableUpTo, agree.objects inside]
      cases found : s.get? r with
      | none => rfl
      | some o =>
        have held := closed.shown r o inside found
        have records : ∀ {record : Record}, o.record? = some record →
            (record.fields.map Prod.snd).forM (t.hashableUpTo depth) =
              (record.fields.map Prod.snd).forM (s.hashableUpTo depth) := fun h =>
          forM_congr fun w hw => ih (held w (Object.fields_subset_shown h hw))
        cases o with
        | tuple items => exact forM_congr fun w hw => ih (held w hw)
        | reason | streamId | report | sendFailure | kind => exact records rfl
        | view source => cases source <;> rfl
        | _ => rfl
    | misuse | initiator =>
      simp only [Store.hashableUpTo, agree.heldByMember inside]
      refine bind_congr_ok fun name held => ih (closed.heldByMember inside rfl held)
    | _ => rfl

theorem under? (agree : AgreesOn P s t) (closed : s.ClosedOn P) {v : Value}
    (inside : v.Inside P) (table : List (Nat × String)) : t.under? table v = s.under? table v := by
  have equal : ∀ code : Nat, t.equal v (.int code) = s.equal v (.int code) := fun _ =>
    agree.equalUpTo closed depth inside trivial
  simp only [Store.under?, hashable, agree.hashableUpTo closed depth inside, equal]

end AgreesOn

end Store

namespace Reason

variable {P : Value → Prop} {s t : Store}

theorem nameOf_congr (agree : s.AgreesOn P t) {v : Value} (inside : v.Inside P) :
    nameOf t v = nameOf s v := by
  simp only [nameOf, agree.object? inside, agree.typeName inside]

theorem descriptionOf_congr (agree : s.AgreesOn P t) (closed : s.ClosedOn P)
    {plain plain' : Value → Except Refusal String} {v : Value} (inside : v.Inside P)
    (h : plain' v = plain v) : descriptionOf t plain' v = descriptionOf s plain v := by
  simp only [descriptionOf, agree.under? closed inside, h]

end Reason

end Http2Failure
