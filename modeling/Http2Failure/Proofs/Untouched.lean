import Http2Failure.Proofs.Agreement

/-!
# Members that nothing was given to

A member of an enumeration is shared by all its uses, and what it holds can be set like an
attribute. As long as that was never done its value and its name are those from the start, and so
are its forms.
-/

namespace Http2Failure

theorem Object.carried?_of_record? {o : Object} {record : Record}
    (frozen : o.record? = some record) : o.carried? = none := by
  cases o <;> first | rfl | cases frozen

namespace Store

/-- Nothing was given to the value since the start, and nothing was taken from it. -/
def Untouched (s : Store) (v : Value) : Prop := s.given.lookup v = none

instance (s : Store) (v : Value) : Decidable (s.Untouched v) :=
  inferInstanceAs (Decidable (_ = none))

def Fresh (s : Store) : Prop := ∀ r, s.size ≤ r → s.Untouched (.object r)

variable {s t : Store} {v : Value} {text name : String} {place : Nat}

theorem Closed.fresh (closed : s.Closed) : s.Fresh := by
  intro r behind
  refine List.lookup_eq_none_iff.mpr fun entry listed => ?_
  have below := closed.given entry listed entry.1 List.mem_cons_self
  refine bne_iff_ne.mpr fun same => ?_
  rw [← same] at below
  exact absurd below (Nat.not_lt_of_le behind)

theorem lookup_give_self (s : Store) (v : Value) (attrs : Attributes) :
    (s.give v attrs).given.lookup v = some attrs := by
  rw [give, List.lookup_cons, beq_self_eq_true]

theorem lookup_give_of_ne {w : Value} (s : Store) (attrs : Attributes) (other : w ≠ v) :
    (s.give v attrs).given.lookup w = s.given.lookup w := by
  have among : (s.given.filter fun entry => entry.1 != v).lookup w = s.given.lookup w := by
    induction s.given with
    | nil => rfl
    | cons entry rest ih =>
      rw [List.filter_cons]
      split
      · rw [List.lookup_cons, List.lookup_cons, ih]
      · rename_i gone
        have same : entry.1 = v := by simpa using gone
        rw [ih, List.lookup_cons, beq_false_of_ne (same ▸ other)]
  rw [give, List.lookup_cons, beq_false_of_ne other, among]

theorem untouched_of_give {w : Value} {attrs : Attributes}
    (untouched : (s.give v attrs).Untouched w) : s.Untouched w := by
  by_cases same : w = v
  · subst same
    cases (lookup_give_self s w attrs).symm.trans untouched
  · exact (lookup_give_of_ne s attrs same).symm.trans untouched

theorem AgreesOn.untouched {P : Value → Prop} (agree : AgreesOn P s t) (inside : P v)
    (untouched : s.Untouched v) : t.Untouched v :=
  (agree.given inside).trans untouched

theorem attributesOf_of_untouched (member : v.isMember = true) (untouched : s.Untouched v) :
    s.attributesOf v = v.ownAttributes := by
  have none : s.given.lookup v = none := untouched
  rw [attributesOf_of_isMember member, none, Option.getD_none]

theorem attributesOf_of_bare {r : Ref} {o : Object} (found : s.get? r = some o)
    (plain : o.carried? = none) (bare : s.Untouched (.object r)) :
    s.attributesOf (.object r) = [] := by
  have none : s.given.lookup (.object r) = none := bare
  simp only [attributesOf, object?, found, Option.bind_some, plain, none, Option.getD_none]
  rfl

theorem attributesOf_of_lookup {r : Ref} {o : Object} {attrs : Attributes}
    (found : s.get? r = some o) (plain : o.carried? = none)
    (given : s.given.lookup (.object r) = some attrs) : s.attributesOf (.object r) = attrs := by
  simp only [attributesOf, object?, found, Option.bind_some, plain, given, Option.getD_some]

section

variable (own : v.ownAttributes = Value.ofMember text name place) (untouched : s.Untouched v)
include own untouched

theorem heldByMember_of_untouched :
    s.heldByMember v "_value_" = .ok (.text text) ∧
      s.heldByMember v "_name_" = .ok (.text name) := by
  have member : v.isMember = true := by
    cases v with
    | misuse | initiator => rfl
    | _ => cases own
  rw [heldByMember, heldByMember, attributesOf_of_untouched member untouched, own]
  exact ⟨rfl, rfl⟩

theorem plain_of_untouched (n : Nat) (p : Pending) :
    s.renderUpTo (n + 1) p .plain v = .ok text := by
  obtain ⟨value, -⟩ := heldByMember_of_untouched own untouched
  cases v with
  | misuse | initiator => simp only [renderUpTo, renderMember, value, bind, Except.bind]; rfl
  | _ => cases own

theorem quoted_of_untouched (n : Nat) (p : Pending) :
    s.renderUpTo (n + 2) p .quoted v =
      .ok (Rendering.member (s.typeName v) name (Text.quoted text)) := by
  obtain ⟨value, name⟩ := heldByMember_of_untouched own untouched
  cases v with
  | misuse | initiator =>
    simp only [renderUpTo, renderMember, value, name, bind, Except.bind]
    rfl
  | _ => cases own

end

end Store

end Http2Failure
