import Http2Failure.Proofs.Reach

/-!
# Comparing objects

Frozen records of one class are equal where their fields are, and an exception is equal to itself
alone. Neither can be taken for a number, for bytes or for a view of them.
-/

namespace Http2Failure

def Object.IsRigid (o : Object) : Prop := o.record?.isSome ∨ o.carried?.isSome

namespace Store

variable {s : Store} {q r : Ref} {x y : Object} {a b : Record} {n : Nat}

theorem of_rigid (found : s.get? q = some x) (rigid : x.IsRigid) :
    s.number? (.object q) = none ∧ s.bytes? (.object q) = none ∧
      s.isReleased (.object q) = false ∧ s.isView (.object q) = false := by
  cases x with
  | reason | streamId | report | sendFailure | kind | fault | exception | error =>
    simp [number?, bytes?, isReleased, isView, object?, found]
  | _ => rcases rigid with h | h <;> cases h

theorem equalTo?_rigid (found : s.get? q = some x) (found' : s.get? r = some y) (rigid : x.IsRigid)
    (rigid' : y.IsRigid) (equal : Value → Value → Bool) :
    s.equalTo? equal (.object q) (.object r) =
      (equalToObject? equal x y).or (if q = r then some true else none) := by
  obtain ⟨number, bytes, released, view⟩ := of_rigid found rigid
  obtain ⟨number', bytes', -, -⟩ := of_rigid found' rigid'
  simp only [equalTo?, released, view, Bool.false_and, Bool.or_false, Bool.false_eq_true, if_false,
    number, number', bytes, bytes', found, found']

theorem equalTo?_frozen (found : s.get? q = some x) (found' : s.get? r = some y)
    (frozen : x.record? = some a) (frozen' : y.record? = some b) (name : a.className = b.className)
    (equal : Value → Value → Bool) : s.equalTo? equal (.object q) (.object r) =
      some (allEqual equal (a.fields.map Prod.snd) (b.fields.map Prod.snd)) := by
  have answer : equalToObject? equal x y =
      some (allEqual equal (a.fields.map Prod.snd) (b.fields.map Prod.snd)) := by
    unfold equalToObject?
    split
    · cases frozen
    · cases frozen
    · cases frozen
    · simp only [frozen, frozen', name, if_true]
  rw [equalTo?_rigid found found' (.inl (frozen ▸ rfl)) (.inl (frozen' ▸ rfl)), answer,
    Option.some_or]

theorem equalUpTo_frozen (found : s.get? q = some x) (found' : s.get? r = some y)
    (frozen : x.record? = some a) (frozen' : y.record? = some b) (name : a.className = b.className)
    (n : Nat) : s.equalUpTo (n + 1) (.object q) (.object r) =
      allEqual (s.equalUpTo n) (a.fields.map Prod.snd) (b.fields.map Prod.snd) := by
  rw [equalUpTo, equalTo?_frozen found found' frozen frozen' name]
  rfl

theorem allEqual_self (equal : Value → Value → Bool) (vs : List Value) :
    allEqual equal vs vs = true := by
  induction vs with
  | nil => rfl
  | cons v rest ih => simp only [allEqual, same, beq_self_eq_true, Bool.true_or, ih, Bool.and_true]

theorem equal_of_frozen (found : s.get? q = some x) (found' : s.get? r = some x)
    (frozen : x.record? = some a) : s.equal (.object q) (.object r) = true :=
  (equalUpTo_frozen found found' frozen frozen rfl _).trans (allEqual_self _ _)

theorem equalUpTo_strange (found : s.get? q = some x) (found' : s.get? r = some y)
    (rigid : x.IsRigid) (rigid' : y.IsRigid)
    (strange : ∀ equal, equalToObject? equal x y = none)
    (strange' : ∀ equal, equalToObject? equal y x = none) :
    s.equalUpTo (n + 1) (.object q) (.object r) = decide (q = r) := by
  rw [equalUpTo, equalTo?_rigid found found' rigid rigid', strange,
    equalTo?_rigid found' found rigid' rigid, strange', Option.none_or, Option.none_or]
  by_cases apart : q = r
  · simp [apart]
  · simp [apart, Ne.symm apart, same]

theorem equalToObject?_error (equal : Value → Value → Bool) (y : Object) (error : Error) :
    equalToObject? equal (.error error) y = none ∧
      equalToObject? equal y (.error error) = none := by
  refine ⟨by cases y <;> rfl, ?_⟩
  cases y with
  | report r => cases r <;> rfl
  | sendFailure f => cases f <;> rfl
  | kind k => cases k <;> rfl
  | _ => rfl

theorem equalUpTo_error {e : Ref} {error : Error} (found : s.get? e = some (.error error)) (n : Nat)
    (w : Value) : s.equalUpTo (n + 1) (.object e) w = decide (.object e = w) := by
  obtain ⟨number, bytes, released, view⟩ := of_rigid found (.inr rfl)
  have asked : ∀ equal, s.equalTo? equal (.object e) w =
      if .object e = w then some true else none := by
    intro equal
    simp only [equalTo?, released, view, number, bytes]
    cases w with
    | object r =>
      cases there : s.get? r with
      | none =>
        have apart : e ≠ r := by
          rintro rfl
          cases found.symm.trans there
        simp [found, there, apart]
      | some y => simp [found, there, (equalToObject?_error equal y error).1]
    | _ => simp [same]
  have answered : ∀ equal, .object e ≠ w → s.equalTo? equal w (.object e) = some false ∨
      s.equalTo? equal w (.object e) = none := by
    intro equal apart
    have other : same w (.object e) = false := by simp [same, Ne.symm apart]
    unfold equalTo?
    split
    -- A released view answers at once, and says no to everything but itself.
    · exact .inl (congrArg some other)
    · rw [number, bytes]
      split
      · contradiction
      · contradiction
      · cases w with
        | object r =>
          cases there : s.get? r with
          | none => simp [found, there]
          | some y =>
            have other : r ≠ e := fun same => apart (congrArg _ same.symm)
            simp [found, there, (equalToObject?_error equal y error).2, other]
        | _ => simp [same]
      · exact .inr rfl
  rw [equalUpTo, asked]
  by_cases here : .object e = w
  · simp [here]
  · simp only [here, if_false, Option.none_or, same, decide_false]
    rcases answered (s.equalUpTo n) here with h | h <;> simp [h, here]

theorem equalUpTo_int (s : Store) (n : Nat) (i j : Int) :
    s.equalUpTo (n + 1) (.int i) (.int j) = decide (i = j) := by
  have number : (Number.ofInt i).equal (.ofInt j) = decide (i = j) := by
    simp [Number.equal, Number.ofInt, Number.align, Bool.beq_eq_decide_eq]
  have answer : ∀ equal, s.equalTo? equal (.int i) (.int j) = some (decide (i = j)) := by
    intro equal
    simp [equalTo?, isReleased, isView, object?, number?, whole?, number]
  rw [equalUpTo, answer]
  rfl

theorem equalUpTo_null_reason {r : Ref} {code : Value} (found : s.get? r = some (.reason code))
    (n : Nat) : s.equalUpTo (n + 1) .null (.object r) = false := by
  have asked : ∀ equal, s.equalTo? equal .null (.object r) = none := by
    intro equal
    simp [equalTo?, isReleased, isView, object?, number?, whole?, bytes?, found, same]
  have answered : ∀ equal, s.equalTo? equal (.object r) .null = none := by
    intro equal
    simp [equalTo?, isReleased, isView, object?, number?, whole?, bytes?, found, same]
  rw [equalUpTo, asked, answered]
  rfl

theorem equalUpTo_bytes (s : Store) (n : Nat) (x y : List UInt8) :
    s.equalUpTo (n + 1) (.bytes x) (.bytes y) = decide (x = y) := by
  have answer : ∀ equal, s.equalTo? equal (.bytes x) (.bytes y) = some (decide (x = y)) := by
    intro equal
    simp [equalTo?, isReleased, isView, object?, number?, whole?, bytes?, isByteString,
      Bool.beq_eq_decide_eq]
  rw [equalUpTo, answer]
  rfl

theorem equalUpTo_initiator (s : Store) (n : Nat) (i j : Initiator) :
    s.equalUpTo (n + 1) (.initiator i) (.initiator j) = decide (i = j) := by
  cases i <;> cases j <;> rfl

theorem equalUpTo_misuse (s : Store) (n : Nat) (m m' : Misuse) :
    s.equalUpTo (n + 1) (.misuse m) (.misuse m') = decide (m = m') := by
  have answer : ∀ equal, ∀ m m' : Misuse, s.equalTo? equal (.misuse m) (.misuse m') =
      if m = m' then some true else none := by
    intro equal m m'
    simp [equalTo?, isReleased, isView, object?, number?, whole?, bytes?, same]
  rw [equalUpTo, answer, answer]
  by_cases h : m = m'
  · simp [h]
  · simp [h, Ne.symm h, same]

end Store

end Http2Failure
