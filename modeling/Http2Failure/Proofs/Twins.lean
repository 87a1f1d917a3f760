import Http2Failure.Proofs.Paths
import Mathlib.Data.List.Forall2

/-!
# Data and its twins

Data are the values that are made of nothing but their parts: numbers, texts, bytes, members of
enumerations, sequences and frozen records of data, to none of which anything was given. What holds
an exception, a view or a method is none, and neither is what reaches itself. A twin is built the
same way of twins, at places of its own or at the same ones, and is equal to the first value.
-/

namespace Http2Failure

namespace Object

/-- What an object of data is made of. A number that is not equal to itself is none. -/
def dataParts? : Object → Option (List Value)
  | .float word => if (Number.ofWord word).equal (.ofWord word) then some [] else none
  | .buffer _ => some []
  | .list items | .tuple items => some items
  | o => o.record?.map fun record => record.fields.map Prod.snd

def refill : Object → List Value → Object
  | .list _, parts => .list parts
  | .tuple _, parts => .tuple parts
  | o, parts => o.withFields parts

theorem refill_self {o : Object} {parts : List Value} (data : o.dataParts? = some parts) :
    o.refill parts = o := by
  cases o with
  | float | buffer => rfl
  | report r => cases r <;> cases data <;> rfl
  | sendFailure f => cases f <;> cases data <;> rfl
  | kind k => cases k <;> cases data <;> rfl
  | _ => cases data <;> rfl

theorem record?_refill {o : Object} {record : Record} (frozen : o.record? = some record)
    {parts : List Value} (length : parts.length = record.fields.length) :
    ∃ record' : Record, (o.refill parts).record? = some record' ∧
      record'.className = record.className ∧ record'.fields.map Prod.snd = parts := by
  have one {p : List Value} (h : p.length = 1) : ∃ a, p = [a] := List.length_eq_one_iff.mp h
  have three {p : List Value} (h : p.length = 3) : ∃ a b c, p = [a, b, c] :=
    List.length_eq_three.mp h
  cases o with
  | reason | streamId =>
    cases frozen
    obtain ⟨a, rfl⟩ := one length
    exact ⟨_, rfl, rfl, rfl⟩
  | report r =>
    cases r with
    | reset | goAway =>
      cases frozen
      obtain ⟨a, b, c, rfl⟩ := three length
      exact ⟨_, rfl, rfl, rfl⟩
    | transport =>
      cases frozen
      obtain ⟨a, rfl⟩ := one length
      exact ⟨_, rfl, rfl, rfl⟩
  | sendFailure f =>
    cases f <;> cases frozen <;> obtain ⟨a, rfl⟩ := one length <;> exact ⟨_, rfl, rfl, rfl⟩
  | kind k =>
    cases k with
    | reset | goAway =>
      cases frozen
      obtain ⟨a, b, c, rfl⟩ := three length
      exact ⟨_, rfl, rfl, rfl⟩
    | _ =>
      cases frozen
      obtain ⟨a, rfl⟩ := one length
      exact ⟨_, rfl, rfl, rfl⟩
  | _ => cases frozen

end Object

namespace Store

/-- Data that nest at most `n` deep. -/
inductive IsData (s : Store) : Nat → Value → Prop
  | immediate {n : Nat} {v : Value} (h : v.Immediate) : IsData s (n + 1) v
  | member {n : Nat} {v : Value} (h : v.isMember = true) (untouched : s.Untouched v) :
    IsData s (n + 2) v
  | object {n : Nat} {r : Ref} {o : Object} {parts : List Value} (found : s.get? r = some o)
    (untouched : s.Untouched (.object r)) (data : o.dataParts? = some parts)
    (rest : ∀ v ∈ parts, IsData s n v) : IsData s (n + 1) (.object r)

/-- `w` is built in `t` like `v` in `s`, at places of `P` that nothing was given to, if its parts
are so by `related`. -/
inductive TwinsBy (s t : Store) (P : Ref → Prop) (related : Value → Value → Prop) :
    Value → Value → Prop
  | immediate {v : Value} (h : v.Immediate) : TwinsBy s t P related v v
  | member {v : Value} (h : v.isMember = true) : TwinsBy s t P related v v
  | object {r q : Ref} {o : Object} {parts parts' : List Value} (found : s.get? r = some o)
    (data : o.dataParts? = some parts) (place : P q)
    (bare : o.record?.isSome → s.Untouched (.object q))
    (found' : t.get? q = some (o.refill parts'))
    (rest : List.Forall₂ related parts parts') : TwinsBy s t P related (.object r) (.object q)

/-- Data in `s` that nest at most `n` deep, and a value of `t` that is built the same way. -/
def Twins (s t : Store) (P : Ref → Prop) : Nat → Value → Value → Prop
  | 0 => fun _ _ => False
  | n + 1 => TwinsBy s t P (Twins s t P n)

variable {s t u : Store} {P Q : Ref → Prop} {n m : Nat} {v w : Value}

theorem IsData.succ (data : s.IsData n v) : s.IsData (n + 1) v := by
  induction data with
  | immediate h => exact .immediate h
  | member h untouched => exact .member h untouched
  | object found untouched parts _ ih => exact .object found untouched parts ih

theorem Twins.imp (twins : Twins s t P n v w)
    (kept : ∀ q o, P q → t.get? q = some o → Q q ∧ u.get? q = some o) : Twins s u Q n v w := by
  induction n generalizing v w with
  | zero => exact twins
  | succ n ih =>
    cases twins with
    | immediate h => exact .immediate h
    | member h => exact .member h
    | object found data place bare found' rest =>
      obtain ⟨place', there⟩ := kept _ _ place found'
      exact .object found data place' bare there (rest.imp fun _ _ => ih)

theorem Twins.of_isData (twins : Twins s t P m v w) (data : s.IsData n v) :
    Twins s t P n v w := by
  induction data generalizing m w with
  | immediate h =>
    cases m with
    | zero => exact twins.elim
    | succ m =>
      cases twins with
      | immediate => exact .immediate h
      | member h' => exact .member h'
      | object => exact h.elim
  | member h =>
    cases m with
    | zero => exact twins.elim
    | succ m =>
      cases twins with
      | immediate | member => exact .member h
      | object => cases h
  | object found _ parts _ ih =>
    cases m with
    | zero => exact twins.elim
    | succ m =>
      cases twins with
      | immediate h => exact h.elim
      | member h => cases h
      | object found' parts' place bare there rest =>
        cases found.symm.trans found'
        cases parts.symm.trans parts'
        refine .object found parts place bare there ?_
        rw [List.forall₂_iff_zip] at rest ⊢
        exact ⟨rest.1, fun pair => ih _ (List.of_mem_zip pair).1 (rest.2 pair)⟩

theorem Twins.eq_of_immediate (twins : s.Twins t P n v w) (h : v.Immediate) : w = v := by
  cases n with
  | zero => exact twins.elim
  | succ n =>
    cases twins with
    | immediate | member => rfl
    | object => exact h.elim

theorem Twins.eq_of_member (twins : s.Twins t P n v w) (h : v.isMember = true) : w = v := by
  cases n with
  | zero => exact twins.elim
  | succ n =>
    cases twins with
    | immediate | member => rfl
    | object => cases h

theorem equalUpTo_self (s : Store) (n : Nat) {v : Value} (h : ∀ r, v ≠ .object r) :
    s.equalUpTo (n + 1) v v = true := by
  cases v with
  | object r => exact absurd rfl (h r)
  | bool | int =>
    simp [equalUpTo, equalTo?, isReleased, isView, object?, number?, whole?, Number.equal,
      Number.ofInt, Number.align]
  | _ => simp [equalUpTo, equalTo?, isReleased, isView, object?, number?, whole?, bytes?, same]

theorem allEqual_of_twins {related : Value → Value → Prop} {equal : Value → Value → Bool}
    {vs ws : List Value} (twins : List.Forall₂ related vs ws)
    (h : ∀ v w, related v w → equal v w = true) : allEqual equal vs ws = true := by
  induction twins with
  | nil => rfl
  | cons first _ ih => simp only [allEqual, h _ _ first, Bool.or_true, ih, Bool.and_true]

/-- A twin is equal to the value, where both of them are there. -/
theorem Twins.equal (twins : Twins s t P n v w) (more : s.Extends t) (deep : n ≤ m) :
    t.equalUpTo m v w = true := by
  induction n generalizing m v w with
  | zero => exact twins.elim
  | succ n ih =>
    obtain ⟨m, rfl⟩ : ∃ k, m = k + 1 := ⟨m - 1, by omega⟩
    cases twins with
    | immediate h => exact t.equalUpTo_self m fun r same => by subst same; exact h
    | member h => exact t.equalUpTo_self m fun r same => by subst same; cases h
    | @object r q o parts parts' found data _ _ there rest =>
      have here := more.get? found
      have items := allEqual_of_twins rest fun v w twins => ih twins (Nat.le_of_succ_le_succ deep)
      have answer : t.equalTo? (t.equalUpTo m) (.object r) (.object q) = some true := by
        have frozen : ∀ {record : Record}, o.record? = some record →
            record.fields.map Prod.snd = parts →
              t.equalTo? (t.equalUpTo m) (.object r) (.object q) = some true := by
          intro record frozen fields
          have length : parts'.length = record.fields.length := by
            rw [← rest.length_eq, ← fields, List.length_map]
          obtain ⟨record', frozen', name, fields'⟩ := Object.record?_refill frozen length
          rw [equalTo?_frozen here there frozen frozen' name.symm, fields, fields', items]
        cases o with
        | float word =>
          simp only [Object.dataParts?] at data
          split at data
          · rename_i reflexive
            simp [equalTo?, isReleased, isView, object?, number?, whole?, here, there,
              Object.refill, Object.withFields, reflexive]
          · cases data
        | buffer content =>
          simp [equalTo?, isReleased, isView, object?, number?, bytes?, isByteString, here, there,
            Object.refill, Object.withFields]
        | list | tuple =>
          cases data
          simp [equalTo?, isReleased, isView, object?, number?, bytes?, here, there, Object.refill,
            equalToObject?, items]
        | reason | streamId | report | sendFailure | kind =>
          cases data
          exact frozen rfl rfl
        | _ => cases data
      simp only [equalUpTo, answer]
      rfl

end Store

end Http2Failure
