import Http2Failure.Proofs.Deeds.Calls
import Http2Failure.Proofs.Paths

/-!
# Objects that stay as they are

A tuple can never be changed, and a frozen object only by its own constructor, which puts back what
it has checked, or by a state that it is given. Writes in place do none of this, and neither do
calls without arguments, whatever they lead to. So everything settled stays as it is, nothing is
given to what is there, and the kinds of errors and their attributes stay too.
-/

namespace Http2Failure

namespace Object

/-- A tuple, or a frozen object that its constructor leaves as it is. -/
def IsSettled (o : Object) : Prop :=
  (∃ items, o = .tuple items) ∨ o.record?.isSome ∧ ∀ s, o.checked s = .ok o

theorem IsSettled.eq_of_revises {s : Store} {o o' : Object} (settled : o.IsSettled)
    (revises : o.Revises s o') : o' = o := by
  rcases settled with ⟨items, rfl⟩ | ⟨frozen, same⟩
  · exact eq_tuple_of_nature revises.nature
  · exact Except.ok.inj ((revises.of_frozen frozen).symm.trans (same s))

end Object

namespace Store

/-- Everything settled stays, and so do the kinds and the attributes of errors and what was given to
the values that are there. Nothing lies in wait for the next object. -/
structure Keeps (s t : Store) : Prop where
  size_le : s.size ≤ t.size
  settled (r : Ref) (o : Object) (found : s.get? r = some o) (h : o.IsSettled) : t.get? r = some o
  error (r : Ref) (e : Error) (found : s.get? r = some (.error e)) :
    ∃ e' : Error, t.get? r = some (.error e') ∧ e'.kind = e.kind ∧ e'.attributes = e.attributes
  given (v : Value) (older : Older s.size v) : t.given.lookup v = s.given.lookup v
  fresh : s.Fresh → t.Fresh

variable {s t u : Store} {r : Ref} {o : Object} {v w : Value}

theorem Keeps.refl (s : Store) : s.Keeps s where
  size_le := Nat.le_refl _
  settled _ _ found _ := found
  error _ e found := ⟨e, found, rfl, rfl⟩
  given _ _ := rfl
  fresh := id

theorem Keeps.trans (h : s.Keeps t) (h' : t.Keeps u) : s.Keeps u where
  size_le := Nat.le_trans h.size_le h'.size_le
  settled r o found settled := h'.settled r o (h.settled r o found settled) settled
  error r e found := by
    obtain ⟨e', found', kind, attributes⟩ := h.error r e found
    obtain ⟨e'', found'', kind', attributes'⟩ := h'.error r e' found'
    exact ⟨e'', found'', kind'.trans kind, attributes'.trans attributes⟩
  given v older := (h'.given v (older.mono h.size_le)).trans (h.given v older)
  fresh := h'.fresh ∘ h.fresh

theorem Keeps.untouched (kept : s.Keeps t) (older : Older s.size v) (untouched : s.Untouched v) :
    t.Untouched v := (kept.given v older).trans untouched

theorem keeps_of_extends (more : s.Extends t) : s.Keeps t where
  size_le := more.size_le
  settled _ _ found _ := more.get? found
  error _ e found := ⟨e, more.get? found, rfl, rfl⟩
  given _ older := more.given older
  fresh := more.fresh

theorem ne_of_older {place : Ref} (older : Older place v) : v ≠ .object place := by
  rintro rfl
  exact absurd older (Nat.lt_irrefl _)

theorem agreesOn_pushWith (s : Store) (o : Object) (given? : Option Attributes) :
    AgreesOn (Older s.size) s (s.pushWith o given?) where
  objects inside := (get?_giveMaybe _).trans (get?_push_of_lt o inside)
  given inside := lookup_giveMaybe_of_ne _ given? (ne_of_older inside)

theorem agreesOn_filled (t : Store) (size : Nat) (o : Object) (given? : Option Attributes) :
    AgreesOn (Older size) t ((t.giveMaybe (.object size) given?).put size o) where
  objects inside := (get?_put_ne o (Nat.ne_of_gt inside)).trans (get?_giveMaybe _)
  given inside := lookup_giveMaybe_of_ne t given? (ne_of_older inside)

theorem keeps_pushWith (s : Store) (o : Object) (given? : Option Attributes) :
    s.Keeps (s.pushWith o given?) := by
  have objects : ∀ {r : Ref} {o' : Object}, s.get? r = some o' →
      (s.pushWith o given?).get? r = some o' := fun found =>
    (get?_giveMaybe _).trans ((get?_push_of_lt o (lt_size_of_get? found)).trans found)
  have size : (s.pushWith o given?).size = s.size + 1 := size_giveMaybe.trans (size_push s o)
  refine ⟨Nat.le_of_lt (size ▸ Nat.lt_succ_self _), fun r o found _ => objects found,
    fun r e found => ⟨e, objects found, rfl, rfl⟩, fun v older => ?_, fun fresh r behind => ?_⟩
  · exact lookup_giveMaybe_of_ne _ given? (ne_of_older older)
  · rw [size] at behind
    have other : Value.object r ≠ .object s.size := by
      rintro ⟨⟩
      exact absurd behind (Nat.not_succ_le_self _)
    exact (lookup_giveMaybe_of_ne _ given? other).trans (fresh r (Nat.le_of_succ_le behind))

theorem Keeps.filled (kept : s.Keeps t) (grown : s.size < t.size) (o : Object)
    (given? : Option Attributes) :
    s.Keeps ((t.giveMaybe (.object s.size) given?).put s.size o) := by
  have objects : ∀ {r : Ref}, r < s.size →
      ((t.giveMaybe (.object s.size) given?).put s.size o).get? r = t.get? r := fun older =>
    (get?_put_ne o (Nat.ne_of_gt older)).trans (get?_giveMaybe _)
  refine ⟨?_, fun r o found settled => ?_, fun r e found => ?_, fun v older => ?_,
    fun fresh r behind => ?_⟩
  · rw [size_put, size_giveMaybe]
    exact kept.size_le
  · exact (objects (lt_size_of_get? found)).trans (kept.settled r o found settled)
  · obtain ⟨e', found', same⟩ := kept.error r e found
    exact ⟨e', (objects (lt_size_of_get? found)).trans found', same⟩
  · exact (lookup_giveMaybe_of_ne t given? (ne_of_older older)).trans (kept.given v older)
  · rw [size_put, size_giveMaybe] at behind
    have other : Value.object r ≠ .object s.size := by
      rintro ⟨⟩
      exact absurd grown (Nat.not_lt_of_le behind)
    exact (lookup_giveMaybe_of_ne t given? other).trans (kept.fresh fresh r behind)

theorem keeps_releaseGone (s : Store) (outside : List Value) : s.Keeps (s.releaseGone outside) where
  size_le := Nat.le_of_eq (size_releaseGone s outside).symm
  settled r o found settled := by
    rcases s.get?_releaseGone outside r with same | ⟨source, view, -⟩
    · exact same.trans found
    · cases found.symm.trans view
      rcases settled with ⟨items, same⟩ | ⟨frozen, -⟩
      · cases same
      · cases frozen
  error r e found := by
    rcases s.get?_releaseGone outside r with same | ⟨source, view, -⟩
    · exact ⟨e, same.trans found, rfl, rfl⟩
    · cases found.symm.trans view
  given v _ := by rw [given_releaseGone]
  fresh fresh r behind := by
    rw [size_releaseGone] at behind
    rw [Untouched, given_releaseGone]
    exact fresh r behind

end Store

namespace Licence

def writing : Licence := ⟨fun _ d => d = .write ∨ d = .log, False⟩

theorem writes_writing : writing.Writes := fun _ => .inl rfl

theorem has_writing {s : Store} {v : Value} : writing.Has s v := False.elim

theorem hasAll_writing {s : Store} {vs : List Value} : writing.HasAll s vs := fun _ _ => False.elim

end Licence

theorem Deeds.keeps {now after : Session} (deeds : Deeds Licence.writing now after) :
    now.store.Keeps after.store := by
  have refused : ∀ {s : Store} {d : Deed}, Licence.writing.may s d → d = .write ∨ d = .log := id
  induction deeds with
  | none => exact .refl _
  | trans _ _ ih ih' => exact ih.trans ih'
  | push => exact Store.keeps_pushWith _ _ _
  | @around now mid o o' given? given'? made inner filled _ _ ih =>
    have kept := (Store.keeps_pushWith now.store o given?).trans ih
    have grown := Store.lt_size_of_get? (Store.get?_pushWith_size now.store o given?)
    exact kept.filled (Nat.lt_of_lt_of_le grown ih.size_le) o' given'?
  | @write now r o o' _ found revises _ _ wears =>
    refine ⟨Nat.le_of_eq (Store.size_put ..).symm, fun q o₀ found' settled => ?_,
      fun q e found' => ?_, fun _ _ => rfl,
      fun fresh q behind => fresh q (Store.size_put .. ▸ behind)⟩
    · by_cases here : r = q
      · subst here
        cases found.symm.trans found'
        rw [settled.eq_of_revises revises]
        exact Store.get?_put_self _ (Store.lt_size_of_get? found)
      · exact (Store.get?_put_ne o' here).trans found'
    · by_cases here : r = q
      · subst here
        cases found.symm.trans found'
        obtain ⟨e', rfl, kind⟩ := Object.eq_error_of_nature revises.nature
        refine ⟨e', Store.get?_put_self _ (Store.lt_size_of_get? found), kind, ?_⟩
        by_contra changed
        exact nomatch refused (wears changed)
      · exact ⟨e, (Store.get?_put_ne o' here).trans found', rfl, rfl⟩
  | give may | remake may | restate may => exact nomatch refused may
  | log => exact .refl _

namespace Action

variable {α : Type} {now next : Session} {x : Action α} {result : Except Refusal α}

theorem Does.keeps {Q : Store → α → Prop} (does : Does Licence.writing x now Q)
    (run : x now = (result, next)) : now.store.Keeps next.store := by
  have deeds := (does fun tidy => tidy.elim).1
  rw [run] at deeds
  exact deeds.keeps

end Action

end Http2Failure
