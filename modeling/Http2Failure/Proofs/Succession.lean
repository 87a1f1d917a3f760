import Http2Failure.Proofs.Action
import Http2Failure.Proofs.Unhooked

/-!
# The succession of stream identifiers

Each call of `next_id` makes the next identifier of the same side. From the first identifier of a
side on, the calls go through all identifiers of that side and through no other ones, and the call
that follows on the last identifier is refused because the space is exhausted.
-/

namespace Http2Failure

namespace StreamId

def nextId (v : Value) : Action Value := fun session =>
  match Action.method? Action.call v (session.store.object? v) "next_id" with
  | some method => method [] session
  | none => Action.refuse .dangling session

/-- What `next_id` leads to after so many calls, each one on the result of the call before. -/
def succession : Nat → Value → Action Value
  | 0, v => return v
  | k + 1, v => do nextId (← succession k v)

/-- After `k` calls the succession that starts with the identifier at `r` has come to `j`. -/
def Arrives (now : Session) (r : Ref) (k : Nat) (j : StreamId) : Prop :=
  ∃ q after, succession k (.object r) now = (.ok (.object q), after) ∧
    after.store.get? q = some (.ofStreamId j) ∧ now.Extends after

/-- The succession that starts at `r` goes through the identifiers that have a property: it comes to
no other ones, and to each of them once, the lower ones first. -/
structure Enumerates (now : Session) (r : Ref) (p : StreamId → Bool) : Prop where
  only : ∀ k j, Arrives now r k j → p j = true
  once : ∀ j, p j = true → ∃! k, Arrives now r k j
  increasing : ∀ k k' j j', Arrives now r k j → Arrives now r k' j' → k < k' → j.value < j'.value

def clientFirst : StreamId := ⟨1, by decide⟩

def serverFirst : StreamId := ⟨2, by decide⟩

variable {i j : StreamId} {now : Session} {r : Ref} {k : Nat}

theorem value_le_max (i : StreamId) : i.value ≤ max := Nat.le_of_lt_succ i.value_lt

theorem ext_value (same : i.value = j.value) : i = j := by
  cases i
  cases j
  cases same
  rfl

theorem next?_eq_some_iff : i.next? = some j ↔ j.value = i.value + 2 := by
  have bound := j.value_lt
  unfold next?
  split
  · constructor
    · rintro ⟨⟩
      rfl
    · intro same
      exact congrArg some (ext_value same.symm)
  · constructor
    · nofun
    · omega

theorem ofInt?_value (i : StreamId) : ofInt? i.value = some i := by
  have bounds : 0 ≤ (i.value : Int) ∧ (i.value : Int) < 0x80000000 := by
    have bound := i.value_lt
    omega
  rw [ofInt?, dif_pos bounds]
  rfl

theorem ofValue_int (i : Int) :
    ofValue (.int i) = match ofInt? i with
      | some id => .ok id
      | none => .error (.streamIdOutOfRange i) := rfl

theorem ofValue_value (i : StreamId) : ofValue (.int i.value) = .ok i := by
  rw [ofValue_int, ofInt?_value]

theorem checked_value (s : Store) (i : StreamId) :
    (Object.streamId (.int i.value)).checked s = .ok (.ofStreamId i) := by
  simp only [Object.checked, ofValue_value]
  rfl

theorem nextOf_of_ok {v : Value} {i : StreamId} (read : ofValue v = .ok i) (s : Store)
    (plain : Value → Except Refusal String) :
    nextOf s plain v =
      match i.next? with
      | some next => .ok (.int next.value)
      | none => .error (.noSuccessor i.text) := by
  cases next : i.next? <;> simp only [nextOf, read, next]

theorem method?_next_id (call : Caller) (r : Ref) (value : Value) :
    Action.method? call (.object r) (some (.streamId value)) "next_id" =
      some (Action.noArguments "StreamId" "next_id" do
        Action.make (.streamId (← Action.read fun s => nextOf s s.plain value))) := rfl

/-- One call makes a new object and touches nothing else; the last identifier refuses it. -/
theorem nextId_apply (found : now.store.get? r = some (.ofStreamId i)) :
    nextId (.object r) now =
      match i.next? with
      | some j =>
        (.ok (.object now.store.size), { now with store := now.store.push (.ofStreamId j) })
      | none => (.error (.noSuccessor i.text), now) := by
  have there : now.store.object? (.object r) = some (.streamId (.int i.value)) := found
  rw [nextId, there, method?_next_id]
  simp only [Action.noArguments, List.isEmpty_nil, if_true, Action.bind_apply, Action.read_apply,
    nextOf_of_ok (ofValue_value i)]
  cases i.next? with
  | none => simp only
  | some j => exact Action.make_of_checked (checked_value now.store j)

theorem call_next_id (found : now.store.get? r = some (.ofStreamId i))
    (visible : now.store.hiding? (.object r) "next_id" = none) :
    Action.call (.object r) "next_id" [] now = nextId (.object r) now := by
  have there : now.store.object? (.object r) = some (.streamId (.int i.value)) := found
  have own (call : Caller) := method?_next_id call r (.int i.value)
  rw [Action.call_of_method there own visible, nextId, there, own]

theorem succession_succ (k : Nat) (v : Value) (now : Session) :
    succession (k + 1) v now =
      match succession k v now with
      | (.ok w, mid) => nextId w mid
      | (.error refusal, mid) => (.error refusal, mid) := by
  simp only [succession, Action.bind_apply]
  rcases succession k v now with ⟨_ | _, _⟩ <;> rfl

theorem arrives_zero (found : now.store.get? r = some (.ofStreamId i)) : Arrives now r 0 i :=
  ⟨r, now, rfl, found, .refl now⟩

theorem Arrives.succ (arrives : Arrives now r k i) (next : i.next? = some j) :
    Arrives now r (k + 1) j := by
  obtain ⟨q, mid, run, found, grown⟩ := arrives
  refine ⟨mid.store.size, { mid with store := mid.store.push (.ofStreamId j) }, ?_,
    Store.get?_push_size _ _,
    grown.trans ⟨Store.agreesOn_push _ _, [], (List.append_nil _).symm⟩⟩
  rw [succession_succ, run]
  simp only [nextId_apply found, next]

/-- As long as the space reaches, the calls succeed, two numbers further each time. -/
theorem arrives_of_le (found : now.store.get? r = some (.ofStreamId i))
    (inside : i.value + 2 * k ≤ max) : ∃ j, j.value = i.value + 2 * k ∧ Arrives now r k j := by
  induction k with
  | zero => exact ⟨i, rfl, arrives_zero found⟩
  | succ k ih =>
    obtain ⟨j, reached, arrives⟩ := ih (by omega)
    let next : StreamId := ⟨j.value + 2, by unfold max at inside; omega⟩
    have step : j.next? = some next := next?_eq_some_iff.mpr rfl
    refine ⟨next, ?_, arrives.succ step⟩
    change j.value + 2 = i.value + 2 * (k + 1)
    omega

theorem refused_of_lt (found : now.store.get? r = some (.ofStreamId i))
    (outside : max < i.value + 2 * k) :
    ∃ (last : StreamId) (after : Session), max < last.value + 2 ∧
      succession k (.object r) now = (.error (.noSuccessor last.text), after) := by
  induction k with
  | zero =>
    have bound := i.value_le_max
    omega
  | succ k ih =>
    by_cases inside : i.value + 2 * k ≤ max
    · -- The first call that fails: `j` is there and has no successor.
      obtain ⟨j, reached, q, mid, run, there, -⟩ := arrives_of_le found inside
      have exhausted : j.next? = none := by
        refine dif_neg ?_
        unfold max at outside
        omega
      refine ⟨j, mid, by omega, ?_⟩
      rw [succession_succ, run]
      simp only [nextId_apply there, exhausted]
    · obtain ⟨last, after, high, run⟩ := ih (by omega)
      refine ⟨last, after, high, ?_⟩
      rw [succession_succ, run]

theorem Arrives.unique {j' : StreamId} (arrives : Arrives now r k j) (again : Arrives now r k j') :
    j = j' := by
  obtain ⟨q, after, run, found, -⟩ := arrives
  obtain ⟨q', after', run', found', -⟩ := again
  cases run.symm.trans run'
  have same : Object.ofStreamId j = .ofStreamId j' := Option.some.inj (found.symm.trans found')
  have values : (j.value : Int) = j'.value := Value.int.inj (Object.streamId.inj same)
  exact ext_value (Int.ofNat.inj values)

theorem arrives_iff (found : now.store.get? r = some (.ofStreamId i)) :
    Arrives now r k j ↔ j.value = i.value + 2 * k := by
  constructor
  · intro arrives
    by_cases inside : i.value + 2 * k ≤ max
    · obtain ⟨j', reached, again⟩ := arrives_of_le found inside
      rw [arrives.unique again, reached]
    · obtain ⟨_, _, run, -⟩ := arrives
      obtain ⟨_, _, -, refused⟩ := refused_of_lt found (Nat.lt_of_not_le inside)
      cases run.symm.trans refused
  · intro reached
    have inside : i.value + 2 * k ≤ max := reached ▸ j.value_le_max
    obtain ⟨j', reached', arrives⟩ := arrives_of_le found inside
    rwa [ext_value (reached.trans reached'.symm)]

theorem returns_iff (found : now.store.get? r = some (.ofStreamId i)) :
    (∃ w after, succession k (.object r) now = (.ok w, after)) ↔ i.value + 2 * k ≤ max := by
  constructor
  · rintro ⟨w, after, run⟩
    by_contra outside
    obtain ⟨_, _, -, refused⟩ := refused_of_lt found (Nat.lt_of_not_le outside)
    cases run.symm.trans refused
  · intro inside
    obtain ⟨_, -, q, after, run, -⟩ := arrives_of_le found inside
    exact ⟨_, after, run⟩

theorem sides_of_arrives (found : now.store.get? r = some (.ofStreamId i))
    (nonzero : i.isZero = false) (arrives : Arrives now r k j) :
    j.isClientInitiated = i.isClientInitiated ∧ j.isServerInitiated = i.isServerInitiated := by
  have reached := (arrives_iff found).mp arrives
  have positive : i.value ≠ 0 := by simpa only [isZero, beq_eq_false_iff_ne] using nonzero
  have parity : j.value % 2 = i.value % 2 := by omega
  have positive' : j.value ≠ 0 := by omega
  simp only [isClientInitiated, isServerInitiated, parity, bne_iff_ne.mpr positive,
    bne_iff_ne.mpr positive', and_self]

theorem category_of_refused (found : now.store.get? r = some (.ofStreamId i)) {refusal : Refusal}
    {after : Session} (run : succession k (.object r) now = (.error refusal, after)) :
    refusal.category = .overflow := by
  by_cases inside : i.value + 2 * k ≤ max
  · obtain ⟨_, _, returned⟩ := (returns_iff found).mpr inside
    cases run.symm.trans returned
  · obtain ⟨_, _, -, refused⟩ := refused_of_lt found (Nat.lt_of_not_le inside)
    cases run.symm.trans refused
    rfl

theorem enumerates_of_value (found : now.store.get? r = some (.ofStreamId i)) {p : StreamId → Bool}
    (ahead : ∀ j, p j = true ↔ i.value ≤ j.value ∧ j.value % 2 = i.value % 2) :
    Enumerates now r p where
  only k j arrives := by
    have reached := (arrives_iff found).mp arrives
    apply (ahead j).mpr
    omega
  once j known := by
    obtain ⟨above, parity⟩ := (ahead j).mp known
    refine ⟨(j.value - i.value) / 2, (arrives_iff found).mpr (by omega), fun k arrives => ?_⟩
    have reached := (arrives_iff found).mp arrives
    omega
  increasing k k' j j' arrives arrives' later := by
    have reached := (arrives_iff found).mp arrives
    have reached' := (arrives_iff found).mp arrives'
    omega

theorem enumerates_client (found : now.store.get? r = some (.ofStreamId clientFirst)) :
    Enumerates now r isClientInitiated := by
  refine enumerates_of_value found fun j => ?_
  have start : clientFirst.value = 1 := rfl
  rw [isClientInitiated, beq_iff_eq, start]
  omega

theorem enumerates_server (found : now.store.get? r = some (.ofStreamId serverFirst)) :
    Enumerates now r isServerInitiated := by
  refine enumerates_of_value found fun j => ?_
  have start : serverFirst.value = 2 := rfl
  rw [isServerInitiated, Bool.and_eq_true, bne_iff_ne, beq_iff_eq, start]
  omega

theorem Enumerates.comesTo_iff {p : StreamId → Bool} (through : Enumerates now r p) :
    (∃ k, Arrives now r k j) ↔ p j = true := by
  constructor
  · rintro ⟨k, arrives⟩
    exact through.only k j arrives
  · intro known
    obtain ⟨k, arrives, -⟩ := through.once j known
    exact ⟨k, arrives⟩

theorem kind_cases (j : StreamId) :
    (j = zero ∧ j.isClientInitiated = false ∧ j.isServerInitiated = false) ∨
      (j ≠ zero ∧ j.isClientInitiated = true ∧ j.isServerInitiated = false) ∨
      (j ≠ zero ∧ j.isClientInitiated = false ∧ j.isServerInitiated = true) := by
  have nought : j = zero ↔ j.value = 0 := ⟨fun same => same ▸ rfl, fun same => ext_value same⟩
  simp only [nought, ne_eq, isClientInitiated, isServerInitiated, beq_eq_false_iff_ne, beq_iff_eq,
    Bool.and_eq_false_iff, Bool.and_eq_true, bne_eq_false_iff_eq, bne_iff_ne]
  omega

end StreamId

open StreamId in
/-- From every identifier on, `next_id` can be called until the space is exhausted, comes two
numbers further each time and stays on the same side; the call that fails is refused as an
overflow. The successions of the first two identifiers and the identifier of the connection
together are all identifiers, and no two of them have one in common. -/
theorem succession_enumerates (now : Session) :
    (∀ r i, now.store.get? r = some (.ofStreamId i) →
      (now.store.hiding? (.object r) "next_id" = none →
        Action.call (.object r) "next_id" [] now = nextId (.object r) now) ∧
      (∀ k, (∃ w after, succession k (.object r) now = (.ok w, after)) ↔ i.value + 2 * k ≤ max) ∧
      (∀ k j, Arrives now r k j ↔ j.value = i.value + 2 * k) ∧
      (∀ k refusal after, succession k (.object r) now = (.error refusal, after) →
        refusal.category = .overflow) ∧
      (i.isZero = false → ∀ k j, Arrives now r k j →
        j.isClientInitiated = i.isClientInitiated ∧ j.isServerInitiated = i.isServerInitiated) ∧
      ∀ k, (∃ j, Arrives now r k j) ↔ k ≤ (max - i.value) / 2) ∧
    ∀ a b, now.store.get? a = some (.ofStreamId clientFirst) →
      now.store.get? b = some (.ofStreamId serverFirst) →
      Enumerates now a isClientInitiated ∧ Enumerates now b isServerInitiated ∧
      ∀ j, (j = zero ∧ (¬ ∃ k, Arrives now a k j) ∧ ¬ ∃ k, Arrives now b k j) ∨
        (j ≠ zero ∧ (∃ k, Arrives now a k j) ∧ ¬ ∃ k, Arrives now b k j) ∨
        (j ≠ zero ∧ (¬ ∃ k, Arrives now a k j) ∧ ∃ k, Arrives now b k j) := by
  constructor
  · intro r i found
    refine ⟨call_next_id found, fun k => returns_iff found, fun k j => arrives_iff found,
      fun k refusal after => category_of_refused found,
      fun nonzero k j => sides_of_arrives found nonzero, fun k => ?_⟩
    have bound := i.value_le_max
    constructor
    · rintro ⟨j, arrives⟩
      have reached := (arrives_iff found).mp arrives
      have bound' := j.value_le_max
      omega
    · intro few
      obtain ⟨j, -, arrives⟩ := arrives_of_le found (k := k) (by omega)
      exact ⟨j, arrives⟩
  · intro a b client server
    have clients := enumerates_client client
    have servers := enumerates_server server
    refine ⟨clients, servers, fun j => ?_⟩
    simp only [clients.comesTo_iff, servers.comesTo_iff, Bool.not_eq_true]
    exact kind_cases j

/-- Two below the last identifier one call succeeds and the next one is refused. -/
theorem succession_enumerates_top :
    let now : Session :=
      ⟨((Store.initial.push (.ofStreamId ⟨0x7ffffffd, by decide⟩)).push
        (.ofStreamId StreamId.clientFirst)).push (.ofStreamId StreamId.serverFirst), []⟩
    StreamId.Arrives now 16 1 ⟨0x7fffffff, by decide⟩ ∧
      (∃ refusal after, StreamId.succession 2 (.object 16) now = (.error refusal, after) ∧
        refusal.category = .overflow) ∧
      StreamId.Enumerates now 17 StreamId.isClientInitiated ∧
      StreamId.Enumerates now 18 StreamId.isServerInitiated := by
  intro now
  obtain ⟨each, sides⟩ := succession_enumerates now
  obtain ⟨-, returns, arrives, refused, -⟩ := each 16 ⟨0x7ffffffd, by decide⟩ rfl
  obtain ⟨clients, servers, -⟩ := sides 17 18 rfl rfl
  refine ⟨(arrives 1 _).mpr rfl, ?_, clients, servers⟩
  cases run : StreamId.succession 2 (.object 16) now with
  | mk result after =>
    cases result with
    | error refusal => exact ⟨refusal, after, rfl, refused 2 refusal after run⟩
    | ok w => exact absurd ((returns 2).mp ⟨w, after, run⟩) (by decide)

end Http2Failure
