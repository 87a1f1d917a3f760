import Http2Failure.Equality

/-!
# Hashes

The hash of a frozen object, as that of a tuple, is made from the hashes of its parts, that of a
number or of a bound method from what it is; an exception has its hash by its identity. How hashes
are made from these is left open. A value has a hash exactly where it can be a key.
-/

namespace Http2Failure

/-- A way of making hashes: of a value without parts or by its identity, and from the hashes of
parts. -/
structure Hashing where
  single : Value → Int
  float : UInt64 → Int
  method : Value → String → Int
  parts : List Int → Int

namespace Store

/-- The hash of a value, its parts from left to right. A view that can be a key has the hash of the
bytes under it, and a member of an enumeration that of its name. -/
def hashUpTo (h : Hashing) (s : Store) : Nat → Value → Except Refusal Int
  | 0, _ => .error .endless
  | depth + 1, v =>
    match v with
    | .object r =>
      match s.get? r with
      | some (.list _) => .error (.unhashable "list")
      | some (.buffer _) => .error (.unhashable "bytearray")
      | some (.view (.object _)) => .error .writableViewUnhashable
      | some (.view source) => .ok (h.single source)
      | some .released => .error .releasedView
      | some (.tuple items) => h.parts <$> items.mapM (s.hashUpTo h depth)
      | some (.float word) => .ok (h.float word)
      | some (.method owner name) => .ok (h.method owner name)
      | some o =>
        match o.record? with
        | some record => h.parts <$> (record.fields.map Prod.snd).mapM (s.hashUpTo h depth)
        | none => .ok (h.single (.object r))
      | none => .error .dangling
    | .misuse _ | .initiator _ => do s.hashUpTo h depth (← s.heldByMember v "_name_")
    | v => .ok (h.single v)

def hash (h : Hashing) (s : Store) (v : Value) : Except Refusal Int := s.hashUpTo h depth v

theorem map_mapM_hash {hash : Value → Except Refusal Int} {check : Value → Except Refusal Unit}
    (parts : List Int → Int) (each : ∀ v, (hash v).map (fun _ => ()) = check v) (vs : List Value) :
    (parts <$> vs.mapM hash).map (fun _ => ()) = vs.forM check := by
  induction vs generalizing parts with
  | nil => rfl
  | cons v rest ih =>
    have first := each v
    change _ = check v >>= fun _ => rest.forM check
    rw [← first, List.mapM_cons, ← ih parts]
    cases hash v with
    | error => rfl
    | ok i => cases rest.mapM hash <;> rfl

theorem map_hashUpTo (h : Hashing) (s : Store) (n : Nat) (v : Value) :
    (s.hashUpTo h n v).map (fun _ => ()) = s.hashableUpTo n v := by
  induction n generalizing v with
  | zero => rfl
  | succ n ih =>
    cases v with
    | object r =>
      simp only [hashUpTo, hashableUpTo]
      cases s.get? r with
      | none => rfl
      | some o =>
        cases o with
        | tuple items => exact map_mapM_hash _ ih items
        | reason | streamId | report | sendFailure | kind => exact map_mapM_hash _ ih _
        | view source => cases source <;> rfl
        | _ => rfl
    | misuse | initiator =>
      simp only [hashUpTo, hashableUpTo]
      cases s.heldByMember _ "_name_" with
      | error => rfl
      | ok name => exact ih name
    | _ => rfl

theorem map_hash (h : Hashing) (s : Store) (v : Value) :
    (s.hash h v).map (fun _ => ()) = s.hashable v :=
  map_hashUpTo h s depth v

theorem hashUpTo_frozen {h : Hashing} {s : Store} {q : Ref} {o : Object} {record : Record} {n : Nat}
    (found : s.get? q = some o) (frozen : o.record? = some record) :
    s.hashUpTo h (n + 1) (.object q) =
      h.parts <$> (record.fields.map Prod.snd).mapM (s.hashUpTo h n) := by
  rw [hashUpTo]
  cases o with
  | reason | streamId | report | sendFailure | kind =>
    simp only [found]
    cases frozen
    rfl
  | _ => cases frozen

end Store

end Http2Failure
