import Http2Failure.Refusal
import Http2Failure.View

/-!
# Equality, hashing and order

Numbers compare by their exact values, byte strings, buffers and views by their bytes, sequences
of one sort item by item, and frozen records by class and fields. Exceptions and the members of
enumerations are equal only to themselves. A comparison asks its left side first; where that knows
no answer the right side is asked, and where neither does, two values are equal when they are the
same and have no order. A value can be hashed when no part of it can be written in place.
-/

namespace Http2Failure

/-- The relations of order that one value can be asked for with respect to another. -/
inductive Relation where
  | less
  | atMost
  | greater
  | atLeast
deriving DecidableEq

namespace Relation

def symbol : Relation → String
  | .less => "<"
  | .atMost => "<="
  | .greater => ">"
  | .atLeast => ">="

def converse : Relation → Relation
  | .less => .greater
  | .atMost => .atLeast
  | .greater => .less
  | .atLeast => .atMost

def holds : Relation → Ordering → Bool
  | .less, order => order.isLT
  | .atMost, order => order.isLE
  | .greater, order => order.isGT
  | .atLeast, order => order.isGE

end Relation

/-- The first difference decides, and then the length. -/
def orderOfLists {α : Type} (order : α → α → Ordering) : List α → List α → Ordering
  | [], [] => .eq
  | [], _ :: _ => .lt
  | _ :: _, [] => .gt
  | a :: as, b :: bs => (order a b).then (orderOfLists order as bs)

namespace Store

/-- The same object, or equal immediate values of one sort. -/
def same (a b : Value) : Bool := a == b

def isView (s : Store) (v : Value) : Bool :=
  match s.object? v with
  | some (.view _) => true
  | _ => false

def isByteString : Value → Bool
  | .bytes _ => true
  | _ => false

/-- Items that are the same count as equal whatever their comparison says. -/
def allEqual (equal : Value → Value → Bool) : List Value → List Value → Bool
  | [], [] => true
  | a :: as, b :: bs => (same a b || equal a b) && allEqual equal as bs
  | _, _ => false

/-- Sequences of one sort know each other, and so do frozen records of one class. -/
def equalToObject? (equal : Value → Value → Bool) : Object → Object → Option Bool
  | .list as, .list bs | .tuple as, .tuple bs => some (allEqual equal as bs)
  | .method o m, .method p n => some (same o p && m == n)
  | a, b =>
    match a.record?, b.record? with
    | some a, some b =>
      if a.className = b.className then
        some (allEqual equal (a.fields.map Prod.snd) (b.fields.map Prod.snd))
      else none
    | _, _ => none

/-- What `a` answers about its equality with `b`, given how their items compare. A whole number
does not know other numbers, and a byte string does not know buffers; those know it. A released view
is equal only to itself. -/
def equalTo? (s : Store) (equal : Value → Value → Bool) (a b : Value) : Option Bool :=
  if s.isReleased a || s.isView a && s.isReleased b then some (same a b) else
  match s.number? a, s.number? b, s.bytes? a, s.bytes? b with
  | some m, some n, _, _ =>
    if (whole? a).isSome && (whole? b).isNone then none else some (m.equal n)
  | _, _, some x, some y => if isByteString a && !isByteString b then none else some (x == y)
  | none, _, none, _ =>
    match a, b with
    | .text x, .text y => some (x == y)
    | .object r, .object t =>
      match s.get? r, s.get? t with
      | some x, some y => (equalToObject? equal x y).or (if r = t then some true else none)
      | _, _ => none
    | .text _, _ => none
    | a, b => if same a b then some true else none
  | _, _, _, _ => none

def equalUpTo (s : Store) : Nat → Value → Value → Bool
  | 0, _, _ => false
  | depth + 1, a, b =>
    ((s.equalTo? (s.equalUpTo depth) a b).or (s.equalTo? (s.equalUpTo depth) b a)).getD (same a b)

def equal (s : Store) (a b : Value) : Bool := s.equalUpTo depth a b

def heldByMember (s : Store) (v : Value) (name : String) : Except Refusal Value :=
  match (s.attributesOf v).get? name with
  | some held => .ok held
  | none => .error (.noAttribute (s.typeName v) name)

/-- Checks that a value can be a key, its parts from left to right. A member of an enumeration is a
key by its name. -/
def hashableUpTo (s : Store) : Nat → Value → Except Refusal Unit
  | 0, _ => .error .endless
  | depth + 1, v =>
    match v with
    | .object r =>
      match s.get? r with
      | some (.list _) => .error (.unhashable "list")
      | some (.buffer _) => .error (.unhashable "bytearray")
      | some (.view (.object _)) => .error .writableViewUnhashable
      | some .released => .error .releasedView
      | some (.tuple items) => items.forM (s.hashableUpTo depth)
      | some o =>
        match o.record? with
        | some record => (record.fields.map Prod.snd).forM (s.hashableUpTo depth)
        | none => .ok ()
      | none => .error .dangling
    | .misuse _ | .initiator _ => do s.hashableUpTo depth (← s.heldByMember v "_name_")
    | _ => .ok ()

def hashable (s : Store) (v : Value) : Except Refusal Unit := s.hashableUpTo depth v

/-- For each value the index of the first value that is the same key. -/
def distinct (s : Store) (values : List Value) : Except Refusal (List Nat) := do
  values.mapM fun v => do
    s.hashable v
    return (values.findIdx? fun w => same w v || s.equal w v).getD 0

def itemsRelated (equal : Value → Value → Bool) (related : Value → Value → Except Refusal Bool)
    (relation : Relation) : List Value → List Value → Except Refusal Bool
  | a :: as, b :: bs =>
    if same a b || equal a b then itemsRelated equal related relation as bs else related a b
  | as, bs => .ok (relation.holds (compare as.length bs.length))

/-- What `a` answers about its order with respect to `b`, given how their items compare. -/
def relatedTo? (s : Store) (equal : Value → Value → Bool)
    (related : Value → Value → Except Refusal Bool) (relation : Relation) (a b : Value) :
    Except Refusal (Option Bool) :=
  match s.number? a, s.number? b, s.bytes? a, s.bytes? b with
  | some m, some n, _, _ =>
    .ok (if (whole? a).isSome && (whole? b).isNone then none
      else some ((m.order? n).any relation.holds))
  | _, _, some x, some y =>
    .ok (if s.isView a || isByteString a && !isByteString b then none
      else some (relation.holds (orderOfLists (fun i j : UInt8 => compare i.toNat j.toNat) x y)))
  | none, _, none, _ =>
    match a, b with
    | .text x, .text y =>
      .ok (some (relation.holds
        (orderOfLists (fun c d : Char => compare c.toNat d.toNat) x.toList y.toList)))
    | .object r, .object t =>
      match s.get? r, s.get? t with
      | some (.list x), some (.list y) | some (.tuple x), some (.tuple y) =>
        (itemsRelated equal related relation x y).map some
      | _, _ => .ok none
    | _, _ => .ok none
  | _, _, _, _ => .ok none

def relatedUpTo (s : Store) (relation : Relation) : Nat → Value → Value → Except Refusal Bool
  | 0, _, _ => .error .endless
  | depth + 1, a, b => do
    let items := s.relatedUpTo relation depth
    let answer? ← s.relatedTo? (s.equalUpTo depth) items relation a b
    match answer? with
    | some answer => return answer
    | none =>
      let answer? ← s.relatedTo? (s.equalUpTo depth) items relation.converse b a
      match answer? with
      | some answer => return answer
      | none => throw (.unordered relation.symbol (s.typeName a) (s.typeName b))

def related (s : Store) (relation : Relation) (a b : Value) : Except Refusal Bool :=
  s.relatedUpTo relation depth a b

end Store

end Http2Failure
