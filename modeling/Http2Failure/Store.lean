import Http2Failure.Number
import Http2Failure.Object

/-!
# The store

Objects live in a store and are addressed by their place. The store only grows: a new object
goes to the end, and an object is never removed, so a reference stays valid.
-/

namespace Http2Failure

structure Store where
  objects : Array Object
  /-- What members of enumerations hold that were given something, and what frozen objects were
  given beside their fields. A member is shared by all its uses. -/
  given : List (Value × Attributes) := []

namespace Store

def size (s : Store) : Nat := s.objects.size

def get? (s : Store) (r : Ref) : Option Object := s.objects[r]?

def push (s : Store) (o : Object) : Store := { s with objects := s.objects.push o }

/-- Replaces the object at a place; outside the store nothing happens. -/
def put (s : Store) (r : Ref) (o : Object) : Store :=
  { s with objects := s.objects.setIfInBounds r o }

/-- The shared objects: the constants of the known reasons, each at the place of its code, and
behind them the identifier of the connection and the empty tuple, of which there is only one. -/
def initial : Store :=
  { objects :=
      (Reason.constants.map Object.ofReason ++ [Object.ofStreamId .zero, Object.tuple []]).toArray }

def zeroRef : Ref := Reason.names.length

def emptyTupleRef : Ref := zeroRef + 1

theorem get?_push_size (s : Store) (o : Object) : (s.push o).get? s.size = some o := by
  simp [get?, push, size]

theorem get?_push_of_lt {s : Store} {r : Ref} (o : Object) (h : r < s.size) :
    (s.push o).get? r = s.get? r := by
  have ne : r ≠ s.objects.size := Nat.ne_of_lt h
  simp [get?, push, Array.getElem?_push, ne]

theorem size_push (s : Store) (o : Object) : (s.push o).size = s.size + 1 := by
  simp [size, push]

theorem size_put (s : Store) (r : Ref) (o : Object) : (s.put r o).size = s.size := by
  simp [size, put]

theorem get?_put_ne {s : Store} {r t : Ref} (o : Object) (h : r ≠ t) :
    (s.put r o).get? t = s.get? t := by
  simp [get?, put, h]

theorem get?_put_self {s : Store} {r : Ref} (o : Object) (h : r < s.size) :
    (s.put r o).get? r = some o := by
  have bound : r < s.objects.size := h
  simp [get?, put, bound]

def object? (s : Store) : Value → Option Object
  | .object r => s.get? r
  | _ => none

/-- The free attributes of an exception, of a member of an enumeration, or of a frozen object. -/
def attributesOf (s : Store) (v : Value) : Attributes :=
  match v, (s.object? v).bind Object.carried? with
  | _, some c => c.attributes
  | .object _, none | .misuse _, none | .initiator _, none =>
    (s.given.lookup v).getD v.ownAttributes
  | _, none => []

theorem attributesOf_of_carried {s : Store} {r : Ref} {o : Object} {c : Carried}
    (found : s.get? r = some o) (carried : o.carried? = some c) :
    s.attributesOf (.object r) = c.attributes := by
  simp only [attributesOf, object?, found, Option.bind_some, carried]

def give (s : Store) (v : Value) (attrs : Attributes) : Store :=
  { s with given := (v, attrs) :: s.given.filter fun entry => entry.1 != v }

def kind? (s : Store) (r : Ref) : Option Kind :=
  match s.get? r with
  | some (.kind k) => some k
  | _ => none

def typeName (s : Store) : Value → String
  | .null => "NoneType"
  | .bool _ => "bool"
  | .int _ => "int"
  | .text _ => "str"
  | .bytes _ => "bytes"
  | .misuse _ => Enumeration.misuse.name
  | .initiator _ => Enumeration.initiator.name
  | .errorClass _ => "type"
  | .undecided => "NotImplementedType"
  | .object r => ((s.get? r).map Object.className).getD "object"

def bytes? (s : Store) (v : Value) : Option (List UInt8) :=
  match v with
  | .bytes b => some b
  | .object r =>
    match s.get? r with
    | some (.buffer b) => some b
    | some (.view source) =>
      match source with
      | .bytes b => some b
      | .object t =>
        match s.get? t with
        | some (.buffer b) => some b
        | _ => none
      | _ => none
    | _ => none
  | _ => none

/-- The whole number that a value is, truth values counting as zero and one. -/
def whole? : Value → Option Int
  | .bool b => some (if b then 1 else 0)
  | .int i => some i
  | _ => none

/-- The exact number that a value is, truth values counting as zero and one. -/
def number? (s : Store) (v : Value) : Option Number :=
  match v with
  | .object r =>
    match s.get? r with
    | some (.float word) => some (.ofWord word)
    | _ => none
  | v => (whole? v).map .ofInt

/-- How deep values nest. What lies deeper, or reaches itself without a break, has no form. -/
def depth : Nat := 1000

end Store

end Http2Failure
