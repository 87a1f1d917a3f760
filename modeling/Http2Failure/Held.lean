import Http2Failure.Equality
import Http2Failure.Frozen

/-!
# What reasons and stream identifiers show of the value they hold

A reason or an identifier nearly always holds a number that its constructor has checked, and then
shows what is said of that number. One that holds a value which was refused shows as much of it as
the value allows: whatever is equal to a known code is described as that code, and what is asked
of a number is refused by any other value.
-/

namespace Http2Failure

namespace Store

/-- The whole number that an object gives for the value it holds. -/
def wholeOf (s : Store) (v : Value) : Except Refusal Int :=
  match whole? v with
  | some i => .ok i
  | none => .error (.notWhole (s.typeName v))

/-- What a table has under a value, which is looked for as a key. -/
def under? (s : Store) (table : List (Nat × String)) (v : Value) :
    Except Refusal (Option String) := do
  s.hashable v
  return (table.find? fun entry => s.equal v (.int entry.1)).map Prod.snd

end Store

namespace Reason

def nameOfInt (i : Int) : String :=
  (if i < 0 then "-0x" else "0x") ++ Text.hexadecimal i.natAbs

def nameOf (s : Store) (v : Value) : Except Refusal String :=
  match ofValue v, v, s.object? v with
  | .ok r, _, _ => .ok r.name
  | _, .text _, _ | _, .misuse _, _ | _, .initiator _, _ => .error (.notHexadecimal "str")
  | _, _, some (.float _) => .error (.notHexadecimal "float")
  | _, _, _ =>
    match Store.whole? v with
    | some i => .ok (((ofInt? i).map name).getD (nameOfInt i))
    | none => .error (.notFormattable (s.typeName v))

def descriptionOf (s : Store) (plain : Value → Except Refusal String) (v : Value) :
    Except Refusal String :=
  match ofValue v with
  | .ok r => .ok r.description
  | .error _ => do
    match ← s.under? descriptions v with
    | some text => return text
    | none => return "unknown reason code: " ++ (← plain v)

def isKnownOf (s : Store) (v : Value) : Except Refusal Bool :=
  match ofValue v with
  | .ok r => .ok r.isKnown
  | .error _ => do
    let name? ← s.under? names v
    return name?.isSome

end Reason

namespace StreamId

def isZeroOf (s : Store) (v : Value) : Bool :=
  match ofValue v with
  | .ok i => i.isZero
  | .error _ => s.equal v (.int 0)

/-- A text or a byte string that takes the number two as a template gives another text or byte
string, which is no remainder. -/
def parityOfTemplate (checked : Except Text.Template.Flaw Unit) : Except Refusal Bool :=
  match checked with
  | .ok () => .ok false
  | .error flaw => .error (.template flaw)

/-- Whether a value that is no identifier leaves `remainder` when it is divided by two. -/
def hasParity (s : Store) (remainder : Int) (v : Value) : Except Refusal Bool :=
  match s.number? v, v, s.object? v with
  | some n, _, _ => .ok (n.hasParity remainder)
  | none, .text t, _ => parityOfTemplate (Text.Template.check .characters t.toList)
  | none, .bytes b, _ | none, _, some (.buffer b) =>
    parityOfTemplate (Text.Template.checkBytes b)
  | none, _, _ => .error (.notDivisible (s.typeName v))

def isClientInitiatedOf (s : Store) (v : Value) : Except Refusal Bool :=
  match ofValue v with
  | .ok i => .ok i.isClientInitiated
  | .error _ => hasParity s 1 v

def isServerInitiatedOf (s : Store) (v : Value) : Except Refusal Bool :=
  match ofValue v with
  | .ok i => .ok i.isServerInitiated
  | .error _ => if s.equal v (.int 0) then .ok false else hasParity s 0 v

def increased (s : Store) (plain : Value → Except Refusal String) (v : Value) :
    Except Refusal Value :=
  match s.number? v, v, s.object? v with
  | some n, _, _ => do
    if (Number.ofInt (max - 2)).less n then throw (.noSuccessor (← plain v))
    match Store.whole? v with
    | some i => return .int (i + 2)
    | none => throw .streamIdNotInteger
  | none, .text _, _ => .error (.notJoinable "str")
  | none, _, some (.list _) => .error (.notJoinable "list")
  | none, _, some (.tuple _) => .error (.notJoinable "tuple")
  | none, .bytes _, _ | none, _, some (.buffer _) => .error (.notAppendable (s.typeName v))
  | none, _, _ => .error (.notAddable (s.typeName v))

def nextOf (s : Store) (plain : Value → Except Refusal String) (v : Value) :
    Except Refusal Value :=
  match ofValue v with
  | .ok i =>
    match i.next? with
    | some next => .ok (.int next.value)
    | none => .error (.noSuccessor i.text)
  | .error _ => increased s plain v

end StreamId

end Http2Failure
