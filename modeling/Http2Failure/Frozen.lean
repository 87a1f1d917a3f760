import Http2Failure.Session

/-!
# Frozen objects

Protocol values, reports, failures of the sending side and kinds cannot be changed by their
attributes. Three constructors look at what they are given: reasons and stream identifiers must be
whole numbers in range, and the debug data of a termination must be bytes, which are copied at that
moment. All other parts may be anything. A constructor that is called again on a finished object
stores the new parts before it looks at them, so what it refuses stays there.
-/

namespace Http2Failure

namespace Reason

/-- Truth values are not codes. -/
def ofValue (v : Value) : Except Refusal Reason :=
  match v with
  | .int code =>
    match ofInt? code with
    | some r => .ok r
    | none => .error (.reasonOutOfRange code)
  | _ => .error .reasonNotInteger

end Reason

namespace StreamId

def ofValue (v : Value) : Except Refusal StreamId :=
  match v with
  | .int value =>
    match ofInt? value with
    | some i => .ok i
    | none => .error (.streamIdOutOfRange value)
  | _ => .error .streamIdNotInteger

end StreamId

namespace Object

/-- The object as its constructor leaves it. A termination keeps the bytes that its debug data has
at this moment. -/
def checked (s : Store) : Object → Except Refusal Object
  | .reason code => do
    let r ← Reason.ofValue code
    return ofReason r
  | .streamId value => do
    let i ← StreamId.ofValue value
    return ofStreamId i
  | .report (.goAway debugData code side) =>
    match s.bytes? debugData with
    | some content => .ok (.report (.goAway (.bytes content) code side))
    | none => .error (if s.isReleased debugData then .releasedView else .debugDataNotBytes)
  | o => .ok o

/-- Whether the constructor looks at its parts. -/
def isChecked : Object → Bool
  | .reason _ | .streamId _ | .report (.goAway ..) => true
  | _ => false

end Object

namespace Action

def make (o : Object) : Action Value := do create (← read fun s => o.checked s)

def check (r : Ref) (o : Object) : Action Unit := do put r (← read fun s => o.checked s)

def remake (r : Ref) (o : Object) (fields : List Value) : Action Unit := do
  put r (o.withFields fields)
  check r (o.withFields fields)

/-- The tuple of some values, which is a new one unless it is empty. -/
def tuple (items : List Value) : Action Ref :=
  if items.isEmpty then return Store.emptyTupleRef else allocate (.tuple items)

/-- The tuple of the arguments of an exception. It is made when it is first needed, and is the
same one from then on. -/
def argsTuple (r : Ref) (o : Object) (c : Carried) : Action Ref := do
  match c.argsTuple with
  | some place => return place
  | none =>
    let place ← tuple c.args
    put r (o.withCarried { c with argsTuple := some place })
    return place

end Action

end Http2Failure
