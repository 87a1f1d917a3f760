import Http2Failure.Call

/-!
# Answers

What a step of a script shows of the values that it made. A value is shown with its type, its
forms and its parts; an error also with what it answers to each question, where a refused
question is shown as its refusal.
-/

namespace Http2Failure.Script

inductive Answer where
  | null
  | bool (b : Bool)
  | int (i : Int)
  | text (t : String)
  | list (items : List Answer)
  | entries (fields : List (String × Answer))
  | refused (r : Refusal)

namespace Answer

/-- Integers up to this size are shown as numbers, larger ones by their numerals. -/
def largestShown : Nat := 0x20000000000000

def ofInt (i : Int) : Answer :=
  if i.natAbs ≤ largestShown then .int i
  else .entries [("type", .text "int"), ("dec", .text (Text.integer i))]

def ofBytes (type : String) (content : List UInt8) : Answer :=
  let digits := content.map fun b => Text.hexadecimalPadded 2 b.toNat
  .entries [("type", .text type), ("hex", .text (String.join digits))]

/-- Type, plain form and quoted form, the last two in this order. -/
def forms (v : Value) : Action (List (String × Answer)) := do
  let type ← .ask fun s => s.typeName v
  let plain ← .read fun s => s.plain v
  let quoted ← .read fun s => s.quoted v
  return [("type", .text type), ("str", .text plain), ("repr", .text quoted)]

def ofQuoted (v : Value) : Action Answer := do
  let type ← .ask fun s => s.typeName v
  let quoted ← .read fun s => s.quoted v
  return .entries [("type", .text type), ("repr", .text quoted)]

def ofMember (write : Value → Action Answer) (v : Value) : Action (List (String × Answer)) := do
  let shown ← forms v
  let parts ← ["name", "value"].mapM fun name => do
    return (name, ← write (← .getAttribute v name))
  return shown ++ parts

def ofReason (write : Value → Action Answer) (code : Value) : Action (List (String × Answer)) := do
  let shown ← write code
  let number ← .read fun s => s.wholeOf code
  let name ← .read fun s => Reason.nameOf s code
  let description ← .read fun s => Reason.descriptionOf s s.plain code
  let known ← .read fun s => Reason.isKnownOf s code
  return [("code", shown), ("int", ofInt number), ("name", .text name),
    ("description", .text description), ("is_known", .bool known)]

def ofStreamId (write : Value → Action Answer) (value : Value) :
    Action (List (String × Answer)) := do
  let shown ← write value
  let number ← .read fun s => s.wholeOf value
  let isZero ← .ask fun s => StreamId.isZeroOf s value
  let isClient ← .read fun s => StreamId.isClientInitiatedOf s value
  let isServer ← .read fun s => StreamId.isServerInitiatedOf s value
  return [("value", shown), ("int", ofInt number), ("is_zero", .bool isZero),
    ("is_client_initiated", .bool isClient), ("is_server_initiated", .bool isServer)]

def ofFields (write : Value → Action Answer) (fields : List (String × Value)) : Action Answer := do
  let fields ← fields.mapM fun field => do
    return (field.1, ← write field.2)
  return .entries fields

def ofList (write : Value → Action Answer) (items : List Value) : Action Answer :=
  return .list (← items.mapM write)

def ofCause : Option Ref → Action Answer
  | none => return .null
  | some r => do
    let type ← .ask fun s => s.typeName (.object r)
    let plain ← .read fun s => s.plain (.object r)
    return .entries [("type", .text type), ("str", .text plain)]

/-- What all exceptions show, the attributes in the order of their names. -/
def ofCarried (write : Value → Action Answer) (c : Carried) :
    Action (List (String × Answer)) := do
  let args ← ofList write c.args
  let attributes ← ofFields write c.attributes.sorted
  let cause ← ofCause c.cause
  return [("args", args), ("attrs", attributes), ("cause", cause)]

def ofFault (write : Value → Action Answer) (f : Fault) : Action (List (String × Answer)) := do
  let slots ← [("errno", f.errorNumber), ("strerror", f.errorText), ("filename", f.fileName),
      ("filename2", f.fileName2)].mapM fun slot => do
    return (slot.1, ← write (slot.2.getD .null))
  return slots ++ [("characters_written", (f.charactersWritten.map .int).getD .null)]

/-- What an error answers to each question. An answer that cannot be shown counts as refused, like
the question itself. -/
def ofInspections (write : Value → Action Answer) (v : Value) : Action (List (String × Answer)) :=
  Inspection.all.mapM fun q => do
    match ← Action.attempt (.inspect v q >>= write) with
    | .ok shown => return (q.method, shown)
    | .error r => return (q.method, .refused r)

def ofObject (write : Value → Action Answer) (v : Value) : Object → Action Answer
  | .reason code => do
    let shown ← ofReason write code
    return .entries (shown ++ (← forms v))
  | .streamId value => do
    let shown ← ofStreamId write value
    return .entries (shown ++ (← forms v))
  | .fault f => do
    let shown ← forms v
    let carried ← ofCarried write f.toCarried
    return .entries (shown ++ carried ++ (← ofFault write f))
  | .exception _ | .method .. => ofQuoted v
  | .error e => do
    let shown ← forms v
    let carried ← ofCarried write e.toCarried
    let kind ← .ask fun s => ((s.kind? e.kind).map fun k => k.record.className).getD ""
    return .entries (shown ++ carried ++ [("kind", .text kind)] ++ (← ofInspections write v))
  | .buffer content => return ofBytes "bytearray" content
  | .view _ => do
    let content ← .ask fun s => (s.bytes? v).getD []
    return ofBytes "memoryview" content
  | .released => throw .releasedView
  | .list items => return .entries [("type", .text "list"), ("items", ← ofList write items)]
  | .tuple items => return .entries [("type", .text "tuple"), ("items", ← ofList write items)]
  | .float word => return .entries [("type", .text "float"), ("repr", .text (Text.float word))]
  | o =>
    match o.record? with
    | some r => do
      let quoted ← .read fun s => s.quoted v
      return .entries [("type", .text r.className), ("repr", .text quoted),
        ("fields", ← ofFields write r.fields)]
    | none => throw .dangling

def writeUpTo : Nat → Value → Action Answer
  | 0, _ => throw .endlessQuotedForm
  | depth + 1, v => do
    match v with
    | .null => return .null
    | .bool b => return .bool b
    | .int i => return ofInt i
    | .text t => return .text t
    | .errorClass _ | .undecided => ofQuoted v
    | .bytes content => return ofBytes "bytes" content
    | .misuse _ => return .entries (← ofMember (writeUpTo depth) v)
    | .initiator _ =>
      let shown ← ofMember (writeUpTo depth) v
      let sides ← [Initiator.library, .peer].mapM fun side => do
        return (side.method, ← writeUpTo depth (← .call v side.method []))
      return .entries (shown ++ sides)
    | .object r =>
      match ← .ask fun s => s.get? r with
      | some o => ofObject (writeUpTo depth) v o
      | none => throw .dangling

/-- A value as an answer. Showing an error asks it every question, and so does what its methods,
or what stands in their place, do. -/
def write (v : Value) : Action Answer := writeUpTo Store.depth v

end Answer

end Http2Failure.Script
