import Http2Failure.Fault.Class
import Http2Failure.ProtocolValue
import Http2Failure.Value

/-!
# Objects

The things that have an identity: protocol values, the reports of the engine and of the sending
side, the kinds of an error, exceptions, byte buffers and sequences. Protocol values, reports
and kinds are frozen records: `Object.record?` gives their class name and their fields in order,
and equality, hashing, copying and quoting of all of them go by that view.
-/

namespace Http2Failure

/-- A failure that the protocol engine reports. -/
inductive Report where
  | reset (streamId reason initiator : Value)
  | goAway (debugData reason initiator : Value)
  | transport (fault : Value)
deriving DecidableEq

/-- A failure of the sending side: misuse by the caller, or a connection that failed before. -/
inductive SendFailure where
  | misuse (misuse : Value)
  | connection (report : Value)
deriving DecidableEq

/-- The origin that an error was built from. -/
inductive Kind where
  | reset (streamId reason initiator : Value)
  | goAway (debugData reason initiator : Value)
  | reason (reason : Value)
  | misuse (misuse : Value)
  | transport (fault : Value)
deriving DecidableEq

/-- What every exception carries. -/
structure Carried where
  args : List Value := []
  /-- The tuple that holds the arguments, once it has been taken from somewhere or given out. -/
  argsTuple : Option Ref := none
  attributes : Attributes := []
  cause : Option Ref := none
  suppressContext : Bool := false
  context : Option Ref := none
deriving DecidableEq

namespace Carried

def withArgs (c : Carried) (args : List Value) (argsTuple : Option Ref) : Carried :=
  { c with args, argsTuple }

/-- Setting a cause, also to none, suppresses the context. -/
def withCause (c : Carried) (cause : Option Ref) : Carried :=
  { c with cause, suppressContext := true }

end Carried

/-- A transport fault. A slot that is unset differs from one that holds the null value. -/
structure Fault extends Carried where
  cls : Fault.Class
  errorNumber : Option Value := none
  errorText : Option Value := none
  fileName : Option Value := none
  fileName2 : Option Value := none
  charactersWritten : Option Int := none
deriving DecidableEq

namespace PlainException

inductive Class where
  | general
  | value
  | runtime
deriving DecidableEq

def Class.name : Class → String
  | .general => "Exception"
  | .value => "ValueError"
  | .runtime => "RuntimeError"

end PlainException

/-- An exception that is neither a transport fault nor an error of the connection. -/
structure PlainException extends Carried where
  cls : PlainException.Class
deriving DecidableEq

/-- An error of the connection. Its kind is an object, shared by all copies of the error. -/
structure Error extends Carried where
  cls : Error.Class
  kind : Ref
deriving DecidableEq

inductive Object where
  /-- A protocol error code, which its constructor has checked. -/
  | reason (code : Value)
  /-- The number of a stream, which its constructor has checked. -/
  | streamId (value : Value)
  | report (r : Report)
  | sendFailure (f : SendFailure)
  | kind (k : Kind)
  | fault (f : Fault)
  | exception (e : PlainException)
  | error (e : Error)
  /-- Bytes that can be written in place. -/
  | buffer (content : List UInt8)
  /-- A window on a byte string or on a buffer. -/
  | view (source : Value)
  /-- A view that no longer looks at anything. -/
  | released
  | list (items : List Value)
  | tuple (items : List Value)
  /-- A binary64 number, by its word. -/
  | float (word : UInt64)
  /-- A method bound to the value that it was read from. -/
  | method (owner : Value) (name : String)
deriving DecidableEq

structure Record where
  className : String
  fields : List (String × Value)
deriving DecidableEq

namespace Report

def record : Report → Record
  | .reset s r i => ⟨"Reset", [("stream_id", s), ("reason", r), ("initiator", i)]⟩
  | .goAway d r i => ⟨"GoAway", [("debug_data", d), ("reason", r), ("initiator", i)]⟩
  | .transport f => ⟨"Io", [("error", f)]⟩

def withFields : Report → List Value → Report
  | .reset .., [s, r, i] => .reset s r i
  | .goAway .., [d, r, i] => .goAway d r i
  | .transport _, [f] => .transport f
  | r, _ => r

end Report

namespace SendFailure

def record : SendFailure → Record
  | .misuse m => ⟨"SendUserError", [("user", m)]⟩
  | .connection r => ⟨"SendConnectionError", [("error", r)]⟩

def withFields : SendFailure → List Value → SendFailure
  | .misuse _, [m] => .misuse m
  | .connection _, [r] => .connection r
  | f, _ => f

end SendFailure

namespace Kind

def record : Kind → Record
  | .reset s r i => ⟨"_Reset", [("stream_id", s), ("reason", r), ("initiator", i)]⟩
  | .goAway d r i => ⟨"_GoAway", [("debug_data", d), ("reason", r), ("initiator", i)]⟩
  | .reason r => ⟨"_Reason", [("reason", r)]⟩
  | .misuse m => ⟨"_User", [("user", m)]⟩
  | .transport f => ⟨"_Io", [("error", f)]⟩

def withFields : Kind → List Value → Kind
  | .reset .., [s, r, i] => .reset s r i
  | .goAway .., [d, r, i] => .goAway d r i
  | .reason _, [r] => .reason r
  | .misuse _, [m] => .misuse m
  | .transport _, [f] => .transport f
  | k, _ => k

def ofReport : Report → Kind
  | .reset s r i => .reset s r i
  | .goAway d r i => .goAway d r i
  | .transport f => .transport f

end Kind

namespace Object

def ofReason (r : Reason) : Object := .reason (.int r.code)

def ofStreamId (i : StreamId) : Object := .streamId (.int i.value)

def record? : Object → Option Record
  | .reason code => some ⟨"Reason", [("code", code)]⟩
  | .streamId value => some ⟨"StreamId", [("value", value)]⟩
  | .report r => some r.record
  | .sendFailure f => some f.record
  | .kind k => some k.record
  | _ => none

/-- The frozen object of the same class with other fields. Where the number of fields differs, and
for every object that is not frozen, nothing changes. -/
def withFields : Object → List Value → Object
  | .reason _, [code] => .reason code
  | .streamId _, [value] => .streamId value
  | .report r, fields => .report (r.withFields fields)
  | .sendFailure f, fields => .sendFailure (f.withFields fields)
  | .kind k, fields => .kind (k.withFields fields)
  | o, _ => o

def className : Object → String
  | .reason _ => "Reason"
  | .streamId _ => "StreamId"
  | .report r => r.record.className
  | .sendFailure f => f.record.className
  | .kind k => k.record.className
  | .fault f => f.cls.name
  | .exception e => e.cls.name
  | .error e => e.cls.name
  | .buffer _ => "bytearray"
  | .view _ | .released => "memoryview"
  | .list _ => "list"
  | .tuple _ => "tuple"
  | .float _ => "float"
  | .method .. => "method"

def carried? : Object → Option Carried
  | .fault f => some f.toCarried
  | .exception e => some e.toCarried
  | .error e => some e.toCarried
  | _ => none

/-- The same exception with other things carried; any other object is unchanged. -/
def withCarried (o : Object) (c : Carried) : Object :=
  match o with
  | .fault f => .fault { f with toCarried := c }
  | .exception e => .exception { e with toCarried := c }
  | .error e => .error { e with toCarried := c }
  | o => o

def isException (o : Object) : Bool := o.carried?.isSome

end Object

end Http2Failure
