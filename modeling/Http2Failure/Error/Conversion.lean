import Http2Failure.Rendering
import Http2Failure.Session

/-!
# Conversion into errors

Each failure becomes an error of exactly one kind. Engine reports keep their fields, a failure of
the sending side becomes what it holds, and an error is returned as it is, so a transport fault is
never wrapped twice. The two boundaries where a failure enters, transport faults and failures of
the sending side, write one log record before they convert.
-/

namespace Http2Failure.Error

/-- The rendering of a kind, which only the five kinds have. -/
def textOf (s : Store) (v : Value) : Except Refusal String :=
  match s.object? v with
  | some (.kind k) => k.plain s s.render
  | _ => do throw (.unreachable (← s.quoted v))

/-- A new error around an existing kind. Its only argument is its text at this moment. -/
def around (cls : Class) (kind : Ref) : Action Value := do
  let text ← .read fun s => textOf s (.object kind)
  .create (.error { cls, kind, args := [.text text] })

def ofKind (cls : Class) (k : Kind) : Action Value := do
  around cls (← .allocate (.kind k))

def ofValue (cls : Class) (v : Value) : Action Value := do
  match v, ← .ask fun s => s.object? v with
  | .object r, some (.kind _) => around cls r
  | _, _ => throw (.unsupportedKind (← .ask fun s => s.typeName v))

def ofReport (cls : Class) (v : Value) : Action Value := do
  match ← .ask fun s => s.object? v with
  | some (.report r) => ofKind cls (.ofReport r)
  | _ => throw (.unreachable (← .read fun s => s.quoted v))

def ofReason (cls : Class) (reason : Value) : Action Value :=
  ofKind cls (.reason reason)

def ofMisuse (cls : Class) (misuse : Value) : Action Value :=
  ofKind cls (.misuse misuse)

def ofTransport (cls : Class) (fault : Value) : Action Value := do
  let shown ← .read fun s => s.quoted fault
  .log ⟨.debug, .conversion, "Wrapping transport fault: " ++ shown⟩
  ofKind cls (.transport fault)

def ofSendFailure (cls : Class) (v : Value) : Action Value := do
  match ← .ask fun s => s.object? v with
  | some (.sendFailure (.misuse m)) =>
    let shown ← .read fun s => s.plain m
    .log ⟨.debug, .conversion, "Send rejected by local validation: " ++ shown⟩
    ofMisuse cls m
  | some (.sendFailure (.connection report)) =>
    let shown ← .read fun s => s.quoted report
    .log ⟨.debug, .conversion, "Send failed on connection error: " ++ shown⟩
    ofReport cls report
  | _ => throw (.unreachable (← .read fun s => s.quoted v))

def convert (cls : Class) (v : Value) : Action Value := do
  match v, ← .ask fun s => s.object? v with
  | _, some (.error _) => return v
  | _, some (.report _) => ofReport cls v
  | _, some (.reason _) => ofReason cls v
  | _, some (.sendFailure _) => ofSendFailure cls v
  | .misuse _, _ => ofMisuse cls v
  | _, some (.fault _) => ofTransport cls v
  | _, _ => throw (.notConvertible (← .ask fun s => s.typeName v))

inductive Route where
  | kind
  | report
  | reason
  | sendFailure
  | misuse
  | transport
  | any
deriving DecidableEq

def via (cls : Class) : Route → Value → Action Value
  | .kind => ofValue cls
  | .report => ofReport cls
  | .reason => ofReason cls
  | .sendFailure => ofSendFailure cls
  | .misuse => ofMisuse cls
  | .transport => ofTransport cls
  | .any => convert cls

/-- The constructor called again on a finished error. It is always refused. -/
def again (v : Value) : Action Unit := do
  match ← .ask fun s => s.object? v with
  | some (.kind _) => throw .kindIsFixed
  | _ => throw (.unsupportedKind (← .ask fun s => s.typeName v))

end Http2Failure.Error
