import Http2Failure.Fault.Construction

/-!
# Inspection of errors

Questions to an error are answered from its kind alone. Which side triggered a reset or a
termination is asked of the initiator that the kind holds, by calling its method of that name: an
initiator knows the answer, and any other value may have such a method or not. An error that wraps a
transport fault can give out a new fault of the same class and content, with the wrapped one as its
cause.
-/

namespace Http2Failure

namespace Kind

def isReset : Kind → Bool
  | .reset .. => true
  | _ => false

def isGoAway : Kind → Bool
  | .goAway .. => true
  | _ => false

def isMisuse : Kind → Bool
  | .misuse _ => true
  | _ => false

def isTransport : Kind → Bool
  | .transport _ => true
  | _ => false

/-- The protocol code of a reset or a termination; a bare reason has none of its own. -/
def reason? : Kind → Option Value
  | .reset _ code _ | .goAway _ code _ => some code
  | _ => none

def initiator? : Kind → Option Value
  | .reset _ _ side | .goAway _ _ side => some side
  | _ => none

def streamId? : Kind → Option Value
  | .reset id _ _ => some id
  | _ => none

def debugData? : Kind → Option Value
  | .goAway data _ _ => some data
  | _ => none

def fault? : Kind → Option Value
  | .transport fault => some fault
  | _ => none

end Kind

inductive Inspection where
  | reason
  | isTransport
  | fault
  | isReset
  | isGoAway
  | isMisuse
  | isRemote
  | isLibrary
  | streamId
  | debugData
deriving DecidableEq

namespace Inspection

def all : List Inspection := [.reason, .isTransport, .fault, .isReset, .isGoAway, .isMisuse,
  .isRemote, .isLibrary, .streamId, .debugData]

def method : Inspection → String
  | .reason => "reason"
  | .isTransport => "is_io"
  | .fault => "get_io"
  | .isReset => "is_reset"
  | .isGoAway => "is_go_away"
  | .isMisuse => "is_user"
  | .isRemote => "is_remote"
  | .isLibrary => "is_library"
  | .streamId => "stream_id"
  | .debugData => "debug_data"

def ofMethod? (method : String) : Option Inspection :=
  all.find? fun q => q.method == method

end Inspection

def Initiator.method : Initiator → String
  | .library => "is_local"
  | .peer => "is_remote"

abbrev Caller := Value → String → List Value → Action Value

namespace Kind

def askSide (call : Caller) (side : Initiator) (k : Kind) : Action Value :=
  match k.initiator? with
  | some v => call v side.method []
  | none => return .bool false

/-- The answer of a kind, given how methods are called. -/
def inspect (call : Caller) (k : Kind) : Inspection → Action Value
  | .reason => return k.reason?.getD .null
  | .isTransport => return .bool k.isTransport
  | .fault => return k.fault?.getD .null
  | .isReset => return .bool k.isReset
  | .isGoAway => return .bool k.isGoAway
  | .isMisuse => return .bool k.isMisuse
  | .isRemote => k.askSide call .peer
  | .isLibrary => k.askSide call .library
  | .streamId => return k.streamId?.getD .null
  | .debugData => return k.debugData?.getD .null

/-- A new fault for the one that the kind holds, if it holds one. -/
def intoFault (k : Kind) : Action Value := do
  match k with
  | .transport v =>
    match v, ← .ask fun s => s.object? v with
    | .object r, some (.fault f) => .create (.fault (← .read fun s => f.rebuild s r))
    | _, some (.exception e) => throw (.notAFault e.cls.name)
    | _, some (.error e) => throw (.notAFault e.cls.name)
    | _, _ =>
      let type ← .ask fun s => s.typeName v
      match ← .ask fun s => (s.attributesOf v).get? "args" with
      | some args =>
        match ← .ask fun s => s.elements args with
        | .ok _ => throw (.notAFault type)
        | .error .releasedView => throw .releasedView
        | .error _ => throw (.partsNotIterable (← .ask fun s => s.typeName args))
      | none => throw (.noAttribute type "args")
  | _ => return .null

end Kind

end Http2Failure
