import Http2Failure.Call

/-!
# Recovery

What a caller should do about an error, decided by its origin alone: a transport fault is met by a
new connection and misuse by failing at once; a refused stream may be tried again, whichever side
refused it; of the rest, what the peer caused is only logged. The survey converts one failure of
every origin, classifies it, and logs each outcome.
-/

namespace Http2Failure

inductive Recovery where
  | reconnect
  | failFast
  | retry
  | logPeerFault
  | logAndCrash
deriving DecidableEq

namespace Recovery

def text : Recovery → String
  | .reconnect => "reconnect"
  | .failFast => "fail fast"
  | .retry => "retry"
  | .logPeerFault => "log peer fault"
  | .logAndCrash => "log and crash"

def refusedStream : Value := .object 7

/-- Whether a value answers a question with something that counts as present. -/
def affirms (v : Value) (q : Inspection) : Action Bool := do
  let answer ← .inspect v q
  .read fun s => s.truthy answer

def classify (v : Value) : Action Recovery := do
  if ← affirms v .isTransport then return .reconnect
  if ← affirms v .isMisuse then return .failFast
  let reason ← .inspect v .reason
  if ← .ask fun s => s.equal reason refusedStream then return .retry
  if ← affirms v .isRemote then return .logPeerFault
  return .logAndCrash

end Recovery

namespace Survey

def known (code : Nat) : Value := .object code

/-- The failures, made in their order. -/
def sources : Action (List Value) := do
  let streamId (n : Int) : Action Value := .make (.streamId (.int n))
  let refused ← .create (.report (.reset (← streamId 1) (known 7) (.initiator .peer)))
  let calm ← .make (.report
    (.goAway (.bytes "too many streams".toUTF8.toList) (known 11) (.initiator .peer)))
  let broken ← .create (.report (.reset (← streamId 3) (known 1) (.initiator .library)))
  let tooBig ← .create (.sendFailure (.misuse (.misuse .payloadTooBig)))
  let pipe ← .read fun s => Fault.construct s .brokenPipe [.int 32, .text "Broken pipe"]
  let transport ← .create (.report (.transport (← .create (.fault pipe))))
  let connection ← .create (.sendFailure (.connection transport))
  let reset ← .read fun s =>
    Fault.construct s .connectionReset [.int 104, .text "Connection reset by peer"]
  let reset ← .create (.fault reset)
  return [refused, calm, broken, known 2, .misuse .inactiveStreamId, tooBig, connection, reset]

def report (source : Value) : Action Unit := do
  let error ← Error.convert .base source
  let shown ← .read fun s => s.plain error
  let recovery ← Recovery.classify error
  .log ⟨.info, .survey, shown ++ " -> " ++ recovery.text⟩

def run : Action Unit := do
  for source in ← sources do
    report source

/-- Runs the survey and prints its log, which goes to the error stream. -/
def main : IO UInt32 := do
  match run .initial with
  | (result, session) =>
    for record in session.log do
      IO.eprintln record.line
    match result with
    | .ok () => return 0
    | .error r =>
      IO.eprintln r.message
      return 1

end Survey

end Http2Failure
