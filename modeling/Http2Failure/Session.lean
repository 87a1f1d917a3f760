import Http2Failure.Refusal
import Http2Failure.View

/-!
# Sessions

A session holds the store and the log. An action may change both, and what it did before it was
refused stays done. A call passes a list of values to an action; what is called says how many it
takes, and refuses any other number of them before anything is done.
-/

namespace Http2Failure

inductive Level where
  | debug
  | info
deriving DecidableEq

def Level.name : Level → String
  | .debug => "DEBUG"
  | .info => "INFO"

/-- Who writes to the log: the conversions of failures, or the survey of their origins. -/
inductive Logger where
  | conversion
  | survey
deriving DecidableEq

def Logger.name : Logger → String
  | .conversion => "c_h2_core.error"
  | .survey => "error_classification"

structure LogRecord where
  level : Level
  logger : Logger
  message : String
deriving DecidableEq

def LogRecord.line (r : LogRecord) : String :=
  r.level.name ++ ":" ++ r.logger.name ++ ":" ++ r.message

structure Session where
  store : Store
  log : List LogRecord

def Session.initial : Session := ⟨.initial, []⟩

def Action (α : Type) := Session → Except Refusal α × Session

namespace Action

variable {α β : Type}

def done (a : α) : Action α := fun session => (.ok a, session)

def refuse (r : Refusal) : Action α := fun session => (.error r, session)

def andThen (x : Action α) (f : α → Action β) : Action β := fun session =>
  match x session with
  | (.ok a, session) => f a session
  | (.error r, session) => (.error r, session)

instance : Monad Action where
  pure := done
  bind := andThen

instance : MonadExceptOf Refusal Action where
  throw := refuse
  tryCatch x handle := fun session =>
    match x session with
    | (.error r, session) => handle r session
    | outcome => outcome

/-- Runs an action to its end. What it did stays done also when it was refused. -/
def attempt (x : Action α) : Action (Except Refusal α) := fun session =>
  match x session with
  | (result, session) => (.ok result, session)

def ask (f : Store → α) : Action α := fun session => (.ok (f session.store), session)

def read (f : Store → Except Refusal α) : Action α := fun session => (f session.store, session)

def allocate (o : Object) : Action Ref := fun session =>
  (.ok session.store.size, { session with store := session.store.push o })

def create (o : Object) : Action Value := return .object (← allocate o)

def put (r : Ref) (o : Object) : Action Unit := fun session =>
  (.ok (), { session with store := session.store.put r o })

/-- Replaces what a member of an enumeration holds, or what a frozen object holds beside its
fields. -/
def give (v : Value) (attrs : Attributes) : Action Unit := fun session =>
  (.ok (), { session with store := session.store.give v attrs })

def log (record : LogRecord) : Action Unit := fun session =>
  (.ok (), { session with log := session.log ++ [record] })

end Action

abbrev Call := List Value → Action Value

namespace Action

def noArguments (owner method : String) (result : Action Value) : Call := fun args =>
  if args.isEmpty then result
  else throw (.extraArguments (owner ++ "." ++ method) "1 positional argument" (args.length + 1))

def oneArgument (owner method argument : String) (result : Value → Action Value) : Call
  | [v] => result v
  | [] => throw (.missingArguments (owner ++ "." ++ method) [argument])
  | args =>
    throw (.extraArguments (owner ++ "." ++ method) "2 positional arguments" (args.length + 1))

def exactlyOne (owner method : String) (result : Value → Action Value) : Call
  | [v] => result v
  | args => throw (.exactlyOneArgument (owner ++ "." ++ method) args.length)

def atMostOne (function : String) (result : Option Value → Action Value) : Call
  | [] => result none
  | [v] => result (some v)
  | args => throw (.atMostOneArgument function args.length)

def exactlyTwo (result : Value → Value → Action Value) : Call
  | [v, w] => result v w
  | args => throw (.otherArguments 2 args.length)

end Action

end Http2Failure
