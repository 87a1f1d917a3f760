import Http2Failure.Clone
import Http2Failure.Equality
import Http2Failure.Recovery
import Http2Failure.Script.Answer
import Http2Failure.Script.Expr

/-!
# Steps

A script is a list of steps over one session and one set of variables. A step answers with a
result or with the refusal that ended it, and with the log records that it wrote. A refused step
does not end the script, and what it did before it was refused stays done.
-/

namespace Http2Failure.Script

inductive Step where
  | display (value : Expr) (name? : Option String)
  | call (target : Expr) (method : String) (args : List Expr) (name? : Option String)
  | get (target : Expr) (attr : String) (name? : Option String)
  | set (target : Expr) (attr : String) (value : Expr)
  | delete (target : Expr) (attr : String)
  | poke (target : Expr) (index byte : Int)
  | same (a b : Expr)
  | equal (a b : Expr)
  | less (a b : Expr)
  | distinct (values : List Expr)
  | clone (value : Expr) (mode : CloneMode) (name? : Option String)
  | raise (exception : Expr) (cause? : Option Expr)
  | renderKind (kind : Expr)
  | classify (error : Expr)
  | survey
  | constants

structure State where
  session : Session
  vars : Bindings
  /-- How many steps were made. -/
  made : Nat := 0

namespace State

def initial : State := { session := .initial, vars := [] }

/-- The store without the views that no variable holds any more. -/
def held (state : State) : Store := state.session.store.releaseGone state.vars.values

end State

structure Outcome where
  result : Except Refusal Answer
  log : List LogRecord

namespace Step

/-- Raising needs an exception, and a cause, where one is given, must be one or null. -/
def raised (v : Value) (cause? : Option Value) : Action Unit := do
  match v, ← .ask fun s => s.object? v with
  | .object r, some o =>
    match o.carried? with
    | none => throw .raisedNonException
    | some c =>
      match cause? with
      | none => return ()
      | some cause =>
        match ← .ask fun s => s.exception? cause with
        | some cause => .put r (o.withCarried (c.withCause cause))
        | none => throw .raisedFromNonException
  | _, _ => throw .raisedNonException

def constantsAnswer : Action Answer := do
  let zero ← Answer.write (.object Store.zeroRef)
  let reasons ← (List.range Reason.names.length).mapM fun code => Answer.write (.object code)
  let misuses ← Misuse.all.mapM fun m => Answer.write (.misuse m)
  let initiators ← Initiator.all.mapM fun i => Answer.write (.initiator i)
  return .entries [
    ("MAX_CODE", .int Reason.maxCode),
    ("MAX", .int StreamId.max),
    ("ZERO", zero),
    ("reasons", .list reasons),
    ("user_errors", .list misuses),
    ("initiators", .list initiators),
    ("version", .text "0.1.0"),
    ("all", .list (["Error", "Reason", "StreamId", "Initiator", "ProtoError", "UserError",
      "SendError", "SendUserError", "SendConnectionError"].map Answer.text))]

/-- What a step leaves to be shown: a value, which may get a name, or an answer. -/
inductive Product where
  | value (v : Value) (name? : Option String)
  | answer (a : Answer)

def done : Product := .answer (.text "ok")

def perform (vars : Bindings) : Step → Action Product
  | .display value name? => return .value (← value.eval vars) name?
  | .call target method args name? => do
    let target ← target.eval vars
    let args ← Expr.evalAll vars args
    return .value (← .call target method args) name?
  | .get target attr name? => do
    let target ← target.eval vars
    return .value (← .get target attr) name?
  | .set target attr value => do
    let target ← target.eval vars
    let value ← value.eval vars
    .setAttribute target attr value
    return done
  | .delete target attr => do
    let target ← target.eval vars
    .deleteAttribute target attr
    return done
  | .poke target index byte => do
    let target ← target.eval vars
    .setItem target (.int index) (.int byte)
    return done
  | .same a b => do
    let apart := madeApart vars a b
    let a ← a.eval vars
    let b ← b.eval vars
    return .answer (.bool (Store.same a b && !apart a))
  | .equal a b => do
    let a ← a.eval vars
    let b ← b.eval vars
    let equal ← .ask fun s => s.equal a b
    return .answer (.entries [("eq", .bool equal), ("ne", .bool !equal)])
  | .less a b => do
    let a ← a.eval vars
    let b ← b.eval vars
    return .answer (.bool (← .read fun s => s.related .less a b))
  | .distinct values => do
    let values ← Expr.evalAll vars values
    let indices ← .read fun s => s.distinct values
    return .answer (.list (indices.map fun i : Nat => .int i))
  | .clone value mode name? => do
    let value ← value.eval vars
    return .value (← .clone mode value) name?
  | .raise exception cause? => do
    let exception ← exception.eval vars
    let cause? ← match cause? with
      | some cause => do
        let cause ← cause.eval vars
        pure (some cause)
      | none => pure none
    raised exception cause?
    let caught ← Answer.write exception
    let suppressed ← .getAttribute exception "__suppress_context__"
    return .answer (.entries [("caught", caught),
      ("suppress_context", ← Answer.write suppressed)])
  | .renderKind kind => do
    let kind ← kind.eval vars
    return .answer (.text (← .read fun s => Error.textOf s kind))
  | .classify error => do
    let error ← error.eval vars
    return .answer (.text (← Recovery.classify error).text)
  | .survey => do
    Survey.run
    return .answer .null
  | .constants => return .answer (← constantsAnswer)

/-- The step that wrote the value of a step out: a value that is read back is a new one. -/
def origin? (vars : Bindings) (number : Nat) : Step → Option Nat
  | .display value _ => value.origin? vars number
  | .clone _ .stored _ => some number
  | .clone value _ _ => value.origin? vars number
  | _ => none

/-- Binds the produced value before it is written, so the name stays when writing is refused. -/
def run (step : Step) (state : State) : Outcome × State :=
  match step.perform state.vars { state.session with store := state.held, log := [] } with
  | (result, session) =>
    let number := state.made + 1
    let state := { state with session, made := number }
    match result with
    | .error r => (⟨.error r, session.log⟩, state)
    | .ok (.answer a) => (⟨.ok a, session.log⟩, state)
    | .ok (.value v name?) =>
      let origin := step.origin? state.vars number
      let vars := (name?.map fun name => state.vars.bind name ⟨v, origin⟩).getD state.vars
      match Answer.write v session with
      | (result, session) => (⟨result, session.log⟩, { state with session, vars })

def runAll : List Step → State → List Outcome
  | [], _ => []
  | step :: rest, state =>
    match step.run state with
    | (outcome, state) => outcome :: runAll rest state

end Step

end Http2Failure.Script
