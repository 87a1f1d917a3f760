import Http2Failure.Method

/-!
# Calls

A name is looked for on the object's own attributes first, which hide its methods, then among the
methods of its sort, and then among its slots and fields. What an attribute holds can be called if
it is a bound method, whose owner is then asked, or a class of errors. A call that leads to other
calls without an end is refused.
-/

namespace Http2Failure

def Store.hiding? (s : Store) (v : Value) (method : String) : Option Value :=
  (s.attributesOf v).get? method

namespace Action

/-- Calls a value. A bound method is that of its owner, whatever hides it there. -/
def callValue (call : Caller) (v : Value) : Call := fun args => do
  match v, ← ask fun s => s.object? v with
  | .errorClass cls, _ =>
    let route := Error.Route.kind
    oneArgument "Error" route.method route.argument (Error.via cls route) args
  | _, some (.method owner name) =>
    match method? call owner (← ask fun s => s.object? owner) name with
    | some result => result args
    | none => throw (.notCallable (← ask fun s => s.typeName v))
  | _, _ => throw (.notCallable (← ask fun s => s.typeName v))

/-- What a call by name finds when it is neither hidden nor a method of the sort. -/
def callAttribute (call : Caller) (v : Value) (name : String) : Call := fun args => do
  match ← ask fun s => s.object? v with
  | some (.method ..) =>
    if name = "__call__" then callValue call v args
    else callValue call (← getAttribute v name) args
  | _ => callValue call (← getAttribute v name) args

def callUpTo : Nat → Caller
  | 0, _, _, _ => throw .endlessInspection
  | depth + 1, v, name, args => do
    let call := callUpTo depth
    match ← ask fun s => s.hiding? v name, method? call v (← ask fun s => s.object? v) name with
    | some value, _ => callValue call value args
    | none, some result => result args
    | none, none => callAttribute call v name args

/-- Calls a method of a value by its name. -/
def call : Caller := callUpTo Store.depth

def apply (v : Value) (args : List Value) : Action Value := callValue call v args

/-- Puts a question to any value; errors have answers, unless attributes hide these. -/
def inspect (v : Value) (q : Inspection) : Action Value := call v q.method []

/-- Reads an attribute. A method that nothing hides is bound to the value, a conversion to the
class of the error. -/
def get (v : Value) (name : String) : Action Value := do
  let o? ← ask fun s => s.object? v
  match ← ask fun s => s.hiding? v name, method? call v o? name with
  | none, some _ =>
    match o?, Error.Route.ofMethod? name with
    | some (.error e), some _ => create (.method (.errorClass e.cls) name)
    | _, _ => create (.method v name)
  | _, _ => getAttribute v name

end Action

end Http2Failure
