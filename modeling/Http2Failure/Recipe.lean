import Http2Failure.Call

/-!
# Recipes

What a value gives out for its parts is a recipe for a clone: what to call for it, the arguments of
that call, and what the clone gets afterwards. This is a state, which the clone takes by a method of
its own or else enters into what it holds, then items to append, and entries to set. What enters a
frozen object in this way is not looked at, not even under the name of a field.
-/

namespace Http2Failure

structure Recipe where
  maker : Value
  args : Value
  state : Value := .null
  items : Value := .null
  entries : Value := .null
  /-- What is called with the clone and the state, in the place of all other ways to take it. -/
  setter : Value := .null
deriving DecidableEq

namespace Store

/-- How a value is named where its arguments are no sequence. -/
def calleeForm (s : Store) (v : Value) : Except Refusal String :=
  match v, s.object? v with
  | .errorClass cls, _ => .ok (cls.fullName ++ "()")
  | _, some (.method owner name) => .ok (s.methodOwner owner name ++ "." ++ name ++ "()")
  | _, _ => s.plain v

def isCallable (s : Store) (v : Value) : Bool :=
  match v, s.object? v with
  | .errorClass _, _ | _, some (.method ..) => true
  | _, _ => false

def twoItems? (s : Store) (v : Value) : Option (Value × Value) :=
  match s.object? v with
  | some (.tuple [a, b]) => some (a, b)
  | _ => none

end Store

namespace Object

def withField (o : Object) (record : Record) (name : String) (v : Value) : Object :=
  o.withFields (record.fields.map fun field => if field.1 = name then v else field.2)

end Object

namespace Recipe

def ofItems? : List Value → Option Recipe
  | [maker, args] => some { maker, args }
  | [maker, args, state] => some { maker, args, state }
  | [maker, args, state, items] => some { maker, args, state, items }
  | [maker, args, state, items, entries] => some { maker, args, state, items, entries }
  | [maker, args, state, items, entries, setter] =>
    some { maker, args, state, items, entries, setter }
  | _ => none

/-- The recipe that some parts make for a copy, which is given no setter. -/
def ofParts (parts : Value) : Action Recipe := do
  match ← Action.ask fun s => s.elements parts with
  | .ok items =>
    if items.length < 2 then
      throw (.missingArguments "_reconstruct" (["func", "args"].drop items.length))
    match if items.length = 6 then none else ofItems? items with
    | some recipe => return recipe
    | none =>
      throw (.extraArguments "_reconstruct" "from 4 to 7 positional arguments" (items.length + 2))
  | .error (.notIterable type) => throw (.partsNotIterable type)
  | .error r => throw r

/-- Refuses a recipe that cannot be stored. There are no iterators. -/
def checkStorable (s : Store) (recipe : Recipe) : Except Refusal Unit := do
  let isCallable := fun v => s.isCallable v
  if ¬ isCallable recipe.maker then throw Refusal.makerNotCallable
  if (s.tuple? recipe.args).isNone then throw Refusal.argumentsNotTuple
  if recipe.items ≠ .null then throw (Refusal.notAnIterator "fourth" (s.typeName recipe.items))
  if recipe.entries ≠ .null then throw (Refusal.notAnIterator "fifth" (s.typeName recipe.entries))
  if recipe.setter ≠ .null ∧ ¬ isCallable recipe.setter then
    throw (Refusal.setterNotCallable (s.typeName recipe.setter))

def argsOf (maker args : Value) : Action (List Value) := do
  match ← Action.ask fun s => s.elements args with
  | .ok items => return items
  | .error (.notIterable type) =>
    throw (.argumentsNotIterable (← Action.read fun s => s.calleeForm maker) type)
  | .error r => throw r

end Recipe

namespace Action

def pairOf (v : Value) : Action (Value × Value) := do
  match ← ask fun s => s.elements v with
  | .ok [a, b] => return (a, b)
  | .ok items => throw (if items.length < 2 then .tooFewToUnpack items.length else .tooManyToUnpack)
  | .error (.notIterable type) => throw (.notUnpackable type)
  | .error r => throw r

/-- Key and value of an entry, by its place among the others. -/
def entryOf (place : Nat) (v : Value) : Action (Value × Value) := do
  match ← ask fun s => s.elements v with
  | .ok [key, value] =>
    read fun s => s.hashable key
    return (key, value)
  | .ok items => throw (.entryOfOtherLength place items.length)
  | .error (.notIterable _) => throw (.entryNotSequence place)
  | .error r => throw r

/-- Enters a value under a name into what a value holds. A frozen object was given something then,
also where the name is that of a field. -/
def enter (v : Value) (name : String) (value : Value) : Action Unit := do
  let attrs ← ask fun s => s.attributesOf v
  match v, ← ask fun s => s.object? v with
  | .object r, some o =>
    match o.record? with
    | none => throw (.noAttribute o.className "__dict__")
    | some record =>
      if name ∈ record.fields.map Prod.fst then
        give v attrs
        put r (o.withField record name value)
      else give v (attrs.insert name value)
  | _, _ =>
    if name = "name" ∨ name = "value" then return
    else give v (attrs.insert name value)

def checkDictionary (v : Value) : Action Unit := do
  match v, ← ask fun s => (s.object? v).bind Object.record? with
  | .misuse _, _ | .initiator _, _ | _, some _ => return
  | .errorClass _, _ => throw (.noAttribute "mappingproxy" "update")
  | _, none => throw (.noAttribute (← ask fun s => s.typeName v) "__dict__")

/-- Enters all entries of a sequence into what a value holds, from the one at a place on. A key that
is no text is never asked for. -/
def enterAll (v : Value) : Nat → List Value → Action Unit
  | _, [] => return
  | place, entry :: rest => do
    let (key, value) ← entryOf place entry
    match key with
    | .text name => enter v name value
    | _ => pure ()
    enterAll v (place + 1) rest

def update (v state : Value) : Action Unit := do
  checkDictionary v
  enterAll v 0 (← read fun s => s.elements state)

def setAll (v : Value) : List Value → Action Unit
  | [] => return
  | entry :: rest => do
    let (name, value) ← pairOf entry
    match name with
    | .text name => setAttribute v name value
    | _ => throw (.attributeNameNotText (← ask fun s => s.typeName name))
    setAll v rest

/-- Whether a value takes a state by a method of its own, or what stands in its place. -/
def takesState (v : Value) : Action Bool := do
  let hiding? ← ask fun s => s.hiding? v "__setstate__"
  let o? ← ask fun s => s.object? v
  return hiding?.isSome || (method? call v o? "__setstate__").isSome

/-- Gives a state to the copy of a value. A tuple of two is a state and attributes to be set. -/
def restore (v state : Value) : Action Unit := do
  if ← takesState v then
    discard (call v "__setstate__" [state])
  else
    let (state, slots) := ((← ask fun s => s.twoItems? state).getD (state, .null))
    unless state = .null do update v state
    unless slots = .null do
      let items ← call slots "items" []
      setAll v (← read fun s => s.elements items)

/-- Gives a state to a value that was read back. No dictionary is ever at hand. -/
def restoreStored (v state : Value) : Action Unit := do
  if ← takesState v then
    discard (call v "__setstate__" [state])
  else
    match ← ask fun s => s.twoItems? state with
    | some (.null, _) => throw .storedSlotsNotDictionary
    | _ => throw .storedStateNotDictionary

end Action

end Http2Failure
