import Http2Failure.Recipe

/-!
# Clones

A value can be copied on its surface, copied with its parts, or stored and read back. Immediate
values are their own clones. An exception is cloned by its constructor, called with the arguments
that it stores, and then gets the attributes of the first one; its cause is lost. A copy of an
error, also a deep one, shares the kind object, and only an error read back has a kind of its own.
Every clone of an error is of the base class and its argument is its text at that moment. A member
of an enumeration is stored by its value, and looked up by it again.

Cloning asks a value by methods that its own attributes can hide. What such an attribute holds is
called in their place, and the parts that it gives out are a recipe for the clone.
-/

namespace Http2Failure

inductive CloneMode where
  | shallow
  | deep
  /-- Stored and read back. -/
  | stored
deriving DecidableEq

/-- The constructor arguments that a fault is stored with: file names that were taken out of a
list of two are put back. -/
def Fault.storedArgs (f : Fault) : List Value :=
  match f.args, f.fileName, f.fileName2 with
  | [number, text], some file, some file2 => [number, text, file, .null, file2]
  | [number, text], some file, none => [number, text, file]
  | args, _, _ => args

/-- The module that defines the class of an object, unless it is built in. -/
def Object.home? : Object → Option String
  | .reason _ | .streamId _ => some "c_h2_core.frame"
  | .report _ => some "c_h2_core.proto"
  | .sendFailure _ => some "c_h2_core.codec"
  | .kind _ => some "c_h2_core.error"
  | .fault f => f.cls.home?
  | .error e => some e.cls.home
  | _ => none

namespace Store

def home? (s : Store) (v : Value) : Option String :=
  match v.enumeration? with
  | some e => some e.home
  | none => (s.object? v).bind Object.home?

def classForm (s : Store) (v : Value) : String :=
  "<class '" ++ ((s.home? v).map fun home => home ++ ".").getD "" ++ s.typeName v ++ "'>"

/-- Whether the class of a value has methods of its own for copies: it is a member of an enumeration
or an error. -/
def copiesItself (s : Store) (v : Value) : Bool :=
  match s.object? v with
  | some (.error _) => true
  | _ => v.isMember

/-- Whether the class of a value asks it for its parts by a method, which an attribute can hide. -/
def asksForParts (s : Store) (v : Value) : Bool :=
  ((s.object? v).bind Object.carried?).isSome

end Store

namespace Attributes

/-- What is called for the parts of a value in the place of the methods of its class, and with which
arguments. The first method is told the version of the stored form, and the null value takes it away
when the value is copied. The second one is asked for in its place, or by it where `asks` holds. -/
def partsCall? (attrs : Attributes) (mode : CloneMode) (asks : Bool) :
    Option (Value × List Value) :=
  let second? := (attrs.get? "__reduce__").map fun value => (value, [])
  match attrs.get? "__reduce_ex__" with
  | none => if asks then second? else none
  | some value =>
    if value = .null ∧ mode ≠ .stored then second? else some (value, [.int 4])

/-- What is called for a deep copy in the place of the method that makes one. -/
def deepCopyCall? (attrs : Attributes) : Option Value :=
  (attrs.get? "__deepcopy__").filter (· ≠ .null)

/-- Whether the null value takes away the method that makes deep copies. -/
def lacksDeepCopy (attrs : Attributes) : Bool := attrs.get? "__deepcopy__" == some .null

/-- Whether the null value takes away all methods that give out parts. -/
def lacksParts (attrs : Attributes) : Bool :=
  attrs.get? "__reduce_ex__" == some .null && attrs.get? "__reduce__" == some .null

end Attributes

/-- What was found of a value before anything is read back. -/
inductive Stored where
  | recipe (recipe : Recipe)
  /-- The value that a member of an enumeration is stored by. -/
  | member (e : Enumeration) (value : Value)
deriving DecidableEq

/-- What is remembered while a clone is made. -/
structure Memory where
  /-- The clone of each value that has one, so that a value that occurs twice has one clone. -/
  clones : List (Value × Value) := []
  /-- What was stored and is still to be read back, in its order. -/
  stored : List (Value × Stored) := []

abbrev Cloning := StateT Memory Action

namespace Cloning

def remember (v clone : Value) : Cloning Value := do
  modify fun memory => { memory with clones := (v, clone) :: memory.clones }
  return clone

/-- Among what is read back, a value that got its clone while its parts were made keeps it. -/
def unlessReadBack (mode : CloneMode) (v : Value) (fresh : Cloning Value) : Cloning Value := do
  match mode, (← get).clones.lookup v with
  | .stored, some clone => return clone
  | _, _ => fresh

/-- What is remembered first of what was stored of a value. -/
def nextStored? (v : Value) : Cloning (Option Stored) := do
  let memory ← get
  set { memory with stored := memory.stored.eraseP fun entry => entry.1 == v }
  return memory.stored.lookup v

/-- The arguments of a recipe, cloned one by one in a deep copy, unless they count as absent. -/
def copiedArgs (mode : CloneMode) (clone : Value → Cloning Value) (recipe : Recipe) :
    Cloning (List Value) := do
  let deep ← match mode with
    | .deep => Action.read fun s => s.truthy recipe.args
    | _ => pure false
  if deep then
    (← Action.read fun s => s.elements recipe.args).mapM clone
  else
    Recipe.argsOf recipe.maker recipe.args

def appendAll (clone : Value → Cloning Value) (made : Value) (items : List Value) :
    Cloning Unit :=
  items.forM fun item => do
    let item ← clone item
    discard (Action.call made "append" [item])

def setAll (clone : Value → Cloning Value) (made : Value) (entries : List Value) : Cloning Unit :=
  entries.forM fun entry => do
    let (key, value) ← Action.pairOf entry
    let key ← clone key
    let value ← clone value
    Action.setItem made key value

def itemsOf (part : Value) : Action (List Value) :=
  if part = .null then return [] else Action.read fun s => s.elements part

/-- Makes the copy of a value after a recipe, given how parts are cloned. -/
def follow (mode : CloneMode) (clone : Value → Cloning Value) (v : Value) (recipe : Recipe) :
    Cloning Value := do
  let args ← copiedArgs mode clone recipe
  let made ← remember v (← Action.apply recipe.maker args)
  unless recipe.state = .null do
    let state ← clone recipe.state
    Action.restore made state
  appendAll clone made (← itemsOf recipe.items)
  setAll clone made (← itemsOf recipe.entries)
  return made

/-- Copies a value for which parts were given out. A text stands for the value itself. -/
def ofParts (mode : CloneMode) (clone : Value → Cloning Value) (v parts : Value) :
    Cloning Value := do
  match parts with
  | .text _ => return v
  | _ => follow mode clone v (← Recipe.ofParts parts)

/-- Copies a value by what its attributes put in the place of the methods of its class, if they do.
Its parts are not asked for where the class makes copies itself. -/
def byAttributes? (mode : CloneMode) (clone : Value → Cloning Value) (s : Store) (v : Value) :
    Option (Cloning Value) :=
  let attrs := s.attributesOf v
  match if mode = .deep then attrs.deepCopyCall? else none with
  | some value => some do
    let made ← Action.apply value [.null]
    if made = v then return v else remember v made
  | none =>
    if s.copiesItself v ∧ ¬ attrs.lacksDeepCopy then none
    else if attrs.lacksParts then some (throw (.notCopyable (mode = .deep) (s.classForm v)))
    else (attrs.partsCall? mode (s.asksForParts v)).map fun (value, args) => do
      ofParts mode clone v (← Action.apply value args)

/-- Reads a value back after the recipe that it was stored with. -/
def readBack (clone : Value → Cloning Value) (v : Value) (recipe : Recipe) : Cloning Value := do
  let maker ← clone recipe.maker
  let args ← clone recipe.args
  let made ← Action.apply maker (← Action.read fun s => s.elements args)
  unlessReadBack .stored v do
    discard (remember v made)
    if recipe.state = .null then return made
    if recipe.setter = .null then
      let state ← clone recipe.state
      Action.restoreStored made state
    else
      let setter ← clone recipe.setter
      let state ← clone recipe.state
      discard (Action.apply setter [made, state])
    return made

/-- Looks a member of an enumeration up by a clone of its value. -/
def lookUp (mode : CloneMode) (clone : Value → Cloning Value) (v : Value) (e : Enumeration)
    (value : Value) : Cloning Value := do
  let value ← clone value
  let member ← Action.read fun s => s.memberOf e value
  unlessReadBack mode v (remember v member)

end Cloning

namespace Action

def giveMaybe (v : Value) : Option Attributes → Action Unit
  | some attrs => give v attrs
  | none => return ()

/-- A new frozen object, which is given the same as another one. -/
def createWith (o : Object) (given? : Option Attributes) : Action Value := do
  let v ← create o
  giveMaybe v given?
  return v

/-- A copy on the surface, of an object that nothing is put in the place of. The copy of an
exception shares the tuple of the arguments with it, if its constructor takes that tuple as it
is. -/
def copyObject (r : Ref) (o : Object) : Action Value := do
  match o with
  | .tuple _ | .float _ => return .object r
  | .method owner name => get owner name
  | .view _ | .released => throw .viewNotCopyable
  | .fault f =>
    let fresh ← read fun s => Fault.construct s f.cls f.storedArgs
    let fresh := fresh.withAttributes (fresh.attributes.insertAll f.attributes)
    if f.cls.isStandard ∧ fresh.args = f.args ∧ f.storedArgs = f.args then
      create (.fault { fresh with argsTuple := some (← argsTuple r o f.toCarried) })
    else
      create (.fault fresh)
  | .exception e =>
    let shared ← argsTuple r o e.toCarried
    create (.exception
      { cls := e.cls, args := e.args, argsTuple := some shared, attributes := e.attributes })
  | .error e => Error.around .base e.kind
  | .list _ | .buffer _ => create o
  | o => createWith o (← ask fun s => s.given.lookup (.object r))

def copy (v : Value) : Action Value := do
  match v, ← ask fun s => s.object? v with
  | .object r, some o =>
    if ← ask fun s => s.copiesItself v then copyObject r o
    else
      match ← ask fun s => Cloning.byAttributes? .shallow pure s v with
      | some other => other.run' {}
      | none => copyObject r o
  | _, _ => return v

end Action

namespace Cloning

def cloneAttributes (clone : Value → Cloning Value) (attrs : Attributes) : Cloning Attributes :=
  attrs.mapM fun entry => return (entry.1, ← clone entry.2)

/-- A clone that is there before its parts are, so that parts can reach it. -/
def cloneAround (r : Ref) (empty : Object) (fill : Ref → Cloning Object) : Cloning Value := do
  let place ← Action.allocate empty
  let clone ← remember (.object r) (.object place)
  Action.put place (← fill place)
  return clone

/-- Gives an object clones of what another one was given, if it was given something. -/
def giveClones (clone : Value → Cloning Value) (place : Ref) : Option Attributes → Cloning Unit
  | some attrs => do Action.give (.object place) (← cloneAttributes clone attrs)
  | none => return ()

/-- The clone of a frozen object, with its fields and with what it was given beside them. Until it
has its own it lies there with those of the first one. -/
def cloneRecord (clone : Value → Cloning Value) (r : Ref) (o : Object) (record : Record) :
    Cloning Value := do
  let given? ← Action.ask fun s => s.given.lookup (.object r)
  cloneAround r o fun place => do
    Action.giveMaybe (.object place) given?
    let fields ← record.fields.mapM fun field => clone field.2
    giveClones clone place given?
    return o.withFields fields

/-- Clones the object at `r` by a function that clones its parts. A stored number is read back as a
new one wherever it occurs, and a stored method is read from the clone of its owner. -/
def cloneObject (mode : CloneMode) (clone : Value → Cloning Value) (r : Ref) (o : Object) :
    Cloning Value := do
  match o with
  | .fault f =>
    let args ← f.storedArgs.mapM clone
    let fresh ← Action.read fun s => Fault.construct s f.cls args
    unlessReadBack mode (.object r) <| cloneAround r (.fault fresh) fun _ => do
      let attrs ← cloneAttributes clone f.attributes
      return .fault (fresh.withAttributes (fresh.attributes.insertAll attrs))
  | .exception e =>
    let fresh : PlainException := { cls := e.cls, args := ← e.args.mapM clone }
    unlessReadBack mode (.object r) <| cloneAround r (.exception fresh) fun _ => do
      let attributes ← cloneAttributes clone e.attributes
      return .exception { fresh with attributes }
  | .error e =>
    if mode = .deep ∧ ¬ e.attributes.lacksDeepCopy then
      remember (.object r) (← Error.around .base e.kind)
    else
      match ← clone (.object e.kind) with
      | .object kind =>
        let made ← Error.around .base kind
        unlessReadBack mode (.object r) (remember (.object r) made)
      | _ => throw .dangling
  | .view _ | .released => throw .viewNotCopyable
  | .list items => cloneAround r (.list []) fun _ => do return .list (← items.mapM clone)
  | .tuple items =>
    let clones ← items.mapM clone
    match (← get).clones.lookup (.object r) with
    | some clone => return clone
    | none =>
      if mode = .deep ∧ clones = items then return .object r
      remember (.object r) (.object (← Action.tuple clones))
  | .float _ => if mode = .stored then Action.create o else return .object r
  | .method owner name =>
    let owner ← clone owner
    if mode = .stored then
      let made ← Action.get owner name
      unlessReadBack mode (.object r) (remember (.object r) made)
    else
      remember (.object r) (← Action.create (.method owner name))
  | o =>
    match o.record? with
    | some record => cloneRecord clone r o record
    | none => remember (.object r) (← Action.create o)

/-- Clones a value that nothing is put in the place of. A member of an enumeration is its own deep
copy, unless the method for that is taken away. -/
def cloneByClass (mode : CloneMode) (clone : Value → Cloning Value) (v : Value) :
    Cloning Value := do
  match v with
  | .object r =>
    match ← Action.ask fun s => s.get? r with
    | some o => cloneObject mode clone r o
    | none => throw .dangling
  | v =>
    match v.enumeration? with
    | some e =>
      if (← Action.ask fun s => s.attributesOf v).lacksDeepCopy then
        lookUp mode clone v e (← Action.read fun s => s.heldByMember v "_value_")
      else return v
    | none => return v

/-- Clones a value by what is put in the place of its methods, or else as its class does. -/
def cloneValue (mode : CloneMode) (clone : Value → Cloning Value) (v : Value) :
    Cloning Value := do
  match mode with
  | .stored =>
    match ← nextStored? v with
    | some (.recipe recipe) => readBack clone v recipe
    | some (.member e value) => lookUp mode clone v e value
    | none => cloneByClass mode clone v
  | _ =>
    match ← Action.ask fun s => byAttributes? mode clone s v with
    | some other => other
    | none => cloneByClass mode clone v

def cloneUpTo (mode : CloneMode) : Nat → Value → Cloning Value
  | 0, _ => throw .endless
  | depth + 1, v => do
    match (← get).clones.lookup v with
    | some clone => return clone
    | none => cloneValue mode (cloneUpTo mode depth) v

end Cloning

/-- The values that were looked at, and what was found of them. -/
structure Storage where
  seen : List Value := []
  stored : List (Value × Stored) := []

abbrev Storing := StateT Storage Action

namespace Storing

/-- What is stored of a value, before it is known itself and after that. -/
abbrev Parts := List Value × List Value

def found (v : Value) (stored : Stored) (parts : Parts) : Storing Parts := do
  modify fun storage => { storage with stored := storage.stored ++ [(v, stored)] }
  return parts

def partsOfRecipe (recipe : Recipe) : Parts :=
  ([recipe.maker, recipe.args],
    if recipe.state = .null then []
    else if recipe.setter = .null then [recipe.state]
    else [recipe.setter, recipe.state])

/-- The parts of a value that were given out to be stored: a text that names the value cannot be
found again, and all but tuples are refused. -/
def ofParts (v parts : Value) : Storing Parts := do
  match parts, ← Action.ask fun s => s.object? parts with
  | .text name, _ =>
    let shown ← Action.read fun s => s.quoted v
    let home ← Action.ask fun s => (s.home? v).getD "__main__"
    throw (.nameNotStorable shown name home)
  | _, some (.tuple items) =>
    match Recipe.ofItems? items with
    | some recipe =>
      Action.read fun s => recipe.checkStorable s
      found v (.recipe recipe) (partsOfRecipe recipe)
    | none => throw .partsOfOtherLength
  | _, _ => throw .partsNotStorable

/-- The parts that are stored with an object which has nothing in the place of its methods. A view
has none that could be stored. -/
def ofObject (s : Store) (v : Value) : Object → Except Refusal Parts
  | .fault f => .ok (f.storedArgs, f.attributes.map Prod.snd)
  | .exception e => .ok (e.args, e.attributes.map Prod.snd)
  | .error e => .ok ([.object e.kind], [])
  | .list items => .ok ([], items)
  | .tuple items => .ok (items, [])
  | .method owner _ => .ok ([owner], [])
  | .view _ | .released => .error .viewNotCopyable
  | o => .ok ([], ((o.record?.map Record.fields).getD [] ++ s.attributesOf v).map Prod.snd)

def partsOf (v : Value) : Storing Parts := do
  match ← Action.ask fun s => (s.attributesOf v).partsCall? .stored (s.asksForParts v) with
  | some (value, args) => ofParts v (← Action.apply value args)
  | none =>
    match v.enumeration?, ← Action.ask fun s => s.object? v with
    | some e, _ =>
      let value ← Action.read fun s => s.heldByMember v "_value_"
      found v (.member e value) ([value], [])
    | none, some o => Action.read fun s => ofObject s v o
    | none, none => return ([], [])

/-- Looks at a value and at its parts, and refuses what cannot be stored. Values that were looked at
before are passed over. -/
def storeUpTo : Nat → Value → Storing Unit
  | 0, _ => throw .endless
  | depth + 1, v => do
    unless (← get).seen.contains v do
      let (before, after) ← partsOf v
      before.forM (storeUpTo depth)
      unless (← get).seen.contains v do
        modify fun storage => { storage with seen := v :: storage.seen }
        after.forM (storeUpTo depth)

end Storing

namespace Action

/-- A value is stored as a whole before any of it is read back. -/
def clone (mode : CloneMode) (v : Value) : Action Value := do
  match mode with
  | .shallow => copy v
  | .deep => (Cloning.cloneUpTo .deep Store.depth v).run' {}
  | .stored =>
    let ((), storage) ← (Storing.storeUpTo Store.depth v).run {}
    (Cloning.cloneUpTo .stored Store.depth v).run' { stored := storage.stored }

end Action

end Http2Failure
