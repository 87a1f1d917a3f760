import Http2Failure.Fault.Construction

/-!
# Attributes

Reading, setting and deleting attributes by name. Frozen records refuse every change. A member of
an enumeration refuses that of its name and its value, but not that of what these are read from. An
exception has declared slots, each with a rule of its own, and any other name is free. The slot that
holds the kind of an error refuses every change, so an error keeps its kind for good.
-/

namespace Http2Failure

/-- What a name means on an exception. -/
inductive Slot where
  | args
  | cause
  | suppressContext
  | context
  | traceback
  | cls
  | dictionary
  | errorNumber
  | errorText
  | fileName
  | fileName2
  | charactersWritten
  | kind
  | free
deriving DecidableEq

namespace Slot

/-- The slots that every exception has. -/
def common : List (String × Slot) := [
  ("args", .args),
  ("__cause__", .cause),
  ("__suppress_context__", .suppressContext),
  ("__context__", .context),
  ("__traceback__", .traceback),
  ("__class__", .cls),
  ("__dict__", .dictionary)]

def ofFault : List (String × Slot) := [
  ("errno", .errorNumber),
  ("strerror", .errorText),
  ("filename", .fileName),
  ("filename2", .fileName2),
  ("characters_written", .charactersWritten)]

def ofError : List (String × Slot) := [("_kind", .kind)]

end Slot

namespace Object

def slots : Object → List (String × Slot)
  | .fault _ => Slot.common ++ Slot.ofFault
  | .error _ => Slot.common ++ Slot.ofError
  | _ => Slot.common

def slot (o : Object) (name : String) : Slot := (o.slots.lookup name).getD .free

/-- The names under which an object shows what it computes. -/
def computed : Object → List String
  | .reason _ => ["name", "description"]
  | _ => []

end Object

namespace Store

/-- The reference behind an optional exception, as a value. -/
def ofRef? : Option Ref → Value
  | some r => .object r
  | none => .null

/-- An exception or the null value, as an optional reference. -/
def exception? (s : Store) (v : Value) : Option (Option Ref) :=
  match v with
  | .null => some none
  | .object r => if ((s.get? r).map Object.isException).getD false then some (some r) else none
  | _ => none

def tuple? (s : Store) (v : Value) : Option Ref :=
  match v with
  | .object r =>
    match s.get? r with
    | some (.tuple _) => some r
    | _ => none
  | _ => none

/-- Attributes of a reason. The named constants can be reached from every reason. -/
def reasonAttribute? (s : Store) (code : Value) (name : String) :
    Option (Except Refusal Value) :=
  if name = "code" then some (.ok code)
  else if name = "name" then some ((Reason.nameOf s code).map .text)
  else if name = "description" then some ((Reason.descriptionOf s s.plain code).map .text)
  else if name = "MAX_CODE" then some (.ok (.int Reason.maxCode))
  else (Reason.codeOfName? name).map fun place => .ok (.object place)

def streamIdAttribute? (value : Value) (name : String) : Option Value :=
  if name = "value" then some value
  else if name = "MAX" then some (.int StreamId.max)
  else if name = "ZERO" then some (.object zeroRef)
  else none

def methodAttribute (owner : Value) (method name : String) : Except Refusal Value :=
  if name = "__self__" then .ok owner
  else if name = "__name__" then .ok (.text method)
  else .error (.noAttribute "function" name)

/-- Where a member of an enumeration has the name and the value that it shows. -/
def sourceInMember (name : String) : String :=
  if name = "name" then "_name_" else if name = "value" then "_value_" else name

/-- Attributes of a member of an enumeration, which knows the other members. -/
def memberAttribute (s : Store) (v : Value) (name : String) : Except Refusal Value :=
  match s.heldByMember v (sourceInMember name), v.enumeration?.bind fun e => e.ofName? name with
  | .ok held, _ => .ok held
  | .error _, some other => .ok other
  | .error r, none => .error r

/-- What a frozen object was given beside its fields, and shows. A reason computes its name and its
description whatever it was given. -/
def extra? (s : Store) (v : Value) (o : Object) (name : String) : Option Value :=
  if o.record?.isSome ∧ name ∉ o.computed then (s.attributesOf v).get? name else none

/-- The first of some members that holds a value equal to the given one. -/
def memberLike (s : Store) (v : Value) : List Value → Except Refusal (Option Value)
  | [] => .ok none
  | member :: rest => do
    let held ← s.heldByMember member "_value_"
    if s.equal held v then return some member
    s.memberLike v rest

/-- The member with a given value, if there is one. The value is looked for by its hash among those
that the members have from the start. One that can have no hash is compared with what each member
holds; where hashing is refused for another reason, so is the look-up. -/
def memberWith? (s : Store) (e : Enumeration) (v : Value) : Except Refusal (Option Value) :=
  if v ∈ e.members then .ok (some v)
  else
    match s.hashable v, v with
    | .ok _, .text t => .ok (e.ofText? t)
    | .ok _, _ => .ok none
    | .error (.unhashable _), _ => s.memberLike v e.members
    | .error r, _ => .error r

def memberOf (s : Store) (e : Enumeration) (v : Value) : Except Refusal Value := do
  match ← s.memberWith? e v with
  | some member => return member
  | none => throw (.noMemberWith (← s.quoted v) e.name)

/-- Why a value is not made one of a class: it is of a type that keeps its own, and of one that can
be changed the values differ in what they hold. -/
def classRefusal (s : Store) (type : String) (isOpen : Bool) (v : Value) : Refusal :=
  match v with
  | .errorClass cls => if isOpen then .layoutDiffers cls.name type else .classIsFixed
  | _ => .notAClass (s.typeName v)

end Store

namespace Carried

def getFree (c : Carried) (className name : String) : Except Refusal Value :=
  match c.attributes.get? name with
  | some value => .ok value
  | none => .error (.noAttribute className name)

def deleteFree (c : Carried) (className name : String) : Except Refusal Carried :=
  match c.attributes.get? name with
  | some _ => .ok { c with attributes := c.attributes.erase name }
  | none => .error (.noAttribute className name)

def getSlot (c : Carried) (className name : String) : Slot → Except Refusal Value
  | .cause => .ok (Store.ofRef? c.cause)
  | .suppressContext => .ok (.bool c.suppressContext)
  | .context => .ok (Store.ofRef? c.context)
  | .traceback => .ok .null
  | _ => c.getFree className name

def setSlot (s : Store) (c : Carried) (name : String) (v : Value) : Slot → Except Refusal Carried
  | .args => return c.withArgs (← s.elements v) (s.tuple? v)
  | .cause =>
    match s.exception? v with
    | some cause => .ok (c.withCause cause)
    | none => .error .causeNotException
  | .suppressContext =>
    match v with
    | .bool b => .ok { c with suppressContext := b }
    | _ => .error .notATruthValue
  | .context =>
    match s.exception? v with
    | some context => .ok { c with context }
    | none => .error .contextNotException
  | .traceback => if v = .null then .ok c else .error .notATraceback
  | .cls => .error (s.classRefusal "" false v)
  | .dictionary => .error (.notADictionary (s.typeName v))
  | .kind => .error .kindIsFixed
  | _ => .ok { c with attributes := c.attributes.insert name v }

def deleteSlot (c : Carried) (className name : String) : Slot → Except Refusal Carried
  | .args | .cause | .context | .traceback => .error (.notDeletable name)
  | .suppressContext => .error .flagNotDeletable
  | .cls => .error .classNotDeletable
  | .dictionary => .error .dictionaryNotDeletable
  | .kind => .error .kindIsFixed
  | _ => c.deleteFree className name

end Carried

namespace Fault

def getSlot (f : Fault) (name : String) : Slot → Except Refusal Value
  | .errorNumber => .ok (f.errorNumber.getD .null)
  | .errorText => .ok (f.errorText.getD .null)
  | .fileName => .ok (f.fileName.getD .null)
  | .fileName2 => .ok (f.fileName2.getD .null)
  | .charactersWritten =>
    match f.charactersWritten with
    | some n => .ok (.int n)
    | none => .error .charactersWrittenUnset
  | slot => f.toCarried.getSlot f.cls.name name slot

def setSlot (s : Store) (f : Fault) (name : String) (v : Value) : Slot → Except Refusal Fault
  | .errorNumber => .ok { f with errorNumber := some v }
  | .errorText => .ok { f with errorText := some v }
  | .fileName => .ok { f with fileName := some v }
  | .fileName2 => .ok { f with fileName2 := some v }
  | .charactersWritten => do
    let count ← (s.size? v).getD (.error (.notAnIndex (s.typeName v)))
    return { f with charactersWritten := countOf count }
  | .cls => .error (s.classRefusal f.cls.name f.cls.isOpen v)
  | slot => return { f with toCarried := ← f.toCarried.setSlot s name v slot }

/-- A slot of a fault can be deleted whether it is set or not, but for the count. -/
def deleteSlot (f : Fault) (name : String) : Slot → Except Refusal Fault
  | .errorNumber => .ok { f with errorNumber := none }
  | .errorText => .ok { f with errorText := none }
  | .fileName => .ok { f with fileName := none }
  | .fileName2 => .ok { f with fileName2 := none }
  | .charactersWritten =>
    match f.charactersWritten with
    | some _ => .ok { f with charactersWritten := none }
    | none => .error .charactersWrittenUnset
  | slot => return { f with toCarried := ← f.toCarried.deleteSlot f.cls.name name slot }

end Fault

/-- An error can be made one of the other class, and keeps all that it holds. -/
def Error.setSlot (s : Store) (e : Error) (name : String) (v : Value) : Slot → Except Refusal Error
  | .cls =>
    match v with
    | .errorClass cls => .ok { e with cls }
    | _ => .error (s.classRefusal e.cls.name true v)
  | slot => return { e with toCarried := ← e.toCarried.setSlot s name v slot }

namespace Object

def withAttribute (s : Store) (o : Object) (name : String) (v : Value) : Except Refusal Object :=
  match o with
  | .fault f => return .fault (← f.setSlot s name v (o.slot name))
  | .exception e => return .exception { e with
      toCarried := ← e.toCarried.setSlot s name v (o.slot name) }
  | .error e => return .error (← e.setSlot s name v (o.slot name))
  | _ =>
    match o.record?, o.slot name with
    | some _, _ => .error (.frozenField (Text.quoted name))
    | none, .cls => .error (s.classRefusal o.className false v)
    | none, _ => .error (.noAttribute o.className name)

def withoutAttribute (o : Object) (name : String) : Except Refusal Object :=
  match o with
  | .fault f => return .fault (← f.deleteSlot name (o.slot name))
  | .exception e => return .exception { e with
      toCarried := ← e.toCarried.deleteSlot o.className name (o.slot name) }
  | .error e => return .error { e with
      toCarried := ← e.toCarried.deleteSlot o.className name (o.slot name) }
  | _ =>
    match o.record?, o.slot name with
    | some _, _ => .error (.frozenDeletion (Text.quoted name))
    | none, .cls => .error .classNotDeletable
    | none, _ => .error (.noAttribute o.className name)

/-- Reads an attribute other than the argument list. -/
def getAttribute (s : Store) (o : Object) (name : String) : Except Refusal Value :=
  let missing := Except.error (.noAttribute o.className name)
  match o with
  | .fault f => f.getSlot name (o.slot name)
  | .exception e => e.toCarried.getSlot o.className name (o.slot name)
  | .error e =>
    match o.slot name with
    | .kind => .ok (.object e.kind)
    | .cls => .ok (.errorClass e.cls)
    | slot => e.toCarried.getSlot o.className name slot
  | .reason code => (s.reasonAttribute? code name).getD missing
  | .streamId value => ((Store.streamIdAttribute? value name).map .ok).getD missing
  | .method owner bound => Store.methodAttribute owner bound name
  | _ => ((o.record?.bind fun r => r.fields.lookup name).map .ok).getD missing

end Object

namespace Action

def getAttribute (v : Value) (name : String) : Action Value := do
  match v, ← ask fun s => s.object? v with
  | .object r, some o =>
    match o.carried?, o.slot name with
    | some c, .args => return .object (← argsTuple r o c)
    | _, _ => read fun s => (s.extra? v o name).elim (o.getAttribute s name) .ok
  | _, _ =>
    if v.isMember then read fun s => s.memberAttribute v name
    else throw (.noAttribute (← ask fun s => s.typeName v) name)

def setAttribute (v : Value) (name : String) (value : Value) : Action Unit := do
  match v, ← ask fun s => s.object? v with
  | .object r, some o => put r (← read fun s => o.withAttribute s name value)
  | _, _ =>
    if name = "__class__" then throw (← ask fun s => s.classRefusal (s.typeName v) v.isMember value)
    else if ¬ v.isMember then throw (.noAttribute (← ask fun s => s.typeName v) name)
    else if name = "name" ∨ name = "value" then throw (.fixedMember name)
    else if name = "__dict__" then throw (.notADictionary (← ask fun s => s.typeName value))
    else give v ((← ask fun s => s.attributesOf v).insert name value)

def deleteAttribute (v : Value) (name : String) : Action Unit := do
  match v, ← ask fun s => s.object? v with
  | .object r, some o => put r (← read fun _ => o.withoutAttribute name)
  | _, _ =>
    if name = "__class__" then throw .classNotDeletable
    if v.isMember ∧ (name = "name" ∨ name = "value") then throw (.fixedMemberDeletion name)
    -- What a member holds goes with the dictionary that holds it.
    if v.isMember ∧ name = "__dict__" then return ← give v []
    let attrs ← ask fun s => s.attributesOf v
    match attrs.get? name with
    | some _ => give v (attrs.erase name)
    | none => throw (.noAttribute (← ask fun s => s.typeName v) name)

/-- Appends to the notes of an exception, which a first note makes. -/
def addNote (v : Value) (note : Value) : Action Unit := do
  match note with
  | .text _ =>
    match ((← ask fun s => s.object? v).bind Object.carried?).bind fun c =>
        c.attributes.get? "__notes__" with
    | none => setAttribute v "__notes__" (← create (.list [note]))
    | some notes =>
      match notes, ← ask fun s => s.object? notes with
      | .object r, some (.list items) => put r (.list (items ++ [note]))
      | _, _ => throw .notesNotList
  | _ => throw (.noteNotText (← ask fun s => s.typeName note))

end Action

end Http2Failure
