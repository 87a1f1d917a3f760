import Http2Failure.Attribute
import Http2Failure.Error.Conversion
import Http2Failure.Error.Inspection
import Http2Failure.Sequence

/-!
# Methods

What the methods of each sort of values do with their arguments. Some of them call methods of other
values, so how a method is called by its name is given to them.
-/

namespace Http2Failure

namespace Error.Route

def all : List Route := [.report, .reason, .sendFailure, .misuse, .transport, .any]

def method : Route → String
  | .kind => "__init__"
  | .report => "from_proto"
  | .reason => "from_reason"
  | .sendFailure => "from_send_error"
  | .misuse => "from_user"
  | .transport => "from_io"
  | .any => "convert"

def ofMethod? (method : String) : Option Route :=
  all.find? fun route => route.method == method

def argument : Route → String
  | .kind => "kind"
  | .report | .sendFailure | .any => "src"
  | .reason => "reason"
  | .misuse => "user"
  | .transport => "error"

end Error.Route

namespace Action

/-- Conversions, which a class of errors offers and every error of the class too. -/
def conversion? (cls : Error.Class) (method : String) : Option Call :=
  (Error.Route.ofMethod? method).map fun route =>
    oneArgument "Error" method route.argument (Error.via cls route)

def errorMethod? (call : Caller) (e : Error) (method : String) : Option Call :=
  let plainCall := noArguments "Error" method
  let ofKind (result : Kind → Action Value) : Call := plainCall do
    match ← ask fun s => s.kind? e.kind with
    | some k => result k
    | none => throw .dangling
  let stored : Action Value := do
    let parts ← create (.tuple [.object e.kind])
    create (.tuple [.errorClass .base, parts])
  match Inspection.ofMethod? method with
  | some q => some (ofKind fun k => k.inspect call q)
  | none =>
    if method = "into_io" then some (ofKind Kind.intoFault)
    else if method = "__init__" then
      some (oneArgument "Error" method "kind" fun v => do Error.again v; return .null)
    else if method = "__copy__" then some (plainCall (Error.around .base e.kind))
    else if method = "__deepcopy__" then
      some (oneArgument "Error" method "memo" fun _ => Error.around .base e.kind)
    else if method = "__reduce__" then some (plainCall stored)
    else if method = "__reduce_ex__" then
      some (oneArgument "Error" method "protocol" fun _ => stored)
    else conversion? e.cls method

def reasonMethod? (code : Value) (method : String) : Option Call :=
  let result := fun a => some (noArguments "Reason" method a)
  if method = "is_known" then result do return .bool (← read fun s => Reason.isKnownOf s code)
  else if method = "__int__" then result (return code)
  else none

def streamIdMethod? (value : Value) (method : String) : Option Call :=
  let result := fun a => some (noArguments "StreamId" method a)
  let answer := fun (f : Store → Value → Except Refusal Bool) =>
    result do return .bool (← read fun s => f s value)
  if method = "is_zero" then answer fun s v => .ok (StreamId.isZeroOf s v)
  else if method = "is_client_initiated" then answer StreamId.isClientInitiatedOf
  else if method = "is_server_initiated" then answer StreamId.isServerInitiatedOf
  else if method = "__int__" then result (return value)
  else if method = "next_id" then result do
    make (.streamId (← read fun s => StreamId.nextOf s s.plain value))
  else none

/-- Methods of the members of all enumerations: they are never copied. The plain form gives out the
value as it is. -/
def memberMethod? (v : Value) (method : String) : Option Call :=
  if method = "__str__" then some fun args => do
    let type ← ask fun s => s.typeName v
    noArguments type method (read fun s => s.heldByMember v "_value_") args
  else if method = "__copy__" then some (noArguments "Enum" method (return v))
  else if method = "__deepcopy__" then some (oneArgument "Enum" method "memo" fun _ => return v)
  else none

def initiatorMethod? (i : Initiator) (method : String) : Option Call :=
  let result := fun a => some (noArguments "Initiator" method (return .bool a))
  if method = "is_local" then result i.isLocal
  else if method = "is_remote" then result i.isRemote
  else none

/-- Methods of frozen objects: the constructor called again, and its look at the parts. -/
def frozenMethod? (r : Ref) (o : Object) (record : Record) (method : String) : Option Call :=
  let names := record.fields.map Prod.fst
  let function := record.className ++ "." ++ method
  if method = "__init__" then
    some fun args =>
      if args.length < names.length then
        throw (.missingArguments function (names.drop args.length))
      else if names.length < args.length then
        throw (.extraArguments function
          (Text.decimal (names.length + 1) ++ " positional arguments") (args.length + 1))
      else do
        remake r o args
        return .null
  else if method = "__post_init__" ∧ o.isChecked then
    some (noArguments record.className method do check r o; return .null)
  else none

/-- Methods of all exceptions. The constructor of a plain exception can be called again to change
its arguments, while a fault of a standard class ignores it. -/
def exceptionMethod? (r : Ref) (o : Object) (c : Carried) (method : String) : Option Call :=
  if method = "add_note" then
    some (exactlyOne o.className method fun note => do
      addNote (.object r) note
      return .null)
  else if method = "with_traceback" then
    some (exactlyOne o.className method fun
      | .null => return .object r
      | _ => throw .notATraceback)
  else if method = "__setstate__" then
    some (exactlyOne o.className method fun
      | .null => return .null
      | _ => throw .stateNotDictionary)
  else if method = "__init__" then
    some fun args => do
      match o with
      | .exception _ => put r (o.withCarried (c.withArgs args none))
      | .fault f =>
        unless f.cls.isStandard || f.cls = .tagged || f.cls = .quiet do
          put r (.fault (f.reconstruct (← read fun s => Fault.construct s f.cls args)))
      | _ => pure ()
      return .null
  else none

/-- Comparisons, which answer from the side of the value alone. -/
def comparison? (v : Value) (method : String) : Option Call :=
  let ofAnswer : Option Bool → Value := fun
    | some answer => .bool answer
    | none => .undecided
  let result := fun (answer? : Store → Value → Except Refusal (Option Bool)) =>
    some fun
      | [other] => do return ofAnswer (← read fun s => answer? s other)
      | args => throw (.otherArguments 1 args.length)
  let equal? := fun (s : Store) other => s.equalTo? (s.equalUpTo Store.depth) v other
  let related? := fun (relation : Relation) => result fun s other =>
    s.relatedTo? (s.equalUpTo Store.depth) (s.relatedUpTo relation Store.depth) relation v other
  if method = "__eq__" then result fun s other => .ok (equal? s other)
  else if method = "__ne__" then result fun s other => .ok ((equal? s other).map (!·))
  else if method = "__lt__" then related? .less
  else if method = "__le__" then related? .atMost
  else if method = "__gt__" then related? .greater
  else if method = "__ge__" then related? .atLeast
  else none

/-- An attribute by a name that may be no text; a frozen object refuses every name. -/
def named (o? : Option Object) (name : Value) (frozen : String → Refusal)
    (act : String → Action Unit) : Action Value := do
  match name, o?.bind Object.record? with
  | .text t, _ => act t
  | _, some _ => throw (frozen (← read fun s => s.quoted name))
  | _, none => throw (.attributeNameNotText (← ask fun s => s.typeName name))
  return .null

def commonMethod? (v : Value) (o? : Option Object) (method : String) : Option Call :=
  let form := fun (write : Store → Value → Except Refusal String) => some fun args => do
    let owner ← ask fun s => s.methodOwner v method
    noArguments owner method (do return .text (← read fun s => write s v)) args
  if method = "__str__" then form Store.plain
  else if method = "__repr__" then form Store.quoted
  else if method = "__setattr__" then
    some (exactlyTwo fun name value =>
      named o? name .frozenField fun name => setAttribute v name value)
  else if method = "__delattr__" then
    some fun
      | [name] => named o? name .frozenDeletion fun name => deleteAttribute v name
      | args => throw (.otherArguments 1 args.length)
  else if method = "__init__" then some fun _ => return .null
  else if method = "__int__" then
    (Store.whole? v).map fun i => noArguments "int" method (return .int i)
  else comparison? v method

def ownMethod? (call : Caller) (v : Value) (o? : Option Object) (method : String) : Option Call :=
  match v, o? with
  | .errorClass cls, _ => conversion? cls method
  | .initiator i, _ => initiatorMethod? i method <|> memberMethod? v method
  | .misuse _, _ => memberMethod? v method
  | .object r, some o =>
    let general? := (o.record?.bind fun record => frozenMethod? r o record method) <|>
      (o.carried?.bind fun c => exceptionMethod? r o c method)
    match o with
    | .reason code => reasonMethod? code method <|> general?
    | .streamId value => streamIdMethod? value method <|> general?
    | .error e => errorMethod? call e method <|> general?
    | .list items => listMethod? r items method
    | .buffer content => bufferMethod? r content method
    | .view _ | .released => viewMethod? r o method
    | _ => general?
  | _, _ => none

def method? (call : Caller) (v : Value) (o? : Option Object) (method : String) : Option Call :=
  ownMethod? call v o? method <|> commonMethod? v o? method

end Action

end Http2Failure
