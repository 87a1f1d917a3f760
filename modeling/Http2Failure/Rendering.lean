import Http2Failure.Held
import Http2Failure.Text.Shortest
import Http2Failure.Text.Written

/-!
# Written forms of values

Every value has a plain form, which is the text that a person reads, and a quoted form, which
shows how the value is built. Reports and kinds have only the quoted form. The plain form of an
error is read from its kind each time, so an error that wraps a transport fault always shows the
fault as it is now.

A sequence or a frozen record that occurs inside its own form is only hinted at there, and so is
the tuple of the arguments of an exception. The forms of an object are given over the forms of the
values it holds; `Store.renderUpTo` closes the recursion.
-/

namespace Http2Failure

inductive Form where
  | plain
  | quoted
deriving DecidableEq

/-- The objects whose form is being made, the innermost first. -/
abbrev Pending := List Ref

abbrev Writer := Form → Value → Except Refusal String

abbrev Renderer := Pending → Writer

namespace Rendering

def separated (parts : List String) : String := ", ".intercalate parts

def listForm (items : List String) : String := "[" ++ separated items ++ "]"

/-- A tuple of one item keeps a comma. -/
def tupleForm : List String → String
  | [item] => "(" ++ item ++ ",)"
  | items => "(" ++ separated items ++ ")"

def member (enumeration name value : String) : String :=
  "<" ++ enumeration ++ "." ++ name ++ ": " ++ value ++ ">"

/-- The form of an object, or a hint at it inside its own form. -/
def enclosed (render : Renderer) (pending : Pending) (place : Ref) (hint : String)
    (form : Writer → Except Refusal String) : Except Refusal String :=
  if place ∈ pending then .ok hint else form (render (place :: pending))

end Rendering

open Rendering

namespace Record

def quoted (write : Writer) (r : Record) : Except Refusal String := do
  let fields ← r.fields.mapM fun field => do
    return field.1 ++ "=" ++ (← write .quoted field.2)
  return r.className ++ "(" ++ separated fields ++ ")"

end Record

namespace Carried

/-- The argument list as a tuple. As long as the tuple itself was never needed, the place of the
exception stands for it. -/
def argsForm (render : Renderer) (pending : Pending) (self : Ref) (c : Carried) :
    Except Refusal String :=
  enclosed render pending (c.argsTuple.getD self) "(...)" fun write =>
    return tupleForm (← c.args.mapM (write .quoted))

/-- Nothing, the only argument, or the tuple of the arguments. -/
def plain (render : Renderer) (pending : Pending) (self : Ref) (c : Carried) :
    Except Refusal String :=
  match c.args with
  | [] => .ok ""
  | [arg] => render pending .plain arg
  | _ => c.argsForm render pending self

def quoted (render : Renderer) (pending : Pending) (self : Ref) (className : String)
    (c : Carried) : Except Refusal String :=
  match c.args with
  | [] => .ok (className ++ "()")
  | [arg] => return className ++ "(" ++ (← render pending .quoted arg) ++ ")"
  | _ => return className ++ (← c.argsForm render pending self)

def attributeNamed (c : Carried) (className name : String) : Except Refusal Value :=
  match c.attributes.get? name with
  | some value => .ok value
  | none => .error (.noAttribute className name)

end Carried

namespace Fault

/-- Error number and error text, an unset one reading as the null value. -/
def heading (write : Writer) (f : Fault) : Except Refusal String := do
  let number ← write .plain (f.errorNumber.getD .null)
  let text ← write .plain (f.errorText.getD .null)
  return "[Errno " ++ number ++ "] " ++ text

/-- A set file name is shown even when it is the null value. -/
def plain (render : Renderer) (pending : Pending) (self : Ref) (f : Fault) :
    Except Refusal String :=
  let write := render pending
  if f.cls = .tls then do
    let host ← write .plain (← f.attributeNamed f.cls.name "host")
    let alert ← write .plain (← f.attributeNamed f.cls.name "alert")
    return "TLS alert from " ++ host ++ ": " ++ alert
  else
    match f.fileName, f.fileName2 with
    | some file, some file2 =>
      return (← f.heading write) ++ ": " ++ (← write .quoted file) ++ " -> " ++
        (← write .quoted file2)
    | some file, none => return (← f.heading write) ++ ": " ++ (← write .quoted file)
    | none, _ =>
      match f.errorNumber, f.errorText with
      | some _, some _ => f.heading write
      | _, _ => f.toCarried.plain render pending self

end Fault

namespace Store

def methodOwner (s : Store) (v : Value) (method : String) : String :=
  match v, s.object? v with
  | .errorClass _, _ | _, some (.error _) => Error.Class.base.name
  | .misuse _, _ | .initiator _, _ =>
    if method ∈ ["__str__", "is_local", "is_remote"] then s.typeName v else "Enum"
  | _, _ => s.typeName v

/-- Whether a value counts as present: neither null, zero nor empty. -/
def truthy (s : Store) (v : Value) : Except Refusal Bool :=
  match s.bytes? v, s.number? v with
  | some content, _ => .ok !content.isEmpty
  | none, some n => .ok !n.isZero
  | none, none =>
    match v with
    | .null => .ok false
    | .text t => .ok !t.isEmpty
    | .object r =>
      match s.get? r with
      | some (.list items) | some (.tuple items) => .ok !items.isEmpty
      | some .released => .error .releasedView
      | _ => .ok true
    | _ => .ok true

/-- The items of a sequence: characters, bytes as numbers, or the items that it holds. -/
def elements (s : Store) (v : Value) : Except Refusal (List Value) :=
  match s.bytes? v with
  | some content => .ok (content.map fun b => .int b.toNat)
  | none =>
    match v with
    | .text t => .ok (t.toList.map fun c => .text c.toString)
    | .object r =>
      match s.get? r with
      | some (.list items) | some (.tuple items) => .ok items
      | some .released => .error .releasedView
      | _ => .error (.notIterable (s.typeName v))
    | _ => .error (.notIterable (s.typeName v))

end Store

namespace Kind

/-- The text of an error of this kind. Only a present debug payload is shown, as the list of its
items. -/
def plain (s : Store) (write : Writer) : Kind → Except Refusal String
  | .reset _ code side => do
    let side ← write .plain side
    return "stream reset by " ++ side ++ ": " ++ (← write .plain code)
  | .goAway debugData code side => do
    let side ← write .plain side
    let text := "go away from " ++ side ++ ": " ++ (← write .plain code)
    if ← s.truthy debugData then
      let items ← (← s.elements debugData).mapM (write .quoted)
      return text ++ " (" ++ listForm items ++ ")"
    else
      return text
  | .reason code => return "protocol error: " ++ (← write .plain code)
  | .misuse m => return "user error: " ++ (← write .plain m)
  | .transport fault => write .plain fault

end Kind

namespace Object

def render (s : Store) (render : Renderer) (pending : Pending) (self : Ref) (form : Form)
    (o : Object) : Except Refusal String :=
  let write := render pending
  let frozen := fun r : Record => enclosed render pending self "..." fun write => r.quoted write
  match o, form with
  | .reason code, .plain => Reason.descriptionOf s (write .plain) code
  | .reason code, .quoted => return "Reason(" ++ (← Reason.nameOf s code) ++ ")"
  | .streamId value, .plain => write .plain value
  | .streamId value, .quoted => return "StreamId(" ++ (← write .plain value) ++ ")"
  | .report r, _ => frozen r.record
  | .sendFailure f, _ => frozen f.record
  | .kind k, _ => frozen k.record
  | .fault f, .plain => f.plain render pending self
  | .fault f, .quoted => f.toCarried.quoted render pending self f.cls.name
  | .exception e, .plain => e.toCarried.plain render pending self
  | .exception e, .quoted => e.toCarried.quoted render pending self e.cls.name
  | .error e, .plain =>
    match s.kind? e.kind with
    | some k => k.plain s write
    | none => .error .dangling
  | .error e, .quoted => return "Error(" ++ (← write .quoted (.object e.kind)) ++ ")"
  | .buffer content, _ => .ok (Text.quotedBuffer content)
  | .view _, _ => .ok "<memory at 0x0>"
  | .released, _ => .ok "<released memory at 0x0>"
  | .list items, _ => enclosed render pending self "[...]" fun write =>
    return listForm (← items.mapM (write .quoted))
  | .tuple items, _ => enclosed render pending self "(...)" fun write =>
    return tupleForm (← items.mapM (write .quoted))
  | .float word, _ => .ok (Text.float word)
  | .method owner name, _ =>
    return "<bound method " ++ s.methodOwner owner name ++ "." ++ name ++ " of " ++
      (← write .quoted owner) ++ ">"

end Object

namespace Store

/-- The plain form of a member is its value, which must be a text. The quoted form shows its name
and its value. -/
def renderMember (s : Store) (write : Writer) (v : Value) : Form → Except Refusal String
  | .plain => do
    match ← s.heldByMember v "_value_" with
    | .text t => return t
    | held => throw (.textIsNone (s.typeName held))
  | .quoted => do
    let name ← s.heldByMember v "_name_"
    let value ← s.heldByMember v "_value_"
    let value ← write .quoted value
    return member (s.typeName v) (← write .plain name) value

def renderUpTo (s : Store) : Nat → Renderer
  | 0, _, .plain, _ => .error .endlessPlainForm
  | 0, _, .quoted, _ => .error .endlessQuotedForm
  | depth + 1, pending, form, v =>
    match v with
    | .null => .ok "None"
    | .bool b => .ok (if b then "True" else "False")
    | .int i => .ok (Text.integer i)
    | .text t => .ok (match form with | .plain => t | .quoted => Text.quoted t)
    | .bytes content => .ok (Text.quotedBytes content)
    | .misuse _ | .initiator _ => s.renderMember (s.renderUpTo depth pending) v form
    | .errorClass cls => .ok ("<class '" ++ cls.fullName ++ "'>")
    | .undecided => .ok "NotImplemented"
    | .object r =>
      match s.get? r with
      | some o => o.render s (s.renderUpTo depth) pending r form
      | none => .error .dangling

def render (s : Store) : Writer := s.renderUpTo depth []

def plain (s : Store) (v : Value) : Except Refusal String := s.render .plain v

def quoted (s : Store) (v : Value) : Except Refusal String := s.render .quoted v

end Store

end Http2Failure
