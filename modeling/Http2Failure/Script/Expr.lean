import Http2Failure.Script.Constructor

/-!
# Expressions

The values that the steps of a script work on. Immediate values and names stand for themselves,
and every evaluation of a constructor makes a new object.
-/

namespace Http2Failure.Script

inductive Expr where
  | null
  | bool (b : Bool)
  | int (i : Int)
  | text (t : String)
  /-- An integer by its decimal numeral, of at most 4300 digits. -/
  | numeral (digits : String)
  | float (word : UInt64)
  | bytes (content : List UInt8)
  | buffer (content : List UInt8)
  | var (name : String)
  /-- An attribute of the class of reasons. -/
  | reasonNamed (name : String)
  /-- The member of an enumeration with a given name. -/
  | member (e : Enumeration) (name : String)
  | list (items : List Expr)
  | build (c : Constructor) (args : List Expr)

structure Binding where
  value : Value
  /-- The step that wrote the value out, if one did. -/
  origin : Option Nat := none

/-- The variables that are bound, the latest first. -/
abbrev Bindings := List (String × Binding)

namespace Bindings

def bind (vars : Bindings) (name : String) (b : Binding) : Bindings :=
  (name, b) :: vars.filter fun entry => entry.1 != name

def values (vars : Bindings) : List Value := vars.map fun entry => entry.2.value

end Bindings

def digitLimit : Nat := 4300

def ofNumeral (text : String) : Except Refusal Int :=
  match Text.integer? text.toList with
  | none => .error (.notANumeral text)
  | some i =>
    let digits := (text.toList.filter Char.isDigit).length
    if digitLimit < digits then .error (.numeralTooLong digits) else .ok i

namespace Expr

mutual

def eval (vars : Bindings) : Expr → Action Value
  | .null => return .null
  | .bool b => return .bool b
  | .int i => return .int i
  | .text t => return .text t
  | .numeral digits => return .int (← .read fun _ => ofNumeral digits)
  | .float word => .create (.float word)
  | .bytes content => return .bytes content
  | .buffer content => .create (.buffer content)
  | .var name =>
    match vars.lookup name with
    | some b => return b.value
    | none => throw (.unbound name)
  | .reasonNamed name =>
    if name = "MAX_CODE" then return .int Reason.maxCode
    else
      match Reason.codeOfName? name with
      | some code => return .object code
      | none => throw (.noClassAttribute "Reason" name)
  | .member e name =>
    match e.ofName? name with
    | some v => return v
    | none => throw (.noMember (Text.quoted name))
  | .list items => do .create (.list (← evalAll vars items))
  | .build c args => do c.apply (← evalAll vars args)

def evalAll (vars : Bindings) : List Expr → Action (List Value)
  | [] => return []
  | e :: rest => do
    let v ← eval vars e
    return v :: (← evalAll vars rest)

end

def isWritten : Expr → Bool
  | .int _ | .text _ | .numeral _ | .bytes _ => true
  | _ => false

/-- The step that wrote the value of an expression out, as far as that is known. -/
def origin? (vars : Bindings) (step : Nat) : Expr → Option Nat
  | .var name => (vars.lookup name).bind Binding.origin
  | e => if e.isWritten then some step else none

end Expr

/-- Values of which there is only one, however often it is written out: besides all that is no
number, text or byte string these are the small numbers and the shortest texts and byte strings. -/
def isUnique : Value → Bool
  | .int i => -5 ≤ i ∧ i ≤ 256
  | .text t => t.length = 0 ∨ t.length = 1 ∧ t.toList.all fun c => c.toNat < 256
  | .bytes content => content.length ≤ 1
  | _ => true

/-- Whether equal values are known to have been made apart: each time that one is written out
makes another one. -/
def madeApart (vars : Bindings) (a b : Expr) (v : Value) : Bool :=
  let written := a.isWritten || b.isWritten
  let originsDiffer := match a.origin? vars 0, b.origin? vars 0 with
    | some m, some n => m != n
    | _, _ => false
  !isUnique v && (written || originsDiffer)

end Http2Failure.Script
