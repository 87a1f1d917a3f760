import Http2Failure.Enumeration

/-!
# Values

What a field can hold. Everything with an identity of its own, or with parts, is an object of the
store and is held by reference; a reference is the place of the object in the store. All other
values are immediate, and the store cannot tell two equal immediate values apart. A binary64
number is an object, since a number that is not equal to itself is still the same as itself.
-/

namespace Http2Failure

namespace Error

/-- Errors are of one class, which an application can specialise. The specialisation differs only in
its name, and only as long as the error is not cloned. -/
inductive Class where
  | base
  | application
deriving DecidableEq

namespace Class

def name : Class → String
  | .base => "Error"
  | .application => "AppError"

def home : Class → String
  | .base => "c_h2_core.error"
  | .application => "__main__"

def fullName (c : Class) : String := c.home ++ "." ++ c.name

end Class

end Error

abbrev Ref := Nat

inductive Value where
  | null
  | bool (b : Bool)
  | int (i : Int)
  | text (t : String)
  | bytes (content : List UInt8)
  | misuse (m : Misuse)
  | initiator (i : Initiator)
  /-- A class of errors itself, as a stored error names it. -/
  | errorClass (cls : Error.Class)
  /-- What a comparison answers when neither side knows the other. -/
  | undecided
  | object (r : Ref)
deriving DecidableEq

/-- Named values that an object carries beside its declared fields, each name once. -/
abbrev Attributes := List (String × Value)

namespace Attributes

def get? (attrs : Attributes) (name : String) : Option Value :=
  attrs.lookup name

def erase (attrs : Attributes) (name : String) : Attributes :=
  attrs.filter fun entry => entry.1 != name

/-- A present name keeps its place, a new one goes to the end. -/
def insert (attrs : Attributes) (name : String) (value : Value) : Attributes :=
  if attrs.any fun entry => entry.1 == name then
    attrs.map fun entry => if entry.1 == name then (name, value) else entry
  else attrs ++ [(name, value)]

/-- All entries of `more` over those of `attrs`. -/
def insertAll (attrs more : Attributes) : Attributes :=
  more.foldl (fun acc entry => acc.insert entry.1 entry.2) attrs

def place (entry : String × Value) : Attributes → Attributes
  | [] => [entry]
  | first :: rest =>
    if entry.1 ≤ first.1 then entry :: first :: rest else first :: place entry rest

def sorted : Attributes → Attributes
  | [] => []
  | entry :: rest => place entry (sorted rest)

end Attributes

namespace Value

def ofMember (text name : String) (place : Nat) : Attributes :=
  [("_value_", .text text), ("_name_", .text name), ("_sort_order_", .int place)]

/-- What a value holds as long as nothing was given to it or taken from it. -/
def ownAttributes : Value → Attributes
  | .misuse m => ofMember m.text m.name (Misuse.all.idxOf m)
  | .initiator i => ofMember i.text i.name (Initiator.all.idxOf i)
  | _ => []

def enumeration? : Value → Option Enumeration
  | .misuse _ => some .misuse
  | .initiator _ => some .initiator
  | _ => none

def isMember (v : Value) : Bool := v.enumeration?.isSome

end Value

namespace Enumeration

def members : Enumeration → List Value
  | .misuse => Misuse.all.map .misuse
  | .initiator => Initiator.all.map .initiator

def ofName? (name : String) : Enumeration → Option Value
  | .misuse => (Misuse.ofName? name).map .misuse
  | .initiator => (Initiator.ofName? name).map .initiator

def ofText? (text : String) : Enumeration → Option Value
  | .misuse => (Misuse.ofText? text).map .misuse
  | .initiator => (Initiator.ofText? text).map .initiator

end Enumeration

end Http2Failure
