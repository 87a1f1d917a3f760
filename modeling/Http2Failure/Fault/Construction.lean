import Http2Failure.Rendering
import Http2Failure.Session

/-!
# Construction of transport faults

An argument list of two to five items holds an error number, an error text, and perhaps two file
names around an item that is ignored. A fault of the general class takes the class that its error
number selects. Given file names are taken out of the argument list. For the blocking class a
number in the place of the first file name is a count of characters written instead.
-/

namespace Http2Failure

namespace Store

/-- The integer that a number stands for as a size; no answer for a value that is no number. Only
whole numbers of 64 bits will do. -/
def size? (s : Store) (v : Value) : Option (Except Refusal Int) :=
  match v with
  | .bool b => some (.ok (if b then 1 else 0))
  | .int i =>
    some (if -0x8000000000000000 ≤ i ∧ i < 0x8000000000000000 then .ok i
      else .error (.indexTooLarge "int"))
  | .object r =>
    match s.get? r with
    | some (.reason _) | some (.streamId _) | some (.float _) =>
      some (.error (.notAnIndex (s.typeName v)))
    | _ => none
  | _ => none

end Store

namespace Fault

/-- Truth values are error numbers too. -/
def errorNumber? : Value → Option Int
  | .bool b => some (if b then 1 else 0)
  | .int i => some i
  | _ => none

def Class.select (cls : Class) (number : Value) : Class :=
  if cls = .general then ((errorNumber? number).bind Class.ofErrorNumber?).getD cls else cls

/-- The count minus one stands for no count. -/
def countOf (n : Int) : Option Int := if n = -1 then none else some n

def ofArgs (s : Store) (cls : Class) (args : List Value) : Except Refusal Fault :=
  match args with
  | number :: text :: rest =>
    if 3 < rest.length then .ok { cls, args }
    else
      let cls := cls.select number
      let bare : Fault := { cls, args, errorNumber := some number, errorText := some text }
      match rest with
      | [] => .ok bare
      | third :: more =>
        if third = .null then .ok bare
        else
          let named : Fault :=
            { bare with
              args := [number, text]
              fileName := some third
              fileName2 := more[1]?.filter (· ≠ .null) }
          if cls = .blocking then
            match s.size? third with
            | some count => return { bare with charactersWritten := countOf (← count) }
            | none => .ok named
          else .ok named
  | _ => .ok { cls, args }

def withAttributes (f : Fault) (attrs : Attributes) : Fault :=
  { f with attributes := attrs }

def construct (s : Store) (cls : Class) (args : List Value) : Except Refusal Fault :=
  match cls, args with
  | .handshake, [host] => do
    let text := "handshake with " ++ (← s.plain host) ++ " failed"
    return (← ofArgs s cls [.text text]).withAttributes [("host", host)]
  | .handshake, [] => .error (.missingArguments "HandshakeError.__init__" ["host"])
  | .handshake, _ =>
    .error (.extraArguments "HandshakeError.__init__" "2 positional arguments" (args.length + 1))
  | .tls, [host, alert] =>
    return (← ofArgs s cls [alert]).withAttributes [("host", host), ("alert", alert)]
  | .tls, [] => .error (.missingArguments "TLSError.__init__" ["host", "alert"])
  | .tls, [_] => .error (.missingArguments "TLSError.__init__" ["alert"])
  | .tls, _ =>
    .error (.extraArguments "TLSError.__init__" "3 positional arguments" (args.length + 1))
  | .path, [number, text, path] =>
    return (← ofArgs s cls [number, text, path, .null, .null]).withAttributes [("path", path)]
  | .path, [number, text, path, path2] =>
    return (← ofArgs s cls [number, text, path, .null, path2]).withAttributes [("path", path)]
  | .path, [] => .error (.missingArguments "PathError.__init__" ["code", "text", "path"])
  | .path, [_] => .error (.missingArguments "PathError.__init__" ["text", "path"])
  | .path, [_, _] => .error (.missingArguments "PathError.__init__" ["path"])
  | .path, _ =>
    .error (.extraArguments "PathError.__init__" "from 4 to 5 positional arguments"
      (args.length + 1))
  | .tagged, tag :: args => return (← ofArgs s cls args).withAttributes [("tag", tag)]
  | .tagged, [] => .error (.missingArguments "TaggedError.__new__" ["tag"])
  | .quiet, _ => .ok { cls }
  | cls, args => ofArgs s cls args

/-- The fault `f` after its constructor was called again, which alone would build `fresh`. Number,
text and arguments are read anew; a file name and a count stay unless there is a new one. -/
def reconstruct (f fresh : Fault) : Fault :=
  { fresh with
    fileName := fresh.fileName.or f.fileName
    fileName2 := fresh.fileName2.or f.fileName2
    charactersWritten := fresh.charactersWritten.or f.charactersWritten
    attributes := f.attributes.insertAll fresh.attributes
    cause := f.cause
    suppressContext := f.suppressContext
    context := f.context }

/-- A file name that is set and not the null value replaces what the arguments gave. -/
def keptName (current fromArgs : Option Value) : Option Value :=
  match current with
  | some .null | none => fromArgs
  | some name => some name

/-- A new fault of the same class. The arguments that the fault holds now are read again, whatever
constructor built it, and its attributes are carried over. The fault itself becomes the cause. -/
def rebuild (s : Store) (f : Fault) (self : Ref) : Except Refusal Fault := do
  let fresh ← ofArgs s f.cls f.args
  return {
    fresh with
    fileName := keptName f.fileName fresh.fileName
    fileName2 := keptName f.fileName2 fresh.fileName2
    attributes := f.attributes
    cause := some self
    suppressContext := true }

end Fault

end Http2Failure
