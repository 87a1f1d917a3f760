import Http2Failure.Store

/-!
# Views of buffers

A buffer that is looked at by a view keeps its length, until the view is released or goes. A view
goes, like every other object, when the last thing that held it is gone: a name, a member of an
enumeration, or an object that is itself still there. Objects that hold one another in a ring stay.
-/

namespace Http2Failure

namespace Carried

/-- What an exception holds beside its slots. -/
def parts (c : Carried) : List Value :=
  c.args ++ c.attributes.map Prod.snd ++
    (c.argsTuple.toList ++ c.cause.toList ++ c.context.toList).map Value.object

end Carried

namespace Object

def isView : Object → Bool
  | .view _ => true
  | _ => false

def parts : Object → List Value
  | .fault f =>
    f.toCarried.parts ++ f.errorNumber.toList ++ f.errorText.toList ++ f.fileName.toList ++
      f.fileName2.toList
  | .exception e => e.toCarried.parts
  | .error e => .object e.kind :: e.toCarried.parts
  | .list items | .tuple items => items
  | .view source => [source]
  | .method owner _ => [owner]
  | o => ((o.record?.map Record.fields).getD []).map Prod.snd

end Object

namespace Store

/-- Everything that the object at a place holds, with what it was given. -/
def partsAt (s : Store) (r : Ref) : List Value :=
  ((s.get? r).map Object.parts).getD [] ++ (s.attributesOf (.object r)).map Prod.snd

/-- What the members of enumerations hold, which are always there. -/
def heldByMembers (s : Store) : List Value :=
  (s.given.filter fun entry => entry.1.isMember).flatMap fun entry => entry.2.map Prod.snd

/-- Of some objects those that are held by one of them, or from outside. -/
def stillHeld (s : Store) (outside : List Value) (present : List Ref) : List Ref :=
  let holding := outside ++ present.flatMap s.partsAt
  present.filter fun r => r < initial.size || holding.contains (.object r)

def present (s : Store) (outside : List Value) : Nat → List Ref → List Ref
  | 0, refs => refs
  | bound + 1, refs =>
    let held := s.stillHeld outside refs
    if held.length = refs.length then refs else s.present outside bound held

/-- Releases the views that are gone, where `outside` is what names hold. -/
def releaseGone (s : Store) (outside : List Value) : Store :=
  if s.objects.toList.any Object.isView then
    let present := s.present (outside ++ s.heldByMembers) s.size (List.range s.size)
    let objects := s.objects.toList.mapIdx fun r o =>
      if o.isView && !present.contains r then .released else o
    { s with objects := objects.toArray }
  else s

def isViewed (s : Store) (r : Ref) : Bool :=
  s.objects.toList.contains (.view (.object r))

def isReleased (s : Store) (v : Value) : Bool :=
  match s.object? v with
  | some .released => true
  | _ => false

end Store

end Http2Failure
