import Http2Failure.Rendering
import Http2Failure.Session

/-!
# Sequences that change in place

The notes of an exception are a list, and debug data may have been copied from a buffer. Both can
be changed wherever they are held, so every holder sees the change. A place counts from the end
when it is negative. A buffer keeps its length for as long as there is a view of it.
-/

namespace Http2Failure

/-- The item that a place stands for, where there is one. -/
def position? (place : Int) (length : Nat) : Option Nat :=
  let place := if place < 0 then place + length else place
  if 0 ≤ place ∧ place < length then some place.toNat else none

/-- How many items lie in front of a place; before the first one there are none. -/
def itemsBefore (place : Int) (length : Nat) : Nat :=
  min (if place < 0 then place + length else place).toNat length

namespace Action

def placeOf (v : Value) : Action Int := do
  match Store.whole? v with
  | some i =>
    if -0x8000000000000000 ≤ i ∧ i < 0x8000000000000000 then return i else throw .placeTooLarge
  | none => throw (.notAnIndex (← ask fun s => s.typeName v))

def byteOf (v : Value) : Action UInt8 := do
  match Store.whole? v with
  | some i => if 0 ≤ i ∧ i < 256 then return UInt8.ofNat i.toNat else throw .notAByte
  | none => throw (.notAnIndex (← ask fun s => s.typeName v))

def keyOf (notWhole : String → Refusal) (key : Value) : Action Int := do
  match Store.whole? key with
  | some i =>
    if -0x8000000000000000 ≤ i ∧ i < 0x8000000000000000 then return i
    else throw (.indexTooWide (← ask fun s => s.typeName key))
  | none => throw (notWhole (← ask fun s => s.typeName key))

/-- The item to be taken out, the last one where no place is given. -/
def takenFrom (type : String) (length : Nat) (place? : Option Value) : Action Nat := do
  let place ← match place? with
    | some v => placeOf v
    | none => pure (-1)
  if length = 0 then throw (.nothingToTake type)
  match position? place length with
  | some place => return place
  | none => throw .nothingTaken

def placeIn? (items : List Value) (v : Value) : Action (Option Nat) :=
  ask fun s => items.findIdx? fun item => Store.same item v || s.equal item v

def relist (r : Ref) (items : List Value) : Action Value := do
  put r (.list items)
  return .null

def listMethod? (r : Ref) (items : List Value) (method : String) : Option Call :=
  let bare := fun result => some (noArguments "list" method result)
  let given := fun result => some (exactlyOne "list" method result)
  if method = "append" then given fun v => relist r (items ++ [v])
  else if method = "extend" then given fun v => do
    relist r (items ++ (← read fun s => s.elements v))
  else if method = "insert" then some (exactlyTwo fun place v => do
    let before := itemsBefore (← placeOf place) items.length
    relist r (items.take before ++ v :: items.drop before))
  else if method = "pop" then some (atMostOne method fun place? => do
    let place ← takenFrom "list" items.length place?
    put r (.list (items.eraseIdx place))
    return items.getD place .null)
  else if method = "remove" then given fun v => do
    match ← placeIn? items v with
    | some place => relist r (items.eraseIdx place)
    | none => throw .notInList
  else if method = "clear" then bare (relist r [])
  else if method = "reverse" then bare (relist r items.reverse)
  else if method = "copy" then bare (create (.list items))
  else if method = "count" then given fun v =>
    return .int (← ask fun s => items.countP fun item => Store.same item v || s.equal item v)
  else if method = "index" then given fun v => do
    match ← placeIn? items v with
    | some place => return .int place
    | none => throw (.noPlaceInList (← read fun s => s.quoted v))
  else if method = "__init__" then some (atMostOne "list" fun
    | none => relist r []
    | some v => do
      put r (.list [])
      relist r (← read fun s => s.elements v))
  else none

/-- Replaces the bytes of a buffer. While a view looks at it their number stays the same. -/
def rebuffer (r : Ref) (before after : List UInt8) : Action Value := do
  let viewed ← ask fun s => s.isViewed r
  if before.length ≠ after.length ∧ viewed then throw .viewed
  put r (.buffer after)
  return .null

def bytesOf (v : Value) : Action (List UInt8) := do
  match ← ask fun s => (s.bytes? v, s.elements v) with
  | (some content, _) => return content
  | (none, .ok items) => items.mapM byteOf
  | (none, .error .releasedView) => throw (.notSliceable (← ask fun s => s.typeName v))
  | (none, .error _) => throw (.notExtending (← ask fun s => s.typeName v))

/-- Fills an empty buffer with the bytes of some items, up to the first item that is no byte. -/
def fill (r : Ref) (content : List UInt8) : List Value → Action Value
  | [] => return .null
  | item :: rest => do
    let extended := content ++ [← byteOf item]
    discard (rebuffer r content extended)
    fill r extended rest

/-- The constructor of a buffer called again, which empties the buffer first: a whole number gives
as many zeros, anything else its bytes. -/
def refill (r : Ref) (content : List UInt8) (source? : Option Value) : Action Value := do
  discard (rebuffer r content [])
  match source? with
  | none => return .null
  | some source =>
    match source, Store.whole? source, ← ask fun s => (s.bytes? source, s.elements source) with
    | .text _, _, _ => throw .noEncoding
    | _, some count, _ =>
      if count < -0x8000000000000000 ∨ 0x8000000000000000 ≤ count then
        throw (.countTooLarge (← ask fun s => s.typeName source))
      else if count < 0 then throw .negativeCount
      else if Text.Template.widthOfMemory ≤ count.toNat then throw .outOfMemory
      else rebuffer r [] (List.replicate count.toNat 0)
    | _, none, (some given, _) => rebuffer r [] given
    | _, none, (none, .ok items) => fill r [] items
    | _, none, (none, .error .releasedView) => throw .releasedView
    | _, none, (none, .error _) => throw (.notBufferable (← ask fun s => s.typeName source))

def bufferMethod? (r : Ref) (content : List UInt8) (method : String) : Option Call :=
  let bare := fun result => some (noArguments "bytearray" method result)
  let given := fun result => some (exactlyOne "bytearray" method result)
  let become := rebuffer r content
  if method = "append" then given fun v => do become (content ++ [← byteOf v])
  else if method = "extend" then given fun v => do become (content ++ (← bytesOf v))
  else if method = "insert" then some (exactlyTwo fun place v => do
    let before := itemsBefore (← placeOf place) content.length
    become (content.take before ++ (← byteOf v) :: content.drop before))
  else if method = "pop" then some (atMostOne method fun place? => do
    let place ← takenFrom "bytearray" content.length place?
    discard (become (content.eraseIdx place))
    return .int (content.getD place 0).toNat)
  else if method = "remove" then given fun v => do
    match content.idxOf? (← byteOf v) with
    | some place => become (content.eraseIdx place)
    | none => throw .notInBuffer
  else if method = "clear" then bare (become [])
  else if method = "reverse" then bare (become content.reverse)
  else if method = "copy" then bare (create (.buffer content))
  else if method = "__init__" then some (atMostOne "bytearray" (refill r content))
  else none

/-- Methods of views. A view that was released has only its release left. -/
def viewMethod? (r : Ref) (o : Object) (method : String) : Option Call :=
  let bare := fun result => some (noArguments "memoryview" method result)
  let content : Action (List UInt8) := do
    match o, ← ask fun s => s.bytes? (.object r) with
    | .view _, some content => return content
    | _, _ => throw .releasedView
  if method = "release" then bare do
    put r .released
    return .null
  else if method = "tobytes" then bare do return .bytes (← content)
  else if method = "tolist" then bare do
    create (.list ((← content).map fun b => .int b.toNat))
  else none

/-- Replaces a byte of a buffer. A value that is no byte is refused before the place is. -/
def setByte (r : Ref) (content : List UInt8) (key item : Value) : Action Unit := do
  let place ← keyOf (.indexNotWhole "bytearray") key
  let b ← byteOf item
  match position? place content.length with
  | some place => put r (.buffer (content.set place b))
  | none => throw .bufferIndex

/-- Replaces a byte of a buffer through a view of it, which looks at the place first. -/
def setByteInView (r : Ref) (content : List UInt8) (key item : Value) : Action Unit := do
  let place ← keyOf (fun _ => .viewKey) key
  match position? place content.length, Store.whole? item with
  | none, _ => throw .viewIndex
  | some _, none => throw .notAWholeInView
  | some place, some i =>
    if 0 ≤ i ∧ i < 256 then put r (.buffer (content.set place (UInt8.ofNat i.toNat)))
    else throw .notAByteInView

/-- Replaces the item under a key, of a buffer, of the buffer under a view, or of a list. -/
def setItem (v key item : Value) : Action Unit := do
  match v, ← ask fun s => s.object? v with
  | .object r, some (.buffer content) => setByte r content key item
  | _, some (.view source) =>
    match source, ← ask fun s => s.object? source with
    | .object r, some (.buffer content) => setByteInView r content key item
    | _, _ => throw .readOnlyMemory
  | _, some .released => throw .releasedView
  | .object r, some (.list items) =>
    let place ← keyOf (.indexNotWhole "list") key
    match position? place items.length with
    | some place => put r (.list (items.set place item))
    | none => throw .listIndex
  | _, _ => throw (.noItemAssignment (← ask fun s => s.typeName v))

end Action

end Http2Failure
