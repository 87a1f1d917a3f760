import Http2Failure.Text.Written

/-!
# Reasons and stream identifiers

Stream and connection failures share one space of unsigned 32-bit codes. Fourteen of them have a
name and a description; every other code is still valid, since a peer may send extension codes,
and is named by its hexadecimal value. Stream identifiers are unsigned 31-bit integers. Clients open
the odd ones and servers the even ones, and zero stands for the connection itself.
-/

namespace Http2Failure

structure Reason where
  code : Nat
  code_lt : code < 0x100000000
deriving DecidableEq

namespace Reason

def maxCode : Nat := 0xffffffff

def names : List (Nat × String) := [
  (0x0, "NO_ERROR"),
  (0x1, "PROTOCOL_ERROR"),
  (0x2, "INTERNAL_ERROR"),
  (0x3, "FLOW_CONTROL_ERROR"),
  (0x4, "SETTINGS_TIMEOUT"),
  (0x5, "STREAM_CLOSED"),
  (0x6, "FRAME_SIZE_ERROR"),
  (0x7, "REFUSED_STREAM"),
  (0x8, "CANCEL"),
  (0x9, "COMPRESSION_ERROR"),
  (0xa, "CONNECT_ERROR"),
  (0xb, "ENHANCE_YOUR_CALM"),
  (0xc, "INADEQUATE_SECURITY"),
  (0xd, "HTTP_1_1_REQUIRED")]

def descriptions : List (Nat × String) := [
  (0x0, "no error"),
  (0x1, "protocol error"),
  (0x2, "internal error"),
  (0x3, "flow control error"),
  (0x4, "settings timeout"),
  (0x5, "stream closed"),
  (0x6, "frame size error"),
  (0x7, "refused stream"),
  (0x8, "cancel"),
  (0x9, "compression error"),
  (0xa, "connect error"),
  (0xb, "enhance your calm"),
  (0xc, "inadequate security"),
  (0xd, "http/1.1 required")]

theorem codes_eq : descriptions.map Prod.fst = names.map Prod.fst := rfl

/-- The known codes are the first ones. -/
theorem codes_eq_range : names.map Prod.fst = List.range names.length := rfl

theorem lt_of_mem_names {entry : Nat × String} (listed : entry ∈ names) :
    entry.1 < names.length :=
  List.mem_range.mp (codes_eq_range ▸ List.mem_map_of_mem listed)

def ofInt? (code : Int) : Option Reason :=
  if h : 0 ≤ code ∧ code < 0x100000000 then some ⟨code.toNat, by omega⟩ else none

def isKnown (r : Reason) : Bool := (names.lookup r.code).isSome

def name (r : Reason) : String :=
  (names.lookup r.code).getD ("0x" ++ Text.hexadecimal r.code)

def description (r : Reason) : String :=
  (descriptions.lookup r.code).getD ("unknown reason code: " ++ Text.decimal r.code)

theorem mem_names_of_isKnown {r : Reason} (known : r.isKnown = true) :
    (r.code, r.name) ∈ names := by
  obtain ⟨text, found⟩ := Option.isSome_iff_exists.mp known
  obtain ⟨before, after, entries, -⟩ := List.lookup_eq_some_iff.mp found
  rw [name, found, Option.getD_some, entries]
  exact List.mem_append_right before List.mem_cons_self

def codeOfName? (name : String) : Option Nat :=
  (names.find? fun entry => entry.2 == name).map Prod.fst

def constants : List Reason := names.filterMap fun entry => ofInt? entry.1

end Reason

structure StreamId where
  value : Nat
  value_lt : value < 0x80000000
deriving DecidableEq

namespace StreamId

def max : Nat := 0x7fffffff

def zero : StreamId := ⟨0, by decide⟩

def ofInt? (value : Int) : Option StreamId :=
  if h : 0 ≤ value ∧ value < 0x80000000 then some ⟨value.toNat, by omega⟩ else none

def isZero (s : StreamId) : Bool := s.value == 0

def isClientInitiated (s : StreamId) : Bool := s.value % 2 == 1

def isServerInitiated (s : StreamId) : Bool := s.value != 0 && s.value % 2 == 0

/-- The next identifier of the same side, unless the space is exhausted. -/
def next? (s : StreamId) : Option StreamId :=
  if h : s.value + 2 < 0x80000000 then some ⟨s.value + 2, h⟩ else none

def text (s : StreamId) : String := Text.decimal s.value

end StreamId

end Http2Failure
