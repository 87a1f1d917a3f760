/-!
# Classes of transport faults

The general class, its specialisations for particular error numbers, and the classes that are
named directly: address resolution failures, and classes whose constructors take arguments of
their own.
-/

namespace Http2Failure.Fault

inductive Class where
  | general
  | blocking
  | brokenPipe
  | childProcess
  | connection
  | connectionAborted
  | connectionRefused
  | connectionReset
  | fileExists
  | fileNotFound
  | interrupted
  | isADirectory
  | notADirectory
  | permission
  | processLookup
  | timeout
  | addressInfo
  /-- Adds nothing to the general class. -/
  | plain
  /-- Built from a host, which it keeps as an attribute. -/
  | handshake
  /-- Built from a host and an alert; its text reads both from its attributes. -/
  | tls
  /-- Built from an error number, a text and one or two paths. -/
  | path
  /-- Built from a tag and the arguments of the general class. -/
  | tagged
  /-- Ignores its arguments. -/
  | quiet
deriving DecidableEq

namespace Class

def name : Class → String
  | .general => "OSError"
  | .blocking => "BlockingIOError"
  | .brokenPipe => "BrokenPipeError"
  | .childProcess => "ChildProcessError"
  | .connection => "ConnectionError"
  | .connectionAborted => "ConnectionAbortedError"
  | .connectionRefused => "ConnectionRefusedError"
  | .connectionReset => "ConnectionResetError"
  | .fileExists => "FileExistsError"
  | .fileNotFound => "FileNotFoundError"
  | .interrupted => "InterruptedError"
  | .isADirectory => "IsADirectoryError"
  | .notADirectory => "NotADirectoryError"
  | .permission => "PermissionError"
  | .processLookup => "ProcessLookupError"
  | .timeout => "TimeoutError"
  | .addressInfo => "gaierror"
  | .plain => "PlainError"
  | .handshake => "HandshakeError"
  | .tls => "TLSError"
  | .path => "PathError"
  | .tagged => "TaggedError"
  | .quiet => "QuietError"

/-- Whether faults of the class are built from the argument list of the general class alone. -/
def isStandard : Class → Bool
  | .handshake | .tls | .path | .tagged | .quiet => false
  | _ => true

/-- The module that defines the class, unless it is built in. -/
def home? : Class → Option String
  | .addressInfo => some "socket"
  | .plain | .handshake | .tls | .path | .tagged | .quiet => some "__main__"
  | _ => none

/-- Whether the class can be changed at run time, as all can that are not built in. -/
def isOpen (c : Class) : Bool := c.home?.isSome

/-- The class that an error number selects among the specialisations of the general class. -/
def ofErrorNumber? (number : Int) : Option Class :=
  if number = 1 ∨ number = 13 then some .permission
  else if number = 2 then some .fileNotFound
  else if number = 3 then some .processLookup
  else if number = 4 then some .interrupted
  else if number = 10 then some .childProcess
  else if number = 11 ∨ number = 114 ∨ number = 115 then some .blocking
  else if number = 17 then some .fileExists
  else if number = 20 then some .notADirectory
  else if number = 21 then some .isADirectory
  else if number = 32 ∨ number = 108 then some .brokenPipe
  else if number = 103 then some .connectionAborted
  else if number = 104 then some .connectionReset
  else if number = 110 then some .timeout
  else if number = 111 then some .connectionRefused
  else none

end Class

end Http2Failure.Fault
