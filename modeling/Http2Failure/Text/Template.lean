import Http2Failure.Text.Written

/-!
# Templates for a number

A text or a byte string read as a template: plain characters with conversions between them. A
conversion is a percent sign, flags, a width, a precision and a size mark, all of which may be
absent, and the character that names how the argument is written. The argument of every template
here is the number two, so what remains to be said is whether the template takes it, once and no
more, and what is wrong where it does not. The first flaw from the left is the one that counts.
-/

namespace Http2Failure.Text.Template

inductive Alphabet where
  | characters
  | bytes
deriving DecidableEq

inductive Flaw where
  | incomplete
  | needsMapping
  | tooFewArguments
  | unusedArgument (alphabet : Alphabet)
  | widthTooBig
  | precisionTooBig (alphabet : Alphabet)
  | precisionTooLarge
  | unsupported (shown : Char) (code index : Nat)
  /-- The byte that should name a conversion has no character to be shown as. -/
  | notACharacter
  | needsBytes
  | tooWide
deriving DecidableEq

def Flaw.message : Flaw → String
  | .incomplete => "incomplete format"
  | .needsMapping => "format requires a mapping"
  | .tooFewArguments => "not enough arguments for format string"
  | .unusedArgument .characters => "not all arguments converted during string formatting"
  | .unusedArgument .bytes => "not all arguments converted during bytes formatting"
  | .widthTooBig => "width too big"
  | .precisionTooBig .characters => "precision too big"
  | .precisionTooBig .bytes => "prec too big"
  | .precisionTooLarge => "precision too large"
  | .unsupported shown code index =>
    "unsupported format character '" ++ shown.toString ++ "' (0x" ++ hexadecimal code ++
      ") at index " ++ decimal index
  | .notACharacter => "character argument not in range(0x110000)"
  | .needsBytes =>
    "%b requires a bytes-like object, or an object that implements __bytes__, not 'int'"
  | .tooWide => ""

inductive Stage where
  | plain
  | percent
  | flag
  | width
  | borrowedWidth
  | point
  | precision
  | borrowedPrecision
  | size
deriving DecidableEq

namespace Stage

def beforeWidth : Stage → Bool
  | .percent | .flag => true
  | _ => false

def beforePoint : Stage → Bool
  | .percent | .flag | .width | .borrowedWidth => true
  | _ => false

/-- Whether a number has been read up to its last digit so far. -/
def inNumber : Stage → Bool
  | .width | .precision => true
  | _ => false

end Stage

def flags : List Char := ['-', '+', ' ', '#', '0']

def sizes : List Char := ['h', 'l', 'L']

def wholeConversions : List Char := ['d', 'i', 'u', 'o', 'x', 'X']

def otherConversions : List Char := ['a', 'r', 'c', 'e', 'E', 'f', 'F', 'g', 'G']

def maxWidth : Nat := 0x7fffffffffffffff

def maxPrecision : Nat := 0x7fffffff

def maxDigits : Nat := maxPrecision - 3

def widthOfMemory : Nat := 0x10000000000

structure Reading where
  stage : Stage := .plain
  width : Nat := 0
  precision : Nat := 0
  /-- Whether the argument has been taken. -/
  spent : Bool := false
deriving DecidableEq

namespace Reading

def spend (r : Reading) : Except Flaw Reading :=
  if r.spent then .error .tooFewArguments else .ok { r with spent := true }

def widen (r : Reading) (digit : Char) : Except Flaw Reading :=
  let width := 10 * r.width + (digit.toNat - 48)
  if maxWidth < width then .error .widthTooBig else .ok { r with stage := .width, width }

def sharpen (alphabet : Alphabet) (r : Reading) (digit : Char) : Except Flaw Reading :=
  let precision := 10 * r.precision + (digit.toNat - 48)
  if maxPrecision < precision then .error (.precisionTooBig alphabet)
  else .ok { r with stage := .precision, precision }

/-- The flaw of a character that names no conversion. A text shows it if it is plain. A byte
beyond the plain ones is shown only where it ends a number. -/
def unknown (alphabet : Alphabet) (index : Nat) (r : Reading) (c : Char) : Flaw :=
  match alphabet with
  | .characters =>
    .unsupported (if 31 ≤ c.toNat ∧ c.toNat < 127 then c else '?') c.toNat index
  | .bytes =>
    if c.toNat < 128 ∨ r.stage.inNumber then .unsupported c c.toNat index else .notACharacter

def written (alphabet : Alphabet) (index : Nat) (r : Reading) (c : Char) : Except Flaw Unit :=
  if alphabet = .bytes ∧ (c = 's' ∨ c = 'b') then .error .needsBytes
  else if ¬(c = 's' ∨ c ∈ wholeConversions ∨ c ∈ otherConversions) then
    .error (r.unknown alphabet index c)
  else if maxDigits < r.precision ∧ c ∈ wholeConversions then .error .precisionTooLarge
  else if widthOfMemory ≤ r.width then .error .tooWide
  else .ok ()

def convert (alphabet : Alphabet) (index : Nat) (r : Reading) (c : Char) :
    Except Flaw Reading := do
  let r ← r.spend
  r.written alphabet index c
  return { r with stage := .plain }

def read (alphabet : Alphabet) (index : Nat) (r : Reading) (c : Char) : Except Flaw Reading :=
  if r.stage = .plain then
    .ok (if c = '%' then { r with stage := .percent, width := 0, precision := 0 } else r)
  else if r.stage = .percent ∧ c = '%' then .ok { r with stage := .plain }
  else if r.stage = .percent ∧ c = '(' then .error .needsMapping
  else if r.stage.beforeWidth ∧ c ∈ flags then .ok { r with stage := .flag }
  else if r.stage.beforeWidth ∧ c = '*' then r.spend.map ({ · with stage := .borrowedWidth })
  else if (r.stage.beforeWidth ∨ r.stage = .width) ∧ c.isDigit then r.widen c
  else if r.stage.beforePoint ∧ c = '.' then .ok { r with stage := .point }
  else if r.stage = .point ∧ c = '*' then r.spend.map ({ · with stage := .borrowedPrecision })
  else if (r.stage = .point ∨ r.stage = .precision) ∧ c.isDigit then r.sharpen alphabet c
  else if r.stage ≠ .size ∧ c ∈ sizes then .ok { r with stage := .size }
  else r.convert alphabet index c

def readAll (alphabet : Alphabet) (index : Nat) (r : Reading) : List Char → Except Flaw Reading
  | [] => .ok r
  | c :: rest =>
    match r.read alphabet index c with
    | .ok r => r.readAll alphabet (index + 1) rest
    | .error flaw => .error flaw

end Reading

/-- Whether a template takes the number two, and what is wrong if it does not. -/
def check (alphabet : Alphabet) (template : List Char) : Except Flaw Unit := do
  let r ← Reading.readAll alphabet 0 {} template
  if r.stage ≠ .plain then throw .incomplete
  if !r.spent then throw (.unusedArgument alphabet)

def checkBytes (template : List UInt8) : Except Flaw Unit :=
  check .bytes (template.map fun b => Char.ofNat b.toNat)

end Http2Failure.Text.Template
