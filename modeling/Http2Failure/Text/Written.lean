import Http2Failure.Text.Printable

/-!
# Written forms

Numbers in base ten and base sixteen, and texts and byte strings in quotes. A numeral has no leading
zeros and its letters are lower case. A text is quoted with single quotes, or with double quotes
when it holds a single quote and no double quote. The quote in use, the backslash and everything
that is not printable are escaped. Byte strings follow the same rule of quotes; their printable
range is graphic ASCII.
-/

namespace Http2Failure.Text

def decimal (n : Nat) : String :=
  String.ofList (Nat.toDigits 10 n)

def hexadecimal (n : Nat) : String :=
  String.ofList (Nat.toDigits 16 n)

def hexadecimalPadded (width n : Nat) : String :=
  let digits := Nat.toDigits 16 n
  String.ofList (List.replicate (width - digits.length) '0' ++ digits)

def integer (i : Int) : String :=
  if i < 0 then "-" ++ decimal i.natAbs else decimal i.natAbs

/-- Reads the digits of a natural number; anything that is not a digit is refused. -/
def natural? (digits : List Char) : Option Nat :=
  if digits ≠ [] ∧ digits.all Char.isDigit then some (Nat.ofDigitChars 10 digits 0) else none

def integer? (text : List Char) : Option Int :=
  match text with
  | '-' :: digits => (natural? digits).map fun n => -(n : Int)
  | '+' :: digits => (natural? digits).map fun n => (n : Int)
  | digits => (natural? digits).map fun n => (n : Int)

theorem natural?_toDigits (n : Nat) : natural? (Nat.toDigits 10 n) = some n := by
  have digits : (Nat.toDigits 10 n).all Char.isDigit = true :=
    List.all_eq_true.mpr fun _ h => Nat.isDigit_of_mem_toDigits (by decide) (by decide) h
  rw [natural?, if_pos ⟨Nat.toDigits_ne_nil, digits⟩, Nat.ofDigitChars_ten_toDigits]

theorem decimal_injective {a b : Nat} (h : decimal a = decimal b) : a = b := by
  have digits := congrArg String.toList h
  simp only [decimal, String.toList_ofList] at digits
  have := natural?_toDigits a
  rw [digits, natural?_toDigits] at this
  exact (Option.some.inj this).symm

def quoteMark (hasSingle hasDouble : Bool) : Char :=
  if hasSingle && !hasDouble then '"' else '\''

/-- Escapes that are the same in texts and in byte strings. -/
def shortEscape? (mark c : Char) : Option String :=
  if c = mark then some (String.ofList ['\\', c])
  else if c = '\\' then some "\\\\"
  else if c = '\n' then some "\\n"
  else if c = '\r' then some "\\r"
  else if c = '\t' then some "\\t"
  else none

def escapeChar (mark c : Char) : String :=
  match shortEscape? mark c with
  | some escaped => escaped
  | none =>
    if isPrintable c then c.toString
    else if c.toNat < 0x100 then "\\x" ++ hexadecimalPadded 2 c.toNat
    else if c.toNat < 0x10000 then "\\u" ++ hexadecimalPadded 4 c.toNat
    else "\\U" ++ hexadecimalPadded 8 c.toNat

def quoted (text : String) : String :=
  let chars := text.toList
  let mark := quoteMark (chars.contains '\'') (chars.contains '"')
  mark.toString ++ String.join (chars.map (escapeChar mark)) ++ mark.toString

def escapeByte (mark : Char) (b : UInt8) : String :=
  let c := Char.ofNat b.toNat
  match shortEscape? mark c with
  | some escaped => escaped
  | none =>
    if 32 ≤ b.toNat ∧ b.toNat < 127 then c.toString else "\\x" ++ hexadecimalPadded 2 b.toNat

def quotedBytes (bytes : List UInt8) : String :=
  let mark := quoteMark (bytes.contains 39) (bytes.contains 34)
  "b" ++ mark.toString ++ String.join (bytes.map (escapeByte mark)) ++ mark.toString

/-- The quoted form of a buffer. Its single quotes are escaped also between double quotes. -/
def quotedBuffer (bytes : List UInt8) : String :=
  let mark := quoteMark (bytes.contains 39) (bytes.contains 34)
  "bytearray(b" ++ mark.toString ++ String.join (bytes.map (escapeByte '\'')) ++
    mark.toString ++ ")"

end Http2Failure.Text
