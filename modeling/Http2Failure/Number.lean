/-!
# Numbers of mixed kinds

Whole numbers and binary64 words compare by their exact values, so a common type of exact values
is enough: an integer times a power of two, an infinity, or no number at all.
-/

namespace Http2Failure

inductive Number where
  /-- The value `scale * 2 ^ shift`. -/
  | finite (scale shift : Int)
  | infinite (negative : Bool)
  | nan
deriving DecidableEq

namespace Number

def ofInt (i : Int) : Number := .finite i 0

/-- Sign, biased exponent and fraction of a binary64 word. -/
def wordParts (word : UInt64) : Bool × Nat × Nat :=
  (0x8000000000000000 ≤ word.toNat, word.toNat / 0x10000000000000 % 0x800,
    word.toNat % 0x10000000000000)

def ofWord (word : UInt64) : Number :=
  let (negative, exponent, fraction) := wordParts word
  if exponent = 2047 then
    if fraction = 0 then .infinite negative else .nan
  else
    let scale : Nat := if exponent = 0 then fraction else 0x10000000000000 + fraction
    .finite (if negative then -(scale : Int) else scale) ((max exponent 1 : Nat) - 1075)

/-- Both values over the smaller of the two powers of two. -/
def align (a p b q : Int) : Int × Int :=
  (a * Nat.pow 2 (p - min p q).toNat, b * Nat.pow 2 (q - min p q).toNat)

def equal : Number → Number → Bool
  | .finite a p, .finite b q => (align a p b q).1 == (align a p b q).2
  | .infinite a, .infinite b => a == b
  | _, _ => false

def less : Number → Number → Bool
  | .nan, _ | _, .nan => false
  | .finite a p, .finite b q => (align a p b q).1 < (align a p b q).2
  | .infinite a, .infinite b => a && !b
  | .infinite a, .finite .. => a
  | .finite .., .infinite b => !b

def order? (m n : Number) : Option Ordering :=
  if m.less n then some .lt
  else if m.equal n then some .eq
  else if n.less m then some .gt
  else none

def isZero : Number → Bool
  | .finite scale _ => scale == 0
  | _ => false

/-- Whether the number is whole and leaves `remainder` when it is divided by two. -/
def hasParity (remainder : Int) : Number → Bool
  | .finite scale shift =>
    let whole := scale * Nat.pow 2 shift.toNat
    let unit : Int := Nat.pow 2 (-shift).toNat
    whole % unit == 0 && whole / unit % 2 == remainder
  | _ => false

end Number

end Http2Failure
