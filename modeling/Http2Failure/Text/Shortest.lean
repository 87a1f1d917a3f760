import Http2Failure.Number
import Http2Failure.Text.Written

/-!
# Shortest decimals

A binary64 value is written with the fewest decimal digits that read back to it. Of several such
decimals the one nearest to the value is taken, and of two equally near ones the even one. The
search is exact: each grid of decimals, from one digit to seventeen, is tested at the two
neighbours of the value.
-/

namespace Http2Failure.Text

/-- A positive value `scale * 2 ^ shift` whose lower neighbour may be half as far away as the
upper one. -/
structure Binary where
  scale : Nat
  shift : Int
  narrowBelow : Bool

namespace Binary

/-- Compares `a / 4 * 2 ^ shift` with `b * 10 ^ exponent` in natural numbers: the two products
over a common denominator. -/
def crossed (shift : Int) (a : Nat) (exponent : Int) (b : Nat) : Nat × Nat :=
  (a * Nat.pow 2 (shift - 2).toNat * Nat.pow 10 (-exponent).toNat,
    b * Nat.pow 10 exponent.toNat * Nat.pow 2 (2 - shift).toNat)

/-- Whether `digits * 10 ^ exponent` lies in the interval of reals that round to the value. The
ends belong to it exactly when the scale is even. -/
def readsBack (v : Binary) (exponent : Int) (digits : Nat) : Bool :=
  let low := crossed v.shift (4 * v.scale - if v.narrowBelow then 1 else 2) exponent digits
  let high := crossed v.shift (4 * v.scale + 2) exponent digits
  if v.scale % 2 = 0 then low.1 ≤ low.2 && high.2 ≤ high.1 else low.1 < low.2 && high.2 < high.1

/-- The least `k` near the estimate with the value below `10 ^ k`. -/
def magnitude (v : Binary) : Int :=
  let estimate : Int := Int.fdiv (((v.scale.log2 : Int) + v.shift) * 30103) 100000
  let fits (k : Int) : Bool :=
    let sides := crossed v.shift (4 * v.scale) k 1
    sides.1 < sides.2
  ([estimate - 1, estimate, estimate + 1].find? fits).getD (estimate + 2)

/-- The candidate on the grid `10 ^ exponent`, if one of the value's neighbours reads back. -/
def onGrid? (v : Binary) (exponent : Int) : Option Nat :=
  let sides := crossed v.shift (4 * v.scale) exponent 1
  let below := sides.1 / sides.2
  match v.readsBack exponent below, v.readsBack exponent (below + 1) with
  | true, false => some below
  | false, true => some (below + 1)
  | false, false => none
  | true, true =>
    let double := 2 * sides.1
    let middle := (2 * below + 1) * sides.2
    if double < middle then some below
    else if middle < double then some (below + 1)
    else some (if below % 2 = 0 then below else below + 1)

/-- Digits and the exponent of their last place. -/
def shortest (v : Binary) : Nat × Int :=
  let k := v.magnitude
  ((List.range 17).findSome? fun n =>
    let exponent := k - (n + 1 : Nat)
    (v.onGrid? exponent).map fun digits => (digits, exponent)).getD (v.scale, 0)

end Binary

def trimZeros (digits : List Char) : List Char × Nat :=
  let kept := (digits.reverse.dropWhile (· == '0')).reverse
  (kept, digits.length - kept.length)

/-- Lays out digits whose point stands after `point` of them: positionally for points from -3 to
16, else with a signed exponent of at least two digits. A whole value keeps one decimal zero. -/
def layout (digits : List Char) (point : Int) : String :=
  let count : Int := digits.length
  if -4 < point ∧ point ≤ 16 then
    if point ≤ 0 then
      "0." ++ String.ofList (List.replicate (-point).toNat '0' ++ digits)
    else if point < count then
      String.ofList (digits.take point.toNat ++ '.' :: digits.drop point.toNat)
    else
      String.ofList (digits ++ List.replicate (point - count).toNat '0') ++ ".0"
  else
    let exponent := point - 1
    let size := decimal exponent.natAbs
    let fraction := if digits.length ≤ 1 then [] else '.' :: digits.drop 1
    String.ofList (digits.take 1 ++ fraction) ++ (if exponent < 0 then "e-" else "e+") ++
      (if size.length < 2 then "0" ++ size else size)

def float (word : UInt64) : String :=
  let (negative, exponent, fraction) := Number.wordParts word
  let sign := if negative then "-" else ""
  if exponent = 2047 then
    if fraction = 0 then sign ++ "inf" else "nan"
  else if exponent = 0 ∧ fraction = 0 then sign ++ "0.0"
  else
    let scale := if exponent = 0 then fraction else 0x10000000000000 + fraction
    let v : Binary := ⟨scale, (max exponent 1 : Nat) - 1075, fraction = 0 ∧ 1 < exponent⟩
    let (digits, last) := v.shortest
    let (kept, dropped) := trimZeros (Nat.toDigits 10 digits)
    sign ++ layout kept (last + dropped + kept.length)

end Http2Failure.Text
