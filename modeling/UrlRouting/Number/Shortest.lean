import UrlRouting.Number.Double
import UrlRouting.Text.Ranges

/-!
# Shortest decimal text

A double is written with the fewest digits that read back as it.  The decimal grids are tried
from coarse to fine; on the first one with a point between the two ends of the interval that
rounds to the double, the nearer of the two neighbours is taken, and of two equally near ones
the even one.
-/

namespace UrlRouting

/-- A decimal number `digits * 10 ^ exponent`. -/
structure Decimal where
  digits : Nat
  exponent : Int
  deriving Repr, DecidableEq

namespace Double

/-- The interval of numbers that round to a double, in units of `num / den`: the double itself
lies at `centre`, its ends at `low` and `high`, and the ends belong to it if `closed`. -/
structure Interval where
  num : Nat
  den : Nat
  low : Nat
  centre : Nat
  high : Nat
  closed : Bool
  deriving Repr, DecidableEq

/-- The interval of `mantissa * 2 ^ exponent`, in quarters.  Below a power of two the doubles lie
twice as close. -/
def intervalOf (mantissa : Nat) (exponent : Int) : Interval where
  num := Nat.pow 2 (exponent - 2).toNat
  den := Nat.pow 2 (2 - exponent).toNat
  low := 4 * mantissa - (if mantissa = fullMantissa ∧ exponent > minExponent then 1 else 2)
  centre := 4 * mantissa
  high := 4 * mantissa + 2
  closed := mantissa % 2 = 0

/-- Whether a point of the decimal grid with the given exponent lies in the interval. -/
def Interval.holds (i : Interval) (exponent : Int) (digits : Nat) : Bool :=
  let point := digits * Nat.pow 10 exponent.toNat * i.den
  let unit := i.num * Nat.pow 10 (-exponent).toNat
  if i.closed then i.low * unit ≤ point && point ≤ i.high * unit
  else i.low * unit < point && point < i.high * unit

/-- The digits of the grid point that stands for the interval, if the grid has one in it. -/
def Interval.onGrid? (i : Interval) (exponent : Int) : Option Nat :=
  let cell := Nat.pow 10 exponent.toNat * i.den
  let centre := i.centre * i.num * Nat.pow 10 (-exponent).toNat
  let below := centre / cell
  match i.holds exponent below, i.holds exponent (below + 1) with
  | false, false => none
  | true, false => some below
  | false, true => some (below + 1)
  | true, true => some (roundedRatio centre cell)

/-- The first of `count` grids, from the given exponent downwards, that has a point in the
interval. -/
def Interval.shortestFrom (i : Interval) : (count : Nat) → (exponent : Int) → Decimal
  | 0, exponent => ⟨0, exponent⟩
  | count + 1, exponent =>
      match i.onGrid? exponent with
      | some digits => ⟨digits, exponent⟩
      | none => i.shortestFrom count (exponent - 1)

/-- The decimal number with the fewest digits that reads back as `mantissa * 2 ^ exponent`.  The
first grid is coarser than the number, and the last one has a point for every double. -/
def shortest (mantissa : Nat) (exponent : Int) : Decimal :=
  let i := intervalOf mantissa exponent
  (i.shortestFrom 650 (Nat.toDigits 10 (i.centre * i.num / i.den)).length)

/-- How a decimal number is written: in full if its first digit stands at most 16 places in
front of the point and at most four behind it, otherwise with an exponent of at least two
digits. -/
def decimalText (d : Decimal) : Text :=
  let digits := Nat.toDigits 10 d.digits
  let point := d.exponent + digits.length
  if -4 < point ∧ point ≤ 16 then
    if point ≤ 0 then ("0." : Text) ++ List.replicate (-point).toNat '0' ++ digits
    else
      let whole := digits.take point.toNat ++ List.replicate (point.toNat - digits.length) '0'
      let places := digits.drop point.toNat
      whole ++ '.' :: (if places = [] then ['0'] else places)
  else
    let power := point - 1
    let places := digits.drop 1
    let powerDigits := Nat.toDigits 10 power.natAbs
    let padded := List.replicate (2 - powerDigits.length) '0' ++ powerDigits
    digits.take 1 ++ (if places = [] then [] else '.' :: places) ++
      'e' :: (if power < 0 then '-' else '+') :: padded

/-- The shortest text that reads back as the double. -/
def text : Double → Text
  | nan => ("nan" : Text)
  | infinite negative => if negative then ("-inf" : Text) else ("inf" : Text)
  | finite negative mantissa exponent =>
      let magnitude :=
        if mantissa = 0 then ("0.0" : Text) else decimalText (shortest mantissa exponent)
      if negative then '-' :: magnitude else magnitude

end Double

end UrlRouting
