/-!
# Binary floating point

The numbers of the 64-bit binary format, kept as an exact mantissa and exponent.
-/

namespace UrlRouting

/-- A number of the 64-bit binary format.  A finite one is `mantissa * 2 ^ exponent`, negative
if `negative`, and zero has a sign too. -/
inductive Double
  | finite (negative : Bool) (mantissa : Nat) (exponent : Int)
  | infinite (negative : Bool)
  | nan
  deriving Repr, DecidableEq

namespace Double

/-- The least exponent. -/
def minExponent : Int := -1074

/-- The mantissas that use all 53 bits start here. -/
def fullMantissa : Nat := Nat.pow 2 52

/-- The quotient of two numbers rounded to an integer, a tie to the even one. -/
def roundedRatio (num den : Nat) : Nat :=
  let quotient := num / den
  let twice := 2 * (num % den)
  if twice < den then quotient
  else if twice = den then quotient + quotient % 2
  else quotient + 1

end Double

end UrlRouting
