import UrlRouting.Text.Blank
import UrlRouting.Text.Digit

/-!
# Integers

An integer is written with digits of any script, single underscores between them, a sign in
front and blanks around.  It may have 4300 digits.
-/

namespace UrlRouting.Text

/-- The most digits that an integer may have. -/
def maxDigits : Nat := 4300

/-- A text without the blanks around it. -/
def trimmed (t : Text) : Text :=
  let isBlankChar := fun c : Char => isBlank c.toNat
  ((t.dropWhile isBlankChar).reverse.dropWhile isBlankChar).reverse

/-- The values of digits with single underscores between them. -/
def digitValues? : Text → Option (List Nat)
  | [] => none
  | [c] => (digitValue? c.toNat).map ([·])
  | c :: '_' :: cs => do return (← digitValue? c.toNat) :: (← digitValues? cs)
  | c :: cs => do return (← digitValue? c.toNat) :: (← digitValues? cs)

/-- Reads an integer without its sign. -/
def magnitude? (t : Text) : Option Nat :=
  match digitValues? t with
  | some values =>
      if values.length ≤ maxDigits then
        some (values.foldl (fun number value => 10 * number + value) 0)
      else none
  | none => none

/-- Reads an integer. -/
def integer? (t : Text) : Option Int :=
  match trimmed t with
  | '-' :: digits => (magnitude? digits).map fun n => -(n : Int)
  | '+' :: digits => (magnitude? digits).map Int.ofNat
  | digits => (magnitude? digits).map Int.ofNat

end UrlRouting.Text
