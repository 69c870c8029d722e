import UrlRouting.Text.Digit
import UrlRouting.Text.Letter

/-!
# Schemes

A scheme is an ASCII letter followed by ASCII letters, digits, `+`, `.` and `-`.  Its letters
are read as small ones.
-/

namespace UrlRouting

/-- Whether the character may stand in a scheme. -/
def isSchemeChar (c : Char) : Bool :=
  Text.isAsciiLetter c || Text.isAsciiDigit c || c == '+' || c == '.' || c == '-'

/-- Whether the text is a scheme. -/
def isScheme : Text → Bool
  | [] => false
  | c :: cs => Text.isAsciiLetter c && cs.all isSchemeChar

/-- The scheme in front of a colon and two slashes, and what follows them. -/
def schemeAndRest? (t : Text) : Option (Text × Text) :=
  let scheme := t.takeWhile isSchemeChar
  match t.drop scheme.length with
  | ':' :: '/' :: '/' :: rest =>
      if isScheme scheme then some (scheme.map Char.toLower, rest) else none
  | _ => none

end UrlRouting
