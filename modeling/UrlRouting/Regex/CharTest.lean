import UrlRouting.Regex.Item
import UrlRouting.Regex.Kin
import UrlRouting.Text.Blank
import UrlRouting.Text.Digit
import UrlRouting.Text.Letter

/-!
# Tests of single characters

What an expression demands of one character, with the flags of its part worked in.  When case is
ignored, a character is compared by its lower form: it equals a letter if their lower forms are
the same or kindred, and it is in a set if its lower form is the lower form of a member or
kindred to it.  Letters beyond the basic plane are in a set only if the set spells out the
lower form, or has a range that holds the lower or the upper form.
-/

namespace UrlRouting.Regex

/-- Which letters have two cases: those of ASCII or all. -/
inductive Alphabet
  | ascii
  | unicode
  deriving Repr, DecidableEq

namespace Alphabet

/-- The lower form of a code point. -/
def lower : Alphabet → Nat → Nat
  | ascii => Text.asciiLowerCode
  | unicode => Text.lowerCode

/-- Whether a code point has another form. -/
def isCased : Alphabet → Nat → Bool
  | ascii, code => (0x41 ≤ code && code ≤ 0x5a) || (0x61 ≤ code && code ≤ 0x7a)
  | unicode, code => Text.isCasedCode code

/-- Whether a range holds a code point that has another form. -/
def isCasedRange : Alphabet → Nat → Nat → Bool
  | ascii, low, high => (low ≤ 0x5a && 0x41 ≤ high) || (low ≤ 0x7a && 0x61 ≤ high)
  | unicode, low, high => Text.anyCasedCode low high

/-- The other lower forms that count as the same letter. -/
def kindred : Alphabet → Nat → List Nat
  | ascii, _ => []
  | unicode, code => kin code

/-- The code points with the given lower form. -/
def sources : Alphabet → Nat → List Nat
  | ascii, code =>
      if 0x61 ≤ code && code ≤ 0x7a then [code, code - 0x20]
      else if 0x41 ≤ code && code ≤ 0x5a then []
      else [code]
  | unicode, code => Text.lowerSources code

end Alphabet

/-- The last code point of the basic plane. -/
def basicPlaneEnd : Nat := 0xffff

/-- Whether a code point is a word character. -/
def isWordCode : Alphabet → Nat → Bool
  | .ascii, code =>
      (0x30 ≤ code && code ≤ 0x39) || (0x41 ≤ code && code ≤ 0x5a) ||
        (0x61 ≤ code && code ≤ 0x7a) || code == 0x5f
  | .unicode, code =>
      Text.isLetter code || Text.isDigit code || Text.isNumeral code || code == 0x5f

/-- Whether a code point is in a class. -/
def Category.holds (alphabet : Alphabet) (code : Nat) : Category → Bool
  | digit =>
      match alphabet with
      | .ascii => 0x30 ≤ code && code ≤ 0x39
      | .unicode => Text.isDigit code
  | blank =>
      match alphabet with
      | .ascii => Text.isAsciiBlank code
      | .unicode => Text.isBlank code
  | word => isWordCode alphabet code

namespace Member

/-- Whether a code point is a member as it stands. -/
def holds (alphabet : Alphabet) (code : Nat) : Member → Bool
  | .code c => code == c
  | .range low high => low ≤ code && code ≤ high
  | .category negated named => named.holds alphabet code != negated

/-- Whether the member says something about a letter with two cases, so that a set with it is
compared by lower forms.  Everything beyond the basic plane counts as such. -/
def isCased (alphabet : Alphabet) : Member → Bool
  | .code c => alphabet.isCased c || c > basicPlaneEnd
  | .range low high => alphabet.isCasedRange low high || high > basicPlaneEnd
  | .category _ _ => false

/-- Whether a lower form is that of a member or kindred to it. -/
def holdsFolded (alphabet : Alphabet) (lower : Nat) : Member → Bool
  | .code c =>
      if c > basicPlaneEnd then lower == c
      else lower == alphabet.lower c || lower ∈ alphabet.kindred (alphabet.lower c)
  | .range low high =>
      ((lower :: alphabet.kindred lower).any fun form =>
        (alphabet.sources form).any fun code =>
          low ≤ code && code ≤ high && code ≤ basicPlaneEnd) ||
      (high > basicPlaneEnd &&
        ((low ≤ lower && lower ≤ high) ||
          (low ≤ Text.upperCode lower && Text.upperCode lower ≤ high)))
  | .category negated named => named.holds alphabet lower != negated

end Member

/-- What is demanded of a character. -/
inductive CharTest
  | any
  | noLineFeed
  /-- The character itself, or any other one. -/
  | exactly (negated : Bool) (code : Nat)
  /-- A character with the given lower form, or any other one. -/
  | lowerForm (negated : Bool) (alphabet : Alphabet) (code : Nat)
  /-- A member of a set, or any other one. -/
  | oneOf (negated : Bool) (alphabet : Alphabet) (members : List Member)
  /-- A character whose lower form is in a set, or any other one. -/
  | foldedOneOf (negated : Bool) (alphabet : Alphabet) (members : List Member)
  deriving Repr, DecidableEq

namespace CharTest

/-- Whether a code point passes the test. -/
def accepts (code : Nat) : CharTest → Bool
  | any => true
  | noLineFeed => code != 0xa
  | exactly negated c => (code == c) != negated
  | lowerForm negated alphabet c => (alphabet.lower code == c) != negated
  | oneOf negated alphabet members => members.any (·.holds alphabet code) != negated
  | foldedOneOf negated alphabet members =>
      members.any (·.holdsFolded alphabet (alphabet.lower code)) != negated

/-- The test for a single character, its case ignored or not. -/
def ofCode (ignoreCase : Bool) (alphabet : Alphabet) (negated : Bool) (code : Nat) : CharTest :=
  if !ignoreCase || !alphabet.isCased code then .exactly negated code
  else
    let lower := alphabet.lower code
    if alphabet.kindred lower = [] then .lowerForm negated alphabet lower
    else .foldedOneOf negated alphabet [.code lower]

/-- The test for a set, case ignored or not. -/
def ofMembers (ignoreCase : Bool) (alphabet : Alphabet) (negated : Bool)
    (members : List Member) : CharTest :=
  if ignoreCase && members.any (·.isCased alphabet) then .foldedOneOf negated alphabet members
  else .oneOf negated alphabet members

/-- Whether the test is for one character as it stands. -/
def isPlainCode : CharTest → Bool
  | exactly false _ => true
  | _ => false

/-- Whether the test is for one character as it stands or for the members of a set as they
stand. -/
def isPlain : CharTest → Bool
  | exactly false _ => true
  | oneOf _ _ _ => true
  | _ => false

/-- Whether the test is for a set by lower forms. -/
def isFoldedSet : CharTest → Bool
  | foldedOneOf _ _ _ => true
  | _ => false

end CharTest

end UrlRouting.Regex
