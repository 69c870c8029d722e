import UrlRouting.Regex.CharTest

/-!
# Programs of regular expressions

An expression with its flags worked in: a list of operations, in which a capturing group is an
operation that opens it and one that closes it, and every demand on a character is a test.
-/

namespace UrlRouting.Regex

/-- The flags that hold for a part of an expression. -/
structure Modes where
  ignoreCase : Bool
  multiLine : Bool
  dotAll : Bool
  alphabet : Alphabet
  deriving Repr, DecidableEq

namespace Modes

/-- The modes of a rule: case is ignored. -/
def rule : Modes := ⟨true, false, false, .unicode⟩

/-- A flag after a change: turning off wins. -/
def flagAfter (change : FlagChange) (flag : Flag) (before : Bool) : Bool :=
  (before || flag ∈ change.on) && flag ∉ change.off

/-- The modes of a group that changes flags. -/
def after (m : Modes) (change : FlagChange) : Modes where
  ignoreCase := flagAfter change .ignoreCase m.ignoreCase
  multiLine := flagAfter change .multiLine m.multiLine
  dotAll := flagAfter change .dotAll m.dotAll
  alphabet :=
    if .ascii ∈ change.on then .ascii
    else if .unicode ∈ change.on then .unicode
    else m.alphabet

end Modes

/-- A condition on the place between two characters, with the flags worked in. -/
inductive AnchorTest
  | textStart
  | lineStart
  /-- The end, or in front of a last line feed. -/
  | closingEnd
  | lineEnd
  | textEnd
  | wordBoundary (alphabet : Alphabet) (negated : Bool)
  deriving Repr, DecidableEq

/-- The test of an anchor. -/
def Anchor.test (m : Modes) : Anchor → AnchorTest
  | lineStart => if m.multiLine then .lineStart else .textStart
  | lineEnd => if m.multiLine then .lineEnd else .closingEnd
  | textStart => .textStart
  | textEnd => .textEnd
  | wordBoundary => .wordBoundary m.alphabet false
  | noWordBoundary => .wordBoundary m.alphabet true

/-- How the text of a group is compared: as it stands, or by lower forms. -/
abbrev Comparison := Option Alphabet

/-- An operation. -/
inductive Op
  | char (test : CharTest)
  | anchor (test : AnchorTest)
  | openGroup (index : Nat)
  | closeGroup (index : Nat)
  | reference (index : Nat) (comparison : Comparison)
  | conditional (index : Nat) (yes no : List Op)
  | branch (alternatives : List (List Op))
  /-- A repetition of a single character. -/
  | run (kind : Repetition) (least : Nat) (most : Option Nat) (test : CharTest)
  /-- A repetition of a sequence. -/
  | loop (kind : Repetition) (least : Nat) (most : Option Nat) (body : List Op)
  | atomic (body : List Op)
  /-- A sequence that has to match, or must not, from so many characters before here. -/
  | look (back : Nat) (negated : Bool) (body : List Op)
  deriving Repr

namespace Op

mutual

/-- The operations of an item. -/
def ofItem (m : Modes) : Item → List Op
  | .code code => [.char (.ofCode m.ignoreCase m.alphabet false code)]
  | .notCode code => [.char (.ofCode m.ignoreCase m.alphabet true code)]
  | .any => [.char (if m.dotAll then .any else .noLineFeed)]
  | .set negated members => [.char (.ofMembers m.ignoreCase m.alphabet negated members)]
  | .anchor place => [.anchor (place.test m)]
  | .group none flags body => ofItems (m.after flags) body
  | .group (some index) flags body =>
      .openGroup index :: (ofItems (m.after flags) body ++ [.closeGroup index])
  | .atomic body => [.atomic (ofItems m body)]
  | .look behind negated body =>
      [.look (if behind then (widthOf body).low else 0) negated (ofItems m body)]
  | .branch alternatives => [.branch (ofAlternatives m alternatives)]
  | .repeated kind least most body =>
      match ofItems m body with
      | [.char test] => [.run kind least most test]
      | ops => [.loop kind least most ops]
  | .reference index _ => [.reference index (if m.ignoreCase then some m.alphabet else none)]
  | .conditional index yes no => [.conditional index (ofItems m yes) (ofItems m no)]

/-- The operations of a sequence. -/
def ofItems (m : Modes) : List Item → List Op
  | [] => []
  | item :: items => ofItem m item ++ ofItems m items

/-- The operations of alternatives. -/
def ofAlternatives (m : Modes) : List (List Item) → List (List Op)
  | [] => []
  | items :: alternatives => ofItems m items :: ofAlternatives m alternatives

end

end Op

end UrlRouting.Regex
