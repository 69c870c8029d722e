import UrlRouting.Text.Ranges

/-!
# Items of regular expressions

A regular expression is a sequence of items: characters, sets, anchors, groups, alternatives,
repetitions, references and looks ahead and behind.  `widthOf` bounds the length of the texts
that a sequence matches, which has to be fixed for looks behind.
-/

namespace UrlRouting.Regex

/-- A class of characters with a name. -/
inductive Category
  | digit
  | blank
  | word
  deriving Repr, DecidableEq

/-- A member of a set of characters: a code point, a range of them with both ends, a class or
what is not in it. -/
inductive Member
  | code (code : Nat)
  | range (low high : Nat)
  | category (negated : Bool) (category : Category)
  deriving Repr, DecidableEq

/-- A condition on the place between two characters. -/
inductive Anchor
  /-- The start; with `multiLine` also the start of a line. -/
  | lineStart
  /-- The end, or the place in front of a last line feed; with `multiLine` also the end of a
  line. -/
  | lineEnd
  | textStart
  | textEnd
  | wordBoundary
  | noWordBoundary
  deriving Repr, DecidableEq

/-- A flag that changes how a part of an expression is read or matched. -/
inductive Flag
  | ignoreCase
  | locale
  | multiLine
  | dotAll
  | verbose
  | ascii
  | template
  | unicode
  deriving Repr, DecidableEq

/-- Flags turned on and off for a group. -/
structure FlagChange where
  on : List Flag
  off : List Flag
  deriving Repr, DecidableEq

/-- How a repetition chooses its count: as large or as small as possible, or as large as
possible once and for all. -/
inductive Repetition
  | greedy
  | lazy
  | possessive
  deriving Repr, DecidableEq

/-- Bounds of the length of the texts that a part matches. -/
structure Width where
  low : Nat
  high : Nat
  deriving Repr, DecidableEq

/-- An item. -/
inductive Item
  | code (code : Nat)
  | notCode (code : Nat)
  | any
  | set (negated : Bool) (members : List Member)
  | anchor (anchor : Anchor)
  /-- A group, capturing under an index or not, with flags of its own. -/
  | group (index : Option Nat) (flags : FlagChange) (body : List Item)
  /-- A group whose first match is final. -/
  | atomic (body : List Item)
  /-- A look ahead or behind that demands a match or excludes it. -/
  | look (behind negated : Bool) (body : List Item)
  | branch (alternatives : List (List Item))
  /-- A repetition; without a maximum it has no end. -/
  | repeated (kind : Repetition) (least : Nat) (most : Option Nat) (body : List Item)
  /-- The text of a group once more; the group matches texts of the given width. -/
  | reference (index : Nat) (width : Width)
  /-- One sequence if the group has matched, another one if it has not. -/
  | conditional (index : Nat) (yes no : List Item)
  deriving Repr

/-- No flags turned on or off. -/
def FlagChange.none : FlagChange := ⟨[], []⟩

/-! ## Widths -/

namespace Width

/-- Widths are not told apart from here on. -/
def limit : Nat := 4294967295

/-- The width of a single character. -/
def one : Width := ⟨1, 1⟩

/-- The width of the empty text. -/
def zero : Width := ⟨0, 0⟩

/-- The width of two parts in a row. -/
def add (v w : Width) : Width := ⟨v.low + w.low, v.high + w.high⟩

/-- The width of one of two parts. -/
def either (v w : Width) : Width := ⟨min v.low w.low, max v.high w.high⟩

/-- The width of a repeated part. -/
def times (w : Width) (least : Nat) (most : Option Nat) : Width :=
  ⟨w.low * least, w.high * most.getD limit⟩

/-- The width of a whole sequence: what exceeds the limit is cut to it. -/
def capped (w : Width) : Width := ⟨min w.low (limit - 1), min w.high limit⟩

end Width

mutual

/-- The width of an item. -/
def Item.width : Item → Width
  | .code _ => .one
  | .notCode _ => .one
  | .any => .one
  | .set _ _ => .one
  | .anchor _ => .zero
  | .group _ _ body => (sumWidths body).capped
  | .atomic body => (sumWidths body).capped
  | .look _ _ _ => .zero
  | .branch alternatives => widthOfAlternatives alternatives
  | .repeated _ least most body => (sumWidths body).capped.times least most
  | .reference _ width => width
  | .conditional _ yes no => (sumWidths yes).capped.either (sumWidths no).capped

/-- The sum of the widths of items in a row. -/
def sumWidths : List Item → Width
  | [] => .zero
  | item :: items => item.width.add (sumWidths items)

/-- The width of one of several sequences. -/
def widthOfAlternatives : List (List Item) → Width
  | [] => .zero
  | [items] => (sumWidths items).capped
  | items :: alternatives => (sumWidths items).capped.either (widthOfAlternatives alternatives)

end

/-- The width of a sequence. -/
def widthOf (items : List Item) : Width := (sumWidths items).capped

mutual

/-- Whether every look behind in an item goes over texts of a single length. -/
def Item.hasFixedLooks : Item → Bool
  | .group _ _ body => haveFixedLooks body
  | .atomic body => haveFixedLooks body
  | .look behind _ body =>
      (!behind || (sumWidths body).capped.low == (sumWidths body).capped.high) &&
        haveFixedLooks body
  | .branch alternatives => alternativesHaveFixedLooks alternatives
  | .repeated _ _ _ body => haveFixedLooks body
  | .conditional _ yes no => haveFixedLooks yes && haveFixedLooks no
  | _ => true

/-- Whether every look behind in a sequence goes over texts of a single length. -/
def haveFixedLooks : List Item → Bool
  | [] => true
  | item :: items => item.hasFixedLooks && haveFixedLooks items

/-- Whether every look behind in the alternatives goes over texts of a single length. -/
def alternativesHaveFixedLooks : List (List Item) → Bool
  | [] => true
  | items :: alternatives => haveFixedLooks items && alternativesHaveFixedLooks alternatives

end

end UrlRouting.Regex
