import UrlRouting.Regex.Item

/-!
# Sequences and alternatives

What is read piece by piece is put together here.  A group without index and flags goes up in
its sequence.  Alternatives that begin with the same items share them, and a choice between
single characters is a set.
-/

namespace UrlRouting.Regex

/-- The items that an item comes to in a sequence: a group without index and flags goes up in
it. -/
def Item.spliced : Item → List Item
  | .group none flags body => if flags = .none then body else [.group none flags body]
  | item => [item]

/-- The sequence of items that were read last one first. -/
def sequence (items : List Item) : List Item := items.reverse.flatMap Item.spliced

/-- Whether two items are the same and hold no other items. -/
def Item.sameLeaf : Item → Item → Bool
  | .code a, .code b => a == b
  | .notCode a, .notCode b => a == b
  | .any, .any => true
  | .set n ms, .set n' ms' => n == n' && ms == ms'
  | .anchor a, .anchor b => a == b
  | .reference i _, .reference j _ => i == j
  | _, _ => false

/-- The items that a first alternative and all others begin with, and what is left of them. -/
def sharedStart : List Item → List (List Item) → List Item × List (List Item)
  | item :: items, others =>
      if others.all fun other => other.head?.any item.sameLeaf then
        let (shared, rest) := sharedStart items (others.map List.tail)
        (item :: shared, rest)
      else ([], (item :: items) :: others)
  | [], others => ([], [] :: others)

/-- The members of the set that a sequence is, if it is a single character or a set. -/
def members? : List Item → Option (List Member)
  | [.code code] => some [.code code]
  | [.set false members] => some members
  | _ => none

/-- The sequence that alternatives come to: what they begin with in common, and then a set if
each of them is a single character or a set, else a choice. -/
def joined : List (List Item) → List Item
  | [] => []
  | [items] => items
  | items :: others =>
      let (shared, rest) := sharedStart items others
      match rest.mapM members? with
      | some members => shared ++ [.set false members.flatten.eraseDups]
      | none => shared ++ [.branch rest]

end UrlRouting.Regex
