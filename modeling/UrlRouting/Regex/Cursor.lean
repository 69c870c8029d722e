import UrlRouting.Regex.Program

/-!
# Cursors

A place in a text: what stands before it, nearest character first, and what stands behind it.
Anchors are conditions on a cursor; the state of a search adds what groups have matched.
-/

namespace UrlRouting.Regex

/-- A place in a text. -/
structure Cursor where
  before : Text
  rest : Text
  deriving Repr, DecidableEq

namespace Cursor

/-- The place in front of a text. -/
def start (t : Text) : Cursor := ⟨[], t⟩

/-- The place so many characters before, if there are as many. -/
def back? : Nat → Cursor → Option Cursor
  | 0, c => some c
  | n + 1, ⟨x :: before, rest⟩ => back? n ⟨before, x :: rest⟩
  | _ + 1, ⟨[], _⟩ => none

/-- The text from one place to a later one. -/
def textTo (c later : Cursor) : Text := c.rest.take (c.rest.length - later.rest.length)

/-- Whether a character passes a test. -/
def passes (test : CharTest) (c : Char) : Bool := test.accepts c.toNat

/-- The place behind the next character, if that passes a test. -/
def over? (test : CharTest) : Cursor → Option Cursor
  | ⟨before, c :: rest⟩ => if passes test c then some ⟨c :: before, rest⟩ else none
  | ⟨_, []⟩ => none

/-- The places behind no, one, two, … characters that all pass a test, at most `most` of them. -/
def stops (test : CharTest) (before : Text) : Text → (most : Option Nat) → List Cursor
  | [], _ => [⟨before, []⟩]
  | c :: rest, most =>
      ⟨before, c :: rest⟩ ::
        if most ≠ some 0 && passes test c then stops test (c :: before) rest (most.map (· - 1))
        else []

/-! ## Anchors -/

/-- Whether a character is a word character. -/
def isWordChar (alphabet : Alphabet) (c : Char) : Bool := isWordCode alphabet c.toNat

/-- Whether an anchor holds at a place.  In an empty text no place is a boundary of words, nor is it
none. -/
def holds (c : Cursor) : AnchorTest → Bool
  | .textStart => c.before.isEmpty
  | .lineStart => c.before.isEmpty || c.before.head? == some '\n'
  | .closingEnd => c.rest.isEmpty || c.rest == ['\n']
  | .lineEnd => c.rest.isEmpty || c.rest.head? == some '\n'
  | .textEnd => c.rest.isEmpty
  | .wordBoundary alphabet negated =>
      let before := c.before.head?.any (isWordChar alphabet)
      let behind := c.rest.head?.any (isWordChar alphabet)
      !(c.before.isEmpty && c.rest.isEmpty) && ((before != behind) != negated)

end Cursor

/-- The state of a search: where it is, where groups were last opened and closed, latest first,
and the place that was looked at last. -/
structure SearchState where
  cursor : Cursor
  openings : List (Nat × Cursor)
  closings : List (Nat × Cursor)
  noted : Cursor
  deriving Repr, DecidableEq

namespace SearchState

/-- A search in front of a text. -/
def start (t : Text) : SearchState := ⟨.start t, [], [], .start t⟩

/-- The state at another place. -/
def moved (s : SearchState) (c : Cursor) : SearchState := { s with cursor := c }

/-- The state with the place noted where it is. -/
def notedHere (s : SearchState) : SearchState := { s with noted := s.cursor }

/-- The state at another place, which is noted. -/
def movedNoted (s : SearchState) (c : Cursor) : SearchState := { s with cursor := c, noted := c }

/-- The text that a group has matched, if it has been closed and not opened behind that again.

What an attempt that is given up has noted of a group is given up with it.  Stale marks are left
out: in a group that is still open, the engine which rules are made for may find the end that such
an attempt has set, and takes it for the end of the group.  So it refuses the value `ab` for the rule
`(a??)(?(1)x|b?)`, whose condition asks for the group around the whole rule. -/
def groupText? (s : SearchState) (index : Nat) : Option Text :=
  match s.openings.lookup index, s.closings.lookup index with
  | some first, some last =>
      if last.rest.length ≤ first.rest.length then some (first.textTo last) else none
  | _, _ => none

end SearchState

end UrlRouting.Regex
