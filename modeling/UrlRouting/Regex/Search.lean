import UrlRouting.Regex.Cursor

/-!
# Searching a match

A program is searched for a match by trying its choices in order and going back to the last one
when the rest does not match.  A `Matcher` takes the state in front of a part and what remains to
be done behind it; it finds a final state or gives up.  What an attempt has noted of groups is given
up with it (see `SearchState.groupText?`).

A search that gives up tells the place that it looked at last, because a possessive loop over a
sequence goes on from the place where its last attempt stopped looking.
-/

namespace UrlRouting.Regex

/-- What a search comes to: it gives up, having looked at a place last, or finds a final state. -/
inductive Outcome
  | gaveUp (noted : Cursor)
  | found (s : SearchState)
  deriving Repr, DecidableEq

namespace Outcome

/-- The outcome, or another attempt if it gave up. -/
def orElse (o : Outcome) (attempt : Cursor → Outcome) : Outcome :=
  match o with
  | gaveUp noted => attempt noted
  | found s => found s

/-- The outcome of a part that notes a place when it gives up. -/
def orNote (o : Outcome) (c : Cursor) : Outcome := o.orElse fun _ => gaveUp c

/-- Whether a match was found. -/
def isFound : Outcome → Bool
  | gaveUp _ => false
  | found _ => true

end Outcome

/-- What remains to be done behind a part. -/
abbrev Continuation := SearchState → Outcome

/-- A part of a program, by what it does in front of what remains. -/
abbrev Matcher := SearchState → Continuation → Outcome

namespace Matcher

/-! ## Single operations -/

/-- Reads a character that passes a test. -/
def char (test : CharTest) : Matcher := fun s k =>
  match s.cursor.over? test with
  | some c => k (s.moved c)
  | none => .gaveUp s.noted

/-- Goes on where an anchor holds. -/
def anchor (test : AnchorTest) : Matcher := fun s k =>
  if s.cursor.holds test then k s else .gaveUp s.noted

/-- Opens a group. -/
def openGroup (index : Nat) : Matcher := fun s k =>
  k { s with openings := (index, s.cursor) :: s.openings }

/-- Closes a group. -/
def closeGroup (index : Nat) : Matcher := fun s k =>
  k { s with closings := (index, s.cursor) :: s.closings }

/-- Whether two characters are the same in a comparison. -/
def sameChar (comparison : Comparison) (c d : Char) : Bool :=
  match comparison with
  | none => c == d
  | some alphabet => alphabet.lower c.toNat == alphabet.lower d.toNat

/-- The place behind a text that stands at a place, up to the comparison. -/
def behind? (comparison : Comparison) : Text → Cursor → Option Cursor
  | [], c => some c
  | x :: t, ⟨before, c :: rest⟩ =>
      if sameChar comparison c x then behind? comparison t ⟨c :: before, rest⟩ else none
  | _ :: _, ⟨_, []⟩ => none

/-- Reads the text of a group once more. -/
def reference (index : Nat) (comparison : Comparison) : Matcher := fun s k =>
  match (s.groupText? index).bind fun t => behind? comparison t s.cursor with
  | some c => k (s.moved c)
  | none => .gaveUp s.noted

/-- Goes on with one of two parts, by whether a group has matched. -/
def conditional (index : Nat) (yes no : Matcher) : Matcher := fun s k =>
  if (s.groupText? index).isSome then yes s k else no s k

/-- Runs a part to its end on its own. -/
def alone (body : Matcher) (s : SearchState) : Outcome := body s .found

/-- Keeps the first match of a part. -/
def atomic (body : Matcher) : Matcher := fun s k =>
  match body.alone s.notedHere with
  | .gaveUp _ => .gaveUp s.cursor
  | .found s' => k s'.notedHere

/-- Goes on where a part matches from `back` characters before. -/
def ahead (back : Nat) (body : Matcher) : Matcher := fun s k =>
  match s.cursor.back? back with
  | none => .gaveUp s.noted
  | some c =>
      match body.alone (s.movedNoted c) with
      | .gaveUp noted => .gaveUp noted
      | .found s' => k { s' with cursor := s.cursor, noted := s'.cursor }

/-- Goes on where a part does not match from `back` characters before. -/
def notAhead (back : Nat) (body : Matcher) : Matcher := fun s k =>
  match s.cursor.back? back with
  | none => k s
  | some c =>
      match body.alone (s.movedNoted c) with
      | .gaveUp noted => k { s with noted }
      | .found s' => .gaveUp s'.cursor

/-! ## Runs of a single character -/

/-- Where counting the characters of a run has looked last: behind them if they are tested by
lower forms, else where the run began. -/
def countedTo (test : CharTest) (first last : Cursor) : Cursor :=
  if test.isFoldedSet then last else first

/-- Whether what remains demands another character than the one at a place. -/
def isRefused (next : Option CharTest) (c : Cursor) : Bool :=
  next.any fun test => (c.over? test).isNone

/-- Goes on from one of several places, the first one first. -/
def fromEach (next : Option CharTest) (s : SearchState) (k : Continuation) :
    List Cursor → (noted : Cursor) → Outcome
  | [], noted => .gaveUp noted
  | c :: cs, noted =>
      if isRefused next c then fromEach next s k cs noted
      else (k (s.movedNoted c)).orElse fun noted => fromEach next s k cs noted

/-- Goes on from one of several places, the first one first, and looks for a further character
behind each. -/
def fromEachLazily (test : CharTest) (s : SearchState) (k : Continuation) :
    List Cursor → (noted : Cursor) → Outcome
  | [], noted => .gaveUp noted
  | c :: cs, _ =>
      (k (s.movedNoted c)).orElse fun _ =>
        fromEachLazily test s k cs (countedTo test c ((c.over? test).getD c))

/-- The places that a run may end at, after at least `least` characters; without one, the place
that was looked at last. -/
def runEnds (least : Nat) (most : Option Nat) (test : CharTest) (s : SearchState) :
    Except Cursor (List Cursor × Cursor) :=
  if s.cursor.rest.length < least then .error s.noted
  else
    let stops := Cursor.stops test s.cursor.before s.cursor.rest most
    let noted := countedTo test s.cursor (stops.getLast?.getD s.cursor)
    if stops.length ≤ least then .error noted else .ok (stops.drop least, noted)

/-- Reads a run of characters, as long as possible first.  `next` is the character that what
remains begins with, if it is a plain one. -/
def greedyRun (next : Option CharTest) (least : Nat) (most : Option Nat) (test : CharTest) :
    Matcher := fun s k =>
  match runEnds least most test s with
  | .error noted => .gaveUp noted
  | .ok (ends, noted) => fromEach next s k ends.reverse noted

/-- Reads a run of characters, as short as possible first. -/
def lazyRun (least : Nat) (most : Option Nat) (test : CharTest) : Matcher := fun s k =>
  match runEnds least (some least) test s with
  | .error noted => .gaveUp noted
  | .ok _ =>
      let stops := Cursor.stops test s.cursor.before s.cursor.rest most
      fromEachLazily test s k (stops.drop least) s.cursor

/-- Reads a run of characters, as long as possible. -/
def possessiveRun (least : Nat) (most : Option Nat) (test : CharTest) : Matcher := fun s k =>
  match runEnds least most test s with
  | .error noted => .gaveUp noted
  | .ok (ends, _) => k (s.movedNoted (ends.getLast?.getD s.cursor))

/-! ## Loops over a sequence -/

/-- Whether a place is behind another one. -/
def isBehind (c earlier : Cursor) : Prop := c.rest.length < earlier.rest.length

instance (c earlier : Cursor) : Decidable (isBehind c earlier) :=
  inferInstanceAs (Decidable (_ < _))

/-- Leaves a loop. -/
def leave (s : SearchState) (k : Continuation) : Outcome := (k s.notedHere).orNote s.cursor

/-- Repeats a part a number of times. -/
def times (body : Matcher) : Nat → Matcher
  | 0, s, k => k s
  | n + 1, s, k => (body s.notedHere fun s' => times body n s' k).orNote s.cursor

/-- Repeats a part as often as possible and at most `left` times, unless a repetition makes no
headway; then goes on. -/
def greedily (body : Matcher) (left : Option Nat) (s : SearchState) (k : Continuation) : Outcome :=
  if left = some 0 then leave s k
  else
    (body s.notedHere fun s' =>
      if isBehind s'.cursor s.cursor then greedily body (left.map (· - 1)) s' k
      else leave s' k).orElse fun _ => leave s k
termination_by s.cursor.rest.length

/-- Goes on, or else repeats a part once more, at most `left` times, unless a repetition makes no
headway. -/
def lazily (body : Matcher) (left : Option Nat) (s : SearchState) (k : Continuation) : Outcome :=
  (leave s k).orElse fun _ =>
    if left = some 0 then .gaveUp s.cursor
    else
      (body s.notedHere fun s' =>
        if isBehind s'.cursor s.cursor then lazily body (left.map (· - 1)) s' k
        else leave s' k).orNote s.cursor
termination_by s.cursor.rest.length

/-- Repeats a part a number of times, each time with its first match. -/
def timesAlone (body : Matcher) : Nat → SearchState → Option SearchState
  | 0, s => some s
  | n + 1, s =>
      match body.alone s with
      | .gaveUp _ => none
      | .found s' => timesAlone body n s'.notedHere

/-- Repeats a part as often as it matches and makes headway, at most `left` times, each time with
its first match.  The loop ends where the last attempt stopped looking. -/
def possessively (body : Matcher) (left : Option Nat) (s : SearchState) : SearchState :=
  if left = some 0 then s
  else
    match body.alone s with
    | .gaveUp noted => s.movedNoted noted
    | .found s' =>
        if isBehind s'.cursor s.cursor then possessively body (left.map (· - 1)) s'.notedHere
        else s'.notedHere
termination_by s.cursor.rest.length

/-- The number of repetitions that a loop may make beyond its least number. -/
def extra (least : Nat) (most : Option Nat) : Option Nat := most.map (· - least)

/-- A loop over a part. -/
def loop (kind : Repetition) (least : Nat) (most : Option Nat) (body : Matcher) : Matcher :=
  fun s k =>
    match kind with
    | .greedy =>
        (times body least s fun s' => greedily body (extra least most) s' k).orNote s.cursor
    | .lazy =>
        (times body least s fun s' => lazily body (extra least most) s' k).orNote s.cursor
    | .possessive =>
        match timesAlone body least s.notedHere with
        | none => .gaveUp s.cursor
        | some s' => k (possessively body (extra least most) s')

end Matcher

/-! ## Programs -/

/-- The test that a program begins with, if it demands a character as it stands. -/
def firstPlainCode : List Op → Option CharTest
  | .char test :: _ => if test.isPlainCode then some test else none
  | _ => none

/-- The test that a program begins with, if it demands a character or a member of a set as they
stand. -/
def firstPlainTest : List Op → Option CharTest
  | .char test :: _ => if test.isPlain then some test else none
  | _ => none

mutual

/-- What an operation does.  `next` is the character that what remains begins with, if it is a
plain one. -/
def Op.matcher (next : Option CharTest) : Op → Matcher
  | .char test => .char test
  | .anchor test => .anchor test
  | .openGroup index => .openGroup index
  | .closeGroup index => .closeGroup index
  | .reference index comparison => .reference index comparison
  | .conditional index yes no => .conditional index (matcherOf yes) (matcherOf no)
  | .branch alternatives => fun s k => tryEach alternatives s k s.noted
  | .run kind least most test =>
      match kind with
      | .greedy => .greedyRun next least most test
      | .lazy => .lazyRun least most test
      | .possessive => .possessiveRun least most test
  | .loop kind least most body => .loop kind least most (matcherOf body)
  | .atomic body => .atomic (matcherOf body)
  | .look back negated body =>
      if negated then .notAhead back (matcherOf body) else .ahead back (matcherOf body)

/-- What operations in a row do. -/
def matcherOf : List Op → Matcher
  | [] => fun s k => k s
  | op :: ops => fun s k => op.matcher (firstPlainCode ops) s fun s => matcherOf ops s k

/-- Tries alternatives in order.  One that begins with a plain character which does not stand here
is not tried. -/
def tryEach : List (List Op) → SearchState → Continuation → (noted : Cursor) → Outcome
  | [], _, _, noted => .gaveUp noted
  | ops :: alternatives, s, k, noted =>
      if Matcher.isRefused (firstPlainTest ops) s.cursor then tryEach alternatives s k noted
      else (matcherOf ops s.notedHere k).orElse fun noted => tryEach alternatives s k noted

end

end UrlRouting.Regex
