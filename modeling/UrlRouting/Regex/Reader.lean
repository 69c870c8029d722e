import UrlRouting.Regex.Flags
import UrlRouting.Regex.Sequence
import UrlRouting.Text.Blank
import UrlRouting.Text.Identifier
import UrlRouting.Text.Integer

/-!
# Reading regular expressions

An expression is read from left to right.  The reading keeps the groups that are open, each with
what it will be, where it was opened and what stands in front of it; a closing parenthesis makes
an item of the innermost one.  `Reading.step` reads the part that a text begins with, and
`Reading.readFrom` takes the steps through a whole text.
-/

namespace UrlRouting.Regex

/-- What an open group will be. -/
inductive GroupKind
  | capturing (index : Nat)
  | plain (flags : FlagChange)
  | atomic
  | look (behind negated : Bool)
  | conditional (index : Nat)
  deriving Repr, DecidableEq

/-- The part of an expression that is being read: the items of the current alternative, last one
first, and the alternatives in front of it, last one first. -/
structure Level where
  items : List Item
  alternatives : List (List Item)

namespace Level

/-- Nothing has been read. -/
def empty : Level := ⟨[], []⟩

/-- All alternatives in order. -/
def all (l : Level) : List (List Item) := (sequence l.items :: l.alternatives).reverse

/-- The sequence that a level comes to. -/
def body (l : Level) : List Item := joined l.all

end Level

/-- An open group: what it will be, how many characters are left from its parenthesis on, and what
goes on behind it. -/
structure OpenGroup where
  kind : GroupKind
  remaining : Nat
  level : Level
  verbose : Bool
  look : Option Nat

/-- What has been read: the current level and the open groups, innermost first.  `widths` holds
for each capturing group the width of its texts once it is closed; the whole expression counts as
group zero.  `look` is the number of groups at the start of the outermost look behind that is
open; `conditions` are the numbers that conditions name, each with its first place. -/
structure Reading where
  level : Level
  opened : List OpenGroup
  verbose : Bool
  names : List (Text × Nat)
  widths : List (Option Width)
  look : Option Nat
  conditions : List (Nat × Nat)

namespace Reading

/-- Nothing has been read. -/
def start : Reading := ⟨.empty, [], false, [], [none], none, []⟩

/-- The reading with one more item. -/
def push (r : Reading) (item : Item) : Reading :=
  { r with level := { r.level with items := item :: r.level.items } }

/-- The width of a group that is closed. -/
def closedWidth? (r : Reading) (index : Nat) : Option Width := (r.widths[index]?).join

/-- Checks that a look behind may refer to a group: the group is closed and not part of it. -/
def checkLook (r : Reading) (index : Nat) (t : Text) : Except Flaw Unit :=
  match r.look with
  | none => return ()
  | some count =>
      if (r.closedWidth? index).isNone then throw (flawAt t .openGroup)
      else if index ≥ count then throw (flawAt t .lookBehindGroup)
      else return ()

/-! ## References and escapes -/

/-- Refers to a group that exists.  A group that is open is refused at `start`. -/
def pushReference (r : Reading) (index : Nat) (start t : Text) :
    Except Flaw (Reading × Text) := do
  match r.closedWidth? index with
  | none => throw (flawAt start .openGroup)
  | some width =>
      r.checkLook index t
      return (r.push (.reference index width), t)

/-- Reads a backslash with a digit: three octal digits write a character, one or two digits refer
to a group. -/
def readNumberEscape (r : Reading) (start : Text) (c : Char) (t : Text) :
    Except Flaw (Reading × Text) := do
  let digits := c :: (takeAtMost 1 Text.isAsciiDigit t).1
  let rest := t.drop (digits.length - 1)
  let octal := c :: (takeAtMost 2 isOctalDigit t).1
  if octal.length = 3 && isOctalDigit c then
    return (r.push (.code (← octalCode start octal)), t.drop 2)
  let index := Text.natInBase 10 digits
  if index < r.widths.length then r.pushReference index start rest
  else throw (flawAt (start.drop 1) (.noSuchGroup index))

/-- Reads the escape of a character behind a backslash.  `start` is the text from the backslash
on. -/
def readEscape (r : Reading) (start : Text) (c : Char) (t : Text) :
    Except Flaw (Reading × Text) := do
  match anchorEscape? c, categoryEscape? c, controlEscape? c with
  | some anchor, _, _ => return (r.push (.anchor anchor), t)
  | none, some category, _ => return (r.push (.set false [category]), t)
  | none, none, some code => return (r.push (.code code), t)
  | none, none, none =>
      if c = '0' then
        let (digits, rest) := takeAtMost 2 isOctalDigit t
        return (r.push (.code (Text.natInBase 8 digits)), rest)
      if Text.isAsciiDigit c then r.readNumberEscape start c t
      else
        let (code, rest) ← readCommonEscape start c t
        return (r.push (.code code), rest)

/-! ## Groups -/

/-- Opens a group. -/
def openGroup (r : Reading) (kind : GroupKind) (opening : Text) : Reading :=
  { r with
    level := .empty
    opened := ⟨kind, opening.length, r.level, r.verbose, r.look⟩ :: r.opened }

/-- Opens a capturing group. -/
def openCapturing (r : Reading) (opening : Text) : Reading :=
  let r' := r.openGroup (.capturing r.widths.length) opening
  { r' with widths := r.widths ++ [none] }

/-- Opens a capturing group with a name, which stands at `t`. -/
def openNamed (r : Reading) (opening t : Text) : Except Flaw (Reading × Text) := do
  let (name, rest) ← readName '>' ("group name" : Text) t
  if !Text.isIdentifier name then throw (flawAt t (.badGroupName name))
  let index := r.widths.length
  match r.names.lookup name with
  | some taken => throw (flawAt t (.groupNameTaken name index taken))
  | none => return ({ r.openCapturing opening with names := (name, index) :: r.names }, rest)

/-- Reads a reference by name, which stands at `t`. -/
def readNamedReference (r : Reading) (t : Text) : Except Flaw (Reading × Text) := do
  let (name, rest) ← readName ')' ("group name" : Text) t
  if !Text.isIdentifier name then throw (flawAt t (.badGroupName name))
  match r.names.lookup name with
  | none => throw (flawAt t (.unknownGroupName name))
  | some index => r.pushReference index t rest

/-- The most groups that there may be, exclusively. -/
def groupLimit : Nat := 1073741823

/-- The group that a condition names, by its name or its number. -/
def conditionGroup (r : Reading) (name t : Text) : Except Flaw Nat :=
  if Text.isIdentifier name then
    match r.names.lookup name with
    | none => throw (flawAt t (.unknownGroupName name))
    | some index => return index
  else
    match Text.integer? name with
    | none => throw (flawAt t (.badGroupName name))
    | some n =>
        if n < 0 then throw (flawAt t (.badGroupName name))
        else if n = 0 then throw (flawAt t .groupZero)
        else if n.toNat ≥ groupLimit then throw (flawAt t (.noSuchGroup n.toNat))
        else return n.toNat

/-- Opens a conditional, whose condition stands at `t`.  Whether there is a group of that number
is checked at the end. -/
def openConditional (r : Reading) (opening t : Text) : Except Flaw (Reading × Text) := do
  let (name, rest) ← readName ')' ("group name" : Text) t
  let index ← r.conditionGroup name t
  let isNew := !Text.isIdentifier name && (r.conditions.lookup index).isNone
  r.checkLook index rest
  let conditions := if isNew then r.conditions ++ [(index, t.length)] else r.conditions
  return ({ r.openGroup (.conditional index) opening with conditions }, rest)

/-- Opens a look behind. -/
def openLookBehind (r : Reading) (negated : Bool) (opening : Text) : Reading :=
  { r.openGroup (.look true negated) opening with look := some (r.look.getD r.widths.length) }

/-- Opens a group with flags of its own. -/
def openFlagged (r : Reading) (opening t : Text) : Except Flaw (Reading × Text) := do
  let (flags, rest) ← readFlags opening t
  let verbose := (r.verbose || .verbose ∈ flags.on) && .verbose ∉ flags.off
  return ({ r.openGroup (.plain flags) opening with verbose }, rest)

/-- What follows a comment. -/
def afterComment? : Text → Option Text
  | [] => none
  | '\\' :: _ :: t => afterComment? t
  | c :: t => if c = ')' then some t else afterComment? t

/-- Reads what follows `(?P`.  `mark` is the text from the question mark on. -/
def readNamedGroup (r : Reading) (opening mark t : Text) : Except Flaw (Reading × Text) :=
  match token? t with
  | some (.plain '<', t) => r.openNamed opening t
  | some (.plain '=', t) => r.readNamedReference t
  | some (token, _) => throw (flawAt mark (.unknownExtension ('P' :: token.text)))
  | none => throw (flawAt [] .unexpectedEnd)

/-- Reads what follows `(?<`.  `mark` is the text from the question mark on. -/
def readLookBehind (r : Reading) (opening mark t : Text) : Except Flaw (Reading × Text) :=
  match token? t with
  | some (.plain '=', t) => return (r.openLookBehind false opening, t)
  | some (.plain '!', t) => return (r.openLookBehind true opening, t)
  | some (token, _) => throw (flawAt mark (.unknownExtension ('<' :: token.text)))
  | none => throw (flawAt [] .unexpectedEnd)

/-- Reads what follows `(?`, which is `t`.  `mark` is the text from the question mark on. -/
def readExtension (r : Reading) (opening mark t : Text) : Except Flaw (Reading × Text) :=
  match token? t with
  | none => throw (flawAt [] .unexpectedEnd)
  | some (.plain 'P', t) => r.readNamedGroup opening mark t
  | some (.plain ':', t) => return (r.openGroup (.plain .none) opening, t)
  | some (.plain '=', t) => return (r.openGroup (.look false false) opening, t)
  | some (.plain '!', t) => return (r.openGroup (.look false true) opening, t)
  | some (.plain '<', t) => r.readLookBehind opening mark t
  | some (.plain '>', t) => return (r.openGroup .atomic opening, t)
  | some (.plain '(', t) => r.openConditional opening t
  | some (.plain '#', t) =>
      match afterComment? t with
      | some rest => return (r, rest)
      | none => throw (flawAt opening (.missing ("), unterminated comment" : Text)))
  | some (token, _) =>
      if token = .plain '-' ∨ token.flag?.isSome then r.openFlagged opening t
      else throw (flawAt mark (.unknownExtension token.text))

/-- Reads what follows a parenthesis.  `opening` is the text from it on. -/
def readGroup (r : Reading) (opening t : Text) : Except Flaw (Reading × Text) :=
  match t with
  | '?' :: rest => r.readExtension opening t rest
  | _ => return (r.openCapturing opening, t)

/-- The item that a closed group is. -/
def itemOf (kind : GroupKind) (level : Level) : Item :=
  match kind with
  | .capturing index => .group (some index) .none level.body
  | .plain flags => .group none flags level.body
  | .atomic => .atomic level.body
  | .look behind negated => .look behind negated level.body
  | .conditional index =>
      match level.alternatives with
      | [] => .conditional index (sequence level.items) []
      | yes :: _ => .conditional index yes (sequence level.items)

/-- The widths of the groups after a group has been closed. -/
def widthsAfter (kind : GroupKind) (level : Level) (widths : List (Option Width)) :
    List (Option Width) :=
  match kind with
  | .capturing index => widths.set index (some (widthOf level.body))
  | _ => widths

/-- Closes the innermost group at a parenthesis.  `start` is the text from it on. -/
def closeGroup (r : Reading) (start t : Text) : Except Flaw (Reading × Text) :=
  match r.opened with
  | [] => throw (flawAt start .unbalanced)
  | group :: opened =>
      let outer : Reading :=
        { r with
          level := group.level
          opened
          verbose := group.verbose
          widths := widthsAfter group.kind r.level r.widths
          look := group.look }
      return (outer.push (itemOf group.kind r.level), t)

/-- Ends an alternative at a bar.  A conditional has two of them at most. -/
def endAlternative (r : Reading) (start t : Text) : Except Flaw (Reading × Text) :=
  let level : Level := ⟨[], sequence r.level.items :: r.level.alternatives⟩
  match r.opened.head?.map OpenGroup.kind with
  | some (.conditional _) =>
      if !r.level.alternatives.isEmpty then throw (flawAt start .tooManyBranches)
      else return ({ r with level }, t)
  | _ => return ({ r with level }, t)

/-! ## Repetitions -/

/-- Repeats the last item.  `start` is the text from the repetition on, `t` what follows its
counts. -/
def repeatLast (r : Reading) (least : Nat) (most : Option Nat) (start t : Text) :
    Except Flaw (Reading × Text) :=
  match r.level.items with
  | [] => throw (flawAt start .nothingToRepeat)
  | .anchor _ :: _ => throw (flawAt start .nothingToRepeat)
  | .repeated _ _ _ _ :: _ => throw (flawAt start .multipleRepeat)
  | item :: items =>
      let (kind, rest) := repetitionAndRest t
      let item := .repeated kind least most item.spliced
      return ({ r with level := { r.level with items := item :: items } }, rest)

/-- Reads a repetition with counts in braces, or the brace as a character. -/
def readCounts (r : Reading) (start t : Text) : Except Flaw (Reading × Text) := do
  match ← readBraces t with
  | none => return (r.push (.code '\x7b'.toNat), t)
  | some ((least, most), rest) => r.repeatLast least most start rest

/-! ## Steps -/

/-- What follows a comment that ends with its line. -/
def afterLine : Text → Text
  | [] => []
  | '\\' :: _ :: t => afterLine t
  | c :: t => if c = '\n' then t else afterLine t

/-- Reads the part that begins with a character without a backslash. -/
def readPlain (r : Reading) (start : Text) (c : Char) (t : Text) : Except Flaw (Reading × Text) :=
  match c with
  | '|' => r.endAlternative start t
  | ')' => r.closeGroup start t
  | '\\' => throw (flawAt start .endInEscape)
  | '[' => do
      let (item, rest) ← readSetItem start t
      return (r.push item, rest)
  | '?' => r.repeatLast 0 (some 1) start t
  | '*' => r.repeatLast 0 none start t
  | '+' => r.repeatLast 1 none start t
  | '\x7b' => r.readCounts start t
  | '.' => return (r.push .any, t)
  | '(' => r.readGroup start t
  | '^' => return (r.push (.anchor .lineStart), t)
  | '$' => return (r.push (.anchor .lineEnd), t)
  | c => return (r.push (.code c.toNat), t)

/-- Reads the part that a text begins with, and returns what follows it.  In verbose parts blanks
and comments do not count. -/
def step (r : Reading) (t : Text) : Except Flaw (Reading × Text) :=
  match token? t with
  | none => return (r, [])
  | some (.escaped c, rest) => r.readEscape t c rest
  | some (.plain c, rest) =>
      if r.verbose && Text.isAsciiBlank c.toNat then return (r, rest)
      else if r.verbose && c = '#' then return (r, afterLine rest)
      else r.readPlain t c rest

/-- What has been read when the text ends: no group may be open, and conditions must be on groups
that there are. -/
def finish (r : Reading) : Except Flaw (List Item) :=
  match r.opened with
  | group :: _ =>
      throw (.malformed (.missing ("), unterminated subpattern" : Text)) group.remaining)
  | [] =>
      match r.conditions.find? (·.1 ≥ r.widths.length) with
      | some (index, remaining) => throw (.malformed (.noSuchGroup index) remaining)
      | none => return r.level.body

/-- Reads a text to its end.  Characters that a step has read already are skipped. -/
def readFrom (r : Reading) : (skip : Nat) → Text → Except Flaw (List Item)
  | _, [] => r.finish
  | skip + 1, _ :: t => r.readFrom skip t
  | 0, c :: t => do
      let (r, rest) ← r.step (c :: t)
      r.readFrom (t.length - rest.length) t

end Reading

/-- Reads a regular expression. -/
def readItems (t : Text) : Except Flaw (List Item) := Reading.start.readFrom 0 t

end UrlRouting.Regex
