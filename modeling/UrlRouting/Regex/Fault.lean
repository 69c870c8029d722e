import UrlRouting.Text.Pieces
import UrlRouting.Text.Quoted

/-!
# Faults of regular expressions

Why a text is no regular expression, and where.  A flaw names its cause and its place by the
number of characters that are left there; `Malformed.ofFlaw` turns that into a position in the
text, and into a line and a column too if the text has several lines.  A number that exceeds what
is representable is another kind of fault.
-/

namespace UrlRouting.Regex

/-- What is wrong. -/
inductive Cause
  /-- An escape lacks hexadecimal digits. -/
  | incompleteEscape (escape : Text)
  /-- An escape has no meaning. -/
  | badEscape (escape : Text)
  /-- The text ends in a backslash. -/
  | endInEscape
  /-- An octal escape exceeds `\377`. -/
  | octalRange (escape : Text)
  /-- Something has to stand here. -/
  | missing (what : Text)
  /-- A name does not end. -/
  | endlessName (terminator : Char)
  /-- No character has the name. -/
  | unknownCharacter (name : Text)
  /-- A set does not end. -/
  | endlessSet
  /-- The bounds of a range are no characters, or in the wrong order. -/
  | badRange (low high : Text)
  /-- A reference to a group that is not closed. -/
  | openGroup
  /-- A reference within a look-behind to a group of the same look-behind. -/
  | lookBehindGroup
  /-- A reference to a group that there is not. -/
  | noSuchGroup (index : Nat)
  /-- A repetition with a minimum above its maximum. -/
  | repeatBounds
  /-- A repetition without anything in front of it. -/
  | nothingToRepeat
  /-- A repetition of a repetition. -/
  | multipleRepeat
  /-- The name of a group is no identifier, or its number no number. -/
  | badGroupName (name : Text)
  /-- The name of a group is taken. -/
  | groupNameTaken (name : Text) (index taken : Nat)
  /-- No group has the name. -/
  | unknownGroupName (name : Text)
  /-- What follows a parenthesis and a question mark has no meaning. -/
  | unknownExtension (t : Text)
  /-- The text ends behind a parenthesis and a question mark. -/
  | unexpectedEnd
  /-- A parenthesis closes nothing. -/
  | unbalanced
  /-- A condition on group zero. -/
  | groupZero
  /-- A conditional with more than two branches. -/
  | tooManyBranches
  /-- A look-behind over texts of several lengths. -/
  | lookBehindWidth
  /-- The flag for locales. -/
  | localeFlag
  /-- Flags that exclude each other. -/
  | incompatibleFlags
  /-- A letter that is no flag. -/
  | unknownFlag
  /-- A flag that cannot be turned off. -/
  | lastingFlag
  /-- A flag for the whole expression turned on for a part of it. -/
  | globalFlagOn
  /-- A flag for the whole expression turned off for a part of it. -/
  | globalFlagOff
  /-- A flag turned on and off at once. -/
  | flagOnAndOff
  /-- Flags for the whole expression behind its start. -/
  | lateFlags
  deriving Repr, DecidableEq

/-- The wording of a cause. -/
def Cause.message : Cause → Text
  | incompleteEscape escape => ("incomplete escape " : Text) ++ escape
  | badEscape escape => ("bad escape " : Text) ++ escape
  | endInEscape => ("bad escape (end of pattern)" : Text)
  | octalRange escape =>
      ("octal escape value " : Text) ++ escape ++ (" outside of range 0-0o377" : Text)
  | missing what => ("missing " : Text) ++ what
  | endlessName terminator =>
      ("missing " : Text) ++ terminator :: (", unterminated name" : Text)
  | unknownCharacter name => ("undefined character name " : Text) ++ Text.quoted name
  | endlessSet => ("unterminated character set" : Text)
  | badRange low high => ("bad character range " : Text) ++ low ++ '-' :: high
  | openGroup => ("cannot refer to an open group" : Text)
  | lookBehindGroup =>
      ("cannot refer to group defined in the same lookbehind subpattern" : Text)
  | noSuchGroup index => ("invalid group reference " : Text) ++ Nat.toDigits 10 index
  | repeatBounds => ("min repeat greater than max repeat" : Text)
  | nothingToRepeat => ("nothing to repeat" : Text)
  | multipleRepeat => ("multiple repeat" : Text)
  | badGroupName name => ("bad character in group name " : Text) ++ Text.quoted name
  | groupNameTaken name index taken =>
      ("redefinition of group name " : Text) ++ Text.quoted name ++ (" as group " : Text) ++
        Nat.toDigits 10 index ++ ("; was group " : Text) ++ Nat.toDigits 10 taken
  | unknownGroupName name => ("unknown group name " : Text) ++ Text.quoted name
  | unknownExtension t => ("unknown extension ?" : Text) ++ t
  | unexpectedEnd => ("unexpected end of pattern" : Text)
  | unbalanced => ("unbalanced parenthesis" : Text)
  | groupZero => ("bad group number" : Text)
  | tooManyBranches => ("conditional backref with more than two branches" : Text)
  | lookBehindWidth => ("look-behind requires fixed-width pattern" : Text)
  | localeFlag => ("bad inline flags: cannot use 'L' flag with a str pattern" : Text)
  | incompatibleFlags => ("bad inline flags: flags 'a', 'u' and 'L' are incompatible" : Text)
  | unknownFlag => ("unknown flag" : Text)
  | lastingFlag => ("bad inline flags: cannot turn off flags 'a', 'u' and 'L'" : Text)
  | globalFlagOn => ("bad inline flags: cannot turn on global flag" : Text)
  | globalFlagOff => ("bad inline flags: cannot turn off global flag" : Text)
  | flagOnAndOff => ("bad inline flags: flag turned on and off" : Text)
  | lateFlags => ("global flags not at the start of the expression" : Text)

/-- A number that exceeds what is representable. -/
inductive Limit
  /-- A repetition count of 4294967295 or more. -/
  | repeatCount
  /-- A code point of 2147483648 or more. -/
  | codePoint
  /-- A repetition count with more than 4300 digits. -/
  | digits (count : Nat)
  deriving Repr, DecidableEq

/-- The wording of a limit. -/
def Limit.message : Limit → Text
  | repeatCount => ("the repetition number is too large" : Text)
  | codePoint => ("Python int too large to convert to C int" : Text)
  | digits count =>
      ("Exceeds the limit (4300 digits) for integer string conversion: value has " : Text) ++
        Nat.toDigits 10 count ++
        (" digits; use sys.set_int_max_str_digits() to increase the limit" : Text)

/-- What is found while reading: a flaw where so many characters are left, or a limit. -/
inductive Flaw
  | malformed (cause : Cause) (remaining : Nat)
  | limit (cause : Limit)
  deriving Repr, DecidableEq

/-- A place in a text: its position and, in a text of several lines, its line and its column. -/
structure Place where
  position : Nat
  lineAndColumn : Option (Nat × Nat)
  deriving Repr, DecidableEq

/-- The place in front of a position: lines count from one, and so do columns. -/
def Place.ofPosition (t : Text) (position : Nat) : Place where
  position := position
  lineAndColumn :=
    if '\n' ∈ t then
      let before := t.take position
      some (before.count '\n' + 1, (Text.afterLast '\n' before).length + 1)
    else none

/-- The wording of a place. -/
def Place.message (p : Place) : Text :=
  (" at position " : Text) ++ Nat.toDigits 10 p.position ++
    match p.lineAndColumn with
    | none => []
    | some (line, column) =>
        (" (line " : Text) ++ Nat.toDigits 10 line ++ (", column " : Text) ++
          Nat.toDigits 10 column ++ [')']

/-- A cause, with its place if it has one. -/
structure Malformed where
  cause : Cause
  place : Option Place
  deriving Repr, DecidableEq

/-- The wording of a cause and its place. -/
def Malformed.message (m : Malformed) : Text :=
  m.cause.message ++ m.place.elim [] Place.message

/-- Why a text is no regular expression. -/
inductive Fault
  | malformed (cause : Malformed)
  | limit (cause : Limit)
  deriving Repr, DecidableEq

/-- The fault that a flaw in a text is. -/
def Fault.ofFlaw (t : Text) : Flaw → Fault
  | .malformed cause remaining =>
      .malformed ⟨cause, some (Place.ofPosition t (t.length - remaining))⟩
  | .limit cause => .limit cause

end UrlRouting.Regex
