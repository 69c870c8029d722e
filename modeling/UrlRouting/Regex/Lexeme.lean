import UrlRouting.Regex.Fault
import UrlRouting.Regex.Item
import UrlRouting.Text.CharacterName
import UrlRouting.Text.Digit
import UrlRouting.Text.Letter

/-!
# Lexemes

The small parts that regular expressions are written with.  A token is a character or a
backslash with the character behind it.  Every reader here returns what follows the part that
it has read.
-/

namespace UrlRouting.Regex

/-- A character, or a character behind a backslash. -/
inductive Token
  | plain (c : Char)
  | escaped (c : Char)
  deriving Repr, DecidableEq

/-- The text of a token. -/
def Token.text : Token → Text
  | plain c => [c]
  | escaped c => ['\\', c]

/-- The first token of a text, and what follows it. -/
def token? : Text → Option (Token × Text)
  | [] => none
  | '\\' :: c :: rest => some (.escaped c, rest)
  | c :: rest => some (.plain c, rest)

/-- A flaw in front of a text. -/
def flawAt (rest : Text) (cause : Cause) : Flaw := .malformed cause rest.length

/-- The tokens up to a terminator, and what follows it. -/
def upToToken? (terminator : Char) : Text → Option (Text × Text)
  | [] => none
  | '\\' :: c :: rest => (upToToken? terminator rest).map fun r => ('\\' :: c :: r.1, r.2)
  | c :: rest =>
      if c = terminator then some ([], rest)
      else (upToToken? terminator rest).map fun r => (c :: r.1, r.2)

/-- A name that is not empty, up to a terminator, and what follows it. -/
def readName (terminator : Char) (what : Text) (t : Text) : Except Flaw (Text × Text) :=
  match upToToken? terminator t with
  | some ([], _) => throw (flawAt t (.missing what))
  | some (name, rest) => return (name, rest)
  | none =>
      if t = [] then throw (flawAt t (.missing what))
      else throw (flawAt t (.endlessName terminator))

/-! ## Digits -/

/-- Whether the character is an octal digit. -/
def isOctalDigit (c : Char) : Bool := '0' ≤ c && c ≤ '7'

/-- At most `count` characters of a kind, and what follows them. -/
def takeAtMost (count : Nat) (isOfKind : Char → Bool) (t : Text) : Text × Text :=
  let taken := (t.take count).takeWhile isOfKind
  (taken, t.drop taken.length)

/-! ## Escapes of single characters -/

/-- The character that a letter behind a backslash stands for. -/
def controlEscape? : Char → Option Nat
  | 'a' => some 7
  | 'b' => some 8
  | 'f' => some 12
  | 'n' => some 10
  | 'r' => some 13
  | 't' => some 9
  | 'v' => some 11
  | '\\' => some 92
  | _ => none

/-- The class that a letter behind a backslash stands for. -/
def categoryEscape? : Char → Option Member
  | 'd' => some (.category false .digit)
  | 'D' => some (.category true .digit)
  | 's' => some (.category false .blank)
  | 'S' => some (.category true .blank)
  | 'w' => some (.category false .word)
  | 'W' => some (.category true .word)
  | _ => none

/-- The anchor that a letter behind a backslash stands for. -/
def anchorEscape? : Char → Option Anchor
  | 'A' => some .textStart
  | 'b' => some .wordBoundary
  | 'B' => some .noWordBoundary
  | 'Z' => some .textEnd
  | _ => none

/-- The number of hexadecimal digits that a letter behind a backslash demands. -/
def hexEscapeWidth? : Char → Option Nat
  | 'x' => some 2
  | 'u' => some 4
  | 'U' => some 8
  | _ => none

/-- Reads the hexadecimal digits of an escape.  `start` is the text from the backslash on. -/
def readHexEscape (start : Text) (letter : Char) (width : Nat) (t : Text) :
    Except Flaw (Nat × Text) := do
  let (digits, rest) := takeAtMost width Text.isHexDigit t
  let escape := '\\' :: letter :: digits
  if digits.length ≠ width then throw (flawAt start (.incompleteEscape escape))
  let code := Text.natInBase 16 digits
  if code > 0x7fffffff then throw (.limit .codePoint)
  if code > 0x10ffff then throw (flawAt start (.badEscape escape))
  return (code, rest)

/-- Reads a character by its name in braces. -/
def readNamedEscape (start t : Text) : Except Flaw (Nat × Text) := do
  match t with
  | '\x7b' :: t =>
      let (name, rest) ← readName '\x7d' ("character name" : Text) t
      match Text.named? name with
      | some code => return (code, rest)
      | none => throw (flawAt start (.unknownCharacter name))
  | _ => throw (flawAt t (.missing ['\x7b']))

/-- Reads an escape of a single character that has the same meaning everywhere: hexadecimal or by
name.  Every character but an ASCII letter and a digit stands for itself. -/
def readCommonEscape (start : Text) (c : Char) (t : Text) : Except Flaw (Nat × Text) :=
  match hexEscapeWidth? c with
  | some width => readHexEscape start c width t
  | none =>
      if c = 'N' then readNamedEscape start t
      else if Text.isAsciiLetter c || Text.isAsciiDigit c then
        throw (flawAt start (.badEscape ['\\', c]))
      else return (c.toNat, t)

/-- The character of an octal escape. -/
def octalCode (start : Text) (digits : Text) : Except Flaw Nat :=
  let code := Text.natInBase 8 digits
  if code > 0o377 then throw (flawAt start (.octalRange ('\\' :: digits))) else return code

/-! ## Sets -/

/-- Reads the escape of a character or a class in a set. -/
def readMemberEscape (start : Text) (c : Char) (t : Text) : Except Flaw (Member × Text) := do
  match controlEscape? c, categoryEscape? c with
  | some code, _ => return (.code code, t)
  | none, some category => return (category, t)
  | none, none =>
      if isOctalDigit c then
        let (digits, rest) := takeAtMost 2 isOctalDigit t
        return (.code (← octalCode start (c :: digits)), rest)
      let (code, rest) ← readCommonEscape start c t
      return (.code code, rest)

/-- Reads the member that a token begins.  `start` is the text from the token on. -/
def readMember (start : Text) (token : Token) (t : Text) : Except Flaw (Member × Text) :=
  match token with
  | .plain c => return (.code c.toNat, t)
  | .escaped c => readMemberEscape start c t

/-- What is read of a set in one go. -/
structure MemberStep where
  members : List Member
  ended : Bool
  rest : Text

/-- Reads a member or a range, or the end of the set where one is allowed.  `opening` is the text
from the bracket on. -/
def readMembers (opening : Text) (isFirst : Bool) (t : Text) : Except Flaw MemberStep := do
  match token? t with
  | none => throw (flawAt opening .endlessSet)
  | some (.plain ']', rest) =>
      if isFirst then readBehind (.plain ']') (.code ']'.toNat) rest
      else return ⟨[], true, rest⟩
  | some (token, rest) =>
      let (member, rest) ← readMember t token rest
      readBehind token member rest
where
  /-- Reads what may make a range of a member. -/
  readBehind (low : Token) (member : Member) (t : Text) : Except Flaw MemberStep := do
    match t with
    | '-' :: behind =>
        match token? behind with
        | none => throw (flawAt opening .endlessSet)
        | some (.plain ']', rest) => return ⟨[member, .code '-'.toNat], true, rest⟩
        | some (high, rest) =>
            let (last, after) ← readMember behind high rest
            let flaw : Flaw := .malformed (.badRange low.text high.text)
              (after.length + low.text.length + 1 + high.text.length)
            match member, last with
            | .code a, .code b =>
                if b < a then throw flaw else return ⟨[.range a b], false, after⟩
            | _, _ => throw flaw
    | _ => return ⟨[member], false, t⟩

/-- Reads the members of a set up to its end.  Characters that have been read already are
skipped. -/
def readSet (opening : Text) : (skip : Nat) → (members : List Member) → Text →
    Except Flaw (List Member × Text)
  | _, _, [] => throw (flawAt opening .endlessSet)
  | skip + 1, members, _ :: t => readSet opening skip members t
  | 0, members, c :: t => do
      let step ← readMembers opening members.isEmpty (c :: t)
      if step.ended then return (members ++ step.members, step.rest)
      else readSet opening (t.length - step.rest.length) (members ++ step.members) t

/-- The item that a set is: a single character stands for itself. -/
def itemOfSet (negated : Bool) (members : List Member) : Item :=
  match members.eraseDups with
  | [.code code] => if negated then .notCode code else .code code
  | members => .set negated members

/-- Reads a set.  `opening` is the text from the bracket on, `t` what follows the bracket. -/
def readSetItem (opening t : Text) : Except Flaw (Item × Text) := do
  let (negated, t) := match t with
    | '^' :: t => (true, t)
    | t => (false, t)
  let (members, rest) ← readSet opening 0 [] t
  return (itemOfSet negated members, rest)

/-! ## Repetitions -/

/-- The most that a count may be, exclusively. -/
def countLimit : Nat := 4294967295

/-- A count in braces; without digits the given one. -/
def countOf (digits : Text) (otherwise : Option Nat) : Except Flaw (Option Nat) :=
  if digits = [] then return otherwise
  else if digits.length > 4300 then throw (.limit (.digits digits.length))
  else if Text.natInBase 10 digits ≥ countLimit then throw (.limit .repeatCount)
  else return some (Text.natInBase 10 digits)

/-- The digits of the two counts in braces, and what follows the closing brace, if that is what
follows the opening one. -/
def bracedCounts? (t : Text) : Option (Text × Text × Text) :=
  let low := t.takeWhile Text.isAsciiDigit
  let rest := t.drop low.length
  let (high, rest) := match rest with
    | ',' :: rest =>
        let high := rest.takeWhile Text.isAsciiDigit
        (high, rest.drop high.length)
    | _ => (low, rest)
  match rest with
  | '\x7d' :: rest => some (low, high, rest)
  | _ => none

/-- Reads the counts of a repetition in braces: none if what follows the brace is no count, so
that the brace stands for itself. -/
def readBraces (t : Text) : Except Flaw (Option ((Nat × Option Nat) × Text)) := do
  match bracedCounts? t with
  | none => return none
  | some (low, high, rest) =>
      if rest.length + 1 = t.length then return none
      let least := (← countOf low none).getD 0
      let most ← countOf high none
      if most.any (· < least) then throw (flawAt t .repeatBounds)
      return some ((least, most), rest)

/-- How a repetition chooses its count, by what follows it. -/
def repetitionAndRest : Text → Repetition × Text
  | '?' :: t => (.lazy, t)
  | '+' :: t => (.possessive, t)
  | t => (.greedy, t)

end UrlRouting.Regex
