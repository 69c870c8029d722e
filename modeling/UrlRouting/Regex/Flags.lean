import UrlRouting.Regex.Lexeme

/-!
# Flags of groups

A group may turn flags on and off for itself: letters behind `(?`, a minus in front of those
that are turned off, and a colon.  Letters that a parenthesis closes would hold for the whole
expression.
-/

namespace UrlRouting.Regex

/-- The flag that a letter stands for. -/
def flagOf? : Char → Option Flag
  | 'i' => some .ignoreCase
  | 'L' => some .locale
  | 'm' => some .multiLine
  | 's' => some .dotAll
  | 'x' => some .verbose
  | 'a' => some .ascii
  | 't' => some .template
  | 'u' => some .unicode
  | _ => none

/-- The flag that a token stands for. -/
def Token.flag? : Token → Option Flag
  | plain c => flagOf? c
  | escaped _ => none

/-- Whether the flag chooses an alphabet: these exclude each other and cannot be turned off. -/
def Flag.choosesAlphabet : Flag → Bool
  | ascii => true
  | locale => true
  | unicode => true
  | _ => false

/-- The cause that a token is no flag: another letter, or something else where `what` has to
stand. -/
def notAFlag (what : Text) : Token → Cause
  | .plain c => if Text.isLetter c.toNat then .unknownFlag else .missing what
  | .escaped _ => .missing what

/-- What may end the flags that are turned on. -/
inductive FlagsEnd
  | parenthesis
  | minus
  | colon
  deriving Repr, DecidableEq

/-- Takes a flag to those that are turned on.  `t` is what follows it. -/
def turnOn (on : List Flag) (flag : Flag) (t : Text) : Except Flaw (List Flag) :=
  if flag = .locale then throw (flawAt t .localeFlag)
  else if flag.choosesAlphabet && on.any (fun f => f.choosesAlphabet && f != flag) then
    throw (flawAt t .incompatibleFlags)
  else return on ++ [flag]

/-- Reads the flags that are turned on, behind those in `on`. -/
def readOn (on : List Flag) : Text → Except Flaw (List Flag × FlagsEnd × Text)
  | [] => throw (flawAt [] (.missing ("-, : or )" : Text)))
  | ')' :: t => return (on, .parenthesis, t)
  | '-' :: t => return (on, .minus, t)
  | ':' :: t => return (on, .colon, t)
  | '\\' :: t => throw (flawAt ('\\' :: t) (.missing ("-, : or )" : Text)))
  | c :: t => do
      match flagOf? c with
      | none => throw (flawAt (c :: t) (notAFlag ("-, : or )" : Text) (.plain c)))
      | some flag => readOn (← turnOn on flag t) t

/-- Takes a flag to those that are turned off.  `t` is what follows it. -/
def turnOff (off : List Flag) (flag : Flag) (t : Text) : Except Flaw (List Flag) :=
  if flag.choosesAlphabet then throw (flawAt t .lastingFlag) else return off ++ [flag]

/-- Reads the flags that are turned off, behind those in `off`, up to the colon. -/
def readOff (off : List Flag) : Text → Except Flaw (List Flag × Text)
  | [] => throw (flawAt [] (.missing (if off = [] then ("flag" : Text) else [':'])))
  | c :: t => do
      if c = ':' ∧ off ≠ [] then return (off, t)
      match flagOf? c with
      | none =>
          let what := if off = [] then ("flag" : Text) else [':']
          throw (flawAt (c :: t) (notAFlag what (.plain c)))
      | some flag => readOff (← turnOff off flag t) t

/-- Reads flags up to the colon that ends them.  `opening` is the text from the parenthesis on,
`t` what follows the question mark. -/
def readFlags (opening t : Text) : Except Flaw (FlagChange × Text) := do
  let (on, ended, rest) ← readOn [] t
  if ended = .parenthesis then throw (flawAt opening .lateFlags)
  let last := rest.length + 1
  if .template ∈ on then throw (.malformed .globalFlagOn last)
  if ended = .colon then return (⟨on, []⟩, rest)
  let (off, rest) ← readOff [] rest
  let last := rest.length + 1
  if .template ∈ off then throw (.malformed .globalFlagOff last)
  if on.any (· ∈ off) then throw (.malformed .flagOnAndOff last)
  return (⟨on, off⟩, rest)

end UrlRouting.Regex
