import UrlRouting.Text.Ranges

/-!
# Segments

A segment is a token of a URL pattern.  A token in braces, `{area}`, is a variable; it may
carry one line feed behind the closing brace.  Every other token stands for itself.
-/

namespace UrlRouting

/-- A token of a pattern, by what it does. -/
inductive Segment
  /-- A token that stands for itself. -/
  | literal (token : Text)
  /-- A token that stands for whatever is bound to the name in its braces. -/
  | named (token name : Text)
  deriving Repr, DecidableEq

namespace Segment

/-- The name in the braces of a token, if the token is one of those.  A name has at least one
character and no brace. -/
def nameOf? : Text → Option Text
  | '{' :: rest =>
      let name := rest.takeWhile fun c => c != '{' && c != '}'
      let behind := rest.drop name.length
      if name ≠ [] ∧ (behind = ['}'] ∨ behind = ['}', '\n']) then some name else none
  | _ => none

/-- The segment that a token is. -/
def ofToken (token : Text) : Segment :=
  match nameOf? token with
  | some name => .named token name
  | none => .literal token

/-- The token that the segment was written as. -/
def token : Segment → Text
  | literal token => token
  | named token _ => token

/-- The name that the segment binds, if it is a variable. -/
def name? : Segment → Option Text
  | literal _ => none
  | named _ name => some name

/-- Whether the segment is a variable. -/
def isVariable (s : Segment) : Bool := s.name?.isSome

/-- Reading a token keeps its text. -/
theorem token_ofToken (t : Text) : (ofToken t).token = t := by
  unfold ofToken
  cases nameOf? t <;> rfl

/-- The name that a read token binds is the one in its braces. -/
theorem name?_ofToken (t : Text) : (ofToken t).name? = nameOf? t := by
  unfold ofToken
  cases nameOf? t <;> rfl

end Segment

end UrlRouting
