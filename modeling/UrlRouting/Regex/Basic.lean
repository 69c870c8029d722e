import UrlRouting.Regex.Reader
import UrlRouting.Regex.Search

/-!
# Rules

A rule is a regular expression for a whole text, its case ignored.  It is read between `^(` and
`)$`, so that its groups count from two, and an end may be followed by a line feed.
-/

namespace UrlRouting

/-- A regular expression, ready to be searched for. -/
structure Regex where
  program : List Regex.Op
  deriving Repr

namespace Regex

/-- The expression that a rule is read as. -/
def anchored (rule : Text) : Text := '^' :: '(' :: (rule ++ [')', '$'])

/-- Reads a rule. -/
def compile (rule : Text) : Except Fault Regex :=
  match readItems (anchored rule) with
  | .error flaw => .error (.ofFlaw (anchored rule) flaw)
  | .ok items =>
      if haveFixedLooks items then .ok ⟨Op.ofItems .rule items⟩
      else .error (.malformed ⟨.lookBehindWidth, none⟩)

/-- Whether a text obeys the rule. -/
def accepts (r : Regex) (t : Text) : Bool :=
  (Matcher.alone (matcherOf r.program) (.start t)).isFound

end Regex

end UrlRouting
