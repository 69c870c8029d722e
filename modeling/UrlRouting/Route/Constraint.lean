import UrlRouting.Regex.Basic
import UrlRouting.Value

/-!
# Constraints

A constraint is a rule for the text of one value: a regular expression that has to match all of
it.  The rules of a route are read in order, and the first one that cannot be read is reported.
-/

namespace UrlRouting

/-- Why a rule is refused. -/
inductive RuleFault
  /-- The rule is not a text. -/
  | notText
  /-- The rule is no regular expression. -/
  | malformed (cause : Regex.Malformed)
  deriving Repr, DecidableEq

/-- Why the rules of a route are refused. -/
inductive ConstraintFault
  /-- The rule for a name is refused; the pattern tells which route it was meant for. -/
  | rule (name urlPattern : Text) (cause : RuleFault)
  /-- A number in a rule exceeds what is representable. -/
  | limit (cause : Regex.Limit)
  deriving Repr, DecidableEq

/-- The wording of what is wrong with a rule. -/
def RuleFault.message : RuleFault → Text
  | notText => ("must have a string value." : Text)
  | malformed cause => ("is not a valid regular expression: " : Text) ++ cause.message

/-- The wording of a refusal. -/
def ConstraintFault.message : ConstraintFault → Text
  | rule name urlPattern cause =>
      ("The constraint entry '" : Text) ++ name ++ ("' on the route with URL pattern '" : Text) ++
        urlPattern ++ ("' " : Text) ++ cause.message
  | limit cause => cause.message

/-- A rule that has been read. -/
structure Check where
  name : Text
  regex : Regex

/-- Whether the text of the value that the name is bound to obeys the rule.  A name that is not
bound has an empty text. -/
def Check.accepts (c : Check) (values : Bindings Value) : Bool :=
  c.regex.accepts ((values.get? c.name).elim [] Value.urlText)

/-- Reads one rule. -/
def readCheck (urlPattern name : Text) : Value → Except ConstraintFault Check
  | .text rule =>
      match Regex.compile rule with
      | .ok regex => .ok ⟨name, regex⟩
      | .error (.malformed cause) => .error (.rule name urlPattern (.malformed cause))
      | .error (.limit cause) => .error (.limit cause)
  | _ => .error (.rule name urlPattern .notText)

/-- Reads the rules in order. -/
def readChecks (urlPattern : Text) (rules : Option (Bindings Value)) :
    Except ConstraintFault (List Check) :=
  match rules with
  | none => .ok []
  | some rules => rules.entries.mapM fun e => readCheck urlPattern e.1 e.2

end UrlRouting
