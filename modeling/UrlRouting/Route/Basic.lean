import UrlRouting.Pattern.Basic
import UrlRouting.Route.Constraint
import UrlRouting.Route.Handler

/-!
# Routes

A route has a pattern, defaults for its variables, rules for its values, data of its own and a
handler.  `withPattern` and `withConstraints?` replace a pattern or the rules; rules are read
for the pattern that the route has at that moment, and a pattern keeps the rules as they were
read.
-/

namespace UrlRouting

/-- A route.  `pattern` is what `urlPattern` reads as, and `checks` is what `constraints` reads
as. -/
structure Route where
  urlPattern : Text
  pattern : Pattern
  defaults : Bindings Value
  constraints : Option (Bindings Value)
  checks : List Check
  dataTokens : Bindings Value
  handler : Handler

/-- What a route is made from.  A part that is not given is empty. -/
structure RouteDescription where
  urlPattern : Option Text
  defaults : Option (Bindings Value)
  constraints : Option (Bindings Value)
  dataTokens : Option (Bindings Value)
  handler : Handler

namespace Route

/-- The route with another pattern. -/
def withPattern (r : Route) (urlPattern : Option Text) : Route :=
  { r with urlPattern := urlPattern.getD [], pattern := Pattern.ofWritten urlPattern }

/-- The route with other rules. -/
def withConstraints? (r : Route) (constraints : Option (Bindings Value)) :
    Except ConstraintFault Route := do
  let checks ← readChecks r.urlPattern constraints
  return { r with constraints, checks }

/-- Makes a route. -/
def make? (d : RouteDescription) : Except ConstraintFault Route :=
  let plain : Route :=
    { urlPattern := d.urlPattern.getD []
      pattern := Pattern.ofWritten d.urlPattern
      defaults := d.defaults.getD .empty
      constraints := none
      checks := []
      dataTokens := d.dataTokens.getD .empty
      handler := d.handler }
  plain.withConstraints? d.constraints

/-- Whether the values obey all rules. -/
def accepts (r : Route) (values : Bindings Value) : Bool := r.checks.all (·.accepts values)

/-- A route in a single line. -/
def display (r : Route) : Text :=
  ("AbsoluteRoute(" : Text) ++ Text.quoted r.urlPattern ++ [')']

end Route

end UrlRouting
