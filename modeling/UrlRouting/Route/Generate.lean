import UrlRouting.Pattern.Filling
import UrlRouting.Route.Basic

/-!
# Generating a URL

A route writes the URL for given values if these obey its rules: its path without the defaults
at the end and, if the pattern has a host, a scheme and the host in front of it.
-/

namespace UrlRouting

/-- What is asked for: values, the values that hold where these say nothing, and a scheme. -/
structure UrlDemand where
  values : Option (Bindings Value)
  currentValues : Option (Bindings Value)
  scheme : Option Text

/-- The values that a demand leaves: the given ones laid over the current ones. -/
def UrlDemand.context (d : UrlDemand) : Bindings Value :=
  (d.currentValues.getD .empty).overlay (d.values.getD .empty)

/-- What a route generates. -/
structure VirtualPath where
  text : Text
  dataTokens : Bindings Value

namespace Route

/-- The scheme of a generated URL: the first one that is given and not empty, else `http`. -/
def schemeFor (r : Route) (scheme : Option Text) : Text :=
  let given := scheme.getD []
  if given ≠ [] then given else r.pattern.scheme.getD ("http" : Text)

/-- The tokens of the host that a route writes. -/
def hostFor (r : Route) (context : Bindings Value) : List Text :=
  fillFully r.pattern.host context r.defaults

/-- The tokens of the path that a route writes. -/
def pathFor (r : Route) (context : Bindings Value) : List Text :=
  fillBriefly r.pattern.path context r.defaults

/-- Generates a URL. -/
def generate? (r : Route) (d : UrlDemand) : Option VirtualPath :=
  let context := d.context
  if r.accepts context then
    let path := Text.join ['/'] (r.pathFor context)
    let text :=
      if r.pattern.host = [] then path
      else
        r.schemeFor d.scheme ++ ("://" : Text) ++ Text.join ['.'] (r.hostFor context) ++ '/' :: path
    some { text, dataTokens := r.dataTokens }
  else none

end Route

end UrlRouting
