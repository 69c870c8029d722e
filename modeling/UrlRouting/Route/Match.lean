import UrlRouting.Pattern.Binding
import UrlRouting.Request
import UrlRouting.Route.Basic

/-!
# Matching a request

A route matches a request if the tokens of its host and of its path fit the pattern, and the
values obey the rules.  The values are the defaults, overlaid by the bound variables.
-/

namespace UrlRouting

/-- What a route makes of a request that it matches. -/
structure RouteData where
  values : Bindings Value
  dataTokens : Bindings Value
  handler : Handler

namespace Route

/-- The variables bound to the tokens of a request, if these fit the pattern. -/
def bind? (r : Route) (request : Request) : Option (Bindings Value) :=
  let host := bindTokens r.pattern.host (hostTokens request.host) .empty
  if host.fits then
    let path := bindTokens r.pattern.path (pathTokens request.path) host.values
    if path.fits then some path.values else none
  else none

/-- Matches a request. -/
def match? (r : Route) (request : Request) : Option RouteData :=
  match r.bind? request with
  | none => none
  | some bound =>
      let values := r.defaults.overlay bound
      if r.accepts values then
        some { values, dataTokens := r.dataTokens, handler := r.handler }
      else none

end Route

end UrlRouting
