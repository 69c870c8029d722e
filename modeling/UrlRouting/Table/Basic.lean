import UrlRouting.Route.Generate
import UrlRouting.Route.Match

/-!
# Route tables

A table holds routes in the order of their registration, and some of them under names.  Routes
are kept in a common store, and a table refers to them by their places there: one route may be
in several tables, and several times in one.
-/

namespace UrlRouting

/-- All routes there are, in the order in which they were made. -/
abbrev RouteStore := List Route

/-- The place of a route in the store. -/
abbrev RouteRef := Nat

/-- The place of a table among all tables. -/
abbrev TableRef := Nat

/-- A table of routes. -/
structure Table where
  name : Text
  debug : Bool
  routes : List RouteRef
  named : Bindings RouteRef

/-- Why a table refuses. -/
inductive TableFault
  /-- The name is taken. -/
  | duplicateName (name : Text)
  /-- No route is registered under the name. -/
  | unknownName (name : Text)
  /-- A registration carries options that there are not. -/
  | unexpectedOptions (names : List Text)
  deriving Repr, DecidableEq

/-- The wording of a refusal. -/
def TableFault.message : TableFault → Text
  | duplicateName name =>
      ("Duplicate route name detected: \"" : Text) ++ name ++
        ("\"\nRoute names must be unique." : Text)
  | unknownName name => Text.quoted name
  | unexpectedOptions names =>
      ("TypeError: add() got unexpected keyword arguments: " : Text) ++
        Text.join (", " : Text) names

namespace Table

/-- The name of a table that is given none. -/
def defaultName : Text := ("absolute_router" : Text)

/-- A table without routes. -/
def empty (name : Text) (debug : Bool) : Table := ⟨name, debug, [], .empty⟩

/-- The number of registrations. -/
def size (t : Table) : Nat := t.routes.length

/-- Refuses a name that is taken. -/
def checkName (t : Table) : Option Text → Except TableFault Unit
  | none => .ok ()
  | some name => if t.named.contains name then .error (.duplicateName name) else .ok ()

/-- Binds a name to a route, if one is given. -/
def bindName (t : Table) (name : Option Text) (ref : RouteRef) : Table :=
  match name with
  | none => t
  | some name => { t with named := t.named.set name ref }

/-- Puts a route behind all others. -/
def append (t : Table) (ref : RouteRef) : Table := { t with routes := t.routes ++ [ref] }

/-- The first place of a route among the registrations. -/
def indexOf (t : Table) (ref : RouteRef) : Nat := t.routes.idxOf ref

/-- The routes with their places in the store. -/
def candidates (t : Table) (store : RouteStore) : List (RouteRef × Route) :=
  t.routes.filterMap fun ref => store[ref]?.map (ref, ·)

/-- The first route that matches a request, and what it makes of it. -/
def match? (t : Table) (store : RouteStore) (request : Request) :
    Option (RouteRef × Route × RouteData) :=
  (t.candidates store).findSome? fun (ref, route) =>
    (route.match? request).map (ref, route, ·)

/-- The routes that may generate a URL: the one with the name if a name is given, else all. -/
def generators (t : Table) (store : RouteStore) (name : Option Text) :
    Except TableFault (List (RouteRef × Route)) :=
  match name with
  | none => .ok (t.candidates store)
  | some name =>
      match t.named.get? name with
      | none => .error (.unknownName name)
      | some ref => .ok (store[ref]?.map (ref, ·)).toList

/-- The first of the routes that generates a URL, and the URL. -/
def generate? (t : Table) (store : RouteStore) (name : Option Text) (d : UrlDemand) :
    Except TableFault (Option (RouteRef × Route × VirtualPath)) := do
  let routes ← t.generators store name
  return routes.findSome? fun (ref, route) => (route.generate? d).map (ref, route, ·)

/-! ## What a table reports -/

/-- The report of a registration. -/
def registrationMessage (route : Route) (name : Option Text) : Text :=
  ("Registered route " : Text) ++ Text.quoted route.urlPattern ++ (" as " : Text) ++
    name.elim ("None" : Text) Text.quoted

/-- The report of an answer to a request. -/
def matchMessage (request : Request) : Option (RouteRef × Route × RouteData) → Text
  | some (_, route, _) =>
      request.host ++ request.path ++ (" matched " : Text) ++ Text.quoted route.urlPattern
  | none =>
      ("No route for: " : Text) ++ request.scheme ++ ("://" : Text) ++ request.host ++ request.path

/-- The report of a generated URL. -/
def generationMessage (d : UrlDemand) : Option (RouteRef × Route × VirtualPath) → Text
  | some (_, route, path) =>
      ("Generated " : Text) ++ Text.quoted path.text ++ (" from " : Text) ++
        Text.quoted route.urlPattern
  | none =>
      ("No route can generate a url for: " : Text) ++ (d.values.getD .empty).display

end Table

end UrlRouting
