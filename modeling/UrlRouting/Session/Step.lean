import UrlRouting.Table.Basic

/-!
# Steps of a session

What can be asked of a session, and what it answers.  Routes and tables go by names that the
session gives them; whoever asks names the route or the table that is meant.
-/

namespace UrlRouting

/-- What a step works on. -/
inductive Target
  | route (id : Text)
  | table (id : Text)
  deriving Repr, DecidableEq

/-- What is matched: a URL, or a request that is already split. -/
inductive Query
  | url (t : Text)
  | request (r : Request)
  deriving Repr, DecidableEq

/-- A registration: a route, the name it goes by, and options that nobody knows. -/
structure Registration where
  description : RouteDescription
  name : Option Text
  unexpected : List Text

/-- Refuses options that nobody knows. -/
def Registration.checkOptions (r : Registration) : Except TableFault Unit :=
  if r.unexpected = [] then .ok () else .error (.unexpectedOptions r.unexpected.eraseDups)

/-- A step. -/
inductive Step
  /-- Makes a table; `configure` sets its logger. -/
  | makeTable (id name : Text) (configure debug : Bool)
  /-- Makes a route. -/
  | makeRoute (id : Text) (description : RouteDescription)
  /-- Makes a route and registers it. -/
  | add (table : Text) (registration : Registration) (id : Option Text)
  /-- Makes a route to a handler, registers it and answers the handler. -/
  | decorate (table : Text) (registration : Registration)
  /-- Registers a route. -/
  | addRoute (table route : Text) (name : Option Text)
  /-- Replaces the pattern of a route. -/
  | setPattern (route : Text) (urlPattern : Option Text)
  /-- Replaces the rules of a route. -/
  | setConstraints (route : Text) (constraints : Option (Bindings Value))
  /-- Shows a route or a table. -/
  | inspect (target : Target)
  /-- Looks a route up by its name in a table. -/
  | get (table name : Text)
  /-- Matches a request. -/
  | matchRequest (target : Target) (query : Query)
  /-- Generates a URL; a name counts for tables only. -/
  | generate (target : Target) (name : Option Text) (demand : UrlDemand)
  /-- Matches a URL and generates one from the values of the answer. -/
  | rematch (target : Target) (url : Text)
  /-- Matches a URL against the table at a place and renders the view that it leads to. -/
  | dispatch (table : TableRef) (url : Text)

/-- The route that answered: by its first place in the table that was asked, or as it shows if it
was asked itself. -/
inductive Whereabouts
  | index (n : Nat)
  | display (t : Text)
  deriving Repr, DecidableEq

/-- What a step answers. -/
inductive Answer
  | table (t : Table)
  | route (r : Route)
  | handler (h : Handler)
  | routeState (r : Route)
  | tableState (size : Nat) (routes : List Text) (named : List (Text × Nat))
  | place (index : Option Nat)
  | matched (found : Option (Whereabouts × RouteData))
  | generated (found : Option (Whereabouts × VirtualPath))
  | rematched (found : Option (Bindings Value × Option Text))
  | rendered (t : Text)

/-- Why a step fails. -/
inductive StepFault
  | unknownTable
  | unknownRoute
  | constraint (cause : ConstraintFault)
  | table (cause : TableFault)
  | url (cause : UrlFault)
  /-- The matched route leads to something that does not render. -/
  | notCallable (handler : Handler)
  /-- The matched route leads to a view that takes other values. -/
  | otherParameters (view : View)
  deriving Repr, DecidableEq

/-- The wording of a failure. -/
def StepFault.message : StepFault → Text
  | unknownTable => ("unknown table" : Text)
  | unknownRoute => ("unknown route" : Text)
  | constraint cause => cause.message
  | table cause => cause.message
  | url cause => cause.message
  | notCallable (.label _) => ("'str' object is not callable" : Text)
  | notCallable _ => ("'NoneType' object is not callable" : Text)
  | otherParameters view =>
      ("the view takes the values " : Text) ++ Text.join (", " : Text) view.parameters

/-- The request that a query asks for. -/
def Query.request? : Query → Except StepFault Request
  | .request r => .ok r
  | .url t =>
      match Request.ofUrl t with
      | .ok r => .ok r
      | .error cause => .error (.url cause)

end UrlRouting
