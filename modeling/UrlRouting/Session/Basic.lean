import UrlRouting.Log
import UrlRouting.Session.Step

/-!
# Sessions

A session owns routes, tables and loggers, and answers one step after the other.  A step is an
`Action`: it changes the session and writes to the log as it goes on, and where it fails, what it
has done by then stays done.  Tables write a record for each registration and each answer; what is
asked of a route itself is not recorded.
-/

namespace UrlRouting

/-- The state of a session: all routes that something refers to, all tables there are, the
identifiers of some of them, and the loggers. -/
structure Session where
  store : RouteStore
  tables : List Table
  routeIds : Bindings RouteRef
  tableIds : Bindings TableRef
  loggers : Loggers

/-- How far a step has come: the session as it is by now, and what has been written to the log. -/
structure Progress where
  session : Session
  log : Text

/-- Something that is done in a session.  What has been changed and written stays so if it fails. -/
abbrev Action := EStateM StepFault Progress

/-- What a step comes to: its answer or its failure, what was written to the log, and the state
afterwards. -/
structure Outcome where
  result : Except StepFault Answer
  log : Text
  session : Session

namespace Action

variable {α : Type}

/-- Looks something up in the session as it is by now. -/
def look (f : Session → Except StepFault α) : Action α := fun p =>
  match f p.session with
  | .ok a => .ok a p
  | .error fault => .error fault p

/-- Goes on with a result that does not depend on the session. -/
def check (x : Except StepFault α) : Action α := look fun _ => x

/-- Changes the session. -/
def change (f : Session → Session) : Action Unit := fun p =>
  .ok () { p with session := f p.session }

/-- Reports a message to the logger with a name. -/
def report (name message : Text) : Action Unit := fun p =>
  .ok () { p with log := p.log ++ p.session.loggers.record name message }

end Action

namespace Session

open UrlRouting.Action

/-- A session without routes, tables and loggers. -/
def empty : Session := ⟨[], [], .empty, .empty, .empty⟩

/-! ## Looking things up -/

/-- The table at a place. -/
def tableAt? (s : Session) (ref : TableRef) : Except StepFault Table :=
  match s.tables[ref]? with
  | some t => .ok t
  | none => .error .unknownTable

/-- The table with an identifier, and its place. -/
def table? (s : Session) (id : Text) : Except StepFault (TableRef × Table) :=
  match s.tableIds.get? id with
  | some ref => (s.tableAt? ref).map (ref, ·)
  | none => .error .unknownTable

/-- The route with an identifier, and its place in the store. -/
def route? (s : Session) (id : Text) : Except StepFault (RouteRef × Route) :=
  match s.routeIds.get? id with
  | some ref =>
      match s.store[ref]? with
      | some route => .ok (ref, route)
      | none => .error .unknownRoute
  | none => .error .unknownRoute

/-- A result of constraints as the result of a step. -/
def liftConstraint {α : Type} : Except ConstraintFault α → Except StepFault α
  | .ok a => .ok a
  | .error cause => .error (.constraint cause)

/-- A result of a table as the result of a step. -/
def liftTable {α : Type} : Except TableFault α → Except StepFault α
  | .ok a => .ok a
  | .error cause => .error (.table cause)

/-- What a table shows of itself. -/
def tableState (s : Session) (t : Table) : Answer :=
  .tableState t.size ((t.candidates s.store).map (·.2.display))
    (t.named.entries.map fun e => (e.1, t.indexOf e.2))

/-! ## Changing things -/

/-- Puts a table behind all others and gives it an identifier. -/
def addTable (s : Session) (id : Text) (t : Table) : Session :=
  { s with tables := s.tables ++ [t], tableIds := s.tableIds.set id s.tables.length }

/-- Sets the logger of a table: everything is written for a table that is made for debugging, and
errors only for others. -/
def configureLogger (s : Session) (t : Table) : Session :=
  { s with loggers := s.loggers.configure t.name (if t.debug then .debug else .error) }

/-- Replaces a table by what becomes of it. -/
def updateTable (s : Session) (place : TableRef) (f : Table → Table) : Session :=
  { s with tables := s.tables.modify place f }

/-- Replaces a route in the store. -/
def replaceRoute (s : Session) (ref : RouteRef) (route : Route) : Session :=
  { s with store := s.store.set ref route }

/-- Gives an identifier to a route. -/
def identifyRoute (s : Session) (id : Text) (ref : RouteRef) : Session :=
  { s with routeIds := s.routeIds.set id ref }

/-- Puts a route at the end of the store, and says where that is. -/
def keep (route : Route) : Action RouteRef := do
  let ref ← look fun s => .ok s.store.length
  change fun s => { s with store := s.store ++ [route] }
  return ref

/-! ## Registrations -/

/-- Registers a route in the table at a place, under a name if one is given.  A route that has just
been made is kept from here on, when the table first refers to it: `refer` does so, and says where
the route is. -/
def enter (place : TableRef) (refer : Action RouteRef) (route : Route) (name : Option Text) :
    Action RouteRef := do
  let t ← look (·.tableAt? place)
  check (liftTable (t.checkName name))
  let ref ← refer
  change (·.updateTable place (·.bindName name ref))
  change (·.updateTable place (·.append ref))
  report t.name (Table.registrationMessage route name)
  return ref

/-- Makes a route and registers it.  Unexpected options are reported before bad rules, and these
before a name that is taken. -/
def addNew (tableId : Text) (r : Registration) : Action (RouteRef × Route) := do
  let (place, _) ← look (·.table? tableId)
  check (liftTable r.checkOptions)
  let route ← check (liftConstraint (Route.make? r.description))
  let ref ← enter place (keep route) route r.name
  return (ref, route)

/-! ## Questions -/

/-- Matches a query against a table. -/
def matchTable (t : Table) (query : Query) : Action (Option (RouteRef × Route × RouteData)) := do
  let request ← check query.request?
  let found ← look fun s => .ok (t.match? s.store request)
  report t.name (Table.matchMessage request found)
  return found

/-- Matches a query against a route or a table: the route that answers, where it is, and what it
makes of the request. -/
def matchTarget (target : Target) (query : Query) :
    Action (Option (Whereabouts × Route × RouteData)) :=
  match target with
  | .route id => do
      let (_, route) ← look (·.route? id)
      let request ← check query.request?
      return (route.match? request).map (.display route.display, route, ·)
  | .table id => do
      let (_, t) ← look (·.table? id)
      let found ← matchTable t query
      return found.map fun (ref, route, data) => (.index (t.indexOf ref), route, data)

/-- Generates a URL by a route or a table: where the route is that does it, and the URL. -/
def generateTarget (target : Target) (name : Option Text) (d : UrlDemand) :
    Action (Option (Whereabouts × VirtualPath)) :=
  match target with
  | .route id => do
      let (_, route) ← look (·.route? id)
      return (route.generate? d).map (.display route.display, ·)
  | .table id => do
      let (_, t) ← look (·.table? id)
      let found ← look fun s => liftTable (t.generate? s.store name d)
      report t.name (Table.generationMessage d found)
      return found.map fun (ref, _, path) => (.index (t.indexOf ref), path)

/-- Renders what a matched route leads to. -/
def render (data : RouteData) : Except StepFault Answer :=
  match data.handler with
  | .view view =>
      match view.render? data.values with
      | some t => .ok (.rendered t)
      | none => .error (.otherParameters view)
  | handler => .error (.notCallable handler)

/-- Matches a URL against a table and renders the view that it leads to.  The match is recorded
before the rendering, which may fail. -/
def dispatch (table : TableRef) (url : Text) : Action Answer := do
  let t ← look (·.tableAt? table)
  match ← matchTable t (.url url) with
  | none => return .rendered ("Not found" : Text)
  | some (_, _, data) => check (render data)

/-! ## Steps -/

/-- Makes a table without routes. -/
def makeTable (id name : Text) (configure debug : Bool) : Action Table := do
  let t := Table.empty name debug
  if configure then change (·.configureLogger t)
  change (·.addTable id t)
  return t

/-- What is done in a step. -/
def attempt : Step → Action Answer
  | .makeTable id name configure debug => do
      return .table (← makeTable id name configure debug)
  | .makeRoute id description => do
      let route ← check (liftConstraint (Route.make? description))
      let ref ← keep route
      change (·.identifyRoute id ref)
      return .route route
  | .add tableId registration id => do
      let (ref, route) ← addNew tableId registration
      change fun s => id.elim s (s.identifyRoute · ref)
      return .route route
  | .decorate tableId registration => do
      let _ ← addNew tableId registration
      return .handler registration.description.handler
  | .addRoute tableId routeId name => do
      let (place, _) ← look (·.table? tableId)
      let (ref, route) ← look (·.route? routeId)
      let _ ← enter place (pure ref) route name
      return .route route
  | .setPattern routeId urlPattern => do
      let (ref, route) ← look (·.route? routeId)
      let route := route.withPattern urlPattern
      change (·.replaceRoute ref route)
      return .routeState route
  | .setConstraints routeId constraints => do
      let (ref, route) ← look (·.route? routeId)
      let route ← check (liftConstraint (route.withConstraints? constraints))
      change (·.replaceRoute ref route)
      return .routeState route
  | .inspect (.route id) => do
      let (_, route) ← look (·.route? id)
      return .routeState route
  | .inspect (.table id) => do
      let (_, t) ← look (·.table? id)
      look fun s => .ok (s.tableState t)
  | .get tableId name => do
      let (_, t) ← look (·.table? tableId)
      return .place ((t.named.get? name).map t.indexOf)
  | .matchRequest target query => do
      let found ← matchTarget target query
      return .matched (found.map fun (place, _, data) => (place, data))
  | .generate target name d => do
      let found ← generateTarget target name d
      return .generated found
  | .rematch target url => do
      let found ← matchTarget target (.url url)
      return .rematched (found.map fun (_, route, data) =>
        (data.values, (route.generate? ⟨none, some data.values, none⟩).map VirtualPath.text))
  | .dispatch table url => dispatch table url

/-- Answers a step. -/
def step (s : Session) (step : Step) : Outcome :=
  match attempt step ⟨s, []⟩ with
  | .ok answer p => ⟨.ok answer, p.log, p.session⟩
  | .error fault p => ⟨.error fault, p.log, p.session⟩

/-- Answers steps one after the other: the results with the records, and the state at the
end. -/
def run (s : Session) : List Step → List (Except StepFault Answer × Text) × Session
  | [] => ([], s)
  | step :: steps =>
      let outcome := s.step step
      let (rest, last) := outcome.session.run steps
      ((outcome.result, outcome.log) :: rest, last)

end Session

end UrlRouting
