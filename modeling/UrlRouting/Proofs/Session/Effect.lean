import Mathlib.Data.List.Basic
import UrlRouting.Proofs.Session.Action

/-!
# What steps do

Every way in which a step can change a session, with what has to hold for it, is a constructor of
`Session.Effect`.  The main statement is `effect_attempt`: a step that goes through has one of
these effects.  It is all that later proofs need of what the steps change.
-/

namespace UrlRouting

/-- Whether a step only asks for an answer. -/
def Step.asks : Step → Bool
  | .inspect _ | .get _ _ | .matchRequest _ _ | .generate _ _ _ | .rematch _ _ | .dispatch _ _ =>
      true
  | _ => false

/-- A table with one more route, under a name if one is given. -/
def Table.withEntry (t : Table) (ref : RouteRef) (name : Option Text) : Table :=
  (t.bindName name ref).append ref

namespace Session

open UrlRouting.Action

/-- What a step that goes through does to a session. -/
inductive Effect (s : Session) : Step → Session → Prop
  /-- A table is made at the end of the tables, and its logger may be set. -/
  | tableMade (id name : Text) (configure debug : Bool) :
      Effect s (.makeTable id name configure debug)
        { s with
          tables := s.tables ++ [.empty name debug]
          tableIds := s.tableIds.set id s.tables.length
          loggers :=
            if configure then s.loggers.configure name (if debug then .debug else .error)
            else s.loggers }
  /-- A route is made at the end of the store. -/
  | routeMade {id : Text} {d : RouteDescription} {r : Route} (hmake : Route.make? d = .ok r) :
      Effect s (.makeRoute id d)
        { s with store := s.store ++ [r], routeIds := s.routeIds.set id s.store.length }
  /-- A route is made and registered. -/
  | added {tableId : Text} {place : TableRef} {t : Table} {registration : Registration}
      {id : Option Text} {r : Route} (htable : s.table? tableId = .ok (place, t))
      (hoptions : registration.unexpected = [])
      (hmake : Route.make? registration.description = .ok r)
      (hname : t.checkName registration.name = .ok ()) :
      Effect s (.add tableId registration id)
        { s with
          store := s.store ++ [r]
          tables := s.tables.set place (t.withEntry s.store.length registration.name)
          routeIds := id.elim s.routeIds (s.routeIds.set · s.store.length) }
  /-- A route to a handler is made and registered. -/
  | decorated {tableId : Text} {place : TableRef} {t : Table} {registration : Registration}
      {r : Route} (htable : s.table? tableId = .ok (place, t))
      (hoptions : registration.unexpected = [])
      (hmake : Route.make? registration.description = .ok r)
      (hname : t.checkName registration.name = .ok ()) :
      Effect s (.decorate tableId registration)
        { s with
          store := s.store ++ [r]
          tables := s.tables.set place (t.withEntry s.store.length registration.name) }
  /-- A route that there is is registered. -/
  | entered {tableId routeId : Text} {place : TableRef} {t : Table} {ref : RouteRef} {r : Route}
      {name : Option Text} (htable : s.table? tableId = .ok (place, t))
      (hroute : s.route? routeId = .ok (ref, r)) (hname : t.checkName name = .ok ()) :
      Effect s (.addRoute tableId routeId name)
        { s with tables := s.tables.set place (t.withEntry ref name) }
  /-- A route is given another pattern. -/
  | patternSet {routeId : Text} {ref : RouteRef} {r : Route} {urlPattern : Option Text}
      (hroute : s.route? routeId = .ok (ref, r)) :
      Effect s (.setPattern routeId urlPattern) (s.replaceRoute ref (r.withPattern urlPattern))
  /-- A route is given other rules. -/
  | constraintsSet {routeId : Text} {ref : RouteRef} {r r' : Route}
      {rules : Option (Bindings Value)} (hroute : s.route? routeId = .ok (ref, r))
      (hrules : r.withConstraints? rules = .ok r') :
      Effect s (.setConstraints routeId rules) (s.replaceRoute ref r')
  /-- Nothing happens to the session. -/
  | asked {step : Step} (hasks : step.asks = true) : Effect s step s

/-! ## Results that went on as results of a step -/

theorem liftConstraint_eq_ok_iff {α : Type} {x : Except ConstraintFault α} {a : α} :
    liftConstraint x = .ok a ↔ x = .ok a := by
  cases x <;> simp [liftConstraint]

theorem liftConstraint_eq_error_iff {α : Type} {x : Except ConstraintFault α}
    {fault : ConstraintFault} :
    liftConstraint x = .error (.constraint fault) ↔ x = .error fault := by
  cases x <;> simp [liftConstraint]

theorem liftTable_eq_ok_iff {α : Type} {x : Except TableFault α} {a : α} :
    liftTable x = .ok a ↔ x = .ok a := by
  cases x <;> simp [liftTable]

theorem checkOptions_eq_ok_iff {registration : Registration} :
    registration.checkOptions = .ok () ↔ registration.unexpected = [] := by
  rw [Registration.checkOptions]
  split <;> simp_all

/-! ## The parts of the steps -/

theorem tableAt?_eq_ok_iff {s : Session} {place : TableRef} {t : Table} :
    s.tableAt? place = .ok t ↔ s.tables[place]? = some t := by
  unfold tableAt?
  cases s.tables[place]? <;> simp

/-- A table goes by an identifier if that stands for its place. -/
theorem table?_eq_ok_iff {s : Session} {id : Text} {place : TableRef} {t : Table} :
    s.table? id = .ok (place, t) ↔
      s.tableIds.get? id = some place ∧ s.tables[place]? = some t := by
  rw [← tableAt?_eq_ok_iff, table?]
  cases hid : s.tableIds.get? id with
  | none => simp
  | some ref =>
    cases ht : s.tableAt? ref with
    | error fault =>
      simp only [ht, Except.map, reduceCtorEq, Option.some.injEq, false_iff, not_and]
      rintro rfl
      simp [ht]
    | ok t' =>
      simp only [ht, Except.map, Except.ok.injEq, Prod.mk.injEq, Option.some.injEq]
      constructor
      · rintro ⟨rfl, rfl⟩
        exact ⟨rfl, ht⟩
      · rintro ⟨rfl, h⟩
        exact ⟨rfl, Except.ok.inj (ht.symm.trans h)⟩

/-- A route goes by an identifier if that stands for its place. -/
theorem route?_eq_ok_iff {s : Session} {id : Text} {ref : RouteRef} {r : Route} :
    s.route? id = .ok (ref, r) ↔ s.routeIds.get? id = some ref ∧ s.store[ref]? = some r := by
  unfold route?
  cases hid : s.routeIds.get? id with
  | none => simp
  | some place =>
    cases hr : s.store[place]? with
    | none =>
      simp only [hr, reduceCtorEq, Option.some.injEq, false_iff, not_and]
      rintro rfl
      simp [hr]
    | some r' =>
      simp only [hr, Except.ok.injEq, Prod.mk.injEq, Option.some.injEq]
      constructor
      · rintro ⟨rfl, rfl⟩
        exact ⟨rfl, hr⟩
      · rintro ⟨rfl, h⟩
        exact ⟨rfl, Option.some.inj (hr.symm.trans h)⟩

/-- What a registration writes to its table: the name is bound, and the route is put at the end. -/
theorem updateTable_updateTable {s : Session} {place : TableRef} {t : Table}
    (ht : s.tables[place]? = some t) (ref : RouteRef) (name : Option Text) :
    (s.updateTable place (·.bindName name ref)).updateTable place (·.append ref) =
      { s with tables := s.tables.set place (t.withEntry ref name) } := by
  have htables : (s.tables.modify place (·.bindName name ref)).modify place (·.append ref) =
      s.tables.set place (t.withEntry ref name) := by
    rw [List.modify_modify_eq, List.modify_eq_set_getElem?, ht]
    rfl
  simp only [updateTable, htables]

variable {p p' : Progress}

/-- A route goes to the end of the store. -/
theorem keep_eq_ok_iff {r : Route} {ref : RouteRef} :
    keep r p = .ok ref p' ↔ ref = p.session.store.length ∧
      p' = { p with session := { p.session with store := p.session.store ++ [r] } } := by
  show EStateM.Result.ok _ _ = EStateM.Result.ok _ _ ↔ _
  rw [EStateM.Result.ok.injEq, eq_comm, @eq_comm _ _ p']

/-- A route is registered if its name is not taken, and reported when it has been entered. -/
theorem enter_eq_ok_iff {place : TableRef} {refer : Action RouteRef} {r : Route}
    {name : Option Text} {ref : RouteRef} {p'' : Progress} :
    enter place refer r name p = .ok ref p'' ↔
      ∃ t p', p.session.tables[place]? = some t ∧ t.checkName name = .ok () ∧
        refer p = .ok ref p' ∧
        p'' = ⟨(p'.session.updateTable place (·.bindName name ref)).updateTable place (·.append ref),
          p'.log ++ p'.session.loggers.record t.name (Table.registrationMessage r name)⟩ := by
  rw [enter]
  constructor
  · intro h
    obtain ⟨t, ht, h⟩ := look_bind_eq_ok_iff.1 h
    obtain ⟨_, hname, h⟩ := check_bind_eq_ok_iff.1 h
    obtain ⟨ref', p', hrefer, h⟩ := Action.bind_eq_ok_iff.1 h
    cases h
    exact ⟨t, p', tableAt?_eq_ok_iff.1 ht, liftTable_eq_ok_iff.1 hname, hrefer, rfl⟩
  · rintro ⟨t, p', ht, hname, hrefer, rfl⟩
    rw [look_bind_of_ok (tableAt?_eq_ok_iff.2 ht), check_bind_of_ok (liftTable_eq_ok_iff.2 hname),
      bind_of_ok hrefer]
    rfl

/-- A route is made and registered if there are no faults: no options that nobody knows, no rules
that cannot be read, no name that is taken. -/
theorem addNew_eq_ok_iff {tableId : Text} {registration : Registration} {ref : RouteRef} {r : Route} :
    addNew tableId registration p = .ok (ref, r) p' ↔
      ∃ place t, p.session.table? tableId = .ok (place, t) ∧ registration.unexpected = [] ∧
        Route.make? registration.description = .ok r ∧ t.checkName registration.name = .ok () ∧
        ref = p.session.store.length ∧
        p' = ⟨{ p.session with
            store := p.session.store ++ [r]
            tables := p.session.tables.set place (t.withEntry ref registration.name) },
          p.log ++ p.session.loggers.record t.name
            (Table.registrationMessage r registration.name)⟩ := by
  rw [addNew]
  constructor
  · intro h
    obtain ⟨⟨place, t⟩, htable, h⟩ := look_bind_eq_ok_iff.1 h
    obtain ⟨_, hoptions, h⟩ := check_bind_eq_ok_iff.1 h
    obtain ⟨r', hmake, h⟩ := check_bind_eq_ok_iff.1 h
    obtain ⟨ref', p', henter, h⟩ := Action.bind_eq_ok_iff.1 h
    cases h
    obtain ⟨t', _, ht', hname, hkeep, rfl⟩ := enter_eq_ok_iff.1 henter
    obtain ⟨rfl, rfl⟩ := keep_eq_ok_iff.1 hkeep
    obtain rfl : t = t' := Option.some.inj ((table?_eq_ok_iff.1 htable).2.symm.trans ht')
    refine ⟨place, t, htable, checkOptions_eq_ok_iff.1 (liftTable_eq_ok_iff.1 hoptions),
      liftConstraint_eq_ok_iff.1 hmake, hname, rfl, ?_⟩
    rw [updateTable_updateTable (by exact ht')]
  · rintro ⟨place, t, htable, hoptions, hmake, hname, rfl, rfl⟩
    have ht := (table?_eq_ok_iff.1 htable).2
    have hkeep : keep r p = .ok p.session.store.length
        { p with session := { p.session with store := p.session.store ++ [r] } } := rfl
    have henter := (enter_eq_ok_iff (r := r)).2 ⟨t, _, ht, hname, hkeep, rfl⟩
    rw [updateTable_updateTable (by exact ht)] at henter
    rw [look_bind_of_ok htable]
    dsimp only
    rw [check_bind_of_ok (liftTable_eq_ok_iff.2 (checkOptions_eq_ok_iff.2 hoptions)),
      check_bind_of_ok (liftConstraint_eq_ok_iff.2 hmake), bind_of_ok henter]
    rfl

/-- A route that there is has been registered in the table, and was reported. -/
theorem exists_of_addRoute_eq_ok {tableId routeId : Text} {name : Option Text} {answer : Answer}
    (h : attempt (.addRoute tableId routeId name) p = .ok answer p') :
    ∃ place t ref r, p.session.table? tableId = .ok (place, t) ∧
      p.session.route? routeId = .ok (ref, r) ∧ t.checkName name = .ok () ∧
      p' = ⟨{ p.session with tables := p.session.tables.set place (t.withEntry ref name) },
        p.log ++ p.session.loggers.record t.name (Table.registrationMessage r name)⟩ := by
  obtain ⟨⟨place, t⟩, htable, h⟩ := look_bind_eq_ok_iff.1 h
  obtain ⟨⟨ref, r⟩, hroute, h⟩ := look_bind_eq_ok_iff.1 h
  obtain ⟨_, _, henter, h⟩ := Action.bind_eq_ok_iff.1 h
  obtain ⟨t', _, ht', hname, hrefer, rfl⟩ := enter_eq_ok_iff.1 henter
  cases hrefer
  cases h
  obtain rfl : t = t' := Option.some.inj ((table?_eq_ok_iff.1 htable).2.symm.trans ht')
  refine ⟨place, t, ref, r, htable, hroute, hname, ?_⟩
  rw [updateTable_updateTable ht']

/-- A table answers a query whose request can be read, and reports what it has found. -/
theorem matchTable_eq_ok_iff {t : Table} {query : Query}
    {found : Option (RouteRef × Route × RouteData)} :
    matchTable t query p = .ok found p' ↔ ∃ request, query.request? = .ok request ∧
      found = t.match? p.session.store request ∧
      p' = { p with
        log := p.log ++ p.session.loggers.record t.name (Table.matchMessage request found) } := by
  rw [matchTable, check_bind_eq_ok_iff]
  constructor
  · rintro ⟨request, hrequest, h⟩
    cases h
    exact ⟨request, hrequest, rfl, rfl⟩
  · rintro ⟨request, hrequest, rfl, rfl⟩
    exact ⟨request, hrequest, rfl⟩

/-- A match with a URL that cannot be read is refused before anything is recorded. -/
theorem matchTable_of_refused {t : Table} {url : Text} {cause : UrlFault}
    (hurl : Request.ofUrl url = .error cause) :
    matchTable t (.url url) p = .error (.url cause) p := by
  have hrequest : (Query.url url).request? = .error (.url cause) := by
    rw [Query.request?, hurl]
  exact check_bind_of_error hrequest

/-! ## Steps that go through -/

/-- Questions leave the session as it is. -/
theorem keepsSession_matchTable (t : Table) (query : Query) : (matchTable t query).KeepsSession :=
  (onlyLooks_check _).keepsSession.bind fun _ => (onlyLooks_look _).keepsSession.bind fun _ =>
    (keepsSession_report _ _).bind fun _ => keepsSession_pure _

theorem keepsSession_matchTarget (target : Target) (query : Query) :
    (matchTarget target query).KeepsSession := by
  cases target with
  | route id =>
    exact (onlyLooks_look _).keepsSession.bind fun _ => (onlyLooks_check _).keepsSession.bind fun _ =>
      keepsSession_pure _
  | table id =>
    exact (onlyLooks_look _).keepsSession.bind fun found =>
      (keepsSession_matchTable found.2 query).bind fun _ => keepsSession_pure _

theorem keepsSession_generateTarget (target : Target) (name : Option Text) (d : UrlDemand) :
    (generateTarget target name d).KeepsSession := by
  cases target with
  | route id => exact (onlyLooks_look _).keepsSession.bind fun _ => keepsSession_pure _
  | table id =>
    exact (onlyLooks_look _).keepsSession.bind fun _ => (onlyLooks_look _).keepsSession.bind fun _ =>
      (keepsSession_report _ _).bind fun _ => keepsSession_pure _

theorem keepsSession_dispatch (table : TableRef) (url : Text) :
    (dispatch table url).KeepsSession := by
  refine (onlyLooks_look _).keepsSession.bind fun t => (keepsSession_matchTable t _).bind fun found => ?_
  cases found with
  | none => exact keepsSession_pure _
  | some found => exact (onlyLooks_check _).keepsSession

theorem keepsSession_attempt {step : Step} (hasks : step.asks = true) :
    (attempt step).KeepsSession := by
  cases step with
  | inspect target =>
    cases target with
    | route id => exact (onlyLooks_look _).keepsSession.bind fun _ => keepsSession_pure _
    | table id => exact (onlyLooks_look _).keepsSession.bind fun _ => (onlyLooks_look _).keepsSession
  | get tableId name => exact (onlyLooks_look _).keepsSession.bind fun _ => keepsSession_pure _
  | matchRequest target query =>
    exact (keepsSession_matchTarget target query).bind fun _ => keepsSession_pure _
  | generate target name d =>
    exact (keepsSession_generateTarget target name d).bind fun _ => keepsSession_pure _
  | rematch target url =>
    exact (keepsSession_matchTarget target _).bind fun _ => keepsSession_pure _
  | dispatch table url => exact keepsSession_dispatch table url
  | _ => cases hasks

/-- What a step that goes through does to the session. -/
theorem effect_attempt {step : Step} {answer : Answer} (h : attempt step p = .ok answer p') :
    Effect p.session step p'.session := by
  have hasked (hasks : step.asks = true) : Effect p.session step p'.session := by
    rw [(keepsSession_attempt hasks p).1 answer p' h]
    exact .asked hasks
  cases step with
  | makeTable id name configure debug =>
    cases configure <;> (cases h; exact .tableMade id name _ debug)
  | makeRoute id d =>
    obtain ⟨r, hmake, h⟩ := check_bind_eq_ok_iff.1 h
    cases h
    exact .routeMade (liftConstraint_eq_ok_iff.1 hmake)
  | add tableId registration id =>
    obtain ⟨⟨ref, r⟩, _, hadd, h⟩ := Action.bind_eq_ok_iff.1 h
    obtain ⟨place, t, htable, hoptions, hmake, hname, rfl, rfl⟩ := addNew_eq_ok_iff.1 hadd
    cases h
    cases id <;> exact .added htable hoptions hmake hname
  | decorate tableId registration =>
    obtain ⟨⟨ref, r⟩, _, hadd, h⟩ := Action.bind_eq_ok_iff.1 h
    obtain ⟨place, t, htable, hoptions, hmake, hname, rfl, rfl⟩ := addNew_eq_ok_iff.1 hadd
    cases h
    exact .decorated htable hoptions hmake hname
  | addRoute tableId routeId name =>
    obtain ⟨place, t, ref, r, htable, hroute, hname, rfl⟩ := exists_of_addRoute_eq_ok h
    exact .entered htable hroute hname
  | setPattern routeId urlPattern =>
    obtain ⟨⟨ref, r⟩, hroute, h⟩ := look_bind_eq_ok_iff.1 h
    cases h
    exact .patternSet hroute
  | setConstraints routeId rules =>
    obtain ⟨⟨ref, r⟩, hroute, h⟩ := look_bind_eq_ok_iff.1 h
    obtain ⟨r', hr', h⟩ := check_bind_eq_ok_iff.1 h
    cases h
    exact .constraintsSet hroute (liftConstraint_eq_ok_iff.1 hr')
  | _ => exact hasked rfl

end Session

end UrlRouting
