import UrlRouting.Proofs.Log
import UrlRouting.Proofs.Session.Registration
import UrlRouting.Proofs.Text.SingleLine
import UrlRouting.Proofs.Url.Split

/-!
# What steps report

Calls on tables report to the loggers of these.  `Session.reports_of_attempt` says which message a
step reports, and that nothing else is written, `Session.step_dispatch` the same for dispatches, which
may fail afterwards, and `Session.Reports.newline_not_mem` that every message stands in a single line.
-/

namespace UrlRouting

/-! ## Messages in single lines -/

namespace Table

theorem newline_not_mem_registrationMessage (r : Route) (name : Option Text) :
    '\n' ∉ registrationMessage r name := by
  unfold registrationMessage
  cases name with
  | none => simp [Text.newline_not_mem_quoted]
  | some name => simp [Text.newline_not_mem_quoted]

theorem newline_not_mem_matchMessage {request : Request} (h : request.NewlineFree)
    (found : Option (RouteRef × Route × RouteData)) : '\n' ∉ matchMessage request found := by
  unfold matchMessage
  cases found with
  | none => simp [h.scheme, h.host, h.path]
  | some found => simp [h.host, h.path, Text.newline_not_mem_quoted]

theorem newline_not_mem_generationMessage (d : UrlDemand)
    (found : Option (RouteRef × Route × VirtualPath)) : '\n' ∉ generationMessage d found := by
  unfold generationMessage
  cases found with
  | none =>
    have hvalues : '\n' ∉ (d.values.getD .empty).display := Value.newline_not_mem_display _
    simp [hvalues]
  | some found => simp [Text.newline_not_mem_quoted]

end Table

/-! ## Records -/

/-- One record of a message: a line with the name of the logger and the level in front of the message,
whose only line end is its last character. -/
def IsRecordOf (name message log : Text) : Prop :=
  log = '[' :: (name ++ ("] - [DEBUG] - " : Text) ++ message ++ ['\n']) ∧ log.count '\n' = 1

/-- A loud logger writes a message as one record. -/
theorem Loggers.IsLoud.isRecordOf_record {loggers : Loggers} {name message : Text}
    (h : loggers.IsLoud name) (hne : name ≠ []) (hname : '\n' ∉ name) (hmessage : '\n' ∉ message) :
    IsRecordOf name message (loggers.record name message) := by
  have hrecord : loggers.record name message =
      '[' :: (name ++ ("] - [DEBUG] - " : Text) ++ message ++ ['\n']) := by
    rw [h.record_eq, line, canonicalName, if_neg hne]
  have hlabel : '\n' ∉ ("] - [DEBUG] - " : Text) := by simp
  refine ⟨hrecord, ?_⟩
  rw [hrecord, List.count_cons_of_ne (by decide), List.count_append, List.count_append,
    List.count_append, List.count_eq_zero_of_not_mem hname, List.count_eq_zero_of_not_mem hlabel,
    List.count_eq_zero_of_not_mem hmessage]
  rfl

/-! ## What a step reports -/

namespace Session

open UrlRouting.Action

variable {s : Session} {step : Step} {t : Table} {p p' : Progress} {answer : Answer}

/-- The table that a step registers a route in, or asks for a match or a URL, if there is one.  A
route that is asked itself has no table. -/
def reportingTable? (s : Session) : Step → Option Table
  | .add id _ _ | .decorate id _ | .addRoute id _ _ | .matchRequest (.table id) _
  | .generate (.table id) _ _ | .rematch (.table id) _ => (s.table? id).toOption.map Prod.snd
  | .dispatch place _ => s.tables[place]?
  | _ => none

/-- The messages that steps report to the logger of a table. -/
inductive Reports (s : Session) : Step → Table → Text → Prop
  | added {id : Text} {place : TableRef} {t : Table} {registration : Registration} {step : Step}
      {r : Route} (hadds : step.Adds id registration) (htable : s.table? id = .ok (place, t))
      (hmake : Route.make? registration.description = .ok r) :
      Reports s step t (Table.registrationMessage r registration.name)
  | entered {id routeId : Text} {place : TableRef} {t : Table} {ref : RouteRef} {r : Route}
      {name : Option Text} (htable : s.table? id = .ok (place, t))
      (hroute : s.route? routeId = .ok (ref, r)) :
      Reports s (.addRoute id routeId name) t (Table.registrationMessage r name)
  | matched {id : Text} {query : Query} {place : TableRef} {t : Table} {request : Request}
      (htable : s.table? id = .ok (place, t)) (hrequest : query.request? = .ok request) :
      Reports s (.matchRequest (.table id) query) t
        (Table.matchMessage request (t.match? s.store request))
  | rematched {id url : Text} {place : TableRef} {t : Table} {request : Request}
      (htable : s.table? id = .ok (place, t)) (hrequest : (Query.url url).request? = .ok request) :
      Reports s (.rematch (.table id) url) t
        (Table.matchMessage request (t.match? s.store request))
  | dispatched {place : TableRef} {url : Text} {t : Table} {request : Request}
      (htable : s.tables[place]? = some t) (hrequest : (Query.url url).request? = .ok request) :
      Reports s (.dispatch place url) t (Table.matchMessage request (t.match? s.store request))
  | generated {id : Text} {name : Option Text} {d : UrlDemand} {place : TableRef} {t : Table}
      {found : Option (RouteRef × Route × VirtualPath)} (htable : s.table? id = .ok (place, t))
      (hfound : t.generate? s.store name d = .ok found) :
      Reports s (.generate (.table id) name d) t (Table.generationMessage d found)

/-- A step reports to the table that it works on. -/
theorem Reports.reportingTable?_eq {message : Text} (h : s.Reports step t message) :
    s.reportingTable? step = some t := by
  cases h with
  | added hadds htable =>
    cases hadds <;>
    · rw [reportingTable?, htable]
      rfl
  | dispatched htable => exact htable
  | _ htable =>
    rw [reportingTable?, htable]
    rfl

/-- A table that is asked for a match records what it has found. -/
theorem log_of_matchTarget_table {id : Text} {query : Query}
    {found : Option (Whereabouts × Route × RouteData)}
    (h : matchTarget (.table id) query p = .ok found p') :
    ∃ place t request, p.session.table? id = .ok (place, t) ∧ query.request? = .ok request ∧
      p'.log = p.log ++ p.session.loggers.record t.name
        (Table.matchMessage request (t.match? p.session.store request)) := by
  obtain ⟨⟨place, t⟩, htable, h⟩ := look_bind_eq_ok_iff.1 h
  obtain ⟨found', _, hmatch, h⟩ := Action.bind_eq_ok_iff.1 h
  obtain ⟨request, hrequest, rfl, rfl⟩ := matchTable_eq_ok_iff.1 hmatch
  cases h
  exact ⟨place, t, request, htable, hrequest, rfl⟩

/-- A route that is asked itself writes nothing. -/
theorem log_of_matchTarget_route {id : Text} {query : Query}
    {found : Option (Whereabouts × Route × RouteData)}
    (h : matchTarget (.route id) query p = .ok found p') : p'.log = p.log := by
  obtain ⟨_, -, h⟩ := look_bind_eq_ok_iff.1 h
  obtain ⟨_, -, h⟩ := check_bind_eq_ok_iff.1 h
  cases h
  rfl

/-- A step that goes through adds to the log the record that it reports, or it has nothing to report
and adds nothing. -/
theorem reports_of_attempt (h : attempt step p = .ok answer p') :
    (∃ t message, p.session.Reports step t message ∧
        p'.log = p.log ++ p.session.loggers.record t.name message) ∨
      (p.session.reportingTable? step = none ∧ p'.log = p.log) := by
  cases step with
  | makeTable id name configure debug => cases configure <;> (cases h; exact .inr ⟨rfl, rfl⟩)
  | makeRoute id d =>
    obtain ⟨_, -, h⟩ := check_bind_eq_ok_iff.1 h
    cases h
    exact .inr ⟨rfl, rfl⟩
  | add id registration routeId =>
    obtain ⟨⟨ref, r⟩, _, hadd, h⟩ := Action.bind_eq_ok_iff.1 h
    obtain ⟨place, t, htable, -, hmake, -, rfl, rfl⟩ := addNew_eq_ok_iff.1 hadd
    cases h
    exact .inl ⟨t, _, .added (.add routeId) htable hmake, rfl⟩
  | decorate id registration =>
    obtain ⟨⟨ref, r⟩, _, hadd, h⟩ := Action.bind_eq_ok_iff.1 h
    obtain ⟨place, t, htable, -, hmake, -, rfl, rfl⟩ := addNew_eq_ok_iff.1 hadd
    cases h
    exact .inl ⟨t, _, .added .decorate htable hmake, rfl⟩
  | addRoute id routeId name =>
    obtain ⟨place, t, ref, r, htable, hroute, -, rfl⟩ := exists_of_addRoute_eq_ok h
    exact .inl ⟨t, _, .entered htable hroute, rfl⟩
  | setPattern routeId urlPattern =>
    obtain ⟨_, -, h⟩ := look_bind_eq_ok_iff.1 h
    cases h
    exact .inr ⟨rfl, rfl⟩
  | setConstraints routeId rules =>
    obtain ⟨_, -, h⟩ := look_bind_eq_ok_iff.1 h
    obtain ⟨_, -, h⟩ := check_bind_eq_ok_iff.1 h
    cases h
    exact .inr ⟨rfl, rfl⟩
  | inspect target =>
    cases target <;> (obtain ⟨_, -, h⟩ := look_bind_eq_ok_iff.1 h; cases h; exact .inr ⟨rfl, rfl⟩)
  | get id name =>
    obtain ⟨_, -, h⟩ := look_bind_eq_ok_iff.1 h
    cases h
    exact .inr ⟨rfl, rfl⟩
  | matchRequest target query =>
    obtain ⟨found, _, hmatch, h⟩ := Action.bind_eq_ok_iff.1 h
    cases h
    cases target with
    | route id => exact .inr ⟨rfl, log_of_matchTarget_route hmatch⟩
    | table id =>
      obtain ⟨place, t, request, htable, hrequest, hlog⟩ := log_of_matchTarget_table hmatch
      exact .inl ⟨t, _, .matched htable hrequest, hlog⟩
  | rematch target url =>
    obtain ⟨found, _, hmatch, h⟩ := Action.bind_eq_ok_iff.1 h
    cases h
    cases target with
    | route id => exact .inr ⟨rfl, log_of_matchTarget_route hmatch⟩
    | table id =>
      obtain ⟨place, t, request, htable, hrequest, hlog⟩ := log_of_matchTarget_table hmatch
      exact .inl ⟨t, _, .rematched htable hrequest, hlog⟩
  | generate target name d =>
    obtain ⟨found, _, hgenerate, h⟩ := Action.bind_eq_ok_iff.1 h
    cases h
    cases target with
    | route id =>
      obtain ⟨_, -, h⟩ := look_bind_eq_ok_iff.1 hgenerate
      cases h
      exact .inr ⟨rfl, rfl⟩
    | table id =>
      obtain ⟨⟨place, t⟩, htable, h⟩ := look_bind_eq_ok_iff.1 hgenerate
      obtain ⟨found', hfound, h⟩ := look_bind_eq_ok_iff.1 h
      cases h
      exact .inl ⟨t, _, .generated htable (liftTable_eq_ok_iff.1 hfound), rfl⟩
  | dispatch place url =>
    obtain ⟨t, htable, h⟩ := look_bind_eq_ok_iff.1 h
    obtain ⟨found, _, hmatch, h⟩ := Action.bind_eq_ok_iff.1 h
    obtain ⟨request, hrequest, hfound, rfl⟩ := matchTable_eq_ok_iff.1 hmatch
    refine .inl ⟨t, _, .dispatched (tableAt?_eq_ok_iff.1 htable) hrequest, ?_⟩
    rw [← hfound]
    cases found with
    | none =>
      cases h
      rfl
    | some found => rw [← (check_eq_ok_iff.1 h).2]

/-! ## Matches and dispatches by URLs -/

/-- A URL that is asked for asks for its request, if it can be read. -/
theorem request?_url_eq_ok_iff {url : Text} {request : Request} :
    (Query.url url).request? = .ok request ↔ Request.ofUrl url = .ok request := by
  rw [Query.request?]
  cases Request.ofUrl url <;> simp

/-- What a dispatch comes to for a URL that can be read.  The record is written whatever becomes of the
rendering. -/
theorem step_dispatch {place : TableRef} {url : Text} {request : Request}
    (htable : s.tables[place]? = some t) (hurl : Request.ofUrl url = .ok request) :
    s.step (.dispatch place url) =
      ⟨match t.match? s.store request with
        | none => .ok (.rendered "Not found".toList)
        | some (_, _, data) => render data,
        s.loggers.record t.name (Table.matchMessage request (t.match? s.store request)), s⟩ := by
  have hmatch := (matchTable_eq_ok_iff (t := t) (p := ⟨s, []⟩)).2
    ⟨request, request?_url_eq_ok_iff.2 hurl, rfl, rfl⟩
  rw [Session.step, attempt, dispatch, look_bind_of_ok (tableAt?_eq_ok_iff.2 htable),
    bind_of_ok hmatch]
  cases t.match? s.store request with
  | none => rfl
  | some found =>
    obtain ⟨ref, r, data⟩ := found
    cases hrender : render data with
    | ok answer => simp only [check, look, hrender, List.nil_append]
    | error fault => simp only [check, look, hrender, List.nil_append]

/-- Nothing comes of a dispatch whose URL cannot be read. -/
theorem step_dispatch_of_refused {place : TableRef} {url : Text} {cause : UrlFault}
    (htable : s.tables[place]? = some t) (hurl : Request.ofUrl url = .error cause) :
    s.step (.dispatch place url) = ⟨.error (.url cause), [], s⟩ := by
  have hdispatch : attempt (.dispatch place url) ⟨s, []⟩ = .error (.url cause) ⟨s, []⟩ := by
    rw [attempt, dispatch, look_bind_of_ok (tableAt?_eq_ok_iff.2 htable)]
    exact Action.bind_eq_error_iff.2 (.inl (matchTable_of_refused hurl))
  rw [step_of_error hdispatch]

end Session

/-- Whether a step asks by URLs: no request is handed in that is already split. -/
def Step.AsksByUrl : Step → Prop
  | .matchRequest _ (.request _) => False
  | _ => True

namespace Session

variable {s : Session} {step : Step} {t : Table}

/-- Every message that is reported for a URL stands in a single line. -/
theorem Reports.newline_not_mem {message : Text} (h : s.Reports step t message)
    (hurl : step.AsksByUrl) : '\n' ∉ message := by
  -- What is asked for by a URL has no line ends, since these are taken out of the URL first.
  have hfree : ∀ url request, (Query.url url).request? = .ok request → request.NewlineFree :=
    fun url request hrequest => Request.newlineFree_of_ofUrl (request?_url_eq_ok_iff.1 hrequest)
  cases h with
  | added => exact Table.newline_not_mem_registrationMessage _ _
  | entered => exact Table.newline_not_mem_registrationMessage _ _
  | @matched id query place t request htable hrequest =>
    cases query with
    | url url => exact Table.newline_not_mem_matchMessage (hfree url _ hrequest) _
    | request r => exact hurl.elim
  | rematched _ hrequest => exact Table.newline_not_mem_matchMessage (hfree _ _ hrequest) _
  | dispatched _ hrequest => exact Table.newline_not_mem_matchMessage (hfree _ _ hrequest) _
  | generated => exact Table.newline_not_mem_generationMessage _ _

end Session

end UrlRouting
