import UrlRouting.Proofs.Session.Effect

/-!
# Steps that fail

A step that fails has changed nothing and written nothing: `leavesNoTrace_attempt` reads this off the
order in which steps check and change things.  The exception is a dispatch whose URL can be read: its
match has been recorded when the rendering fails.  It too leaves the session.  With the effects of steps that go
through this gives `of_effect` and `run_invariant`, which carry a property from effects to steps and
from steps to whole runs.
-/

namespace UrlRouting

namespace Session

open UrlRouting.Action

variable {p : Progress}

/-! ## No trace -/

/-- A route is entered behind the check of its name: all that follows is bound to go through. -/
theorem leavesNoTrace_enter {place : TableRef} {refer : Action RouteRef} (hrefer : refer.GoesThrough)
    (r : Route) (name : Option Text) : (enter place refer r name).LeavesNoTrace := by
  refine (onlyLooks_look _).bind fun t => (onlyLooks_check _).bind fun _ => ?_
  refine (hrefer.bind fun ref => ?_).leavesNoTrace
  exact (goesThrough_change _).bind fun _ => (goesThrough_change _).bind fun _ =>
    (goesThrough_report _ _).bind fun _ => goesThrough_pure _

theorem goesThrough_keep (r : Route) : (keep r).GoesThrough := fun _ => ⟨_, _, rfl⟩

/-- A route that is refused by the table has been made for nothing: it is kept only when the table
takes it. -/
theorem leavesNoTrace_addNew (tableId : Text) (registration : Registration) :
    (addNew tableId registration).LeavesNoTrace :=
  (onlyLooks_look _).bind fun _ => (onlyLooks_check _).bind fun _ => (onlyLooks_check _).bind fun r =>
    (leavesNoTrace_enter (goesThrough_keep r) r _).bind fun _ => goesThrough_pure _

/-- A match is recorded when all that may fail has been done. -/
theorem leavesNoTrace_matchTable (t : Table) (query : Query) :
    (matchTable t query).LeavesNoTrace := by
  refine (onlyLooks_check _).bind fun _ => (onlyLooks_look _).bind fun _ => ?_
  exact ((goesThrough_report _ _).bind fun _ => goesThrough_pure _).leavesNoTrace

theorem leavesNoTrace_matchTarget (target : Target) (query : Query) :
    (matchTarget target query).LeavesNoTrace := by
  cases target with
  | route id =>
    exact (onlyLooks_look _).bind fun _ =>
      (onlyLooks_check _).leavesNoTrace.bind fun _ => goesThrough_pure _
  | table id =>
    exact (onlyLooks_look _).bind fun found =>
      (leavesNoTrace_matchTable found.2 query).bind fun _ => goesThrough_pure _

theorem leavesNoTrace_generateTarget (target : Target) (name : Option Text) (d : UrlDemand) :
    (generateTarget target name d).LeavesNoTrace := by
  cases target with
  | route id => exact (onlyLooks_look _).leavesNoTrace.bind fun _ => goesThrough_pure _
  | table id =>
    refine (onlyLooks_look _).bind fun _ => (onlyLooks_look _).bind fun _ => ?_
    exact ((goesThrough_report _ _).bind fun _ => goesThrough_pure _).leavesNoTrace

/-- A dispatch whose URL cannot be read is refused before its match is recorded. -/
theorem leavesNoTrace_dispatch {url : Text} (hurl : (Request.ofUrl url).isOk = false)
    (place : TableRef) : (dispatch place url).LeavesNoTrace := by
  refine (onlyLooks_look _).bind fun t => ?_
  intro p fault p' h
  obtain ⟨cause, hcause⟩ : ∃ cause, Request.ofUrl url = .error cause := by
    cases hof : Request.ofUrl url with
    | error cause => exact ⟨cause, rfl⟩
    | ok request =>
      rw [hof] at hurl
      cases hurl
  have hrefused : matchTable t (.url url) p = .error (.url cause) p := matchTable_of_refused hcause
  rcases Action.bind_eq_error_iff.1 h with hmatch | ⟨_, _, hmatch, -⟩
  · exact (leavesNoTrace_matchTable t _) p fault p' hmatch
  · rw [hrefused] at hmatch
    cases hmatch

/-- **A step that fails leaves no trace.**  Whatever may fail in it comes before its first change and
before its record.  A dispatch whose URL can be read is the exception: its match has been recorded
when the rendering fails. -/
theorem leavesNoTrace_attempt {step : Step}
    (hdispatch : ∀ table url, step = .dispatch table url → (Request.ofUrl url).isOk = false) :
    (attempt step).LeavesNoTrace := by
  cases step with
  | makeTable id name configure debug =>
    cases configure <;> exact fun _ _ _ h => by cases h
  | makeRoute id d =>
    refine (onlyLooks_check _).bind fun r => ((goesThrough_keep r).bind fun _ => ?_).leavesNoTrace
    exact (goesThrough_change _).bind fun _ => goesThrough_pure _
  | add tableId registration id =>
    exact (leavesNoTrace_addNew tableId registration).bind fun _ =>
      (goesThrough_change _).bind fun _ => goesThrough_pure _
  | decorate tableId registration =>
    exact (leavesNoTrace_addNew tableId registration).bind fun _ => goesThrough_pure _
  | addRoute tableId routeId name =>
    exact (onlyLooks_look _).bind fun _ => (onlyLooks_look _).bind fun found =>
      (leavesNoTrace_enter (goesThrough_pure found.1) _ _).bind fun _ => goesThrough_pure _
  | setPattern routeId urlPattern =>
    exact (onlyLooks_look _).leavesNoTrace.bind fun _ =>
      (goesThrough_change _).bind fun _ => goesThrough_pure _
  | setConstraints routeId rules =>
    exact (onlyLooks_look _).bind fun _ => (onlyLooks_check _).leavesNoTrace.bind fun _ =>
      (goesThrough_change _).bind fun _ => goesThrough_pure _
  | inspect target =>
    cases target with
    | route id => exact (onlyLooks_look _).leavesNoTrace.bind fun _ => goesThrough_pure _
    | table id => exact (onlyLooks_look _).bind fun _ => (onlyLooks_look _).leavesNoTrace
  | get tableId name => exact (onlyLooks_look _).leavesNoTrace.bind fun _ => goesThrough_pure _
  | matchRequest target query =>
    exact (leavesNoTrace_matchTarget target query).bind fun _ => goesThrough_pure _
  | generate target name d =>
    exact (leavesNoTrace_generateTarget target name d).bind fun _ => goesThrough_pure _
  | rematch target url =>
    exact (leavesNoTrace_matchTarget target _).bind fun _ => goesThrough_pure _
  | dispatch table url => exact leavesNoTrace_dispatch (hdispatch table url rfl) table

/-! ## From actions to steps -/

variable {s : Session} {step : Step} {answer : Answer} {fault : StepFault}

/-- What a step comes to if it goes through. -/
theorem step_of_ok (h : attempt step ⟨s, []⟩ = .ok answer p) :
    s.step step = ⟨.ok answer, p.log, p.session⟩ := by
  rw [Session.step, h]

/-- What it comes to if it fails. -/
theorem step_of_error (h : attempt step ⟨s, []⟩ = .error fault p) :
    s.step step = ⟨.error fault, p.log, p.session⟩ := by
  rw [Session.step, h]

/-- A step that answers goes through. -/
theorem exists_attempt_of_result_eq_ok (h : (s.step step).result = .ok answer) :
    ∃ p, attempt step ⟨s, []⟩ = .ok answer p := by
  rw [Session.step] at h
  split at h
  · next hattempt =>
    cases h
    exact ⟨_, hattempt⟩
  · cases h

/-- A step with a fault fails. -/
theorem exists_attempt_of_result_eq_error (h : (s.step step).result = .error fault) :
    ∃ p, attempt step ⟨s, []⟩ = .error fault p := by
  rw [Session.step] at h
  split at h
  · cases h
  · next hattempt =>
    cases h
    exact ⟨_, hattempt⟩

/-- What a step does to the session if it answers. -/
theorem effect_of_result_eq_ok (h : (s.step step).result = .ok answer) :
    Effect s step (s.step step).session := by
  obtain ⟨p, hp⟩ := exists_attempt_of_result_eq_ok h
  rw [step_of_ok hp]
  exact effect_attempt hp

/-- A step that fails leaves the session as it was, and no trace in the log either, unless it is a
dispatch whose match had been recorded. -/
theorem step_of_result_eq_error (h : (s.step step).result = .error fault) :
    (s.step step).session = s ∧
      ((∀ table url, step = .dispatch table url → (Request.ofUrl url).isOk = false) →
        (s.step step).log = []) := by
  obtain ⟨p, hp⟩ := exists_attempt_of_result_eq_error h
  rw [step_of_error hp]
  by_cases hdispatch :
    ∀ table url, step = .dispatch table url → (Request.ofUrl url).isOk = false
  · rw [leavesNoTrace_attempt hdispatch _ _ _ hp]
    exact ⟨rfl, fun _ => rfl⟩
  · refine ⟨?_, fun hnone => absurd hnone hdispatch⟩
    push Not at hdispatch
    obtain ⟨table, url, rfl, -⟩ := hdispatch
    exact (keepsSession_dispatch table url _).2 _ _ hp

/-- A table is made, and its logger is set, in any case. -/
theorem session_makeTable (s : Session) (id name : Text) (configure debug : Bool) :
    (s.step (.makeTable id name configure debug)).session =
      { s with
        tables := s.tables ++ [.empty name debug]
        tableIds := s.tableIds.set id s.tables.length
        loggers :=
          if configure then s.loggers.configure name (if debug then .debug else .error)
          else s.loggers } := by
  cases configure <;> rfl

/-! ## From effects to runs -/

/-- What holds of a session and of all that a step may make of it holds after the step. -/
theorem of_effect {P : Session → Prop} {s : Session} {step : Step} (hsame : P s)
    (heffect : ∀ s', Effect s step s' → P s') : P (s.step step).session := by
  cases hresult : (s.step step).result with
  | error fault =>
    rw [(step_of_result_eq_error hresult).1]
    exact hsame
  | ok answer => exact heffect _ (effect_of_result_eq_ok hresult)

/-- What every step keeps, a whole run keeps. -/
theorem run_invariant {P : Session → Prop} (hstep : ∀ s step, P s → P (s.step step).session)
    {s : Session} (h : P s) (steps : List Step) : P (s.run steps).2 := by
  induction steps generalizing s with
  | nil => exact h
  | cons step steps ih => exact ih (hstep s step h)

end Session

end UrlRouting
