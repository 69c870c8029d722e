import UrlRouting.Proofs.Session.Report

/-!
# What a session writes

Tables share their loggers by name, so whether a call on a table is recorded depends on all tables
that have been made before.  `Session.orderly_run` says that however many tables set a logger, its
handler is added once, `Session.isLoud_run_iff` after which steps a name is written for, and
`Session.one_record_for_each_loud_call` what both mean for every call.
-/

namespace UrlRouting

/-! ## The level of a name -/

/-- A name for tables whose logger is no other one's: it is not the root's, and dots would make it
a child of another logger's. -/
structure PlainName (name : Text) : Prop where
  ne_nil : name ≠ []
  ne_root : name ≠ Loggers.rootName
  no_dot : '.' ∉ name
  no_newline : '\n' ∉ name

namespace Step

/-- Tables are made under plain names only. -/
def NamesPlainly : Step → Prop
  | .makeTable _ name _ _ => PlainName name
  | _ => True

/-- Whether the logger with a name is to write everything from a step on, or errors only, if the step
makes a table that sets this logger. -/
def configures? (name : Text) : Step → Option Bool
  | .makeTable _ other true debug => if other = name then some debug else none
  | _ => none

theorem configures?_of_not_plain {name : Text} (hname : ¬ PlainName name) {step : Step}
    (hplain : step.NamesPlainly) : step.configures? name = none := by
  unfold configures?
  split
  · next other debug =>
    refine if_neg ?_
    rintro rfl
    exact hname hplain
  · rfl

end Step

namespace Session

open UrlRouting.Action

/-- Whether what tables with a name report is written after some steps: a table with the name has set
its logger, and the last one to do so was made for debugging. -/
def Loud (name : Text) (steps : List Step) : Prop :=
  (steps.filterMap (Step.configures? name)).getLast? = some true

/-- No table sets the logger of a name that is not plain. -/
theorem filterMap_configures?_eq_nil {name : Text} (hname : ¬ PlainName name) {steps : List Step}
    (hplain : ∀ step ∈ steps, step.NamesPlainly) :
    steps.filterMap (Step.configures? name) = [] :=
  List.filterMap_eq_nil_iff.2 fun step hstep =>
    Step.configures?_of_not_plain hname (hplain step hstep)

/-- A name is loud only if a table was made under it. -/
theorem Loud.plainName {name : Text} {steps : List Step} (h : Loud name steps)
    (hplain : ∀ step ∈ steps, step.NamesPlainly) : PlainName name := by
  by_contra hname
  rw [Loud, filterMap_configures?_eq_nil hname hplain] at h
  cases h

/-- What a logger is when a table has set it. -/
def configuredFor (debug : Bool) : Logger := ⟨some (if debug then .debug else .error), [.output], false⟩

variable {s : Session} {step : Step} {t : Table}

/-- Only the making of a table sets a logger. -/
theorem loggers_step (h : ∀ id name configure debug, step ≠ .makeTable id name configure debug) :
    (s.step step).session.loggers = s.loggers := by
  refine of_effect (P := fun s' => s'.loggers = s.loggers) rfl fun s' heffect => ?_
  cases heffect with
  | tableMade id name configure debug => exact absurd rfl (h id name configure debug)
  | _ => rfl

/-- No effect adds a second handler to a logger. -/
theorem Effect.orderly {s s' : Session} (heffect : Effect s step s') (h : s.loggers.Orderly) :
    s'.loggers.Orderly := by
  cases heffect with
  | tableMade id name configure debug =>
    cases configure with
    | false => exact h
    | true => exact h.configure name _
  | _ => exact h

/-- A step keeps the loggers orderly. -/
theorem orderly_step (h : s.loggers.Orderly) (step : Step) :
    (s.step step).session.loggers.Orderly :=
  of_effect (P := fun s' => s'.loggers.Orderly) h fun _ heffect => heffect.orderly h

/-- A whole session keeps the loggers orderly. -/
theorem orderly_run (h : s.loggers.Orderly) (steps : List Step) :
    (s.run steps).2.loggers.Orderly :=
  run_invariant (P := fun s' => s'.loggers.Orderly) (fun _ step h => orderly_step h step) h steps

/-- The logger with a name after a step: as the step sets it, or else as before. -/
theorem get?_loggers_step (h : s.loggers.Orderly) (hplain : step.NamesPlainly) (name : Text) :
    Bindings.get? (s.step step).session.loggers name =
      ((step.configures? name).map configuredFor).or (Bindings.get? s.loggers name) := by
  cases step with
  | makeTable id other configure debug =>
    have hother : Loggers.canonicalName other = other := if_neg hplain.ne_nil
    rw [session_makeTable]
    cases configure with
    | false => rfl
    | true =>
      dsimp only
      rw [if_pos rfl, h.get?_configure, hother, Step.configures?]
      by_cases hname : name = other
      · rw [if_pos hname, if_pos hname.symm]
        rfl
      · rw [if_neg hname, if_neg (Ne.symm hname)]
        rfl
  | _ =>
    rw [loggers_step (by simp)]
    rfl

/-- The logger with a name after a run: as the last step that set it has done, or else as before. -/
theorem get?_loggers_run (h : s.loggers.Orderly) {steps : List Step}
    (hplain : ∀ step ∈ steps, step.NamesPlainly) (name : Text) :
    Bindings.get? (s.run steps).2.loggers name =
      ((steps.filterMap (Step.configures? name)).getLast?.map configuredFor).or
        (Bindings.get? s.loggers name) := by
  induction steps generalizing s with
  | nil => rfl
  | cons step steps ih =>
    have hrun : (s.run (step :: steps)).2 = ((s.step step).session.run steps).2 := rfl
    rw [hrun, ih (orderly_step h step) fun st hst => hplain st (List.mem_cons_of_mem _ hst),
      get?_loggers_step h (hplain step List.mem_cons_self), List.filterMap_cons]
    cases step.configures? name with
    | none => rfl
    | some debug =>
      rw [List.getLast?_cons]
      cases (steps.filterMap (Step.configures? name)).getLast? <;> rfl

/-- The logger with a name at a moment of a session: as the last table that set it has done. -/
theorem get?_loggers_run_empty {steps : List Step} (hplain : ∀ step ∈ steps, step.NamesPlainly)
    (name : Text) : Bindings.get? (Session.empty.run steps).2.loggers name =
      (steps.filterMap (Step.configures? name)).getLast?.map configuredFor := by
  rw [get?_loggers_run Loggers.orderly_empty hplain]
  exact Option.or_none

/-- A logger that no table sets, because of its name. -/
theorem get?_loggers_run_of_not_plain {steps : List Step}
    (hplain : ∀ step ∈ steps, step.NamesPlainly) {name : Text} (hname : ¬ PlainName name) :
    Bindings.get? (Session.empty.run steps).2.loggers name = none := by
  rw [get?_loggers_run_empty hplain, filterMap_configures?_eq_nil hname hplain]
  rfl

/-- What no table sets under a name that is not plain is not set under another spelling of it. -/
theorem not_plainName_canonicalName {name : Text} (hname : ¬ PlainName name) :
    ¬ PlainName (Loggers.canonicalName name) := by
  rw [Loggers.canonicalName]
  split
  · exact fun h => h.ne_root rfl
  · exact hname

/-- A logger writes debugging messages, once each, while its name is loud. -/
theorem isLoud_run_iff {steps : List Step} (hplain : ∀ step ∈ steps, step.NamesPlainly)
    (name : Text) : (Session.empty.run steps).2.loggers.IsLoud name ↔ Loud name steps := by
  have hroot := get?_loggers_run_of_not_plain hplain fun h : PlainName Loggers.rootName =>
    h.ne_root rfl
  have hunset (hnone : Bindings.get? (Session.empty.run steps).2.loggers
      (Loggers.canonicalName name) = none) :
      ¬ (Session.empty.run steps).2.loggers.IsLoud name := by
    intro hloud
    have htakes := hloud.takesDebug_eq
    rw [Loggers.takesDebug_of_unset hroot hnone] at htakes
    cases htakes
  by_cases hname : PlainName name
  · have hlogger : Bindings.get? (Session.empty.run steps).2.loggers (Loggers.canonicalName name) =
        (steps.filterMap (Step.configures? name)).getLast?.map configuredFor := by
      rw [Loggers.canonicalName, if_neg hname.ne_nil]
      exact get?_loggers_run_empty hplain name
    rw [Loud]
    cases hlast : (steps.filterMap (Step.configures? name)).getLast? with
    | none =>
      rw [hlast] at hlogger
      exact iff_of_false (hunset hlogger) (by simp)
    | some debug =>
      rw [hlast] at hlogger
      rw [Loggers.isLoud_iff_of_configured hlogger]
      cases debug <;> simp
  · have hquiet : ¬ Loud name steps := fun h => hname (h.plainName hplain)
    exact iff_of_false
      (hunset (get?_loggers_run_of_not_plain hplain (not_plainName_canonicalName hname))) hquiet

/-- The handlers of a logger at a moment of a session: none until a table sets the logger, and one
from then on, whatever other tables do. -/
theorem handlers_logger_run {steps : List Step} (hplain : ∀ step ∈ steps, step.NamesPlainly)
    (name : Text) : ((Session.empty.run steps).2.loggers.logger name).handlers =
      if steps.filterMap (Step.configures? name) = [] then [] else [.output] := by
  by_cases hname : PlainName name
  · have hcanonical : Loggers.canonicalName name = name := if_neg hname.ne_nil
    have hlogger := get?_loggers_run_empty hplain name
    split
    · next hnone =>
      rw [hnone] at hlogger
      exact Loggers.handlers_logger_of_unset (by rw [hcanonical]; exact hlogger)
    · next hsome =>
      rw [Loggers.logger, hcanonical, hlogger, List.getLast?_eq_some_getLast hsome]
      rfl
  · rw [if_pos (filterMap_configures?_eq_nil hname hplain)]
    exact Loggers.handlers_logger_of_unset
      (get?_loggers_run_of_not_plain hplain (not_plainName_canonicalName hname))

/-! ## Calls on tables -/

/-- Whether the call on a table that a step makes comes back.  The match of a dispatch does so if the
URL can be read, whatever becomes of the rendering. -/
def CallReturns (s : Session) : Step → Prop
  | .dispatch _ url => (Request.ofUrl url).isOk = true
  | step => (s.step step).result.isOk = true

/-- The calls of other steps come back if and only if the steps answer. -/
theorem callReturns_iff (hdispatch : ∀ place url, step ≠ .dispatch place url) :
    s.CallReturns step ↔ (s.step step).result.isOk = true := by
  cases step with
  | dispatch place url => exact absurd rfl (hdispatch place url)
  | _ => exact Iff.rfl

/-- What a dispatch writes: its match is recorded if the URL can be read. -/
theorem log_step_dispatch {place : TableRef} {url : Text} :
    (∃ t message, s.Reports (.dispatch place url) t message ∧ s.CallReturns (.dispatch place url) ∧
        (s.step (.dispatch place url)).log = s.loggers.record t.name message) ∨
      ((∀ t, s.reportingTable? (.dispatch place url) = some t →
          ¬ s.CallReturns (.dispatch place url)) ∧
        (s.step (.dispatch place url)).log = []) := by
  cases htable : s.tables[place]? with
  | none =>
    right
    have hmissing : s.tableAt? place = .error .unknownTable := by
      rw [tableAt?, htable]
    refine ⟨fun t ht => ?_, ?_⟩
    · rw [reportingTable?, htable] at ht
      cases ht
    · rw [step_of_error (look_bind_of_error hmissing)]
  | some t =>
    cases hurl : Request.ofUrl url with
    | ok request =>
      refine .inl ⟨t, _, .dispatched htable (request?_url_eq_ok_iff.2 hurl), ?_, ?_⟩
      · rw [CallReturns, hurl]
        rfl
      · rw [step_dispatch htable hurl]
    | error cause =>
      refine .inr ⟨fun _ _ hreturns => ?_, ?_⟩
      · rw [CallReturns, hurl] at hreturns
        cases hreturns
      · rw [step_dispatch_of_refused htable hurl]

/-- A step either makes a call on a table that comes back, and writes the record of what it reports, or
it writes nothing. -/
theorem log_step (s : Session) (step : Step) :
    (∃ t message, s.Reports step t message ∧ s.CallReturns step ∧
        (s.step step).log = s.loggers.record t.name message) ∨
      ((∀ t, s.reportingTable? step = some t → ¬ s.CallReturns step) ∧ (s.step step).log = []) := by
  by_cases hdispatch : ∃ place url, step = .dispatch place url
  · obtain ⟨place, url, rfl⟩ := hdispatch
    exact log_step_dispatch
  · push Not at hdispatch
    rw [callReturns_iff hdispatch]
    cases hresult : (s.step step).result with
    | error fault => exact .inr ⟨fun _ _ => nofun, (step_of_result_eq_error hresult).2
        fun place url h => absurd h (hdispatch place url)⟩
    | ok answer =>
      obtain ⟨p, hp⟩ := exists_attempt_of_result_eq_ok hresult
      rw [step_of_ok hp]
      rcases reports_of_attempt hp with ⟨t, message, hreports, hlog⟩ | ⟨hnone, hlog⟩
      · exact .inl ⟨t, message, hreports, rfl, hlog⟩
      · refine .inr ⟨fun t ht => ?_, hlog⟩
        rw [hnone] at ht
        cases ht

/-! ## Whole sessions -/

/-- **One record for each loud call.**  At any moment of a session, a call on a table that registers a
route, or asks for a match or a URL, writes exactly one record of what it reports if it comes back
and the name of the table is loud.  No other step writes anything: calls that fail, calls on tables
whose name is not loud, calls on routes, and all steps that make or show something.  However many
tables share a name, a handler has been added to its logger once, if any of them set it. -/
theorem one_record_for_each_loud_call (before : List Step) (step : Step)
    (hplain : ∀ st ∈ before, st.NamesPlainly) (hurl : step.AsksByUrl) :
    let s := (Session.empty.run before).2
    (∀ t, s.reportingTable? step = some t → s.CallReturns step → Loud t.name before →
      ∃ message, s.Reports step t message ∧ IsRecordOf t.name message (s.step step).log) ∧
    ((∀ t, s.reportingTable? step = some t → s.CallReturns step → ¬ Loud t.name before) →
      (s.step step).log = []) ∧
    ∀ name, (s.loggers.logger name).handlers =
      if before.filterMap (Step.configures? name) = [] then [] else [.output] := by
  intro s
  have hloud_iff (name : Text) : s.loggers.IsLoud name ↔ Loud name before :=
    isLoud_run_iff hplain name
  refine ⟨?_, ?_, handlers_logger_run hplain⟩
  · intro t htable hreturns hloud
    rcases s.log_step step with ⟨u, message, hreports, -, hlog⟩ | ⟨hnot, -⟩
    · obtain rfl : u = t := Option.some.inj (hreports.reportingTable?_eq.symm.trans htable)
      have hname := hloud.plainName hplain
      refine ⟨message, hreports, ?_⟩
      rw [hlog]
      exact ((hloud_iff _).2 hloud).isRecordOf_record hname.ne_nil hname.no_newline
        (hreports.newline_not_mem hurl)
    · exact absurd hreturns (hnot t htable)
  · intro hquiet
    rcases s.log_step step with ⟨t, message, hreports, hreturns, hlog⟩ | ⟨-, hlog⟩
    · have hnot := hquiet t hreports.reportingTable?_eq hreturns
      rw [hlog]
      exact (orderly_run Loggers.orderly_empty before).record_eq_nil
        (fun hloud => hnot ((hloud_iff _).1 hloud)) message
    · exact hlog

/-- Two tables under one name, the first of which sets the logger. -/
def twoTables : List Step :=
  [.makeTable "a".toList "app".toList true true, .makeTable "b".toList "app".toList false false]

/-- A third one that sets it to errors only. -/
def silenced : List Step := twoTables ++ [.makeTable "c".toList "app".toList true false]

/-- A match whose URL has a line end in it. -/
def matchOnSecond : Step := .matchRequest (.table "b".toList) (.url "http://h/x\ny".toList)

theorem one_record_for_each_loud_call_twoTables :
    (∃ message, IsRecordOf "app".toList message
      ((Session.empty.run twoTables).2.step matchOnSecond).log) ∧
      ((Session.empty.run silenced).2.step matchOnSecond).log = [] ∧
      ((Session.empty.run silenced).2.loggers.logger "app".toList).handlers = [.output] := by
  have happ : PlainName "app".toList := ⟨by decide, by decide, by decide, by decide⟩
  have htwo : ∀ st ∈ twoTables, st.NamesPlainly := by
    simpa [twoTables, Step.NamesPlainly] using happ
  have hthree : ∀ st ∈ silenced, st.NamesPlainly := by
    simpa [silenced, twoTables, Step.NamesPlainly] using happ
  obtain ⟨hloud, -, -⟩ := one_record_for_each_loud_call twoTables matchOnSecond htwo trivial
  obtain ⟨-, hquiet, hhandlers⟩ :=
    one_record_for_each_loud_call silenced matchOnSecond hthree trivial
  refine ⟨?_, ?_, hhandlers "app".toList⟩
  · obtain ⟨message, -, hrecord⟩ := hloud ⟨"app".toList, false, [], .empty⟩ rfl rfl rfl
    exact ⟨message, hrecord⟩
  · apply hquiet
    rintro t htable - hname
    cases htable
    cases hname

end Session

end UrlRouting
