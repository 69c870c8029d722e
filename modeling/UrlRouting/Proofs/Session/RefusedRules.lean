import UrlRouting.Proofs.Regex.Oversize
import UrlRouting.Proofs.Route.FirstFault
import UrlRouting.Proofs.Route.RuleLanguage
import UrlRouting.Proofs.Session.Registration

/-!
# Rules that are refused

A step that gives rules to a route answers, or it reports one of the rules that is faulty, by its name
and with the pattern of the route: `rules_are_read_or_reported`.  There is one exception.  A number in
a rule that is not representable ends the step with a failure that names neither.  By
`route?_run_assignments` the assignments of `Route.assignAll` are steps of this kind.
-/

namespace UrlRouting

/-- One of the rules is a text with an oversized number. -/
def HoldOversized (rules : Option (Bindings Value)) (cause : Regex.Limit) : Prop :=
  ∃ mapping name t, rules = some mapping ∧ (name, Value.text t) ∈ mapping.entries ∧
    Regex.Oversized t cause

/-- A fault names one of the rules, what is wrong with it and the pattern of the route. -/
def ConstraintFault.Names (fault : ConstraintFault) (urlPattern : Text)
    (rules : Option (Bindings Value)) : Prop :=
  ∃ mapping name rule cause, rules = some mapping ∧ (name, rule) ∈ mapping.entries ∧
    HasFault rule cause ∧ fault = .rule name urlPattern cause

/-- Rules are refused by a fault that names one of them, or over an oversized number. -/
theorem names_or_oversized {urlPattern : Text} {rules : Option (Bindings Value)}
    {fault : ConstraintFault} (h : readChecks urlPattern rules = .error fault) :
    fault.Names urlPattern rules ∨ ∃ cause, HoldOversized rules cause ∧ fault = .limit cause := by
  cases rules with
  | none => cases h
  | some mapping =>
    obtain ⟨before, name, rule, behind, hsplit, -, hcheck⟩ := readChecks_eq_error_iff.1 h
    have hmem : (name, rule) ∈ mapping.entries := by
      rw [hsplit]
      exact List.mem_append_cons_self
    rcases readCheck_eq_error_iff.1 hcheck with ⟨cause, hcause, rfl⟩ | ⟨cause, ⟨t, rfl, ht⟩, rfl⟩
    · exact .inl ⟨mapping, name, rule, cause, rfl, hmem, hcause, rfl⟩
    · exact .inr ⟨cause, ⟨mapping, name, t, rfl, hmem, Regex.oversized_of_compile ht⟩, rfl⟩

/-- The steps that give rules to a route with a pattern: it is made, is given other rules, or is made
and registered.  The registration itself is one that the table does not refuse. -/
inductive Step.GivesRules (s : Session) (urlPattern : Text) (rules : Option (Bindings Value)) :
    Step → Prop
  | make {id : Text} {d : RouteDescription} (hpattern : d.urlPattern.getD [] = urlPattern)
      (hrules : d.constraints = rules) : GivesRules s urlPattern rules (.makeRoute id d)
  | assign {id : Text} {ref : RouteRef} {r : Route} (hroute : s.route? id = .ok (ref, r))
      (hpattern : r.urlPattern = urlPattern) : GivesRules s urlPattern rules (.setConstraints id rules)
  | register {id : Text} {place : TableRef} {t : Table} {registration : Registration} {step : Step}
      (htable : s.table? id = .ok (place, t)) (hadds : step.Adds id registration)
      (hoptions : registration.unexpected = [])
      (hfree : ∀ name, registration.name = some name → t.named.contains name = false)
      (hpattern : registration.description.urlPattern.getD [] = urlPattern)
      (hrules : registration.description.constraints = rules) : GivesRules s urlPattern rules step

/-- The result is an answer, or a fault that names one of the rules. -/
inductive AnswersOrReports (urlPattern : Text) (rules : Option (Bindings Value)) :
    Except StepFault Answer → Prop
  | answers (answer : Answer) : AnswersOrReports urlPattern rules (.ok answer)
  | reports {fault : ConstraintFault} (hnames : fault.Names urlPattern rules) :
      AnswersOrReports urlPattern rules (.error (.constraint fault))

/-- The step that makes an assignment to the route with an identifier. -/
def Assignment.step (id : Text) : Assignment → Step
  | pattern urlPattern => .setPattern id urlPattern
  | constraints rules => .setConstraints id rules

namespace Session

open UrlRouting.Action

variable {s : Session} {urlPattern : Text} {rules : Option (Bindings Value)} {step : Step}

/-- What an assignment of rules comes to. -/
theorem result_setConstraints {id : Text} {ref : RouteRef} {r : Route}
    (hroute : s.route? id = .ok (ref, r)) (rules : Option (Bindings Value)) :
    (s.step (.setConstraints id rules)).result =
      match r.withConstraints? rules with
      | .ok ruled => .ok (.routeState ruled)
      | .error fault => .error (.constraint fault) := by
  rw [Session.step, attempt, look_bind_of_ok hroute]
  dsimp only
  cases hruled : r.withConstraints? rules with
  | ok ruled =>
    rw [check_bind_of_ok (liftConstraint_eq_ok_iff.2 rfl)]
    rfl
  | error fault => rw [check_bind_of_error (liftConstraint_eq_error_iff.2 rfl)]

/-- A step that gives rules to a route answers, or fails because they are refused. -/
theorem answers_or_refuses (hgives : step.GivesRules s urlPattern rules) :
    (∃ answer, (s.step step).result = .ok answer) ∨ ∃ fault,
      readChecks urlPattern rules = .error fault ∧
        (s.step step).result = .error (.constraint fault) := by
  cases hgives with
  | @make id d hpattern hrules =>
    subst hpattern hrules
    cases hmake : Route.make? d with
    | ok r =>
      rw [Session.step, attempt, check_bind_of_ok (liftConstraint_eq_ok_iff.2 hmake)]
      exact .inl ⟨_, rfl⟩
    | error fault =>
      rw [Session.step, attempt, check_bind_of_error (liftConstraint_eq_error_iff.2 hmake)]
      exact .inr ⟨fault, Route.make?_eq_error_iff.1 hmake, rfl⟩
  | @assign id ref r hroute hpattern =>
    subst hpattern
    rw [result_setConstraints hroute]
    cases hruled : r.withConstraints? rules with
    | ok ruled => exact .inl ⟨_, rfl⟩
    | error fault => exact .inr ⟨fault, (r.withConstraints?_eq_error_iff _ _).1 hruled, rfl⟩
  | @register id place t registration _ htable hadds hoptions hfree hpattern hrules =>
    subst hpattern hrules
    have hreports := reportsFirstFault htable hadds
    cases hmake : Route.make? registration.description with
    | ok r => exact .inl (hreports.answer hoptions (by rw [hmake]; rfl) hfree)
    | error fault =>
      exact .inr ⟨fault, Route.make?_eq_error_iff.1 hmake, hreports.rules hoptions fault hmake⟩

/-- **Rules are read or reported.**  Whatever the rules are, a step that gives them to a route answers, or
it fails with a fault that names one of them, which is no text or no regular expression, and the pattern
of the route.  Only where a rule holds an oversized number, a step may fail because of that limit
instead. -/
theorem rules_are_read_or_reported (hgives : step.GivesRules s urlPattern rules) :
    AnswersOrReports urlPattern rules (s.step step).result ∨
      ∃ cause, HoldOversized rules cause ∧
        (s.step step).result = .error (.constraint (.limit cause)) := by
  rcases answers_or_refuses hgives with ⟨answer, hanswer⟩ | ⟨fault, hrefused, hfault⟩
  · rw [hanswer]
    exact .inl (.answers answer)
  · rw [hfault]
    rcases names_or_oversized hrefused with hnames | ⟨cause, hholds, rfl⟩
    · exact .inl (.reports hnames)
    · exact .inr ⟨cause, hholds, rfl⟩

/-- Rules of which both are faulty, for the counts of the first one are in the wrong order. -/
def awkwardRules : Bindings Value :=
  .ofList [("area".toList, .text "x\x7b12,3\x7d".toList), ("id".toList, .int 5)]

/-- A registration with these rules. -/
def awkward : Registration := plainRegistration "\x7bid\x7d" (some awkwardRules) none []

theorem rules_are_read_or_reported_awkward :
    let s := (Session.empty.run opened).2
    AnswersOrReports "\x7bid\x7d".toList (some awkwardRules)
      (s.step (.makeRoute "q".toList awkward.description)).result ∧
    AnswersOrReports "\x7barea\x7d".toList (some awkwardRules)
      (s.step (.setConstraints "r".toList (some awkwardRules))).result ∧
    AnswersOrReports "\x7bid\x7d".toList (some awkwardRules)
      (s.step (.add "t".toList awkward none)).result := by
  intro s
  have hnone : ∀ cause, ¬ HoldOversized (some awkwardRules) cause := by
    rintro cause ⟨mapping, name, t, hmapping, hmem, hoversized⟩
    cases hmapping
    have ht : t = "x\x7b12,3\x7d".toList := by
      rcases List.mem_cons.1 hmem with h | h
      · cases h
        rfl
      · cases List.mem_singleton.1 h
    subst ht
    exact Regex.not_oversized_of_length_lt (by decide) cause hoversized
  have hsettled : ∀ {urlPattern step}, step.GivesRules s urlPattern (some awkwardRules) →
      AnswersOrReports urlPattern (some awkwardRules) (s.step step).result := by
    intro urlPattern step hgives
    refine (rules_are_read_or_reported hgives).resolve_right ?_
    rintro ⟨cause, hholds, -⟩
    exact hnone cause hholds
  obtain ⟨r, hroute⟩ : ∃ r, s.route? "r".toList = .ok (0, r) := ⟨_, rfl⟩
  obtain ⟨t, htable⟩ : ∃ t, s.table? "t".toList = .ok (0, t) := ⟨_, rfl⟩
  have hpattern : r.urlPattern = "\x7barea\x7d".toList := by
    cases hroute
    rfl
  exact ⟨hsettled (.make rfl rfl), hsettled (.assign hroute hpattern),
    hsettled (.register htable (.add none) rfl nofun rfl rfl)⟩

/-- A rule with a count that is not representable. -/
def overfullRule : Text := "a\x7b4294967296\x7d".toList

/-- Not every rule is read or reported: a count that is too large is named by no fault. -/
theorem oversized_count_is_not_reported :
    let step := Step.makeRoute "r".toList (Route.ruled overfullRule)
    let rules := (Route.ruled overfullRule).constraints
    step.GivesRules Session.empty "\x7bv\x7d".toList rules ∧
      (Session.empty.step step).result = .error (.constraint (.limit .repeatCount)) ∧
      ¬ AnswersOrReports "\x7bv\x7d".toList rules (Session.empty.step step).result := by
  intro step rules
  have hresult : (Session.empty.step step).result = .error (.constraint (.limit .repeatCount)) := by
    rfl
  refine ⟨.make rfl rfl, hresult, ?_⟩
  rw [hresult]
  rintro (_ | ⟨mapping, name, rule, cause, -, -, -, hfault⟩)
  cases hfault

/-! ## Assignments as steps -/

variable {id : Text} {ref : RouteRef} {r : Route}

/-- An assignment is a step after which the route is what `Route.assign` says, also if the step
fails. -/
theorem route?_step_assignment (hroute : s.route? id = .ok (ref, r)) (a : Assignment) :
    (s.step (a.step id)).session.route? id = .ok (ref, r.assign a) := by
  obtain ⟨hid, hr⟩ := route?_eq_ok_iff.1 hroute
  have hreplaced (r' : Route) : (s.replaceRoute ref r').route? id = .ok (ref, r') :=
    route?_eq_ok_iff.2 ⟨hid, List.getElem?_set_self (List.getElem?_eq_some_iff.1 hr).1⟩
  cases a with
  | pattern urlPattern =>
    rw [Assignment.step, Session.step, attempt, look_bind_of_ok hroute]
    exact hreplaced _
  | constraints rules =>
    have hresult := result_setConstraints hroute rules
    cases hruled : r.withConstraints? rules with
    | ok ruled =>
      rw [Assignment.step, Session.step, attempt, look_bind_of_ok hroute]
      dsimp only
      rw [check_bind_of_ok (liftConstraint_eq_ok_iff.2 hruled), Route.assign, hruled]
      exact hreplaced ruled
    | error fault =>
      rw [hruled] at hresult
      rw [Assignment.step, (step_of_result_eq_error hresult).1, Route.assign, hruled]
      exact hroute

/-- Assignments one after the other are steps after which the route is what `Route.assignAll` says. -/
theorem route?_run_assignments (hroute : s.route? id = .ok (ref, r))
    (assignments : List Assignment) :
    (s.run (assignments.map (·.step id))).2.route? id = .ok (ref, r.assignAll assignments) := by
  induction assignments generalizing s r with
  | nil => exact hroute
  | cons a assignments ih => exact ih (route?_step_assignment hroute a)

/-- After any assignments to a route, steps among others that fail, rules are refused for the fault that
they have for the route that `Route.assignAll` leaves. -/
theorem result_setConstraints_run (hroute : s.route? id = .ok (ref, r))
    (assignments : List Assignment) (rules : Option (Bindings Value)) (fault : ConstraintFault) :
    ((s.run (assignments.map (·.step id))).2.step (.setConstraints id rules)).result =
        .error (.constraint fault) ↔
      (r.assignAll assignments).withConstraints? rules = .error fault := by
  rw [result_setConstraints (route?_run_assignments hroute assignments)]
  cases (r.assignAll assignments).withConstraints? rules <;> simp

end Session

end UrlRouting
