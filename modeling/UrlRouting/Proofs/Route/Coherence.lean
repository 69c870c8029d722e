import UrlRouting.Proofs.Except
import UrlRouting.Route.Basic

/-!
# Coherent routes

A route keeps its pattern beside the text that it was read from, and its rules beside the checks
that they were read as.  It is coherent if both pairs agree.  The main statements are
`coherent_of_make?` and `Coherent.assign`, which say that routes are made coherent and stay so
when a pattern or the rules are replaced, and `Coherent.make?_description`: a coherent route is
the one that is made from its own description.
-/

namespace UrlRouting

/-! ## Rules and checks -/

/-- A check is what a rule reads as: it goes by the same name, and the rule is a text that was
read as its expression. -/
def Check.ReadFrom (check : Check) (rule : Text × Value) : Prop :=
  check.name = rule.1 ∧ ∃ t, rule.2 = .text t ∧ Regex.compile t = .ok check.regex

/-- The checks are what the rules read as, in the same order. -/
def ReadFrom (rules : Option (Bindings Value)) (checks : List Check) : Prop :=
  List.Forall₂ (fun rule check => Check.ReadFrom check rule) (rules.elim [] Bindings.entries) checks

/-- Whether a rule can be read does not depend on the pattern that a refusal quotes. -/
theorem readCheck_eq_ok_iff (urlPattern name : Text) (rule : Value) (check : Check) :
    readCheck urlPattern name rule = .ok check ↔ check.ReadFrom (name, rule) := by
  cases rule with
  | text t =>
    rw [readCheck]
    constructor
    · intro h
      split at h
      · next regex hregex =>
        cases h
        exact ⟨rfl, t, rfl, hregex⟩
      · cases h
      · cases h
    · rintro ⟨hname, t', ht, hregex⟩
      cases ht
      cases check
      cases hname
      rw [hregex]
  | _ => simp [readCheck, Check.ReadFrom]

/-- The rules of a route are read as its checks, whatever its pattern. -/
theorem readChecks_eq_ok_iff (urlPattern : Text) (rules : Option (Bindings Value))
    (checks : List Check) : readChecks urlPattern rules = .ok checks ↔ ReadFrom rules checks := by
  cases rules with
  | none =>
    rw [readChecks, ReadFrom]
    exact ⟨fun h => by cases h; exact .nil, fun h => by cases h; rfl⟩
  | some rules =>
    rw [readChecks, mapM_eq_ok_iff, ReadFrom]
    simp only [readCheck_eq_ok_iff, Option.elim_some]

namespace Route

/-- The pattern and the checks of a route are what its texts read as. -/
structure Coherent (r : Route) : Prop where
  pattern_eq : r.pattern = .parse r.urlPattern
  checks : ReadFrom r.constraints r.checks

/-- What the route would be made from as it is. -/
def description (r : Route) : RouteDescription where
  urlPattern := some r.urlPattern
  defaults := some r.defaults
  constraints := r.constraints
  dataTokens := some r.dataTokens
  handler := r.handler

/-- A route becomes another one when its pattern is replaced, or its rules by ones that can be
read. -/
inductive Assigned : Route → Route → Prop
  | pattern (r : Route) (urlPattern : Option Text) : Assigned r (r.withPattern urlPattern)
  | constraints {r r' : Route} {rules : Option (Bindings Value)}
      (h : r.withConstraints? rules = .ok r') : Assigned r r'

/-- Rules are replaced if and only if they can be read, and then nothing else changes. -/
theorem withConstraints?_eq_ok_iff (r r' : Route) (rules : Option (Bindings Value)) :
    r.withConstraints? rules = .ok r' ↔
      ∃ checks, ReadFrom rules checks ∧ r' = { r with constraints := rules, checks } := by
  rw [withConstraints?, bind_eq_ok_iff]
  constructor
  · rintro ⟨checks, hchecks, h⟩
    exact ⟨checks, (readChecks_eq_ok_iff _ _ _).1 hchecks, (Except.ok.inj h).symm⟩
  · rintro ⟨checks, hchecks, rfl⟩
    exact ⟨checks, (readChecks_eq_ok_iff _ _ _).2 hchecks, rfl⟩

/-- Routes are made coherent. -/
theorem coherent_of_make? {d : RouteDescription} {r : Route} (h : make? d = .ok r) :
    r.Coherent := by
  obtain ⟨checks, hchecks, rfl⟩ := (withConstraints?_eq_ok_iff _ _ _).1 h
  exact ⟨rfl, hchecks⟩

/-- What a route that has been made has from its description. -/
theorem fields_of_make? {d : RouteDescription} {r : Route} (h : make? d = .ok r) :
    r.pattern = .ofWritten d.urlPattern ∧ r.defaults = d.defaults.getD .empty ∧
      r.constraints = d.constraints ∧ r.handler = d.handler := by
  obtain ⟨checks, -, rfl⟩ := (withConstraints?_eq_ok_iff _ _ _).1 h
  exact ⟨rfl, rfl, rfl, rfl⟩

/-- Coherent routes stay coherent whatever is assigned to them. -/
theorem Coherent.assign {r r' : Route} (hr : r.Coherent) (h : r.Assigned r') : r'.Coherent := by
  cases h with
  | pattern urlPattern => exact ⟨rfl, hr.checks⟩
  | constraints h =>
    obtain ⟨checks, hchecks, rfl⟩ := (withConstraints?_eq_ok_iff _ _ _).1 h
    exact ⟨hr.pattern_eq, hchecks⟩

/-- A coherent route is made again from its own description. -/
theorem Coherent.make?_description {r : Route} (h : r.Coherent) :
    make? r.description = .ok r := by
  rw [make?, withConstraints?_eq_ok_iff]
  refine ⟨r.checks, h.checks, ?_⟩
  have hpattern : Pattern.ofWritten (some r.urlPattern) = r.pattern := h.pattern_eq.symm
  cases r
  rw [description, hpattern]
  rfl

/-- A route without rules accepts everything. -/
theorem Coherent.accepts_of_no_rules {r : Route} (h : r.Coherent)
    (hnone : r.constraints.getD .empty = .empty) (values : Bindings Value) :
    r.accepts values = true := by
  have hrules : r.constraints.elim [] Bindings.entries = [] := by
    cases hc : r.constraints with
    | none => rfl
    | some rules =>
      rw [hc] at hnone
      exact congrArg Bindings.entries hnone
  have hchecks : r.checks = [] := by
    have hread := h.checks
    rw [ReadFrom, hrules] at hread
    exact List.forall₂_nil_left_iff.1 hread
  rw [accepts, hchecks]
  rfl

/-- The check of a single rule. -/
theorem Coherent.checks_of_single_rule {r : Route} (h : r.Coherent) {name rule : Text}
    (hrules : r.constraints.elim [] Bindings.entries = [(name, .text rule)]) :
    ∃ regex, Regex.compile rule = .ok regex ∧ r.checks = [⟨name, regex⟩] := by
  have hread := h.checks
  rw [ReadFrom, hrules] at hread
  obtain ⟨check, others, ⟨hname, t, ht, hregex⟩, hothers, hchecks⟩ :=
    List.forall₂_cons_left_iff.1 hread
  rw [List.forall₂_nil_left_iff] at hothers
  cases ht
  refine ⟨check.regex, hregex, ?_⟩
  rw [hchecks, hothers]
  cases check
  cases hname
  rfl

end Route

end UrlRouting
