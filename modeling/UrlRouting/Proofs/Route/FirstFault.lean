import UrlRouting.Proofs.Route.Coherence
import UrlRouting.Proofs.Route.Match
import UrlRouting.Proofs.Route.RoundTrip

/-!
# The first faulty rule

The rules of a route are read in their order up to the first one that is faulty.  What is wrong with a
rule is said by `HasFault` of the rule alone; `readChecks_eq_error_iff` gives the fault of all rules
together.  The main statement is `first_faulty_rule_decides`: rules are refused, when a route is made
and at any assignment, if and only if one of them is faulty, by the fault of the first such one and the
pattern that the route has at that moment; and rules that are read accept what each of them accepts
by itself.
-/

namespace UrlRouting

/-! ## Single rules -/

/-- The rule is a text that can be read. -/
def IsReadable (rule : Value) : Prop := ∃ t regex, rule = .text t ∧ Regex.compile t = .ok regex

/-- What is wrong with a rule by itself: it is no text, or a text that is no regular expression. -/
inductive HasFault : Value → RuleFault → Prop
  | notText {rule : Value} (h : ∀ t, rule ≠ .text t) : HasFault rule .notText
  | malformed {t : Text} {cause : Regex.Malformed}
      (h : Regex.compile t = .error (.malformed cause)) : HasFault (.text t) (.malformed cause)

/-- The rule is a text with a number that is not representable. -/
def ExceedsLimit (rule : Value) (cause : Regex.Limit) : Prop :=
  ∃ t, rule = .text t ∧ Regex.compile t = .error (.limit cause)

variable {urlPattern name : Text} {rule : Value} {rules : Bindings Value}

/-- A rule can be read if and only if a check comes of it. -/
theorem exists_readCheck_iff :
    (∃ check, readCheck urlPattern name rule = .ok check) ↔ IsReadable rule := by
  simp only [readCheck_eq_ok_iff]
  constructor
  · rintro ⟨check, -, t, ht, hregex⟩
    exact ⟨t, check.regex, ht, hregex⟩
  · rintro ⟨t, regex, ht, hregex⟩
    exact ⟨⟨name, regex⟩, rfl, t, ht, hregex⟩

/-- A rule is refused by its fault, under its name and for the pattern, or by a limit. -/
theorem readCheck_eq_error_iff {fault : ConstraintFault} :
    readCheck urlPattern name rule = .error fault ↔
      (∃ cause, HasFault rule cause ∧ fault = .rule name urlPattern cause) ∨
        ∃ cause, ExceedsLimit rule cause ∧ fault = .limit cause := by
  constructor
  · intro h
    cases rule with
    | text t =>
      rw [readCheck] at h
      cases hregex : Regex.compile t with
      | ok regex =>
        rw [hregex] at h
        cases h
      | error refusal =>
        rw [hregex] at h
        cases refusal with
        | malformed cause =>
          cases h
          exact .inl ⟨_, .malformed hregex, rfl⟩
        | limit cause =>
          cases h
          exact .inr ⟨cause, ⟨t, rfl, hregex⟩, rfl⟩
    | _ =>
      cases h
      exact .inl ⟨_, .notText (by simp), rfl⟩
  · rintro (⟨cause, hfault, rfl⟩ | ⟨cause, ⟨t, rfl, hcause⟩, rfl⟩)
    · cases hfault with
      | malformed hcause => rw [readCheck, hcause]
      | notText htext =>
        cases rule with
        | text t => exact absurd rfl (htext t)
        | _ => rfl
    · rw [readCheck, hcause]

/-- A faulty rule cannot be read. -/
theorem HasFault.not_isReadable {cause : RuleFault} (h : HasFault rule cause) :
    ¬ IsReadable rule := by
  rintro ⟨t, regex, rfl, hregex⟩
  cases h with
  | notText htext => exact htext t rfl
  | malformed hcause =>
    rw [hregex] at hcause
    cases hcause

/-! ## All rules of a route -/

/-- Rules are refused by the first one that cannot be read. -/
theorem readChecks_eq_error_iff {fault : ConstraintFault} :
    readChecks urlPattern (some rules) = .error fault ↔ ∃ before name rule behind,
      rules.entries = before ++ (name, rule) :: behind ∧ (∀ e ∈ before, IsReadable e.2) ∧
        readCheck urlPattern name rule = .error fault := by
  simp only [readChecks, mapM_eq_error_iff, exists_readCheck_iff, Prod.exists]

/-- Rules that have been read can be read one by one. -/
theorem ReadFrom.isReadable {checks : List Check} (h : ReadFrom (some rules) checks) :
    ∀ e ∈ rules.entries, IsReadable e.2 := by
  unfold ReadFrom at h
  rw [Option.elim_some] at h
  generalize rules.entries = entries at h ⊢
  induction h with
  | nil => exact fun _ he => absurd he List.not_mem_nil
  | @cons e check entries checks hread hrest ih =>
    refine List.forall_mem_cons.2 ⟨?_, ih⟩
    exact exists_readCheck_iff.1 ⟨check, (readCheck_eq_ok_iff [] e.1 e.2 check).2 hread⟩

/-- Rules can be read if and only if each of them can. -/
theorem exists_readChecks_iff :
    (∃ checks, readChecks urlPattern (some rules) = .ok checks) ↔
      ∀ e ∈ rules.entries, IsReadable e.2 := by
  constructor
  · rintro ⟨checks, hchecks⟩
    exact ((readChecks_eq_ok_iff _ _ _).1 hchecks).isReadable
  · intro hreadable
    cases hchecks : readChecks urlPattern (some rules) with
    | ok checks => exact ⟨checks, rfl⟩
    | error fault =>
      obtain ⟨before, name, rule, behind, hsplit, -, hfault⟩ := readChecks_eq_error_iff.1 hchecks
      have hmem : (name, rule) ∈ rules.entries := by
        rw [hsplit]
        exact List.mem_append_cons_self
      obtain ⟨check, hcheck⟩ := exists_readCheck_iff.2 (hreadable _ hmem)
      cases hfault.symm.trans hcheck

/-- Checks go by the names of their rules. -/
theorem ReadFrom.map_name {checks : List Check} (h : ReadFrom (some rules) checks) :
    checks.map Check.name = rules.keys := by
  have hnames : List.Forall₂ (fun name name' => name = name') (rules.entries.map Prod.fst)
      (checks.map Check.name) :=
    List.forall₂_map_left_iff.2 (List.forall₂_map_right_iff.2 (h.imp fun _ _ hread => hread.1.symm))
  exact (List.forall₂_eq_eq_eq ▸ hnames : _ = _).symm

/-- Only one check comes of a rule. -/
theorem Check.ReadFrom.unique {check check' : Check} {e : Text × Value} (h : check.ReadFrom e)
    (h' : check'.ReadFrom e) : check = check' :=
  Except.ok.inj (((readCheck_eq_ok_iff [] e.1 e.2 check).2 h).symm.trans
    ((readCheck_eq_ok_iff [] e.1 e.2 check').2 h'))

/-- Checks accept values if each rule has a check that does. -/
theorem ReadFrom.all_accepts_iff {checks : List Check} (h : ReadFrom (some rules) checks)
    (values : Bindings Value) : checks.all (·.accepts values) = true ↔
      ∀ e ∈ rules.entries, ∃ check : Check, check.ReadFrom e ∧ check.accepts values = true := by
  unfold ReadFrom at h
  rw [Option.elim_some] at h
  generalize rules.entries = entries at h ⊢
  induction h with
  | nil => simp
  | @cons e check entries checks hread hrest ih =>
    rw [List.all_cons, Bool.and_eq_true, ih, List.forall_mem_cons]
    refine and_congr_left fun _ => ⟨fun haccepts => ⟨check, hread, haccepts⟩, ?_⟩
    rintro ⟨check', hread', haccepts⟩
    rw [hread.unique hread']
    exact haccepts

namespace Route

/-- The rules of a route cannot be replaced if and only if they are refused for its pattern. -/
theorem withConstraints?_eq_error_iff (r : Route) (rules : Option (Bindings Value))
    (fault : ConstraintFault) :
    r.withConstraints? rules = .error fault ↔ readChecks r.urlPattern rules = .error fault := by
  rw [withConstraints?, bind_eq_error_iff]
  constructor
  · rintro (h | ⟨checks, -, h⟩)
    · exact h
    · cases h
  · exact .inl

/-- A route with rules accepts what it accepts with each of them alone. -/
theorem accepts_iff_each {r ruled : Route} (h : r.withConstraints? (some rules) = .ok ruled)
    (values : Bindings Value) : ruled.accepts values = true ↔
      ∀ e ∈ rules.entries, ∃ alone, r.withConstraints? (some (.ofList [e])) = .ok alone ∧
        alone.accepts values = true := by
  obtain ⟨checks, hchecks, rfl⟩ := (withConstraints?_eq_ok_iff _ _ _).1 h
  have halone : ∀ e : Text × Value, (∃ check : Check, check.ReadFrom e ∧
      check.accepts values = true) ↔ ∃ alone, r.withConstraints? (some (.ofList [e])) = .ok alone ∧
        alone.accepts values = true := by
    intro e
    simp only [withConstraints?_eq_ok_iff]
    constructor
    · rintro ⟨check, hread, haccepts⟩
      refine ⟨_, ⟨[check], .cons hread .nil, rfl⟩, ?_⟩
      rw [accepts, List.all_cons, haccepts]
      rfl
    · rintro ⟨alone, ⟨own, hown, rfl⟩, haccepts⟩
      have hsingle : ReadFrom (some (.ofList [e])) own := hown
      exact (hsingle.all_accepts_iff values).1 haccepts e List.mem_cons_self
  have hall := hchecks.all_accepts_iff values
  simp only [halone] at hall
  exact hall

/-- Where rules matter by what they accept only, a route with rules answers what it answers without
rules and with each of them alone. -/
theorem answers_iff_each {r bare ruled : Route} {answers : Route → Prop} {possible : Prop}
    {values : Bindings Value}
    (hanswers : ∀ rules ruled, r.withConstraints? (some rules) = .ok ruled →
      (answers ruled ↔ possible ∧ ruled.accepts values = true))
    (hbare : r.withConstraints? (some .empty) = .ok bare)
    (hruled : r.withConstraints? (some rules) = .ok ruled) :
    answers ruled ↔ answers bare ∧ ∀ e ∈ rules.entries, ∃ alone,
      r.withConstraints? (some (.ofList [e])) = .ok alone ∧ answers alone := by
  have hfree : bare.accepts values = true :=
    (accepts_iff_each hbare values).2 fun _ he => absurd he List.not_mem_nil
  rw [hanswers _ _ hruled, hanswers _ _ hbare, accepts_iff_each hruled]
  constructor
  · rintro ⟨hpossible, heach⟩
    refine ⟨⟨hpossible, hfree⟩, fun e he => ?_⟩
    obtain ⟨alone, halone, haccepts⟩ := heach e he
    exact ⟨alone, halone, (hanswers _ _ halone).2 ⟨hpossible, haccepts⟩⟩
  · rintro ⟨⟨hpossible, -⟩, heach⟩
    refine ⟨hpossible, fun e he => ?_⟩
    obtain ⟨alone, halone, hanswer⟩ := heach e he
    exact ⟨alone, halone, ((hanswers _ _ halone).1 hanswer).2⟩

/-- A route with rules matches a request as its pattern does, if the rules accept the values. -/
theorem match?_withConstraints? {r ruled : Route} {rules : Option (Bindings Value)}
    (h : r.withConstraints? rules = .ok ruled) (request : Request) (data : RouteData) :
    ruled.match? request = some data ↔
      (r.Accommodates request ∧ data = ⟨r.valuesFor request, r.dataTokens, r.handler⟩) ∧
        ruled.accepts (r.valuesFor request) = true := by
  obtain ⟨checks, -, rfl⟩ := (withConstraints?_eq_ok_iff _ _ _).1 h
  rw [match?_eq_some_iff, and_assoc, and_comm (a := data = _)]
  rfl

/-- A route with rules generates what its pattern does, if the rules accept the values. -/
theorem generate?_withConstraints? {r ruled : Route} {rules : Option (Bindings Value)}
    (h : r.withConstraints? rules = .ok ruled) (d : UrlDemand) (url : VirtualPath) :
    ruled.generate? d = some url ↔
      url = ⟨r.urlText d.scheme (r.hostFor d.context) (r.pathFor d.context), r.dataTokens⟩ ∧
        ruled.accepts d.context = true := by
  obtain ⟨checks, -, rfl⟩ := (withConstraints?_eq_ok_iff _ _ _).1 h
  rw [generate?_eq_some_iff, and_comm]
  rfl

end Route

/-! ## Ways to give a route its rules -/

/-- Each rule can be read or is faulty. -/
def AreReadableOrFaulty (rules : Bindings Value) : Prop :=
  ∀ e ∈ rules.entries, IsReadable e.2 ∨ ∃ cause, HasFault e.2 cause

/-- A way to give a route its rules goes by the first faulty one of them. -/
structure DecidesByFirstFault (urlPattern : Text)
    (give : Bindings Value → Except ConstraintFault Route) : Prop where
  /-- It fails if and only if some rule is faulty. -/
  fails_iff : ∀ rules, AreReadableOrFaulty rules →
    ((∃ fault, give rules = .error fault) ↔ ∃ e ∈ rules.entries, ∃ cause, HasFault e.2 cause)
  /-- Then it reports the first faulty rule by its name, with the pattern. -/
  fault_iff : ∀ rules, AreReadableOrFaulty rules → ∀ fault, give rules = .error fault ↔
    ∃ before name rule behind cause, rules.entries = before ++ (name, rule) :: behind ∧
      (∀ e ∈ before, IsReadable e.2) ∧ HasFault rule cause ∧ fault = .rule name urlPattern cause
  /-- It does so whatever stands behind that rule, limits included. -/
  fault_of_first : ∀ rules before name rule behind cause,
    rules.entries = before ++ (name, rule) :: behind → (∀ e ∈ before, IsReadable e.2) →
      HasFault rule cause → give rules = .error (.rule name urlPattern cause)
  /-- Without a faulty rule, there is a check for each rule, in their order.  A request and values are
  answered as without rules, if each of the rules alone lets them be answered. -/
  answers_iff : ∀ rules, AreReadableOrFaulty rules →
    (¬ ∃ e ∈ rules.entries, ∃ cause, HasFault e.2 cause) →
      ∃ bare ruled, give .empty = .ok bare ∧ give rules = .ok ruled ∧
        ruled.checks.map Check.name = rules.keys ∧
        (∀ request data, ruled.match? request = some data ↔ bare.match? request = some data ∧
          ∀ e ∈ rules.entries, ∃ alone, give (.ofList [e]) = .ok alone ∧
            alone.match? request = some data) ∧
        ∀ d url, ruled.generate? d = some url ↔ bare.generate? d = some url ∧
          ∀ e ∈ rules.entries, ∃ alone, give (.ofList [e]) = .ok alone ∧
            alone.generate? d = some url

namespace Route

/-- The first faulty rule is reported, whatever stands behind it. -/
theorem withConstraints?_of_first_fault (r : Route) {before behind : List (Text × Value)}
    {cause : RuleFault} (hsplit : rules.entries = before ++ (name, rule) :: behind)
    (hbefore : ∀ e ∈ before, IsReadable e.2) (hfault : HasFault rule cause) :
    r.withConstraints? (some rules) = .error (.rule name r.urlPattern cause) :=
  (r.withConstraints?_eq_error_iff _ _).2 (readChecks_eq_error_iff.2
    ⟨before, name, rule, behind, hsplit, hbefore,
      readCheck_eq_error_iff.2 (.inl ⟨cause, hfault, rfl⟩)⟩)

/-- Where each rule can be read or is faulty, nothing but a first faulty rule is reported. -/
theorem exists_first_fault (r : Route) (hrules : AreReadableOrFaulty rules)
    {fault : ConstraintFault} (h : r.withConstraints? (some rules) = .error fault) :
    ∃ before name rule behind cause, rules.entries = before ++ (name, rule) :: behind ∧
      (∀ e ∈ before, IsReadable e.2) ∧ HasFault rule cause ∧
        fault = .rule name r.urlPattern cause := by
  obtain ⟨before, name, rule, behind, hsplit, hbefore, hcheck⟩ :=
    readChecks_eq_error_iff.1 ((r.withConstraints?_eq_error_iff _ _).1 h)
  have hmem : (name, rule) ∈ rules.entries := by
    rw [hsplit]
    exact List.mem_append_cons_self
  rcases hrules _ hmem with hreadable | ⟨cause, hcause⟩
  · obtain ⟨check, hok⟩ := exists_readCheck_iff.2 hreadable
    cases hcheck.symm.trans hok
  · have hown : readCheck r.urlPattern name rule = .error (.rule name r.urlPattern cause) :=
      readCheck_eq_error_iff.2 (.inl ⟨cause, hcause, rfl⟩)
    cases hcheck.symm.trans hown
    exact ⟨before, name, rule, behind, cause, hsplit, hbefore, hcause, rfl⟩

/-- A route can be given rules if and only if each of them can be read. -/
theorem exists_withConstraints?_iff (r : Route) :
    (∃ ruled, r.withConstraints? (some rules) = .ok ruled) ↔
      ∀ e ∈ rules.entries, IsReadable e.2 := by
  simp only [withConstraints?_eq_ok_iff]
  constructor
  · rintro ⟨ruled, checks, hchecks, -⟩
    exact hchecks.isReadable
  · intro hreadable
    obtain ⟨checks, hchecks⟩ : ∃ checks, readChecks r.urlPattern (some rules) = .ok checks :=
      exists_readChecks_iff.2 hreadable
    exact ⟨_, checks, (readChecks_eq_ok_iff _ _ _).1 hchecks, rfl⟩

/-- Replacing the rules of a route goes by the first faulty one. -/
theorem decidesByFirstFault (r : Route) :
    DecidesByFirstFault r.urlPattern fun rules => r.withConstraints? (some rules) where
  fails_iff := by
    intro rules hrules
    constructor
    · rintro ⟨fault, h⟩
      obtain ⟨before, name, rule, behind, cause, hsplit, -, hcause, -⟩ :=
        r.exists_first_fault hrules h
      refine ⟨(name, rule), ?_, cause, hcause⟩
      rw [hsplit]
      exact List.mem_append_cons_self
    · rintro ⟨e, he, cause, hcause⟩
      cases h : r.withConstraints? (some rules) with
      | error fault => exact ⟨fault, rfl⟩
      | ok ruled =>
        exact absurd (r.exists_withConstraints?_iff.1 ⟨ruled, h⟩ e he) hcause.not_isReadable
  fault_iff := by
    intro rules hrules fault
    constructor
    · exact r.exists_first_fault hrules
    · rintro ⟨before, name, rule, behind, cause, hsplit, hbefore, hcause, rfl⟩
      exact r.withConstraints?_of_first_fault hsplit hbefore hcause
  fault_of_first := fun rules before name rule behind cause =>
    r.withConstraints?_of_first_fault
  answers_iff := by
    intro rules hrules hnone
    have hreadable : ∀ e ∈ rules.entries, IsReadable e.2 := fun e he =>
      (hrules e he).resolve_right fun hcause => hnone ⟨e, he, hcause⟩
    obtain ⟨ruled, hruled⟩ := r.exists_withConstraints?_iff.2 hreadable
    obtain ⟨bare, hbare⟩ : ∃ bare, r.withConstraints? (some .empty) = .ok bare :=
      r.exists_withConstraints?_iff.2 fun _ he => absurd he List.not_mem_nil
    obtain ⟨checks, hchecks, hfields⟩ := (withConstraints?_eq_ok_iff _ _ _).1 hruled
    refine ⟨bare, ruled, hbare, hruled, ?_, ?_, ?_⟩
    · rw [hfields]
      exact hchecks.map_name
    · intro request data
      exact answers_iff_each (fun _ _ h => match?_withConstraints? h request data) hbare hruled
    · intro d url
      exact answers_iff_each (fun _ _ h => generate?_withConstraints? h d url) hbare hruled

end Route

/-- What a route is before it is given its rules. -/
def Route.unruled (d : RouteDescription) : Route where
  urlPattern := d.urlPattern.getD []
  pattern := Pattern.ofWritten d.urlPattern
  defaults := d.defaults.getD .empty
  constraints := none
  checks := []
  dataTokens := d.dataTokens.getD .empty
  handler := d.handler

/-- A route is made by giving it its rules. -/
theorem Route.make?_eq (d : RouteDescription) :
    make? d = (unruled d).withConstraints? d.constraints := rfl

/-- A route cannot be made if and only if its rules are refused for its pattern. -/
theorem Route.make?_eq_error_iff {d : RouteDescription} {fault : ConstraintFault} :
    make? d = .error fault ↔ readChecks (d.urlPattern.getD []) d.constraints = .error fault := by
  rw [make?_eq]
  exact withConstraints?_eq_error_iff _ _ _

/-! ## Assignments one after the other -/

/-- An assignment to a route. -/
inductive Assignment
  | pattern (urlPattern : Option Text)
  | constraints (rules : Option (Bindings Value))

/-- The pattern that an assignment sets. -/
def Assignment.pattern? : Assignment → Option Text
  | pattern urlPattern => some (urlPattern.getD [])
  | constraints _ => none

/-- The last pattern that assignments set; the first one, if they set none. -/
def Assignment.lastPattern (first : Text) (assignments : List Assignment) : Text :=
  (assignments.filterMap pattern?).getLast?.getD first

namespace Route

/-- The route after an assignment: one that fails leaves it as it was.  What a step does is the same, by
`Session.route?_step_assignment`. -/
def assign (r : Route) : Assignment → Route
  | .pattern urlPattern => r.withPattern urlPattern
  | .constraints rules => (r.withConstraints? rules).toOption.getD r

/-- The route after assignments one after the other. -/
def assignAll (r : Route) (assignments : List Assignment) : Route := assignments.foldl assign r

/-- Rules do not change the pattern of a route, whether they can be read or not. -/
theorem urlPattern_assign (r : Route) (a : Assignment) :
    (r.assign a).urlPattern = a.pattern?.getD r.urlPattern := by
  cases a with
  | pattern urlPattern => rfl
  | constraints rules =>
    rw [assign]
    cases h : r.withConstraints? rules with
    | error fault => rfl
    | ok ruled =>
      obtain ⟨checks, -, rfl⟩ := (withConstraints?_eq_ok_iff _ _ _).1 h
      rfl

/-- At any moment a route has the pattern that was assigned to it last. -/
theorem urlPattern_assignAll (r : Route) (assignments : List Assignment) :
    (r.assignAll assignments).urlPattern =
      Assignment.lastPattern r.urlPattern assignments := by
  induction assignments using List.reverseRecOn with
  | nil => rfl
  | append_singleton assignments a ih =>
    have hstep : r.assignAll (assignments ++ [a]) = (r.assignAll assignments).assign a :=
      List.foldl_concat ..
    rw [hstep, urlPattern_assign, ih, Assignment.lastPattern, Assignment.lastPattern,
      List.filterMap_append, List.getLast?_append]
    cases ha : a.pattern? <;> simp [ha]

/-- **The first faulty rule decides.**  Let each rule be one that can be read, no text, or a text that is
no regular expression.  Making a route with the rules, or assigning them to a route that was made, after
any assignments to it, successful or not, fails if and only if one of them is faulty.  The first faulty
rule is reported by its name, with the pattern that the route has at the time, which is the one that
was assigned last, and whatever stands behind that rule.  Otherwise there are checks by the names of
the rules in their order, and a request or values are answered if each of the rules alone lets them be
answered. -/
theorem first_faulty_rule_decides (d : RouteDescription) :
    DecidesByFirstFault (d.urlPattern.getD [])
      (fun rules => Route.make? { d with constraints := some rules }) ∧
    ∀ made, Route.make? d = .ok made → ∀ assignments : List Assignment,
      DecidesByFirstFault (Assignment.lastPattern (d.urlPattern.getD []) assignments)
        fun rules => (made.assignAll assignments).withConstraints? (some rules) := by
  refine ⟨(unruled d).decidesByFirstFault, fun made hmade assignments => ?_⟩
  have hpattern : made.urlPattern = d.urlPattern.getD [] := by
    rw [make?_eq] at hmade
    obtain ⟨checks, -, rfl⟩ := (withConstraints?_eq_ok_iff _ _ _).1 hmade
    rfl
  have hlast := urlPattern_assignAll made assignments
  rw [hpattern] at hlast
  rw [← hlast]
  exact decidesByFirstFault _

/-- A route with a rule for its variable. -/
def numbered : RouteDescription :=
  ⟨some "\x7bid\x7d".toList, none, some (.ofList [("id".toList, .text "\\d+".toList)]), none, .absent⟩

/-- Rules of which the second one is the first faulty one. -/
def mixedRules : Bindings Value :=
  .ofList [("area".toList, .text "en|fr".toList), ("id".toList, .text "(".toList),
    ("x".toList, .null)]

/-- Another pattern, and rules that are refused. -/
def reassigned : List Assignment :=
  [.pattern (some "\x7barea\x7d/\x7bid\x7d".toList), .constraints (some mixedRules)]

theorem first_faulty_rule_decides_mixed :
    ∃ made, Route.make? numbered = .ok made ∧ AreReadableOrFaulty mixedRules ∧
      (made.assignAll reassigned).withConstraints? (some mixedRules) =
        .error (.rule "id".toList "\x7barea\x7d/\x7bid\x7d".toList (.malformed
          ⟨.missing "), unterminated subpattern".toList, some ⟨1, none⟩⟩)) := by
  obtain ⟨made, hmade⟩ : ∃ made, Route.make? numbered = .ok made := ⟨_, rfl⟩
  have hreadable : IsReadable (.text "en|fr".toList) := ⟨_, _, rfl, rfl⟩
  have hfault : HasFault (.text "(".toList) (.malformed
      ⟨.missing "), unterminated subpattern".toList, some ⟨1, none⟩⟩) := .malformed rfl
  have hrules : AreReadableOrFaulty mixedRules := by
    rintro e he
    rcases List.mem_cons.1 he with rfl | he
    · exact .inl hreadable
    · rcases List.mem_cons.1 he with rfl | he
      · exact .inr ⟨_, hfault⟩
      · rw [List.mem_singleton.1 he]
        exact .inr ⟨_, .notText nofun⟩
  refine ⟨made, hmade, hrules, ?_⟩
  have hdecides := (first_faulty_rule_decides numbered).2 made hmade reassigned
  refine (hdecides.fault_iff mixedRules hrules _).2
    ⟨[("area".toList, .text "en|fr".toList)], "id".toList, .text "(".toList,
      [("x".toList, .null)], _, rfl, ?_, hfault, rfl⟩
  intro e he
  rw [List.mem_singleton.1 he]
  exact hreadable

end Route

end UrlRouting
