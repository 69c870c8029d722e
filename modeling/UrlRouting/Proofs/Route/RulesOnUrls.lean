import UrlRouting.Proofs.Pattern.Tokens
import UrlRouting.Proofs.Route.MatchValues
import UrlRouting.Proofs.Route.RuleLanguage
import UrlRouting.Proofs.Url.Split

/-!
# Rules on URLs

A rule also accepts a text of its language with a line feed behind it.  No URL has a token with a line
feed, because line ends are taken out of it before it is cut, so on URLs the rules of a route are
exact: `match?_iff_tokens_in_languages`.  The language of a rule is the one that it is read as, which
`readLanguage_isPartOf` compares with the usual one.
-/

namespace UrlRouting

open Regex

/-- No token of a request without line ends has one. -/
theorem Request.NewlineFree.not_mem_token {request : Request} (h : request.NewlineFree) :
    (∀ token ∈ hostTokens request.host, '\n' ∉ token) ∧
      ∀ token ∈ pathTokens request.path, '\n' ∉ token :=
  ⟨fun _ htoken hc => h.host ((of_mem_hostTokens htoken).2 _ hc),
    fun _ htoken hc => h.path ((of_mem_pathTokens htoken).2 _ hc)⟩

/-- A text of a single line obeys a regular rule if and only if it is in the language that the rule is
read as. -/
theorem Regex.accepts_iff_of_newline_not_mem {alternatives : List (List Node)} {rule : Text}
    {regex : Regex} (hrule : Spells (.choice alternatives) rule [])
    (hcompile : compile rule = .ok regex) {t : Text} (hline : '\n' ∉ t) :
    regex.accepts t = true ↔ t ∈ readLanguage alternatives := by
  rw [accepts_iff hrule hcompile, or_iff_left]
  rintro ⟨w, -, rfl⟩
  exact hline (List.mem_append_right _ List.mem_cons_self)

namespace Route

variable {r : Route} {request : Request} {name : Text}

/-- A token of a request stands at the place of a variable. -/
def StandsFor (r : Route) (request : Request) (token name : Text) : Prop :=
  ∃ side ∈ r.sides request, ∃ (i : Nat) (written : Text),
    side.1[i]? = some (.named written name) ∧ side.2[i]? = some token

/-- If a request fits, a token stands for every variable. -/
theorem exists_standsFor (hfit : r.Accommodates request) (hname : name ∈ r.pattern.variables) :
    ∃ token, r.StandsFor request token name := by
  obtain ⟨segment, hsegment, hkey⟩ := List.mem_filterMap.1 hname
  cases segment with
  | literal own => cases hkey
  | named written key =>
    obtain rfl : key = name := Option.some.inj hkey
    rcases List.mem_append.1 hsegment with hmem | hmem
    · obtain ⟨i, hi⟩ := List.mem_iff_getElem?.1 hmem
      obtain ⟨token, htoken, -⟩ := exists_token_of_named hfit.1 hi
      exact ⟨token, _, List.mem_cons_self, i, written, hi, htoken⟩
    · obtain ⟨i, hi⟩ := List.mem_iff_getElem?.1 hmem
      obtain ⟨token, htoken, -⟩ := exists_token_of_named hfit.2 hi
      exact ⟨token, _, List.mem_cons_of_mem _ List.mem_cons_self, i, written, hi, htoken⟩

/-- Without repeated names a variable is bound to the token that stands for it. -/
theorem StandsFor.get?_valuesFor {token : Text} (h : r.StandsFor request token name)
    (distinct : r.pattern.variables.Nodup) (hfit : r.Accommodates request) :
    (r.valuesFor request).get? name = some (.text token) := by
  obtain ⟨side, hside, i, written, hplace, htoken⟩ := h
  rcases List.mem_pair.1 hside with rfl | rfl
  · obtain ⟨token', htoken', hmem⟩ := exists_token_of_named hfit.1 hplace
    obtain rfl : token' = token := Option.some.inj (htoken'.symm.trans htoken)
    exact Route.get?_valuesFor distinct hfit (List.mem_append_left _ hmem)
  · obtain ⟨token', htoken', hmem⟩ := exists_token_of_named hfit.2 hplace
    obtain rfl : token' = token := Option.some.inj (htoken'.symm.trans htoken)
    exact Route.get?_valuesFor distinct hfit (List.mem_append_right _ hmem)

/-- A token that stands for a variable is free of line ends if the request is. -/
theorem StandsFor.newline_not_mem {token : Text} (h : r.StandsFor request token name)
    (hline : request.NewlineFree) : '\n' ∉ token := by
  obtain ⟨side, hside, i, written, -, htoken⟩ := h
  rcases List.mem_pair.1 hside with rfl | rfl
  · exact hline.not_mem_token.1 token (List.mem_of_getElem? htoken)
  · exact hline.not_mem_token.2 token (List.mem_of_getElem? htoken)

/-- The rules of a route are regular ones for variables of its pattern; `alternatives` tells what the
rule for a name is made of. -/
structure HasRegularRules (r : Route) (alternatives : Text → List (List Node)) : Prop where
  coherent : r.Coherent
  ruled : ∀ e ∈ r.constraints.elim [] Bindings.entries, e.1 ∈ r.pattern.variables
  spelled : ∀ e ∈ r.constraints.elim [] Bindings.entries, ∃ rule, e.2 = .text rule ∧
    Spells (.choice (alternatives e.1)) rule []

/-- A regular rule for a variable accepts the values of a request that fits if and only if the token
that stands for the variable is in its language. -/
theorem accepts_valuesFor_iff {alternatives : List (List Node)} {rule : Text} {regex : Regex}
    (distinct : r.pattern.variables.Nodup) (hfit : r.Accommodates request)
    (hline : request.NewlineFree) (hname : name ∈ r.pattern.variables)
    (hrule : Spells (.choice alternatives) rule []) (hcompile : compile rule = .ok regex) :
    regex.accepts (((r.valuesFor request).get? name).elim [] Value.urlText) = true ↔
      ∃ token, r.StandsFor request token name ∧ token ∈ readLanguage alternatives := by
  have haccepts : ∀ token, r.StandsFor request token name →
      (regex.accepts (((r.valuesFor request).get? name).elim [] Value.urlText) = true ↔
        token ∈ readLanguage alternatives) := by
    intro token htoken
    rw [htoken.get?_valuesFor distinct hfit]
    exact accepts_iff_of_newline_not_mem hrule hcompile (htoken.newline_not_mem hline)
  constructor
  · intro h
    obtain ⟨token, htoken⟩ := exists_standsFor hfit hname
    exact ⟨token, htoken, (haccepts token htoken).1 h⟩
  · rintro ⟨token, htoken, hmem⟩
    exact (haccepts token htoken).2 hmem

/-- A single regular rule accepts a text of a single line if and only if it is in its language. -/
theorem Coherent.accepts_iff_of_single_rule (hr : r.Coherent) {rule token : Text} {alternatives : List (List Node)}
    (hrules : r.constraints.elim [] Bindings.entries = [(name, .text rule)])
    (hspells : Spells (.choice alternatives) rule [])
    (hkeeps : ruleKeepsCapitals alternatives = true) {values : Bindings Value}
    (hvalue : values.get? name = some (.text token)) (hline : '\n' ∉ token) :
    r.accepts values = true ↔ token ∈ languageOfChoice alternatives := by
  obtain ⟨regex, hcompile, hchecks⟩ := hr.checks_of_single_rule hrules
  have haccepts : r.accepts values = regex.accepts token := by
    rw [accepts, hchecks, List.all_cons, List.all_nil, Bool.and_true, Check.accepts, hvalue]
    rfl
  rw [haccepts, accepts_iff_of_newline_not_mem hspells hcompile hline,
    (readLanguage_isPartOf hspells).2 hkeeps]

/-- **Rules are exact on URLs.**  A route without repeated variables, whose rules are regular ones for
variables, matches a URL that can be read if and only if on each side that has segments the tokens
stand at their places, and for each rule the token that stands for its variable is in the language that
the rule is read as, without an exception for a last line feed.  That language is a part of the usual
one, and all of it if no capital letter beyond the basic plane becomes a member of a set. -/
theorem match?_iff_tokens_in_languages {r : Route} {alternatives : Text → List (List Node)}
    (hr : r.HasRegularRules alternatives) (distinct : r.pattern.variables.Nodup) {url : Text}
    {request : Request} (hurl : Request.ofUrl url = .ok request) :
    ((r.match? request).isSome = true ↔
      (∀ side ∈ r.sides request, side.1 = [] ∨ StandAt side.1 side.2) ∧
        ∀ e ∈ r.constraints.elim [] Bindings.entries, ∃ token,
          r.StandsFor request token e.1 ∧ token ∈ readLanguage (alternatives e.1)) ∧
    ∀ e ∈ r.constraints.elim [] Bindings.entries,
      (∀ w ∈ readLanguage (alternatives e.1), w ∈ languageOfChoice (alternatives e.1)) ∧
      (ruleKeepsCapitals (alternatives e.1) = true →
        readLanguage (alternatives e.1) = languageOfChoice (alternatives e.1)) := by
  have hline := Request.newlineFree_of_ofUrl hurl
  have hread := hr.coherent.checks
  refine ⟨?_, ?_⟩
  · rw [isSome_match?_iff, ← accommodates_iff]
    refine and_congr_right fun hfit => ?_
    -- rules and checks stand side by side
    have hrules := hr.ruled
    have hspelled := hr.spelled
    unfold ReadFrom at hread
    generalize r.constraints.elim [] Bindings.entries = rules, r.checks = checks at *
    induction hread with
    | nil => simp
    | @cons e check rules checks h _ ih =>
      obtain ⟨hname, rule, hrule, hcompile⟩ := h
      rw [List.forall_mem_cons] at hrules hspelled
      obtain ⟨rule', hrule', hspells⟩ := hspelled.1
      obtain rfl : rule = rule' := Value.text.inj (hrule.symm.trans hrule')
      have hfirst := accepts_valuesFor_iff distinct hfit hline hrules.1 hspells hcompile
      have hothers := ih hrules.2 hspelled.2
      rw [List.forall_mem_cons, List.forall_mem_cons, hname]
      exact and_congr hfirst hothers
  · intro e he
    obtain ⟨rule, -, hspells⟩ := hr.spelled e he
    obtain ⟨hle, heq⟩ := readLanguage_isPartOf hspells
    exact ⟨fun w hw => hle hw, heq⟩

/-- The pattern and the rules of a route that has been made for a rule. -/
theorem parts_of_make?_ruled {rule : Text} {r : Route} (h : make? (ruled rule) = .ok r) :
    r.pattern = ⟨none, [], [.named "\x7bv\x7d".toList "v".toList]⟩ ∧
      r.constraints = some (.ofList [("v".toList, .text rule)]) := by
  obtain ⟨hpattern, -, hconstraints, -⟩ := fields_of_make? h
  exact ⟨hpattern, hconstraints⟩

/-- A route that has been made for a regular rule has regular rules. -/
theorem hasRegularRules_of_make?_ruled {alternatives : List (List Node)} {rule : Text} {r : Route}
    (hrule : Spells (.choice alternatives) rule []) (h : make? (ruled rule) = .ok r) :
    r.HasRegularRules fun _ => alternatives := by
  obtain ⟨hpattern, hconstraints⟩ := parts_of_make?_ruled h
  have hrules : r.constraints.elim [] Bindings.entries = [("v".toList, .text rule)] := by
    rw [hconstraints]
    rfl
  refine ⟨coherent_of_make? h, ?_, ?_⟩
  · rw [hrules, hpattern]
    exact List.forall_mem_singleton.2 List.mem_cons_self
  · rw [hrules]
    exact List.forall_mem_singleton.2 ⟨rule, rfl, hrule⟩

/-- A token stands for the variable of such a route if it is the only one of the path. -/
theorem standsFor_of_make?_ruled {rule : Text} {r : Route} (h : make? (ruled rule) = .ok r)
    (request : Request) {token : Text} (hpath : pathTokens request.path = [token]) :
    (∀ side ∈ r.sides request, side.1 = [] ∨ StandAt side.1 side.2) ∧
      r.StandsFor request token "v".toList := by
  obtain ⟨hpattern, -⟩ := parts_of_make?_ruled h
  refine ⟨?_, (r.pattern.path, pathTokens request.path), by simp [sides], 0, "\x7bv\x7d".toList, ?_, ?_⟩
  · rw [← accommodates_iff, Accommodates, hpattern, hpath]
    exact ⟨.inl rfl, .inr (.cons trivial .nil)⟩
  · rw [hpattern]
    rfl
  · rw [hpath]
    rfl

/-- The line end and the tab in a URL do not count, nor does the slash at its end. -/
theorem match?_iff_tokens_in_languages_pairs :
    ∃ r request, make? (ruled "(ab)*".toList) = .ok r ∧
      Request.ofUrl "HTTP://acme.org:80/AB\n\tab/?q#f".toList = .ok request ∧
      (r.match? request).isSome = true := by
  have hmade : (make? (ruled "(ab)*".toList)).isOk = true := by decide +kernel
  have hurl : Request.ofUrl "HTTP://acme.org:80/AB\n\tab/?q#f".toList =
      .ok ⟨"http".toList, "acme.org".toList, "/ABab/".toList, "q".toList⟩ := by decide +kernel
  cases hmake : make? (ruled "(ab)*".toList) with
  | error fault =>
    rw [hmake] at hmade
    cases hmade
  | ok r =>
    obtain ⟨hpattern, hconstraints⟩ := parts_of_make?_ruled hmake
    have distinct : r.pattern.variables.Nodup := by
      rw [hpattern]
      exact List.nodup_singleton _
    obtain ⟨hmatch, hread⟩ := match?_iff_tokens_in_languages
      (hasRegularRules_of_make?_ruled spells_pairs hmake) distinct hurl
    obtain ⟨hfits, hstands⟩ := standsFor_of_make?_ruled hmake
      ⟨"http".toList, "acme.org".toList, "/ABab/".toList, "q".toList⟩ rfl
    have hrules : r.constraints.elim [] Bindings.entries =
        [("v".toList, .text "(ab)*".toList)] := by
      rw [hconstraints]
      rfl
    rw [hrules, List.forall_mem_singleton] at hmatch hread
    refine ⟨r, _, rfl, hurl, hmatch.2 ⟨hfits, _, hstands, ?_⟩⟩
    rw [hread.2 (by decide +kernel)]
    exact mem_language_pairs

/-- A route need not match a URL whose token is in the usual language of its rule. -/
theorem token_of_usual_language_is_refused :
    ¬ ∀ (r : Route) (alternatives : Text → List (List Node)) (url : Text) (request : Request),
      r.HasRegularRules alternatives → r.pattern.variables.Nodup →
        Request.ofUrl url = .ok request →
          ((r.match? request).isSome = true ↔
            (∀ side ∈ r.sides request, side.1 = [] ∨ StandAt side.1 side.2) ∧
              ∀ e ∈ r.constraints.elim [] Bindings.entries, ∃ token,
                r.StandsFor request token e.1 ∧ token ∈ languageOfChoice (alternatives e.1)) := by
  intro h
  let request : Request := ⟨"http".toList, "x".toList, ['/', Char.ofNat 0x10400], []⟩
  have hurl : Request.ofUrl ("http://x/".toList ++ [Char.ofNat 0x10400]) = .ok request := by
    decide +kernel
  have hrejected : (make? (ruled deseretRule)).toOption.map
      (fun r => (r.match? request).isSome) = some false := by
    decide +kernel
  cases hmake : make? (ruled deseretRule) with
  | error fault =>
    rw [hmake] at hrejected
    cases hrejected
  | ok r =>
    obtain ⟨hpattern, hconstraints⟩ := parts_of_make?_ruled hmake
    have distinct : r.pattern.variables.Nodup := by
      rw [hpattern]
      exact List.nodup_singleton _
    obtain ⟨hfits, hstands⟩ := standsFor_of_make?_ruled hmake request rfl
    have hfound := (h r _ _ request (hasRegularRules_of_make?_ruled spells_deseret hmake) distinct
      hurl).2
    have hrules : r.constraints.elim [] Bindings.entries =
        [("v".toList, .text deseretRule)] := by
      rw [hconstraints]
      rfl
    rw [hrules, List.forall_mem_singleton] at hfound
    rw [hmake] at hrejected
    replace hrejected : some (r.match? request).isSome = some false := hrejected
    rw [hfound ⟨hfits, _, hstands, mem_language_deseret⟩] at hrejected
    cases hrejected

end Route

end UrlRouting
