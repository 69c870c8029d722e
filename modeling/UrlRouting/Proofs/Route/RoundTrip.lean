import UrlRouting.Proofs.Pattern.Tokens
import UrlRouting.Proofs.Route.Match
import UrlRouting.Route.Generate

/-!
# Matching and generating undo each other

Two round trips for routes without repeated variables.

* `generate?_of_match?`: from the values of a match the route generates the URL again, less the
  tokens at its end that only repeat defaults.
* `match?_of_generate?`: a generated URL is matched by its route if and only if no segment was
  skipped, and then with the values that it was generated from, from which the same URL is
  generated again.
-/

namespace UrlRouting.Route

/-! ## From a match to a URL -/

/-- The text of a URL by the tokens of its two sides. -/
def urlText (r : Route) (scheme : Option Text) (host path : List Text) : Text :=
  if r.pattern.host = [] then Text.join ['/'] path
  else r.schemeFor scheme ++ ("://" : Text) ++ Text.join ['.'] host ++ '/' :: Text.join ['/'] path

/-- A URL is generated if and only if the context obeys the rules. -/
theorem generate?_eq_some_iff (r : Route) (d : UrlDemand) (url : VirtualPath) :
    r.generate? d = some url ↔
      r.accepts d.context = true ∧
        url = ⟨r.urlText d.scheme (r.hostFor d.context) (r.pathFor d.context), r.dataTokens⟩ := by
  unfold generate?
  by_cases h : r.accepts d.context = true
  · simp [h, urlText, eq_comm]
  · simp [h]

/-- **Match, then generate.**  From the values of a match a route without repeated variables
generates a URL: the tokens of the path without the longest run at the end that only repeats
defaults, and in front of them the whole host if the pattern has one. -/
theorem generate?_of_match? (r : Route) (distinct : r.pattern.variables.Nodup)
    (request : Request) (data : RouteData) (matched : r.match? request = some data) :
    ∃ url, r.generate? ⟨none, some data.values, none⟩ = some url ∧
      url.text =
        let tokens := sideTokens r.pattern.path (pathTokens request.path)
        let path := Text.join ['/'] (briefTokens r.defaults r.pattern.path tokens)
        if r.pattern.host = [] then path
        else
          r.pattern.scheme.getD ("http" : Text) ++ ("://" : Text) ++ request.host ++ '/' :: path := by
  obtain ⟨hfit, haccepts, rfl⟩ := (r.match?_eq_some_iff request data).1 matched
  obtain ⟨hhost, hpath⟩ := resolved_valuesFor distinct hfit r.defaults
  have hcontext : (⟨none, some (r.valuesFor request), none⟩ : UrlDemand).context
      = r.valuesFor request := rfl
  refine ⟨_, (r.generate?_eq_some_iff _ _).2 ⟨haccepts, rfl⟩, ?_⟩
  have hpathFor : r.pathFor (r.valuesFor request) =
      briefTokens r.defaults r.pattern.path
        (sideTokens r.pattern.path (pathTokens request.path)) :=
    fillBriefly_eq_briefTokens hpath
  have hhostFor : r.hostFor (r.valuesFor request) =
      sideTokens r.pattern.host (hostTokens request.host) := fillFully_eq hhost
  rw [hcontext, hpathFor, hhostFor, urlText]
  by_cases hs : r.pattern.host = []
  · rw [if_pos hs, if_pos hs]
  · have hscheme : r.schemeFor none = r.pattern.scheme.getD ("http" : Text) := rfl
    rw [if_neg hs, if_neg hs, hscheme, sideTokens, if_neg hs, join_hostTokens]

/-- The actions of a shop, with defaults at the end of the path and a rule on the host. -/
def shopDescription : RouteDescription where
  urlPattern := some
    "http://\x7bcompany\x7d.com/\x7barea\x7d/\x7bcontroller\x7d/\x7baction\x7d".toList
  defaults := some (.ofList [("controller".toList, .text "Home".toList),
    ("action".toList, .text "Index".toList)])
  constraints := some (.ofList [("company".toList, .text "acme|contoso".toList)])
  dataTokens := none
  handler := .absent

/-- The route of that description. -/
def shop : Route := (Route.make? shopDescription).toOption.get (by decide +kernel)

/-- A request that spells the defaults at its end in another case. -/
def shopRequest : Request := ⟨"http".toList, "ACME.com".toList, "/Sales/HOME/index/".toList, []⟩

theorem generate?_of_match?_shop :
    shop.pattern.variables.Nodup ∧ ∃ data, shop.match? shopRequest = some data ∧
      ∃ url, shop.generate? ⟨none, some data.values, none⟩ = some url ∧
        url.text = "http://ACME.com/Sales".toList := by
  have distinct : shop.pattern.variables.Nodup := by decide +kernel
  have matched : (shop.match? shopRequest).isSome = true := by decide +kernel
  obtain ⟨data, hdata⟩ := Option.isSome_iff_exists.1 matched
  obtain ⟨url, hurl, htext⟩ := generate?_of_match? shop distinct shopRequest data hdata
  refine ⟨distinct, data, hdata, url, hurl, ?_⟩
  rw [htext]
  decide +kernel

/-! ## From a URL to a match -/

/-- A segment that has a token by the context or the defaults admits it. -/
theorem admits_of_resolved {values defaults : Bindings Value} {segments : List Segment}
    {tokens : List Text} (h : Resolved values defaults segments tokens) : Fits segments tokens := by
  refine Or.inr (h.imp ?_)
  intro segment token htoken
  cases segment with
  | literal own => exact Option.some.inj htoken
  | named written name => trivial

/-- A variable of a resolved side has a value, and its token is the text of it. -/
theorem exists_value_of_resolved {values defaults : Bindings Value} {segments : List Segment}
    {tokens : List Text} (h : Resolved values defaults segments tokens) {name : Text}
    (hname : name ∈ segments.filterMap Segment.name?) :
    ∃ value, (values.get? name).or (defaults.get? name) = some value ∧
      (name, Value.text value.urlText) ∈ boundEntries segments tokens := by
  induction h with
  | nil => exact absurd hname (by simp)
  | @cons segment token segments tokens htoken _ ih =>
    cases segment with
    | literal own => exact ih hname
    | named written key =>
      rw [List.filterMap_cons_some (show (Segment.named written key).name? = some key from rfl)]
        at hname
      rcases List.mem_cons.1 hname with rfl | hrest
      · rw [Segment.token?, Bindings.get?_withDefaults] at htoken
        obtain ⟨value, hvalue, rfl⟩ := Option.map_eq_some_iff.1 htoken
        exact ⟨value, hvalue, List.mem_cons_self⟩
      · obtain ⟨value, hvalue, hmem⟩ := ih hrest
        exact ⟨value, hvalue, List.mem_cons_of_mem _ hmem⟩

/-- Rules do not tell two contexts apart that have the same texts under their names. -/
theorem accepts_congr {r : Route} {values values' : Bindings Value}
    (h : ∀ c ∈ r.checks, (values.get? c.name).elim [] Value.urlText
      = (values'.get? c.name).elim [] Value.urlText) :
    r.accepts values = r.accepts values' := by
  unfold accepts
  rw [Bool.eq_iff_iff, List.all_eq_true, List.all_eq_true]
  refine forall₂_congr ?_
  intro c hc
  rw [Check.accepts, Check.accepts, h c hc]

/-- If the context resolves both sides, a match of what it wrote binds every variable to the text
of its value, or else of its default. -/
theorem exists_value_of_variable {r : Route} {request : Request} {context : Bindings Value}
    (distinct : r.pattern.variables.Nodup) (hfit : r.Accommodates request)
    (hhost : Resolved context r.defaults r.pattern.host (hostTokens request.host))
    (hpath : Resolved context r.defaults r.pattern.path (pathTokens request.path)) {name : Text}
    (hname : name ∈ r.pattern.variables) :
    ∃ value, (context.get? name).or (r.defaults.get? name) = some value ∧
      (r.valuesFor request).get? name = some (.text value.urlText) := by
  rw [Pattern.variables, Pattern.segments, List.filterMap_append, List.mem_append] at hname
  rcases hname with hname | hname
  · obtain ⟨value, hvalue, hmem⟩ := exists_value_of_resolved hhost hname
    exact ⟨value, hvalue, get?_valuesFor distinct hfit (List.mem_append_left _ hmem)⟩
  · obtain ⟨value, hvalue, hmem⟩ := exists_value_of_resolved hpath hname
    exact ⟨value, hvalue, get?_valuesFor distinct hfit (List.mem_append_right _ hmem)⟩

/-- Rules on variables that the context binds accept what a match of its URL binds, if they accept the
context. -/
theorem accepts_valuesFor {r : Route} {request : Request} {context : Bindings Value}
    (distinct : r.pattern.variables.Nodup) (hfit : r.Accommodates request)
    (hhost : Resolved context r.defaults r.pattern.host (hostTokens request.host))
    (hpath : Resolved context r.defaults r.pattern.path (pathTokens request.path))
    (ruled : ∀ c ∈ r.checks, c.name ∈ r.pattern.variables ∧ context.contains c.name = true) :
    r.accepts (r.valuesFor request) = r.accepts context := by
  refine accepts_congr fun c hc => ?_
  obtain ⟨hvariable, hbound⟩ := ruled c hc
  obtain ⟨value, hvalue, hget⟩ := exists_value_of_variable distinct hfit hhost hpath hvariable
  obtain ⟨given, hgiven⟩ := Option.isSome_iff_exists.1 hbound
  rw [hgiven, Option.some_or, Option.some.injEq] at hvalue
  rw [hget, hgiven, hvalue]
  rfl

/-- A request has the tokens that a route writes for a context. -/
structure Wrote (r : Route) (context : Bindings Value) (request : Request) : Prop where
  host_eq : hostTokens request.host = r.hostFor context
  path_eq : pathTokens request.path = r.pathFor context

/-- No segment of a route was skipped or left out when it wrote a URL. -/
def WritesAll (r : Route) (context : Bindings Value) : Prop :=
  (r.hostFor context).length = r.pattern.host.length ∧
    (r.pathFor context).length = r.pattern.path.length

section

variable {r : Route} {context : Bindings Value} {request : Request}

theorem hostFor_of_eq_nil (h : r.pattern.host = []) : r.hostFor context = [] := by
  rw [hostFor, h]
  rfl

theorem pathFor_of_eq_nil (h : r.pattern.path = []) : r.pathFor context = [] := by
  rw [pathFor, h]
  rfl

/-- A written request that fits has as many tokens as there are segments, also where there are
none. -/
theorem Wrote.writesAll (h : r.Wrote context request) (hfit : r.Accommodates request) :
    r.WritesAll context := by
  obtain ⟨hhost, hpath⟩ := hfit
  rw [h.host_eq] at hhost
  rw [h.path_eq] at hpath
  exact ⟨hhost.length_eq hostFor_of_eq_nil, hpath.length_eq pathFor_of_eq_nil⟩

/-- As many tokens as segments stand at the places of their own segments. -/
theorem Wrote.resolved (h : r.Wrote context request) (hall : r.WritesAll context) :
    Resolved context r.defaults r.pattern.host (hostTokens request.host) ∧
      Resolved context r.defaults r.pattern.path (pathTokens request.path) := by
  rw [h.host_eq, h.path_eq]
  exact ⟨forall₂_of_length_fillFully hall.1, forall₂_of_length_fillBriefly hall.2⟩

/-- From what a match of a written request binds, the same tokens are written again. -/
theorem Wrote.writes_again (h : r.Wrote context request) (distinct : r.pattern.variables.Nodup)
    (hfit : r.Accommodates request) :
    r.hostFor (r.valuesFor request) = r.hostFor context ∧
      r.pathFor (r.valuesFor request) = r.pathFor context := by
  obtain ⟨-, hpath⟩ := h.resolved (h.writesAll hfit)
  obtain ⟨hhost', hpath'⟩ := resolved_valuesFor distinct hfit r.defaults
  rw [h.host_eq, sideTokens_eq_self hostFor_of_eq_nil] at hhost'
  rw [h.path_eq, sideTokens_eq_self pathFor_of_eq_nil] at hpath'
  rw [h.path_eq] at hpath
  refine ⟨fillFully_eq hhost', ?_⟩
  rw [pathFor, fillBriefly_eq_briefTokens hpath', ← fillBriefly_eq_briefTokens hpath]
  rfl

end

/-- **Generate, then match.**  Let a route without repeated variables generate a URL, with every
rule on a variable that the context binds, and let the tokens that it writes be readable again.
The route matches the host and the path that it wrote if and only if no segment was skipped or
left out.  Every variable is then bound to the text of its value, or else of its default, and the
same URL is generated from what is bound. -/
theorem match?_of_generate? (r : Route) (distinct : r.pattern.variables.Nodup) (d : UrlDemand)
    (url : VirtualPath) (generated : r.generate? d = some url)
    (ruled : ∀ c ∈ r.checks, c.name ∈ r.pattern.variables ∧ d.context.contains c.name = true)
    (hostFree : ∀ token ∈ r.hostFor d.context, '.' ∉ token)
    (hostNonempty : r.hostFor d.context ≠ [[]])
    (pathFree : ∀ token ∈ r.pathFor d.context, '/' ∉ token)
    (pathClosed : (r.pathFor d.context).getLast? ≠ some []) (scheme query : Text) :
    let request : Request :=
      { scheme, query
        host := Text.join ['.'] (r.hostFor d.context)
        path := '/' :: Text.join ['/'] (r.pathFor d.context) }
    ((r.match? request).isSome = true ↔
      (r.hostFor d.context).length = r.pattern.host.length ∧
        (r.pathFor d.context).length = r.pattern.path.length) ∧
    ∀ data, r.match? request = some data →
      (∀ name ∈ r.pattern.variables, ∃ value,
        (d.context.get? name).or (r.defaults.get? name) = some value ∧
          data.values.get? name = some (.text value.urlText)) ∧
      ∀ d' : UrlDemand, d'.context = data.values → d'.scheme = d.scheme →
        (r.generate? d').map VirtualPath.text = some url.text := by
  intro request
  have hwrote : r.Wrote d.context request :=
    ⟨hostTokens_join hostFree hostNonempty, pathTokens_join pathFree pathClosed⟩
  obtain ⟨haccepts, hurl⟩ := (r.generate?_eq_some_iff d url).1 generated
  refine ⟨⟨?_, ?_⟩, ?_⟩
  · intro hsome
    obtain ⟨data, hdata⟩ := Option.isSome_iff_exists.1 hsome
    exact hwrote.writesAll ((r.match?_eq_some_iff request data).1 hdata).1
  · intro hall
    obtain ⟨hhost, hpath⟩ := hwrote.resolved hall
    have hfit : r.Accommodates request := ⟨admits_of_resolved hhost, admits_of_resolved hpath⟩
    have hobeys : r.accepts (r.valuesFor request) = true :=
      (accepts_valuesFor distinct hfit hhost hpath ruled).trans haccepts
    exact Option.isSome_iff_exists.2 ⟨_, (r.match?_eq_some_iff request _).2 ⟨hfit, hobeys, rfl⟩⟩
  · intro data hdata
    obtain ⟨hfit, hobeys, rfl⟩ := (r.match?_eq_some_iff request data).1 hdata
    obtain ⟨hhost, hpath⟩ := hwrote.resolved (hwrote.writesAll hfit)
    refine ⟨fun name hname => exists_value_of_variable distinct hfit hhost hpath hname, ?_⟩
    intro d' hcontext hscheme
    obtain ⟨hhostFor, hpathFor⟩ := hwrote.writes_again distinct hfit
    have hagain : r.generate? d' = some
        ⟨r.urlText d'.scheme (r.hostFor d.context) (r.pathFor d.context), r.dataTokens⟩ := by
      rw [generate?_eq_some_iff, hcontext, hhostFor, hpathFor]
      exact ⟨hobeys, rfl⟩
    rw [hagain, hurl, hscheme]
    rfl

/-- A demand for an action of the shop whose controller comes from the current values and only
repeats the default. -/
def shopDemand : UrlDemand where
  values := some (.ofList [("action".toList, .text "Edit".toList), ("area".toList, .int 7)])
  currentValues := some (.ofList [("company".toList, .text "Contoso".toList),
    ("controller".toList, .text "home".toList)])
  scheme := some "https".toList

theorem match?_of_generate?_shop :
    ∃ url, shop.generate? shopDemand = some url ∧
      url.text = "https://Contoso.com/7/home/Edit".toList ∧
      ∃ data, shop.match? ⟨[], "Contoso.com".toList, "/7/home/Edit".toList, []⟩ = some data ∧
        (shop.generate? ⟨none, some data.values, shopDemand.scheme⟩).map VirtualPath.text
          = some url.text := by
  have distinct : shop.pattern.variables.Nodup := by decide +kernel
  have generated : (shop.generate? shopDemand).isSome = true := by decide +kernel
  obtain ⟨url, hurl⟩ := Option.isSome_iff_exists.1 generated
  have htext : (shop.generate? shopDemand).map VirtualPath.text
      = some "https://Contoso.com/7/home/Edit".toList := by decide +kernel
  rw [hurl, Option.map_some, Option.some.injEq] at htext
  have hhost : shop.hostFor shopDemand.context = ["Contoso".toList, "com".toList] := by
    decide +kernel
  have hpath : shop.pathFor shopDemand.context
      = ["7".toList, "home".toList, "Edit".toList] := by decide +kernel
  obtain ⟨hiff, hagain⟩ := match?_of_generate? shop distinct shopDemand url hurl
    (by decide +kernel) (by decide +kernel) (by decide +kernel) (by decide +kernel)
    (by decide +kernel) [] []
  have hrequest : (⟨[], Text.join ['.'] (shop.hostFor shopDemand.context),
      '/' :: Text.join ['/'] (shop.pathFor shopDemand.context), []⟩ : Request)
      = ⟨[], "Contoso.com".toList, "/7/home/Edit".toList, []⟩ := by
    rw [hhost, hpath]
    decide +kernel
  rw [hrequest] at hiff hagain
  obtain ⟨data, hdata⟩ := Option.isSome_iff_exists.1 (hiff.2 (by rw [hhost, hpath]; decide +kernel))
  exact ⟨url, hurl, htext, data, hdata, (hagain data hdata).2 _ rfl rfl⟩

end UrlRouting.Route
