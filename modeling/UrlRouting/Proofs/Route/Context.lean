import UrlRouting.Proofs.Pattern.Anchors
import UrlRouting.Proofs.Route.MatchValues
import UrlRouting.Proofs.Route.RoundTrip

/-!
# What a route sees of a context

A route reads a context by name: the text under each of its variables, if there is one, and the text
under each of its rules, where nothing counts as empty.  Whatever leaves these as they are leaves the
URL as it is: `generate?_eq_of_looksAlike`.

A variable without a value takes the text of its default, so supplying the default changes nothing
either, as long as the rules do not mind: `generate?_eq_of_suppliesDefaults`.  Both rest on
`generate?_congr`, by which the texts of the segments and the verdicts of the rules decide the answer.
-/

namespace UrlRouting

/-! ## What decides a URL -/

/-- Segments with the same texts are filled alike, whether the defaults at the end are written or
not. -/
theorem fill_congr {segments : List Segment} {values values' defaults : Bindings Value}
    (h : ∀ segment ∈ segments, segment.text? values defaults = segment.text? values' defaults) :
    fillFully segments values defaults = fillFully segments values' defaults ∧
      fillBriefly segments values defaults = fillBriefly segments values' defaults := by
  have htoken : ∀ segment ∈ segments, segment.token? (values.withDefaults defaults) =
      segment.token? (values'.withDefaults defaults) := by
    intro segment hsegment
    rw [← segment.text?_eq_token?, ← segment.text?_eq_token?, h segment hsegment]
  constructor
  · exact List.filterMap_congr htoken
  · -- what is held back and what is written is decided by the text alone
    have hpiece : ∀ segment ∈ segments,
        segment.piece? values defaults = segment.piece? values' defaults := by
      intro segment hsegment
      rw [piece?_eq, piece?_eq, htoken segment hsegment]
    rw [fillBriefly, fillBriefly, List.filterMap_congr hpiece]

/-- What a demand says of a name: the value among the given ones, or else among the current ones. -/
def UrlDemand.given? (d : UrlDemand) (name : Text) : Option Value :=
  ((d.values.getD .empty).get? name).or ((d.currentValues.getD .empty).get? name)

theorem UrlDemand.get?_context (d : UrlDemand) (name : Text) :
    d.context.get? name = d.given? name :=
  Bindings.get?_overlay _ _ name

namespace Route

variable {r : Route} {d d' : UrlDemand}

/-- The texts of the segments and the verdicts of the rules decide what is generated. -/
theorem generate?_congr (hscheme : d.scheme = d'.scheme)
    (htext : ∀ segment ∈ r.pattern.segments,
      segment.text? d.context r.defaults = segment.text? d'.context r.defaults)
    (hverdict : ∀ check ∈ r.checks, check.accepts d.context = check.accepts d'.context) :
    r.generate? d = r.generate? d' := by
  have haccepts : r.accepts d.context = r.accepts d'.context := by
    rw [accepts, accepts, Bool.eq_iff_iff, List.all_eq_true, List.all_eq_true]
    refine forall₂_congr fun check hcheck => ?_
    rw [hverdict check hcheck]
  have hhost : r.hostFor d.context = r.hostFor d'.context :=
    (fill_congr fun segment hsegment => htext segment (List.mem_append_left _ hsegment)).1
  have hpath : r.pathFor d.context = r.pathFor d'.context :=
    (fill_congr fun segment hsegment => htext segment (List.mem_append_right _ hsegment)).2
  rw [generate?, generate?]
  dsimp only
  rw [haccepts, hhost, hpath, hscheme]

/-! ## Contexts that look alike -/

/-- Two demands look alike to a route: of each variable of the pattern both say nothing, or both say
something with the same text, and under every other name that has a rule they have the same text, which
is empty where they say nothing. -/
structure LooksAlike (r : Route) (d d' : UrlDemand) : Prop where
  bound : ∀ name ∈ r.pattern.variables,
    (d.given? name).map Value.urlText = (d'.given? name).map Value.urlText
  ruled : ∀ check ∈ r.checks, check.name ∉ r.pattern.variables →
    (d.given? check.name).elim [] Value.urlText = (d'.given? check.name).elim [] Value.urlText

/-- A segment takes its text from a literal, from what is said of its name, or from the default. -/
theorem text?_congr {segment : Segment} (hsegment : segment ∈ r.pattern.segments)
    (h : ∀ name ∈ r.pattern.variables,
      ((d.given? name).or (r.defaults.get? name)).map Value.urlText =
        ((d'.given? name).or (r.defaults.get? name)).map Value.urlText) :
    segment.text? d.context r.defaults = segment.text? d'.context r.defaults := by
  cases segment with
  | literal own => rfl
  | named written name =>
    have hname : name ∈ r.pattern.variables := List.mem_filterMap.2 ⟨_, hsegment, rfl⟩
    rw [Segment.text?_eq_token?, Segment.text?_eq_token?, Segment.token?, Segment.token?,
      Bindings.get?_withDefaults, Bindings.get?_withDefaults, UrlDemand.get?_context,
      UrlDemand.get?_context]
    exact h name hname

theorem elim_urlText (value : Option Value) :
    value.elim [] Value.urlText = (value.map Value.urlText).getD [] := by
  cases value <;> rfl

/-- **What generating can see.**  Demands with the same scheme that look alike to a route get the same
answer: no URL from both, or the same text and the same data tokens.  How the values are divided into
given and current ones, their order, what is said of other names, and what kind of value a text comes
from, does not show. -/
theorem generate?_eq_of_looksAlike (r : Route) {d d' : UrlDemand} (hscheme : d.scheme = d'.scheme)
    (h : r.LooksAlike d d') : r.generate? d = r.generate? d' := by
  refine generate?_congr hscheme (fun segment hsegment => ?_) fun check hcheck => ?_
  · refine text?_congr hsegment fun name hname => ?_
    rw [Option.map_or, Option.map_or, h.bound name hname]
  · rw [Check.accepts, Check.accepts, UrlDemand.get?_context, UrlDemand.get?_context]
    by_cases hname : check.name ∈ r.pattern.variables
    · rw [elim_urlText, elim_urlText, h.bound check.name hname]
    · rw [h.ruled check hcheck hname]

/-- A demand in which the area is a number and the page is nothing. -/
def numberedDemand : UrlDemand where
  values := some (.ofList [("area".toList, .int 7), ("id".toList, .int 5), ("page".toList, .null)])
  currentValues := some (.ofList [("lang".toList, .text "en".toList),
    ("id".toList, .text "4".toList), ("tenant".toList, .text "acme".toList)])
  scheme := none

/-- A demand that says the same by texts, in another order, and more than is needed. -/
def writtenDemand : UrlDemand where
  values := some (.ofList [("tenant".toList, .text "acme".toList), ("sort".toList, .bool true),
    ("id".toList, .text "5".toList)])
  currentValues := some (.ofList [("area".toList, .text "7".toList), ("lang".toList, .text "en".toList)])
  scheme := none

theorem generate?_eq_of_looksAlike_archive :
    ∃ url, archiveRoute.generate? numberedDemand = some url ∧
      archiveRoute.generate? writtenDemand = some url ∧
      url.text = "http://acme.org/7/list/7/5".toList := by
  have hlooks : archiveRoute.LooksAlike numberedDemand writtenDemand :=
    ⟨by decide +kernel, by decide +kernel⟩
  have htext : (archiveRoute.generate? numberedDemand).map VirtualPath.text =
      some "http://acme.org/7/list/7/5".toList := by decide +kernel
  have hscheme : numberedDemand.scheme = writtenDemand.scheme := rfl
  have hsame := generate?_eq_of_looksAlike archiveRoute hscheme hlooks
  obtain ⟨url, hurl, htext⟩ := Option.map_eq_some_iff.1 htext
  exact ⟨url, hurl, hsame ▸ hurl, htext⟩

/-! ## Defaults that are supplied -/

/-- A demand says what another one says, and besides, for some names that have a default and of which
the other one says nothing, values with the texts of these defaults. -/
structure SuppliesDefaults (r : Route) (d : UrlDemand) (added : Bindings Value) (d' : UrlDemand) :
    Prop where
  scheme : d'.scheme = d.scheme
  given : ∀ name, d'.given? name = (added.get? name).or (d.given? name)
  absent : ∀ e ∈ added.entries, d.given? e.1 = none
  repeats : ∀ e ∈ added.entries,
    (r.defaults.get? e.1).map Value.urlText = some e.2.urlText

/-- What is said of a name is what was said before, unless its default is supplied. -/
theorem SuppliesDefaults.given_cases {added : Bindings Value} (h : r.SuppliesDefaults d added d')
    (name : Text) :
    d'.given? name = d.given? name ∨
      ∃ value default, (name, value) ∈ added.entries ∧ r.defaults.get? name = some default ∧
        default.urlText = value.urlText ∧ d'.given? name = some value ∧ d.given? name = none := by
  rw [h.given]
  cases hadded : added.get? name with
  | none => exact .inl (Option.none_or)
  | some value =>
    obtain ⟨before, behind, hentries, -⟩ := List.lookup_eq_some_iff.1 hadded
    have hmem : (name, value) ∈ added.entries := by
      rw [hentries]
      exact List.mem_append_right _ List.mem_cons_self
    obtain ⟨default, hdefault, htext⟩ := Option.map_eq_some_iff.1 (h.repeats _ hmem)
    exact .inr ⟨value, default, hmem, hdefault, htext, Option.some_or, h.absent _ hmem⟩

/-- **Supplying a default changes nothing.**  If a demand supplies defaults on which another one is
silent, and every rule for such a name gives the same verdict on the text of the default as on the
empty text, then both get the same answer: no URL, or the same text, host and path. -/
theorem generate?_eq_of_suppliesDefaults {r : Route} {d d' : UrlDemand} {added : Bindings Value}
    (h : r.SuppliesDefaults d added d')
    (hverdict : ∀ check ∈ r.checks, check.name ∈ added.keys →
      ∀ default ∈ r.defaults.get? check.name,
        check.regex.accepts default.urlText = check.regex.accepts []) :
    r.generate? d' = r.generate? d := by
  refine generate?_congr h.scheme (fun segment hsegment => ?_) fun check hcheck => ?_
  · refine text?_congr hsegment fun name _ => ?_
    rcases h.given_cases name with hsame | ⟨value, default, -, hdefault, htext, hgiven, hsilent⟩
    · rw [hsame]
    · rw [hgiven, hsilent, hdefault, Option.some_or, Option.none_or, Option.map_some,
        Option.map_some, htext]
  · rw [Check.accepts, Check.accepts, UrlDemand.get?_context, UrlDemand.get?_context]
    rcases h.given_cases check.name with
      hsame | ⟨value, default, hmem, hdefault, htext, hgiven, hsilent⟩
    · rw [hsame]
    · have hkey : check.name ∈ added.keys := List.mem_map_of_mem hmem
      rw [hgiven, hsilent, Option.elim_some, Option.elim_none, ← htext]
      exact hverdict check hcheck hkey default hdefault

/-- The pages of a tenant, with a default on either side and a rule that the empty text obeys. -/
def pagesDescription : RouteDescription where
  urlPattern := some "http://\x7btenant\x7d.org/\x7barea\x7d/\x7bpage\x7d".toList
  defaults := some (.ofList [("tenant".toList, .text "acme".toList), ("page".toList, .int 1)])
  constraints := some (.ofList [("page".toList, .text "\\d*".toList)])
  dataTokens := none
  handler := .absent

/-- The route of that description. -/
def pages : Route := (Route.make? pagesDescription).toOption.get rfl

/-- Both defaults of the pages, one of them as a text. -/
def suppliedPages : Bindings Value :=
  .ofList [("page".toList, .text "1".toList), ("tenant".toList, .text "acme".toList)]

/-- A demand for the first page of an area. -/
def pagesDemand : UrlDemand where
  values := some (.ofList [("area".toList, .text "Sales".toList)])
  currentValues := some (.ofList [("area".toList, .text "Home".toList), ("id".toList, .int 3)])
  scheme := none

/-- The same demand with both defaults supplied. -/
def fullPagesDemand : UrlDemand :=
  { pagesDemand with values := pagesDemand.values.map (·.overlay suppliedPages) }

theorem generate?_eq_of_suppliesDefaults_pages :
    ∃ url, pages.generate? pagesDemand = some url ∧ pages.generate? fullPagesDemand = some url ∧
      url.text = "http://acme.org/Sales".toList := by
  have hgiven : ∀ name, fullPagesDemand.given? name =
      (suppliedPages.get? name).or (pagesDemand.given? name) := by
    intro name
    have hvalues : fullPagesDemand.values.getD .empty =
        (pagesDemand.values.getD .empty).overlay suppliedPages := rfl
    rw [UrlDemand.given?, UrlDemand.given?, hvalues, Bindings.get?_overlay, Option.or_assoc]
    rfl
  have hsupplies : pages.SuppliesDefaults pagesDemand suppliedPages fullPagesDemand :=
    ⟨rfl, hgiven, by decide +kernel, by decide +kernel⟩
  have hsame := generate?_eq_of_suppliesDefaults hsupplies (by decide +kernel)
  have htext : (pages.generate? pagesDemand).map VirtualPath.text =
      some "http://acme.org/Sales".toList := by decide +kernel
  obtain ⟨url, hurl, htext⟩ := Option.map_eq_some_iff.1 htext
  exact ⟨url, hurl, hsame.trans hurl, htext⟩

end Route

end UrlRouting
