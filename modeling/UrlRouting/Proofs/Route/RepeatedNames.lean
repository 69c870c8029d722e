import UrlRouting.Proofs.Route.RulesOnUrls

/-!
# Names that are repeated in a pattern

A route binds a name once, however often its pattern repeats it.  `match?_binds_last_tokens` says what
is left of the tokens of a request: literals and the tokens at the last places of the names, so that
the values give all tokens back if and only if a name that is repeated stands for equal tokens.
-/

namespace UrlRouting

/-- Entries that are bound at places of other names have other names. -/
theorem lookup_filterMap_boundEntry {places : List (Segment × Text)} {name : Text}
    (h : ∀ e ∈ places, e.1.name? ≠ some name) :
    (places.filterMap boundEntry).reverse.lookup name = none := by
  rw [Bindings.lookup_reverse_eq_none_iff_not_mem]
  intro hmem
  obtain ⟨entry, hentry, rfl⟩ := List.mem_map.1 hmem
  obtain ⟨e, he, hbound⟩ := List.mem_filterMap.1 hentry
  obtain ⟨key, hkey, rfl⟩ := Option.map_eq_some_iff.1 hbound
  exact h e he hkey

namespace Route

variable {r : Route} {request : Request} {data : RouteData} {name token : Text}

/-- The segments of a pattern with the tokens at their places, host before path. -/
def placed (r : Route) (request : Request) : List (Segment × Text) :=
  r.pattern.host.zip (hostTokens request.host) ++ r.pattern.path.zip (pathTokens request.path)

/-- A token stands at the last place of a name: no segment behind it has the same name. -/
def StandsLastFor (r : Route) (request : Request) (token name : Text) : Prop :=
  ∃ before written behind, r.placed request = before ++ (.named written name, token) :: behind ∧
    ∀ e ∈ behind, e.1.name? ≠ some name

theorem entriesFor_eq_filterMap (r : Route) (request : Request) :
    r.entriesFor request = (r.placed request).filterMap boundEntry := by
  rw [entriesFor, placed, List.filterMap_append, boundEntries_eq_filterMap,
    boundEntries_eq_filterMap]

/-- The places of the variables are those where tokens stand for them. -/
theorem exists_mem_placed_iff :
    (∃ written, (Segment.named written name, token) ∈ r.placed request) ↔
      r.StandsFor request token name := by
  have hside : ∀ (segments : List Segment) (tokens : List Text) (written : Text),
      (Segment.named written name, token) ∈ segments.zip tokens ↔
        ∃ i : Nat, segments[i]? = some (.named written name) ∧ tokens[i]? = some token := by
    intro segments tokens written
    rw [List.mem_iff_getElem?]
    exact exists_congr fun i => List.getElem?_zip_eq_some
  unfold placed StandsFor sides
  simp only [List.mem_append, hside, List.mem_pair]
  constructor
  · rintro ⟨written, ⟨i, hi⟩ | ⟨i, hi⟩⟩
    · exact ⟨_, .inl rfl, i, written, hi⟩
    · exact ⟨_, .inr rfl, i, written, hi⟩
  · rintro ⟨side, rfl | rfl, i, written, hi⟩
    · exact ⟨written, .inl ⟨i, hi⟩⟩
    · exact ⟨written, .inr ⟨i, hi⟩⟩

theorem StandsLastFor.standsFor (h : r.StandsLastFor request token name) :
    r.StandsFor request token name := by
  obtain ⟨before, written, behind, hplaced, -⟩ := h
  refine exists_mem_placed_iff.1 ⟨written, ?_⟩
  rw [hplaced]
  exact List.mem_append_right _ List.mem_cons_self

/-- A name that a token stands for has a last place. -/
theorem StandsFor.exists_standsLastFor (h : r.StandsFor request token name) :
    ∃ last, r.StandsLastFor request last name := by
  obtain ⟨written, hmem⟩ := exists_mem_placed_iff.2 h
  -- the last place is the first one from behind
  cases hfind : (r.placed request).reverse.find? (·.1.name? == some name) with
  | none =>
    have hnone := List.find?_eq_none.1 hfind _ (List.mem_reverse.2 hmem)
    exact absurd (beq_self_eq_true _) hnone
  | some e =>
    obtain ⟨hname, behind, before, hplaced, hbehind⟩ := List.find?_eq_some_iff_append.1 hfind
    rw [beq_iff_eq] at hname
    obtain ⟨segment, last⟩ := e
    cases segment with
    | literal own => cases hname
    | named written' key =>
      obtain rfl : key = name := Option.some.inj hname
      refine ⟨last, before.reverse, written', behind.reverse, ?_, fun e he heq => ?_⟩
      · rw [← List.reverse_reverse (r.placed request), hplaced]
        simp
      · have hother := hbehind e (List.mem_reverse.1 he)
        rw [heq] at hother
        simp at hother

/-- A name is bound to the token at its last place. -/
theorem StandsLastFor.get?_valuesFor (h : r.StandsLastFor request token name) :
    (r.valuesFor request).get? name = some (.text token) := by
  obtain ⟨before, written, behind, hplaced, hbehind⟩ := h
  have hentries : (r.entriesFor request).reverse =
      (behind.filterMap boundEntry).reverse ++
        (name, .text token) :: (before.filterMap boundEntry).reverse := by
    rw [entriesFor_eq_filterMap, hplaced, List.filterMap_append, List.filterMap_cons]
    simp [boundEntry, Segment.name?]
  rw [lookup_valuesFor, hentries, List.lookup_append, lookup_filterMap_boundEntry hbehind,
    List.lookup_cons_self]
  rfl

/-- A side is given back by values if each of its segments gives its token. -/
theorem map_token?_eq_iff (values : Bindings Value) (segments : List Segment)
    (tokens : List Text) :
    segments.map (·.token? values) = tokens.map some ↔
      List.Forall₂ (fun segment token => segment.token? values = some token) segments tokens := by
  rw [← List.forall₂_eq_eq_eq, List.forall₂_map_left_iff, List.forall₂_map_right_iff]

/-- Where a repeated name stands for equal tokens, every name is bound to each of its tokens. -/
theorem get?_of_mem_entriesFor
    (hsame : ∀ name token token', r.StandsFor request token name →
      r.StandsFor request token' name → token = token')
    {e : Text × Value} (he : e ∈ r.entriesFor request) :
    (r.valuesFor request).get? e.1 = some e.2 := by
  rw [entriesFor_eq_filterMap] at he
  obtain ⟨⟨segment, token⟩, hplace, hbound⟩ := List.mem_filterMap.1 he
  cases segment with
  | literal own => cases hbound
  | named written name =>
    obtain rfl : (name, Value.text token) = e := Option.some.inj hbound
    have hstands : r.StandsFor request token name := exists_mem_placed_iff.1 ⟨written, hplace⟩
    obtain ⟨last, hlast⟩ := hstands.exists_standsLastFor
    rw [hlast.get?_valuesFor, hsame name last token hlast.standsFor hstands]

/-- Values that bind every name to each of its tokens give the tokens back. -/
theorem map_token?_of_bound (hfit : r.Accommodates request)
    (hbound : ∀ e ∈ r.entriesFor request, (r.valuesFor request).get? e.1 = some e.2)
    {side : List Segment × List Text} (hside : side ∈ r.sides request) (hne : side.1 ≠ []) :
    side.1.map (·.token? (r.valuesFor request)) = side.2.map some := by
  have hown : ∀ e ∈ boundEntries side.1 side.2, (r.valuesFor request).get? e.1 = some e.2 := by
    intro e he
    refine hbound e ?_
    rcases List.mem_pair.1 hside with rfl | rfl
    · exact List.mem_append_left _ he
    · exact List.mem_append_right _ he
  have hfits : Fits side.1 side.2 :=
    ((r.accommodates_iff request).1 hfit side hside).imp id (forall₂_admits_iff _ _).2
  have hresolved := resolved_of_bound .empty hfits hown
  rw [sideTokens, if_neg hne] at hresolved
  exact (map_token?_eq_iff _ _ _).2 hresolved

/-- **What a match keeps of the tokens.**  If a route matches a request, then on each side that has
segments there are as many tokens, a literal equals the token at its place, and a variable is bound to
the one token that stands at the last place of its name, host before path.  The values give all tokens
of these sides back if and only if no name stands for two different tokens, and so they do if no name
is repeated. -/
theorem match?_binds_last_tokens (h : r.match? request = some data) :
    (∀ side ∈ r.sides request, side.1 ≠ [] →
      side.2.length = side.1.length ∧
      (∀ (i : Nat) (own : Text), side.1[i]? = some (.literal own) → side.2[i]? = some own) ∧
      ∀ (i : Nat) (written name : Text), side.1[i]? = some (.named written name) →
        ∃ last, data.values.get? name = some (.text last) ∧
          ∀ token, r.StandsLastFor request token name ↔ token = last) ∧
    ((∀ side ∈ r.sides request, side.1 ≠ [] →
        side.1.map (·.token? data.values) = side.2.map some) ↔
      ∀ name token token', r.StandsFor request token name → r.StandsFor request token' name →
        token = token') ∧
    (r.pattern.variables.Nodup → ∀ side ∈ r.sides request, side.1 ≠ [] →
      side.1.map (·.token? data.values) = side.2.map some) := by
  obtain ⟨hfit, -, rfl⟩ := (r.match?_eq_some_iff request data).1 h
  have hsides := (r.accommodates_iff request).1 hfit
  dsimp only
  refine ⟨?_, ⟨?_, ?_⟩, ?_⟩
  · intro side hside hne
    obtain ⟨hlength, hliterals⟩ := (hsides side hside).resolve_left hne
    refine ⟨hlength, hliterals, fun i written name hplace => ?_⟩
    have hi : i < side.2.length := by
      rw [hlength]
      exact (List.getElem?_eq_some_iff.1 hplace).1
    have hstands : r.StandsFor request side.2[i] name :=
      ⟨side, hside, i, written, hplace, List.getElem?_eq_getElem hi⟩
    obtain ⟨last, hlast⟩ := hstands.exists_standsLastFor
    refine ⟨last, hlast.get?_valuesFor, fun token => ⟨fun htoken => ?_, fun heq => heq ▸ hlast⟩⟩
    have hsame := htoken.get?_valuesFor.symm.trans hlast.get?_valuesFor
    exact Value.text.inj (Option.some.inj hsame)
  · intro hback name token token' htoken htoken'
    -- both tokens are what the value of the name gives
    have hgives : ∀ t, r.StandsFor request t name →
        ((r.valuesFor request).get? name).map Value.urlText = some t := by
      rintro t ⟨side, hside, i, written, hplace, ht⟩
      have hne : side.1 ≠ [] := by
        intro hnil
        rw [hnil] at hplace
        cases hplace
      have hat := congrArg (·[i]?) (hback side hside hne)
      simp only [List.getElem?_map, hplace, ht, Option.map_some, Option.some.injEq] at hat
      exact hat
    exact Option.some.inj ((hgives token htoken).symm.trans (hgives token' htoken'))
  · intro hsame side hside hne
    exact map_token?_of_bound hfit (fun _ he => get?_of_mem_entriesFor hsame he) hside hne
  · intro hdistinct side hside hne
    exact map_token?_of_bound hfit (fun _ he => get?_valuesFor hdistinct hfit he) hside hne

/-- A pattern whose host and path share a name. -/
def mirroredDescription : RouteDescription where
  urlPattern := some "http://\x7blang\x7d.org/pages/\x7blang\x7d/\x7bpage\x7d".toList
  defaults := some (.ofList [("lang".toList, .text "en".toList)])
  constraints := none
  dataTokens := none
  handler := .absent

/-- The route of that description. -/
def mirroredRoute : Route := (Route.make? mirroredDescription).toOption.get rfl

/-- A request with different tokens for the shared name. -/
def mirroredRequest : Request := ⟨"http".toList, "de.org".toList, "/pages/fr/home".toList, []⟩

theorem match?_binds_last_tokens_mirrored :
    ∃ data, mirroredRoute.match? mirroredRequest = some data ∧
      data.values.get? "lang".toList = some (.text "fr".toList) ∧
      ∃ side ∈ mirroredRoute.sides mirroredRequest,
        side.1.map (·.token? data.values) ≠ side.2.map some := by
  have hfound : (mirroredRoute.match? mirroredRequest).isSome = true := by decide +kernel
  obtain ⟨data, hdata⟩ := Option.isSome_iff_exists.1 hfound
  obtain ⟨hplaces, hback, -⟩ := match?_binds_last_tokens hdata
  refine ⟨data, hdata, ?_, ?_⟩
  · have hpath := hplaces _ (List.mem_cons_of_mem _ List.mem_cons_self) (by decide +kernel)
    obtain ⟨last, hlast, honly⟩ := hpath.2.2 1 "\x7blang\x7d".toList "lang".toList rfl
    have hfr : mirroredRoute.StandsLastFor mirroredRequest "fr".toList "lang".toList := by
      refine ⟨[(.named "\x7blang\x7d".toList "lang".toList, "de".toList),
        (.literal "org".toList, "org".toList), (.literal "pages".toList, "pages".toList)],
        "\x7blang\x7d".toList, [(.named "\x7bpage\x7d".toList "page".toList, "home".toList)], rfl, ?_⟩
      decide
    rw [hlast, (honly _).1 hfr]
  · by_contra hall
    push Not at hall
    have hsame := hback.1 (fun side hside _ => hall side hside) "lang".toList "de".toList "fr".toList
      ⟨_, List.mem_cons_self, 0, "\x7blang\x7d".toList, rfl, rfl⟩
      ⟨_, List.mem_cons_of_mem _ List.mem_cons_self, 1, "\x7blang\x7d".toList, rfl, rfl⟩
    exact absurd hsame (by decide)

/-- A pattern of one name twice. -/
def twiceDescription : RouteDescription where
  urlPattern := some "\x7ba\x7d/\x7ba\x7d".toList
  defaults := none
  constraints := none
  dataTokens := none
  handler := .absent

/-- A variable need not be bound to the token at its place: a name that is repeated keeps the last one
only. -/
theorem not_forall_tokens_are_bound :
    ¬ ∀ (d : RouteDescription) (r : Route) (request : Request) (data : RouteData),
      make? d = .ok r → r.match? request = some data →
        ∀ side ∈ r.sides request, ∀ (i : Nat) (written name : Text),
          side.1[i]? = some (.named written name) →
            data.values.get? name = side.2[i]?.map Value.text := by
  intro h
  let request : Request := ⟨"http".toList, "h".toList, "/x/y".toList, []⟩
  let r : Route := (make? twiceDescription).toOption.get rfl
  have hfound : (r.match? request).isSome = true := by decide +kernel
  obtain ⟨data, hdata⟩ := Option.isSome_iff_exists.1 hfound
  have hplace := h twiceDescription r request data rfl hdata
    (r.pattern.path, pathTokens request.path) (List.mem_cons_of_mem _ List.mem_cons_self)
  have hfirst := hplace 0 "\x7ba\x7d".toList "a".toList rfl
  have hsecond := hplace 1 "\x7ba\x7d".toList "a".toList rfl
  have htokens : some (Value.text "x".toList) = some (Value.text "y".toList) :=
    hfirst.symm.trans hsecond
  exact absurd (Value.text.inj (Option.some.inj htokens)) (by decide)

end Route

end UrlRouting
