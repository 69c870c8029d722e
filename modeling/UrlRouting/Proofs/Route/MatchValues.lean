import UrlRouting.Proofs.Route.Match

/-!
# The values of a match

What a route answers to a request, place by place and name by name, for patterns that may repeat a
name.  The main statement is `match?_iff_fits_and_obeys`: a route matches if and only if the tokens
stand at the places of its segments and the values obey its rules, and the values are those that
`Route.Describes` describes.
-/

namespace UrlRouting

/-! ## Tokens at their places -/

/-- Tokens stand at the places of segments: there are as many of them, and each literal finds
itself at its place. -/
def StandAt (segments : List Segment) (tokens : List Text) : Prop :=
  tokens.length = segments.length ∧
    ∀ (i : Nat) (own : Text), segments[i]? = some (.literal own) → tokens[i]? = some own

/-- Tokens that every segment admits stand at the places of the segments. -/
theorem forall₂_admits_iff (segments : List Segment) (tokens : List Text) :
    List.Forall₂ Segment.Admits segments tokens ↔ StandAt segments tokens := by
  constructor
  · intro h
    induction h with
    | nil => exact ⟨rfl, fun i own hi => by simp at hi⟩
    | @cons segment token segments tokens hadmits _ ih =>
      refine ⟨congrArg (· + 1) ih.1, ?_⟩
      intro i own hi
      cases i with
      | zero =>
        obtain rfl : segment = .literal own := Option.some.inj hi
        exact congrArg some (Eq.symm hadmits)
      | succ i => exact ih.2 i own hi
  · intro h
    induction segments generalizing tokens with
    | nil =>
      obtain rfl := List.eq_nil_of_length_eq_zero h.1
      exact .nil
    | cons segment segments ih =>
      cases tokens with
      | nil => cases h.1
      | cons token tokens =>
        obtain ⟨hlength, hplaces⟩ := h
        refine .cons ?_ (ih tokens ⟨Nat.succ.inj hlength, fun i own hi => hplaces (i + 1) own hi⟩)
        cases segment with
        | literal own => exact (Option.some.inj (hplaces 0 own rfl)).symm
        | named written name => trivial

namespace Route

/-- The two sides of a request, each with the segments that it has to fit. -/
def sides (r : Route) (request : Request) : List (List Segment × List Text) :=
  [(r.pattern.host, hostTokens request.host), (r.pattern.path, pathTokens request.path)]

/-- A request fits a route if on each side that has segments its tokens stand at their places. -/
theorem accommodates_iff (r : Route) (request : Request) :
    r.Accommodates request ↔
      ∀ side ∈ r.sides request, side.1 = [] ∨ StandAt side.1 side.2 := by
  simp [sides, Accommodates, Fits, forall₂_admits_iff]

/-! ## What the names are bound to -/

/-- The values that a request leaves, described name by name. -/
structure Describes (r : Route) (request : Request) (values : Bindings Value) : Prop where
  /-- The names of the defaults come first, then the other variables as they first occur. -/
  keys_eq : values.keys =
    r.defaults.keys ++ r.pattern.variables.eraseDups.filter (!r.defaults.contains ·)
  /-- A variable that occurs once is bound to the token at its place. -/
  bound_once : ∀ side ∈ r.sides request, ∀ (i : Nat) (written name : Text),
    side.1[i]? = some (.named written name) → r.pattern.variables.count name = 1 →
      ∃ token, side.2[i]? = some token ∧ values.get? name = some (.text token)
  /-- A variable that occurs more often is bound to the token at its last place. -/
  bound_last : ∀ name ∈ r.pattern.variables,
    values.get? name = (r.entriesFor request).reverse.lookup name
  /-- A default for a name that is no variable is kept. -/
  default_kept : ∀ name ∉ r.pattern.variables, values.get? name = r.defaults.get? name

variable {r : Route} {request : Request}

/-- The values of a request by name: the last token that the name is bound to, or else its
default. -/
theorem lookup_valuesFor (r : Route) (request : Request) (name : Text) :
    (r.valuesFor request).get? name =
      ((r.entriesFor request).reverse.lookup name).or (r.defaults.get? name) := by
  rw [valuesFor, Bindings.get?_overlay, Bindings.ofList, Bindings.lookup_setAll,
    Bindings.get?_empty, Option.or_none]

/-- The tokens of a request that fits bind the variables and nothing else. -/
theorem lookup_reverse_eq_none_iff (hfit : r.Accommodates request) (name : Text) :
    (r.entriesFor request).reverse.lookup name = none ↔ name ∉ r.pattern.variables := by
  rw [Bindings.lookup_reverse_eq_none_iff_not_mem, keys_entriesFor hfit]

/-- A variable at a place of a side that fits is bound to the token at that place. -/
theorem exists_token_of_named {segments : List Segment} {tokens : List Text}
    (hfit : Fits segments tokens) {i : Nat} {written name : Text}
    (hplace : segments[i]? = some (.named written name)) :
    ∃ token, tokens[i]? = some token ∧ (name, Value.text token) ∈ boundEntries segments tokens := by
  have hne : segments ≠ [] := by
    rintro rfl
    simp at hplace
  have hlength := (hfit.resolve_left hne).length_eq
  have hi : i < tokens.length := by
    rw [← hlength]
    exact (List.getElem?_eq_some_iff.1 hplace).1
  have hzip : (segments.zip tokens)[i]? = some (Segment.named written name, tokens[i]) :=
    List.getElem?_zip_eq_some.2 ⟨hplace, List.getElem?_eq_getElem hi⟩
  exact ⟨tokens[i], List.getElem?_eq_getElem hi, mem_boundEntries (List.mem_of_getElem? hzip)⟩

/-- A variable that occurs once is bound to the token that its entry names. -/
theorem get?_valuesFor_of_count (hfit : r.Accommodates request) {name : Text} {value : Value}
    (hone : r.pattern.variables.count name = 1) (hmem : (name, value) ∈ r.entriesFor request) :
    (r.valuesFor request).get? name = some value := by
  have hcount : ((r.entriesFor request).reverse.map Prod.fst).count name = 1 := by
    rw [List.map_reverse, List.count_reverse, keys_entriesFor hfit, hone]
  rw [lookup_valuesFor, Bindings.lookup_of_count_eq_one (List.mem_reverse.2 hmem) hcount]
  rfl

/-- The values of a request that fits are the described ones. -/
theorem describes_valuesFor (hfit : r.Accommodates request) :
    r.Describes request (r.valuesFor request) where
  keys_eq := by
    rw [valuesFor, Bindings.keys_overlay, Bindings.keys_ofList, keys_entriesFor hfit]
  bound_once := by
    intro side hside i written name hplace hone
    rcases List.mem_pair.1 hside with rfl | rfl
    · obtain ⟨token, htoken, hmem⟩ := exists_token_of_named hfit.1 hplace
      exact ⟨token, htoken, get?_valuesFor_of_count hfit hone (List.mem_append_left _ hmem)⟩
    · obtain ⟨token, htoken, hmem⟩ := exists_token_of_named hfit.2 hplace
      exact ⟨token, htoken, get?_valuesFor_of_count hfit hone (List.mem_append_right _ hmem)⟩
  bound_last := by
    intro name hname
    rw [lookup_valuesFor]
    cases hlast : (r.entriesFor request).reverse.lookup name with
    | none => exact absurd hname ((lookup_reverse_eq_none_iff hfit name).1 hlast)
    | some value => rfl
  default_kept := by
    intro name hname
    rw [lookup_valuesFor, (lookup_reverse_eq_none_iff hfit name).2 hname, Option.none_or]

/-! ## The answer to a request -/

/-- A route matches a request if and only if both sides fit and each rule accepts the text of the value
under its name. -/
theorem isSome_match?_iff (r : Route) (request : Request) :
    (r.match? request).isSome = true ↔
      r.Accommodates request ∧ ∀ c ∈ r.checks,
        c.regex.accepts (((r.valuesFor request).get? c.name).elim [] Value.urlText) = true := by
  have haccepts : r.accepts (r.valuesFor request) = true ↔ ∀ c ∈ r.checks,
      c.regex.accepts (((r.valuesFor request).get? c.name).elim [] Value.urlText) = true :=
    List.all_eq_true
  rw [← haccepts, Option.isSome_iff_exists]
  constructor
  · rintro ⟨data, hdata⟩
    obtain ⟨hfit, hobeys, -⟩ := (r.match?_eq_some_iff request data).1 hdata
    exact ⟨hfit, hobeys⟩
  · rintro ⟨hfit, hobeys⟩
    exact ⟨_, (r.match?_eq_some_iff request _).2 ⟨hfit, hobeys, rfl⟩⟩

/-- **When a route matches, and what it answers.**  A route matches a request if and only if on each
side that has segments the tokens stand at their places, and each rule accepts the text of the
value under its name, which is empty if there is none.  The values of a request that fits are the
described ones, and a match answers with them, with the data tokens of the route and with its
handler.  Neither the scheme nor the query of the request has a part in it. -/
theorem match?_iff_fits_and_obeys (r : Route) (request : Request) :
    ((r.match? request).isSome = true ↔
      (∀ side ∈ r.sides request, side.1 = [] ∨ StandAt side.1 side.2) ∧
        ∀ c ∈ r.checks,
          c.regex.accepts (((r.valuesFor request).get? c.name).elim [] Value.urlText) = true) ∧
    ((∀ side ∈ r.sides request, side.1 = [] ∨ StandAt side.1 side.2) →
      r.Describes request (r.valuesFor request)) ∧
    (∀ data, r.match? request = some data →
      data.values = r.valuesFor request ∧ data.dataTokens = r.dataTokens ∧
        data.handler = r.handler) ∧
    ∀ scheme query, r.match? { request with scheme, query } = r.match? request := by
  rw [← accommodates_iff]
  refine ⟨r.isSome_match?_iff request, describes_valuesFor, ?_, fun scheme query => rfl⟩
  intro data hdata
  obtain ⟨-, -, rfl⟩ := (r.match?_eq_some_iff request data).1 hdata
  exact ⟨rfl, rfl, rfl⟩

/-- A pattern that repeats a name, with a default for a variable that occurs once and one for a name
that is no variable, and with rules on both. -/
def archiveDescription : RouteDescription where
  urlPattern := some "http://\x7btenant\x7d.org/\x7barea\x7d/list/\x7barea\x7d/\x7bid\x7d".toList
  defaults := some (.ofList [("lang".toList, .text "en".toList), ("id".toList, .int 0)])
  constraints := some (.ofList [("lang".toList, .text "en|fr".toList),
    ("id".toList, .text "\\d+".toList), ("page".toList, .text "\\d*".toList)])
  dataTokens := some (.ofList [("kind".toList, .text "archive".toList)])
  handler := .absent

/-- The route of that description. -/
def archiveRoute : Route := (Route.make? archiveDescription).toOption.get rfl

/-- A request to it. -/
def archiveRequest : Request := ⟨"ftp".toList, "Acme.org".toList, "/a/list/b/7/".toList, []⟩

theorem match?_iff_fits_and_obeys_archive :
    ∃ data, archiveRoute.match? archiveRequest = some data ∧
      data.values.keys = ["lang".toList, "id".toList, "tenant".toList, "area".toList] ∧
      data.values.get? "id".toList = some (.text "7".toList) ∧
      data.values.get? "lang".toList = some (.text "en".toList) ∧
      data.dataTokens = archiveRoute.dataTokens := by
  obtain ⟨hiff, hdescribes, hdata, -⟩ := match?_iff_fits_and_obeys archiveRoute archiveRequest
  have hfits : ∀ side ∈ archiveRoute.sides archiveRequest, side.1 = [] ∨ StandAt side.1 side.2 := by
    rw [← accommodates_iff]
    exact ⟨(bindTokens_fits_iff _ _ .empty).1 rfl, (bindTokens_fits_iff _ _ .empty).1 rfl⟩
  have hobeys : archiveRoute.accepts (archiveRoute.valuesFor archiveRequest) = true := by
    decide +kernel
  obtain ⟨data, hmatch⟩ := Option.isSome_iff_exists.1 (hiff.2 ⟨hfits, List.all_eq_true.1 hobeys⟩)
  obtain ⟨hvalues, htokens, -⟩ := hdata data hmatch
  have hall := hdescribes hfits
  rw [← hvalues] at hall
  have hvariables : archiveRoute.pattern.variables =
      ["tenant".toList, "area".toList, "area".toList, "id".toList] := rfl
  have hdefaults : archiveRoute.defaults =
      .ofList [("lang".toList, .text "en".toList), ("id".toList, .int 0)] := rfl
  refine ⟨data, hmatch, ?_, ?_, ?_, htokens⟩
  · rw [hall.keys_eq, hvariables, hdefaults]
    decide
  · have hpath : (archiveRoute.pattern.path, pathTokens archiveRequest.path) ∈ archiveRoute.sides archiveRequest :=
      List.mem_cons_of_mem _ List.mem_cons_self
    have hplace : archiveRoute.pattern.path[3]? = some (.named "\x7bid\x7d".toList "id".toList) := rfl
    obtain ⟨token, htoken, hid⟩ := hall.bound_once _ hpath 3 _ _ hplace (by rw [hvariables]; decide)
    have hseven : (pathTokens archiveRequest.path)[3]? = some "7".toList := rfl
    rw [hid, ← Option.some.inj (hseven.symm.trans htoken)]
  · rw [hall.default_kept _ (by rw [hvariables]; decide), hdefaults]
    rfl

end Route

end UrlRouting
