import UrlRouting.Proofs.Pattern.Binding
import UrlRouting.Proofs.Pattern.Filling
import UrlRouting.Route.Match

/-!
# What a match binds

A route matches a request if both sides fit and the values obey the rules.  The main statements
are `match?_eq_some_iff`, which says so, and for patterns without repeated names `get?_valuesFor`:
every variable is bound to its own token.  `resolved_valuesFor` is the form of it that filling
needs.
-/

namespace UrlRouting

/-- The tokens that the segments of a pattern look at: none without segments. -/
def sideTokens (segments : List Segment) (tokens : List Text) : List Text :=
  if segments = [] then [] else tokens

/-- A side without segments that is given no tokens loses none. -/
theorem sideTokens_eq_self {segments : List Segment} {tokens : List Text}
    (h : segments = [] → tokens = []) : sideTokens segments tokens = tokens := by
  unfold sideTokens
  split
  · next hs => exact (h hs).symm
  · rfl

/-- Tokens that fit are as many as the segments, if there are none where there are no segments. -/
theorem Fits.length_eq {segments : List Segment} {tokens : List Text} (h : Fits segments tokens)
    (hnil : segments = [] → tokens = []) : tokens.length = segments.length := by
  rcases h with hs | hall
  · rw [hnil hs, hs, List.length_nil, List.length_nil]
  · exact hall.length_eq.symm

/-- Tokens that fit stand at the places of their segments. -/
theorem Fits.forall₂_sideTokens {segments : List Segment} {tokens : List Text}
    (h : Fits segments tokens) :
    List.Forall₂ Segment.Admits segments (sideTokens segments tokens) := by
  unfold sideTokens
  by_cases hs : segments = []
  · subst hs
    exact .nil
  · rw [if_neg hs]
    exact h.resolve_left hs

namespace Route

/-- What the tokens of a request bind, host before path. -/
def entriesFor (r : Route) (request : Request) : List (Text × Value) :=
  boundEntries r.pattern.host (hostTokens request.host) ++
    boundEntries r.pattern.path (pathTokens request.path)

/-- The values that the tokens of a request leave: the defaults, overlaid by what is bound. -/
def valuesFor (r : Route) (request : Request) : Bindings Value :=
  r.defaults.overlay (.ofList (r.entriesFor request))

/-- Both sides of a request fit. -/
def Accommodates (r : Route) (request : Request) : Prop :=
  Fits r.pattern.host (hostTokens request.host) ∧ Fits r.pattern.path (pathTokens request.path)

/-- A request is bound if and only if both sides fit, and then to its own entries. -/
theorem bind?_eq_some_iff (r : Route) (request : Request) (bound : Bindings Value) :
    r.bind? request = some bound ↔
      r.Accommodates request ∧ bound = .ofList (r.entriesFor request) := by
  have hhost := bindTokens_fits_iff r.pattern.host (hostTokens request.host) .empty
  set host := bindTokens r.pattern.host (hostTokens request.host) .empty with hhostDef
  have hpath := bindTokens_fits_iff r.pattern.path (pathTokens request.path) host.values
  set path := bindTokens r.pattern.path (pathTokens request.path) host.values with hpathDef
  have hbind : r.bind? request =
      if host.fits then (if path.fits then some path.values else none) else none := rfl
  rw [hbind, Accommodates, ← hhost, ← hpath]
  by_cases hh : host.fits = true
  · by_cases hp : path.fits = true
    · have hvalues : path.values = .ofList (r.entriesFor request) := by
        rw [hpathDef, bindTokens_values (hpath.1 hp), hhostDef, bindTokens_values (hhost.1 hh)]
        exact (List.foldl_append ..).symm
      rw [if_pos hh, if_pos hp, hvalues, Option.some.injEq]
      exact ⟨fun h => ⟨⟨hh, hp⟩, h.symm⟩, fun h => h.2.symm⟩
    · simp [hh, hp]
  · simp [hh]

/-- When a route matches a request, and what it then makes of it. -/
theorem match?_eq_some_iff (r : Route) (request : Request) (data : RouteData) :
    r.match? request = some data ↔
      r.Accommodates request ∧
        r.accepts (r.valuesFor request) = true ∧
        data = ⟨r.valuesFor request, r.dataTokens, r.handler⟩ := by
  unfold match? valuesFor
  cases hb : r.bind? request with
  | none =>
    have hno : ¬ r.Accommodates request := fun h => by
      have := (r.bind?_eq_some_iff request _).2 ⟨h, rfl⟩
      rw [hb] at this
      cases this
    simp [hno]
  | some bound =>
    obtain ⟨hfit, rfl⟩ := (r.bind?_eq_some_iff request bound).1 hb
    by_cases ha : r.accepts (r.defaults.overlay (.ofList (r.entriesFor request))) = true
    · simp [hfit, ha, eq_comm]
    · simp [ha]

variable {r : Route} {request : Request}

/-- The names that fitting tokens bind are the variables of the pattern. -/
theorem keys_entriesFor (h : r.Accommodates request) :
    (r.entriesFor request).map Prod.fst = r.pattern.variables := by
  rw [entriesFor, List.map_append, keys_boundEntries h.1, keys_boundEntries h.2,
    ← List.filterMap_append]
  rfl

/-- Without repeated names, fitting tokens bind every name to just what they say of it. -/
theorem get?_valuesFor (distinct : r.pattern.variables.Nodup) (h : r.Accommodates request)
    {name : Text} {value : Value} (hmem : (name, value) ∈ r.entriesFor request) :
    (r.valuesFor request).get? name = some value := by
  have hkeys : ((r.entriesFor request).map Prod.fst).Nodup := by rwa [keys_entriesFor h]
  have hbound : (Bindings.ofList (r.entriesFor request)).get? name = some value := by
    rw [Bindings.ofList, Bindings.get?_setAll hkeys, Bindings.lookup_of_mem hkeys hmem]
    rfl
  rw [valuesFor, Bindings.get?_overlay, hbound]
  rfl

/-- A side on which every variable is bound to its token is resolved by these values. -/
theorem resolved_of_bound {values : Bindings Value} (defaults : Bindings Value)
    {segments : List Segment} {tokens : List Text} (hfit : Fits segments tokens)
    (hbound : ∀ e ∈ boundEntries segments tokens, values.get? e.1 = some e.2) :
    Resolved values defaults segments (sideTokens segments tokens) := by
  have hadmits := hfit.forall₂_sideTokens
  refine List.forall₂_iff_zip.2 ⟨hadmits.length_eq, ?_⟩
  intro segment token hmem
  cases segment with
  | literal own =>
    have howns : own = token := (List.forall₂_iff_zip.1 hadmits).2 hmem
    rw [Segment.token?, howns]
  | named written name =>
    have hzip : (Segment.named written name, token) ∈ segments.zip tokens := by
      by_cases hs : segments = []
      · subst hs
        exact absurd hmem (by simp)
      · rwa [sideTokens, if_neg hs] at hmem
    have hget : values.get? name = some (.text token) := hbound _ (mem_boundEntries hzip)
    rw [Segment.token?, Bindings.get?_withDefaults, hget]
    rfl

/-- Without repeated names, the values of a match resolve both sides to the tokens of the
request. -/
theorem resolved_valuesFor (distinct : r.pattern.variables.Nodup) (h : r.Accommodates request)
    (defaults : Bindings Value) :
    Resolved (r.valuesFor request) defaults r.pattern.host
        (sideTokens r.pattern.host (hostTokens request.host)) ∧
      Resolved (r.valuesFor request) defaults r.pattern.path
        (sideTokens r.pattern.path (pathTokens request.path)) :=
  ⟨resolved_of_bound defaults h.1 fun _ he => get?_valuesFor distinct h (List.mem_append_left _ he),
    resolved_of_bound defaults h.2 fun _ he =>
      get?_valuesFor distinct h (List.mem_append_right _ he)⟩

end Route

end UrlRouting
