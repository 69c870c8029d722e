import UrlRouting.Table.Basic

/-!
# The first candidate

A table asks its routes in the order of their registration and takes the first answer.
`firstAnswer?` is that search, for requests and for URLs alike, and the main statements are about
it: `findsFirst` says which route answers, `firstAnswer?_append` that what is registered later
only fills gaps, and `firstAnswer?_of_longer` that routes made later have no part in it.
-/

namespace UrlRouting

namespace Table

variable {α : Type} {store : RouteStore} {answer : Route → Option α} {accepts : Route → Bool}

/-! ## The search -/

/-- What the route at a place of the store answers. -/
def answerAt? (store : RouteStore) (answer : Route → Option α) (ref : RouteRef) :
    Option (RouteRef × Route × α) :=
  store[ref]?.bind fun route => (answer route).map (ref, route, ·)

/-- The first answer of routes that are asked in order, with the route that gives it. -/
def firstAnswer? (store : RouteStore) (answer : Route → Option α) (routes : List RouteRef) :
    Option (RouteRef × Route × α) :=
  routes.findSome? (answerAt? store answer)

/-- Looking the routes up beforehand makes no difference to the search. -/
theorem findSome?_candidates (t : Table) (store : RouteStore) (answer : Route → Option α) :
    ((t.candidates store).findSome? fun (ref, route) => (answer route).map (ref, route, ·)) =
      firstAnswer? store answer t.routes := by
  unfold candidates firstAnswer?
  induction t.routes with
  | nil => rfl
  | cons ref routes ih =>
    rw [List.findSome?_cons, ← ih]
    cases hroute : store[ref]? with
    | none =>
      rw [List.filterMap_cons_none (by rw [hroute]; rfl), answerAt?, hroute]
      rfl
    | some route =>
      rw [List.filterMap_cons_some (by rw [hroute]; rfl), List.findSome?_cons, answerAt?, hroute]
      rfl

theorem match?_eq_firstAnswer? (t : Table) (store : RouteStore) (request : Request) :
    t.match? store request = firstAnswer? store (·.match? request) t.routes :=
  t.findSome?_candidates store (·.match? request)

theorem generate?_none (t : Table) (store : RouteStore) (d : UrlDemand) :
    t.generate? store none d = .ok (firstAnswer? store (·.generate? d) t.routes) :=
  congrArg Except.ok (t.findSome?_candidates store (·.generate? d))

/-- With a name, only the route that goes by it is asked. -/
theorem generate?_some {t : Table} {name : Text} {ref : RouteRef}
    (hname : t.named.get? name = some ref) (store : RouteStore) (d : UrlDemand) :
    t.generate? store (some name) d = .ok (answerAt? store (·.generate? d) ref) := by
  have hgenerators : t.generators store (some name) = .ok (store[ref]?.map (ref, ·)).toList := by
    simp only [generators, hname]
  rw [generate?, hgenerators, answerAt?]
  cases store[ref]? with
  | none => rfl
  | some route =>
    cases hpath : route.generate? d <;> simp [hpath, bind, Except.bind, pure, Except.pure]

/-! ## Which route answers -/

/-- All of these routes are there, and none of them accepts. -/
def AllRefuse (store : RouteStore) (accepts : Route → Bool) (routes : List RouteRef) : Prop :=
  ∀ ref ∈ routes, ∃ route, store[ref]? = some route ∧ accepts route = false

/-- A route of the table accepts, and all routes that were registered before it refuse. -/
def FirstToAccept (t : Table) (store : RouteStore) (accepts : Route → Bool) (ref : RouteRef)
    (route : Route) : Prop :=
  ∃ before behind, t.routes = before ++ ref :: behind ∧ store[ref]? = some route ∧
    accepts route = true ∧ AllRefuse store accepts before

/-- What is found is what the first route to accept answers, and nothing if and only if all
routes refuse. -/
structure FindsFirst (t : Table) (store : RouteStore) (accepts : Route → Bool)
    (answer : Route → Option α) (found : Option (RouteRef × Route × α)) : Prop where
  some_iff : ∀ ref route a, found = some (ref, route, a) ↔
    t.FirstToAccept store accepts ref route ∧ answer route = some a
  none_iff : found = none ↔ AllRefuse store accepts t.routes

/-- A route that answers is named in its answer. -/
theorem answerAt?_eq_some_iff {place ref : RouteRef} {route : Route} {a : α} :
    answerAt? store answer place = some (ref, route, a) ↔
      ref = place ∧ store[ref]? = some route ∧ answer route = some a := by
  simp only [answerAt?, Option.bind_eq_some_iff, Option.map_eq_some_iff, Prod.mk.injEq]
  constructor
  · rintro ⟨route, hroute, a, ha, rfl, rfl, rfl⟩
    exact ⟨rfl, hroute, ha⟩
  · rintro ⟨rfl, hroute, ha⟩
    exact ⟨route, hroute, a, ha, rfl, rfl, rfl⟩

/-- A route that is there does not answer if and only if it refuses. -/
theorem answerAt?_eq_none_iff (hanswers : ∀ r, (answer r).isSome = accepts r) {ref : RouteRef}
    (hmade : ref < store.length) :
    answerAt? store answer ref = none ↔
      ∃ route, store[ref]? = some route ∧ accepts route = false := by
  have hroute : store[ref]? = some store[ref] := List.getElem?_eq_getElem hmade
  simp [answerAt?, hroute, ← hanswers]

/-- A search finds nothing if and only if all routes refuse. -/
theorem firstAnswer?_eq_none_iff (hanswers : ∀ r, (answer r).isSome = accepts r)
    {routes : List RouteRef} (hmade : ∀ ref ∈ routes, ref < store.length) :
    firstAnswer? store answer routes = none ↔ AllRefuse store accepts routes := by
  rw [firstAnswer?, List.findSome?_eq_none_iff]
  exact forall₂_congr fun ref href => answerAt?_eq_none_iff hanswers (hmade ref href)

/-- A search in a table finds the first route to accept. -/
theorem findsFirst (hanswers : ∀ r, (answer r).isSome = accepts r) {t : Table}
    (hmade : ∀ ref ∈ t.routes, ref < store.length) :
    t.FindsFirst store accepts answer (firstAnswer? store answer t.routes) where
  none_iff := firstAnswer?_eq_none_iff hanswers hmade
  some_iff := by
    intro ref route a
    rw [firstAnswer?, List.findSome?_eq_some_iff]
    constructor
    · rintro ⟨before, place, behind, hsplit, hfound, hbefore⟩
      obtain ⟨rfl, hroute, ha⟩ := answerAt?_eq_some_iff.1 hfound
      have haccepts : accepts route = true := by rw [← hanswers, ha, Option.isSome_some]
      refine ⟨⟨before, behind, hsplit, hroute, haccepts, ?_⟩, ha⟩
      intro earlier hearlier
      have hmem : earlier ∈ t.routes := hsplit ▸ List.mem_append_left _ hearlier
      exact (answerAt?_eq_none_iff hanswers (hmade earlier hmem)).1 (hbefore earlier hearlier)
    · rintro ⟨⟨before, behind, hsplit, hroute, -, hrefuse⟩, ha⟩
      refine ⟨before, ref, behind, hsplit, answerAt?_eq_some_iff.2 ⟨rfl, hroute, ha⟩, ?_⟩
      intro earlier hearlier
      have hmem : earlier ∈ t.routes := hsplit ▸ List.mem_append_left _ hearlier
      exact (answerAt?_eq_none_iff hanswers (hmade earlier hmem)).2 (hrefuse earlier hearlier)

/-- Only rules keep a route from generating a URL, never its pattern. -/
theorem isSome_generate? (r : Route) (d : UrlDemand) :
    (r.generate? d).isSome = r.accepts d.context := by
  unfold Route.generate?
  cases h : r.accepts d.context <;> simp [h]

/-! ## Longer tables and larger stores -/

/-- Of two parts of the routes, the second one is asked only if the first one does not answer. -/
theorem firstAnswer?_append (store : RouteStore) (answer : Route → Option α)
    (routes added : List RouteRef) :
    firstAnswer? store answer (routes ++ added) =
      (firstAnswer? store answer routes).or (firstAnswer? store answer added) :=
  List.findSome?_append

/-- Nothing behind a route that answers has a part in the search. -/
theorem firstAnswer?_of_isSome {ref : RouteRef} {front behind : List RouteRef}
    (h : (answerAt? store answer ref).isSome = true) :
    ∃ found, firstAnswer? store answer (front ++ [ref]) = some found ∧
      firstAnswer? store answer (front ++ ref :: behind) = some found := by
  obtain ⟨own, hown⟩ := Option.isSome_iff_exists.1 h
  have hlast : firstAnswer? store answer (front ++ [ref]) =
      some ((firstAnswer? store answer front).getD own) := by
    rw [firstAnswer?_append, firstAnswer?, firstAnswer?, List.findSome?_singleton, hown]
    cases List.findSome? (answerAt? store answer) front <;> rfl
  refine ⟨_, hlast, ?_⟩
  rw [List.append_cons, firstAnswer?_append, hlast, Option.some_or]

/-- Routes that are made later have no part in a search among earlier ones. -/
theorem firstAnswer?_of_longer {store' : RouteStore} (hstore : store <+: store')
    (answer : Route → Option α) {routes : List RouteRef}
    (hmade : ∀ ref ∈ routes, ref < store.length) :
    firstAnswer? store' answer routes = firstAnswer? store answer routes := by
  induction routes with
  | nil => rfl
  | cons ref routes ih =>
    obtain ⟨hfirst, hrest⟩ := List.forall_mem_cons.1 hmade
    obtain ⟨made, rfl⟩ := hstore
    have hroute : (store ++ made)[ref]? = store[ref]? := List.getElem?_append_left hfirst
    have hask : answerAt? (store ++ made) answer ref = answerAt? store answer ref := by
      rw [answerAt?, hroute, answerAt?]
    rw [firstAnswer?, List.findSome?_cons, hask, ← firstAnswer?, ih hrest]
    rfl

end Table

end UrlRouting
