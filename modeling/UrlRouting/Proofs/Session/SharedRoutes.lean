import UrlRouting.Proofs.Session.Precedence
import UrlRouting.Proofs.Session.Renaming

/-!
# Routes that several tables share

A route may stand in several tables, several times in one of them and under several names, and an
assignment to it is seen wherever it stands.  `substitute` is the session in which a new route has
been put in the place of another one everywhere.  The main statement is
`assignments_reach_every_table`: assigning to a route is the same as putting there a route that is
made from the new pattern or the new rules, for every table and every later answer, and no step but
an assignment changes a route.
-/

namespace UrlRouting

theorem Bindings.map_congr {α β : Type} {f g : α → β} {b : Bindings α}
    (h : ∀ name value, b.get? name = some value → f value = g value) : b.map f = b.map g := by
  apply eq_of_entries
  apply List.map_congr_left
  rintro ⟨name, value⟩ hmem
  have hget : b.get? name = some value := lookup_of_mem b.nodup hmem
  rw [h name value hget]

/-- A sound table is renamed alike by renamings that agree on the routes that there are. -/
theorem Table.Sound.rename_congr {t : Table} {size : Nat} (ht : t.Sound size)
    {ρ σ : RouteRef → RouteRef} (h : ∀ ref, ref < size → ρ ref = σ ref) :
    t.rename ρ = t.rename σ := by
  have hroutes : t.routes.map ρ = t.routes.map σ :=
    List.map_congr_left fun ref href => h ref (ht.made ref href)
  have hnamed : t.named.map ρ = t.named.map σ :=
    Bindings.map_congr fun name ref hname => h ref (ht.made ref (ht.registered name ref hname))
  rw [rename, rename, hroutes, hnamed]

/-- One place instead of another one. -/
def redirect (old new ref : Nat) : Nat := if ref = old then new else ref

/-- Where the routes of a store of some size are kept when a new route at its end stands for the
one at `old`.  Routes that are made later go one place further. -/
def makeRoom (old size ref : Nat) : Nat :=
  if ref = old then size else if ref < size then ref else ref + 1

section

variable {old size ref : Nat}

theorem makeRoom_of_lt (h : ref < size) : makeRoom old size ref = redirect old size ref := by
  rw [makeRoom, redirect, if_pos h]

theorem makeRoom_add (hold : old < size) (n : Nat) :
    makeRoom old size (size + n) = size + n + 1 := by
  have hne : size + n ≠ old := Nat.ne_of_gt (Nat.lt_add_right n hold)
  rw [makeRoom, if_neg hne, if_neg (by omega)]

theorem makeRoom_injective : Function.Injective (makeRoom old size) := by
  intro a b hab
  unfold makeRoom at hab
  split_ifs at hab <;> omega

end

/-- Two tables over two stores give the same answers, by routes with the same fields. -/
structure Table.AnswersLike (t : Table) (store : RouteStore) (t' : Table)
    (store' : RouteStore) : Prop where
  match_eq : ∀ request,
    (t.match? store request).map Prod.snd = (t'.match? store' request).map Prod.snd
  generate_eq : ∀ name d, (t.generate? store name d).map (Option.map Prod.snd) =
    (t'.generate? store' name d).map (Option.map Prod.snd)

/-- A table gives the same answers wherever its routes are kept. -/
theorem Table.answersLike_rename {ρ : RouteRef → RouteRef} {store store' : RouteStore}
    (hroutes : ∀ ref, store'[ρ ref]? = store[ref]?) (t : Table) :
    t.AnswersLike store (t.rename ρ) store' where
  match_eq := by
    intro request
    rw [t.match?_rename hroutes]
    cases t.match? store request <;> rfl
  generate_eq := by
    intro name d
    rw [t.generate?_rename hroutes]
    cases t.generate? store name d with
    | error fault => rfl
    | ok found => cases found <;> rfl

namespace Session

/-! ## A new route for one that there is -/

/-- The session in which a new route stands for the one at a place: at every position and under
every name at which a table holds that one, and under its identifiers. -/
def substitute (s : Session) (ref : RouteRef) (fresh : Route) : Session :=
  { s with
    store := s.store ++ [fresh]
    tables := s.tables.map (Table.rename (redirect ref s.store.length))
    routeIds := s.routeIds.map (redirect ref s.store.length) }

/-- Identifiers stand for routes that there are. -/
def Identified (s : Session) : Prop :=
  ∀ id ref, s.routeIds.get? id = some ref → ref < s.store.length

theorem identified_empty : Session.empty.Identified := fun _ _ h => by cases h

/-- More routes do not harm the identifiers, and the last of them may be given one. -/
theorem Identified.push {s : Session} (h : s.Identified) (r : Route) (id : Option Text) :
    ({ s with
        store := s.store ++ [r]
        routeIds := id.elim s.routeIds (s.routeIds.set · s.store.length) } : Session).Identified := by
  intro other ref hget
  have hlength : (s.store ++ [r]).length = s.store.length + 1 := by simp
  dsimp only at hget ⊢
  rw [hlength]
  cases id with
  | none => exact Nat.lt_succ_of_lt (h other ref hget)
  | some id =>
    rw [Option.elim_some, Bindings.get?_set] at hget
    split at hget
    · cases hget
      exact Nat.lt_succ_self _
    · exact Nat.lt_succ_of_lt (h other ref hget)

/-- No effect harms the identifiers. -/
theorem Effect.identified {s s' : Session} {step : Step} (heffect : Effect s step s')
    (h : s.Identified) : s'.Identified := by
  have hreplaced : ∀ ref r, (s.replaceRoute ref r).Identified := by
    intro ref r id other hget
    have hlength : (s.replaceRoute ref r).store.length = s.store.length := List.length_set
    rw [hlength]
    exact h id other hget
  cases heffect with
  | tableMade id name configure debug => exact h
  | @routeMade id d r hmake => exact h.push r (some id)
  | @added _ _ _ _ id r htable hoptions hmake hname => exact h.push r id
  | @decorated _ _ _ _ r htable hoptions hmake hname => exact h.push r none
  | entered htable hroute hname => exact h
  | patternSet hroute => exact hreplaced _ _
  | constraintsSet hroute hrules => exact hreplaced _ _
  | asked hasks => exact h

/-- A whole session keeps the identifiers in order. -/
theorem identified_run {s : Session} (h : s.Identified) (steps : List Step) :
    (s.run steps).2.Identified :=
  run_invariant (P := Identified)
    (fun _ _ hs => of_effect hs fun _ heffect => heffect.identified hs) h steps

/-- Replacing a route in the store is the same, up to places, as putting a new one in its place
everywhere. -/
theorem renames_substitute {s : Session} {ref : RouteRef} (hmade : ref < s.store.length)
    (hsound : s.Sound) (hids : s.Identified) (fresh : Route) :
    Renames (makeRoom ref s.store.length) (s.replaceRoute ref fresh)
      (s.substitute ref fresh) where
  injective := makeRoom_injective
  route_eq := by
    intro other
    simp only [replaceRoute, substitute]
    rcases Nat.lt_or_ge other s.store.length with hlt | hge
    · rw [makeRoom_of_lt hlt, redirect, List.getElem?_set]
      by_cases hown : other = ref
      · rw [if_pos hown, if_pos hown.symm, if_pos hmade]
        exact List.getElem?_concat_length
      · rw [if_neg hown, if_neg (Ne.symm hown)]
        exact List.getElem?_append_left hlt
    · obtain ⟨n, rfl⟩ := Nat.exists_eq_add_of_le hge
      rw [makeRoom_add hmade, List.getElem?_eq_none (by simp)]
      exact (List.getElem?_eq_none (by simp)).symm
  later_eq := by
    intro n
    simp only [replaceRoute, substitute, List.length_set, List.length_append,
      List.length_singleton]
    rw [makeRoom_add hmade]
    exact Nat.add_right_comm _ _ _
  tables_eq := by
    refine List.map_congr_left fun t ht => ?_
    exact (hsound t ht).rename_congr fun other hlt => (makeRoom_of_lt hlt).symm
  routeIds_eq := Bindings.map_congr fun id other hget => (makeRoom_of_lt (hids id other hget)).symm
  tableIds_eq := rfl
  loggers_eq := rfl

end Session

/-! ## Assignments -/

/-- The assignments to the route with an identifier, with what the route is made from before and
afterwards. -/
inductive Step.Redefines (id : Text) (d : RouteDescription) : Step → RouteDescription → Prop
  | pattern (urlPattern : Option Text) :
      Redefines id d (.setPattern id urlPattern) { d with urlPattern }
  | constraints (rules : Option (Bindings Value)) :
      Redefines id d (.setConstraints id rules) { d with constraints := rules }

/-- A coherent route with another pattern is one that is made from that pattern. -/
theorem Route.Coherent.make?_withPattern {r : Route} (h : r.Coherent) (urlPattern : Option Text) :
    make? { r.description with urlPattern } = .ok (r.withPattern urlPattern) :=
  (withConstraints?_eq_ok_iff _ _ _).2 ⟨r.checks, h.checks, rfl⟩

/-- A coherent route with other rules is one that is made from those rules. -/
theorem Route.Coherent.make?_withConstraints {r r' : Route} (h : r.Coherent)
    {rules : Option (Bindings Value)} (hrules : r.withConstraints? rules = .ok r') :
    make? { r.description with constraints := rules } = .ok r' := by
  obtain ⟨checks, hchecks, rfl⟩ := (withConstraints?_eq_ok_iff _ _ _).1 hrules
  refine (withConstraints?_eq_ok_iff _ _ _).2 ⟨checks, hchecks, ?_⟩
  have hpattern : Pattern.ofWritten (some r.urlPattern) = r.pattern := h.pattern_eq.symm
  simp only [description, hpattern, Option.getD_some]

namespace Session

/-- An assignment that succeeds leaves, in place of the route, one that is made from the new
pattern or the new rules. -/
theorem replaced_of_redefines {s : Session} (hcoherent : s.Coherent) {id : Text} {ref : RouteRef}
    {r : Route} (hroute : s.route? id = .ok (ref, r)) {step : Step} {d : RouteDescription}
    (hredefines : step.Redefines id r.description d) {answer : Answer}
    (hanswer : (s.step step).result = .ok answer) :
    ∃ fresh, Route.make? d = .ok fresh ∧ (s.step step).session = s.replaceRoute ref fresh := by
  have hr : r.Coherent := hcoherent r (List.mem_of_getElem? (route?_eq_ok_iff.1 hroute).2)
  have heffect := effect_of_result_eq_ok hanswer
  generalize (s.step step).session = s' at heffect
  cases hredefines with
  | pattern urlPattern =>
    cases heffect with
    | patternSet hown =>
      cases hroute.symm.trans hown
      exact ⟨_, hr.make?_withPattern urlPattern, rfl⟩
    | asked hasks => cases hasks
  | constraints rules =>
    cases heffect with
    | constraintsSet hown hrules =>
      cases hroute.symm.trans hown
      exact ⟨_, hr.make?_withConstraints hrules, rfl⟩
    | asked hasks => cases hasks

/-- **Assignments reach every table.**  At any moment of a session, let a pattern or rules be
assigned to a route, successfully.  A route can be made from them and from the other fields of the
route.  All other routes, the contents of all tables and the identifiers stay as they were.  Every
table answers as if that new route had been put in the place of the old one, wherever the table
holds it, and so do all further steps, whatever they are.  No other step changes any route,
whether it answers or fails. -/
theorem assignments_reach_every_table (before : List Step) :
    let s := (Session.empty.run before).2
    (∀ id ref r, s.route? id = .ok (ref, r) →
      ∀ step d answer, step.Redefines id r.description d → (s.step step).result = .ok answer →
        let s' := (s.step step).session
        ∃ fresh, Route.make? d = .ok fresh ∧ s'.store[ref]? = some fresh ∧
          (∀ other, other ≠ ref → s'.store[other]? = s.store[other]?) ∧
          s'.tables = s.tables ∧ s'.routeIds = s.routeIds ∧
          (∀ t ∈ s.tables, t.AnswersLike s'.store
            (t.rename (redirect ref s.store.length)) (s.store ++ [fresh])) ∧
          ∀ after, (s'.run after).1 = ((s.substitute ref fresh).run after).1) ∧
    ∀ step : Step, step.assigns = false → ∀ (ref : RouteRef) (r : Route),
      s.store[ref]? = some r → (s.step step).session.store[ref]? = some r := by
  intro s
  have hsound : s.Sound := sound_run sound_empty before
  have hids : s.Identified := identified_run identified_empty before
  have hcoherent : s.Coherent := coherent_run (fun r hr => absurd hr List.not_mem_nil) before
  refine ⟨?_, ?_⟩
  · intro id ref r hroute step d answer hredefines hanswer
    have hmade : ref < s.store.length :=
      (List.getElem?_eq_some_iff.1 (route?_eq_ok_iff.1 hroute).2).1
    obtain ⟨fresh, hfresh, hsession⟩ := replaced_of_redefines hcoherent hroute hredefines hanswer
    have hrenames := renames_substitute hmade hsound hids fresh
    simp only [hsession]
    refine ⟨fresh, hfresh, List.getElem?_set_self hmade,
      fun other hother => List.getElem?_set_ne (Ne.symm hother), rfl, rfl, ?_, ?_⟩
    · intro t ht
      rw [← (hsound t ht).rename_congr fun other hlt => makeRoom_of_lt hlt]
      exact t.answersLike_rename hrenames.route_eq
    · intro after
      exact (results_run_eq hrenames after).symm
  · intro step hkeeps ref r hr
    obtain ⟨made, hmade⟩ : s.store <+: (s.step step).session.store := keepsRoutes_step hkeeps
    have hlt : ref < s.store.length := (List.getElem?_eq_some_iff.1 hr).1
    rw [← hmade, List.getElem?_append_left hlt]
    exact hr

/-- A route in two tables, twice in the first one and there under a name too. -/
def shared : List Step :=
  [.makeTable "a".toList "first".toList true true,
    .makeTable "b".toList "second".toList false false,
    .makeRoute "r".toList ⟨some "\x7barea\x7d".toList, none, none, none, .label "view".toList⟩,
    .addRoute "a".toList "r".toList (some "home".toList),
    .addRoute "b".toList "r".toList none,
    .addRoute "a".toList "r".toList none]

/-- Questions to both tables. -/
def questions : List Step :=
  [.matchRequest (.table "a".toList) (.url "http://h/x/7".toList),
    .generate (.table "a".toList) (some "home".toList)
      ⟨some (.ofList [("id".toList, .int 7)]), none, none⟩,
    .inspect (.table "b".toList)]

theorem assignments_reach_every_table_shared :
    let s := (Session.empty.run shared).2
    let s' := (s.step (.setPattern "r".toList (some "x/\x7bid\x7d".toList))).session
    ∃ fresh, Route.make? ⟨some "x/\x7bid\x7d".toList, some .empty, none, some .empty,
        .label "view".toList⟩ = .ok fresh ∧
      s'.tables.map Table.routes = [[0, 0], [0]] ∧
      (s.substitute 0 fresh).tables.map Table.routes = [[1, 1], [1]] ∧
      (s'.run questions).1 = ((s.substitute 0 fresh).run questions).1 := by
  intro s s'
  obtain ⟨r, hroute, hdescription⟩ : ∃ r, s.route? "r".toList = .ok (0, r) ∧
      r.description = ⟨some "\x7barea\x7d".toList, some .empty, none, some .empty,
        .label "view".toList⟩ := ⟨_, rfl, rfl⟩
  obtain ⟨answer, hanswer⟩ : ∃ answer,
      (s.step (.setPattern "r".toList (some "x/\x7bid\x7d".toList))).result = .ok answer :=
    ⟨_, rfl⟩
  obtain ⟨fresh, hfresh, -, -, htables, -, -, hrun⟩ := (assignments_reach_every_table shared).1
    "r".toList 0 r hroute _ _ answer (.pattern (some "x/\x7bid\x7d".toList)) hanswer
  rw [hdescription] at hfresh
  refine ⟨fresh, hfresh, ?_, rfl, hrun questions⟩
  have hroutes := congrArg (List.map Table.routes) htables
  exact hroutes

end Session

end UrlRouting
