import UrlRouting.Proofs.Session.Registration
import UrlRouting.Proofs.Session.Store
import UrlRouting.Proofs.Table.FirstCandidate

/-!
# Precedence

Routes that were registered earlier are asked earlier, now and after any registrations to come.
`keepsRoutes_run` says that steps which assign nothing only add to the store; with the growth of
tables it gives `followsUp_of_growsBy`.  The main statement is `first_candidate_wins`: what a table
answers is the answer of the first route that accepts, and it stays so while the table grows.
-/

namespace UrlRouting

/-- Whether a step assigns to a route. -/
def Step.assigns : Step → Bool
  | .setPattern _ _ | .setConstraints _ _ => true
  | _ => false

namespace Session

/-- The effect of a step that assigns nothing leaves the routes that there are. -/
theorem Effect.keepsRoutes {s s' : Session} {step : Step} (heffect : Effect s step s')
    (hkeeps : step.assigns = false) : s.store <+: s'.store := by
  cases heffect with
  | routeMade hmake => exact List.prefix_append _ _
  | added htable hoptions hmake hname => exact List.prefix_append _ _
  | decorated htable hoptions hmake hname => exact List.prefix_append _ _
  | patternSet hroute => cases hkeeps
  | constraintsSet hroute hrules => cases hkeeps
  | _ => exact List.prefix_rfl

/-- A step that assigns nothing leaves the routes that there are. -/
theorem keepsRoutes_step {s : Session} {step : Step} (hkeeps : step.assigns = false) :
    s.store <+: (s.step step).session.store :=
  of_effect List.prefix_rfl fun _ heffect => heffect.keepsRoutes hkeeps

/-- Steps that assign nothing leave the routes that there are. -/
theorem keepsRoutes_run {s : Session} {steps : List Step}
    (hkeep : ∀ step ∈ steps, step.assigns = false) : s.store <+: (s.run steps).2.store := by
  induction steps generalizing s with
  | nil => exact List.prefix_rfl
  | cons step steps ih =>
    obtain ⟨hfirst, hrest⟩ := List.forall_mem_cons.1 hkeep
    exact (keepsRoutes_step hfirst).trans (ih hrest)

end Session

/-! ## A single table -/

namespace Table

/-- A table answers by the first of its routes that accepts. -/
structure PrefersFirst (t : Table) (store : RouteStore) : Prop where
  /-- A request goes to the first route that matches it. -/
  matches_first : ∀ request, t.FindsFirst store (fun r => (r.match? request).isSome)
    (·.match? request) (t.match? store request)
  /-- A URL comes from the first route whose rules accept the values. -/
  generates_first : ∀ d, ∃ found, t.generate? store none d = .ok found ∧
    t.FindsFirst store (·.accepts d.context) (·.generate? d) found
  /-- No URL comes from behind a route without rules. -/
  stops_without_rules : ∀ front ref behind route, t.routes = front ++ ref :: behind →
    store[ref]? = some route → route.constraints.getD .empty = .empty →
      ∀ d, ∃ found, t.generate? store none d = .ok (some found) ∧
        { t with routes := front ++ [ref] }.generate? store none d = .ok (some found)
  /-- Under a name, a URL comes from the route of that name and from no other one. -/
  generates_named : ∀ name ref, t.named.get? name = some ref →
    ∃ route, store[ref]? = some route ∧
      ∀ d, t.generate? store (some name) d = .ok ((route.generate? d).map (ref, route, ·))

/-- A grown table answers what the table answered and, where that did not answer, what the added
routes answer on their own. -/
structure FollowsUp (t' : Table) (store' : RouteStore) (t : Table) (store : RouteStore)
    (added : List RouteRef) : Prop where
  match_kept : ∀ request found, t.match? store request = some found →
    t'.match? store' request = some found
  match_added : ∀ request, t.match? store request = none →
    t'.match? store' request = { t' with routes := added }.match? store' request
  generate_kept : ∀ d found, t.generate? store none d = .ok (some found) →
    t'.generate? store' none d = .ok (some found)
  generate_added : ∀ d, t.generate? store none d = .ok none →
    t'.generate? store' none d = { t' with routes := added }.generate? store' none d
  named_kept : ∀ name ref, t.named.get? name = some ref →
    ∀ d, t'.generate? store' (some name) d = t.generate? store (some name) d

/-- A sound table of coherent routes answers by the first of them that accepts. -/
theorem prefersFirst {t : Table} {store : RouteStore} (ht : t.Sound store.length)
    (hcoherent : ∀ r ∈ store, r.Coherent) : t.PrefersFirst store where
  matches_first := by
    intro request
    rw [match?_eq_firstAnswer?]
    exact findsFirst (fun _ => rfl) ht.made
  generates_first := fun d =>
    ⟨_, t.generate?_none store d, findsFirst (fun r => isSome_generate? r d) ht.made⟩
  stops_without_rules := by
    intro front ref behind route hsplit hroute hnone d
    have haccepts : route.accepts d.context = true :=
      (hcoherent route (List.mem_of_getElem? hroute)).accepts_of_no_rules hnone _
    have hanswers : (answerAt? store (·.generate? d) ref).isSome = true := by
      rw [answerAt?, hroute, Option.bind_some, Option.isSome_map, isSome_generate?, haccepts]
    obtain ⟨found, hfront, hall⟩ := firstAnswer?_of_isSome hanswers
    refine ⟨found, ?_, ?_⟩
    · rw [generate?_none, hsplit, hall]
    · rw [generate?_none, hfront]
  generates_named := by
    intro name ref hname
    have hroute : store[ref]? = some _ :=
      List.getElem?_eq_getElem (ht.made ref (ht.registered name ref hname))
    refine ⟨_, hroute, fun d => ?_⟩
    rw [generate?_some hname, answerAt?, hroute, Option.bind_some]

/-- A table that grows over a store that grows follows up on what it was. -/
theorem followsUp_of_growsBy {t t' : Table} {store store' : RouteStore} {entries : List Entry}
    (ht : t.Sound store.length) (hstore : store <+: store') (hgrows : t.GrowsBy t' entries) :
    t'.FollowsUp store' t store (entries.map Prod.fst) := by
  have hsearch : ∀ {α : Type} (answer : Route → Option α),
      firstAnswer? store' answer t'.routes = (firstAnswer? store answer t.routes).or
        (firstAnswer? store' answer (entries.map Prod.fst)) := by
    intro α answer
    rw [hgrows.routes_eq, firstAnswer?_append, firstAnswer?_of_longer hstore answer ht.made]
  refine ⟨?_, ?_, ?_, ?_, ?_⟩
  · intro request found h
    rw [match?_eq_firstAnswer?] at h ⊢
    rw [hsearch, h, Option.some_or]
  · intro request h
    rw [match?_eq_firstAnswer?] at h ⊢
    rw [hsearch, h, Option.none_or, match?_eq_firstAnswer?]
  · intro d found h
    rw [generate?_none] at h ⊢
    rw [hsearch, Except.ok.inj h, Option.some_or]
  · intro d h
    rw [generate?_none] at h ⊢
    rw [hsearch, Except.ok.inj h, Option.none_or, generate?_none]
  · intro name ref hname d
    have hmade : ref < store.length := ht.made ref (ht.registered name ref hname)
    obtain ⟨made, rfl⟩ := hstore
    rw [generate?_some hname, generate?_some (hgrows.get?_named hname), answerAt?, answerAt?,
      List.getElem?_append_left hmade]

end Table

/-! ## Whole sessions -/

namespace Session

/-- **The first candidate wins.**  At any moment of a session, a request to a table is answered by
the first of its routes, in the order of their registration, that matches it, and a URL comes
from the first one whose rules accept the values; under a name it comes from the route of that
name alone.  After any further steps that assign nothing to a route, successful or not, every
answer stays as it was, and where there was none the routes added since answer as if they were
on their own. -/
theorem first_candidate_wins (before after : List Step)
    (hkeep : ∀ step ∈ after, step.assigns = false) :
    let s := (Session.empty.run before).2
    let s' := (s.run after).2
    ∀ (place : TableRef) (t : Table), s.tables[place]? = some t →
      t.PrefersFirst s.store ∧
      ∃ t' : Table, s'.tables[place]? = some t' ∧
        t.GrowsBy t' (s.registeredAlong place after) ∧
        t'.FollowsUp s'.store t s.store ((s.registeredAlong place after).map Prod.fst) := by
  intro s s' place t ht
  have hsound : t.Sound s.store.length :=
    sound_run sound_empty before t (List.mem_of_getElem? ht)
  have hcoherent : s.Coherent :=
    coherent_run (fun r hr => absurd hr List.not_mem_nil) before
  obtain ⟨t', ht', hgrows⟩ := growsBy_run ht after
  exact ⟨Table.prefersFirst hsound hcoherent, t', ht', hgrows,
    Table.followsUp_of_growsBy hsound (keepsRoutes_run hkeep) hgrows⟩

/-- A table whose only route has a literal in its pattern. -/
def narrow : List Step :=
  [.makeTable "t".toList "app".toList true true,
    .add "t".toList (plainRegistration "a/\x7bid\x7d" none (some "item".toList) []) none]

/-- Registrations of more routes, of which the first one fails, for its name is taken. -/
def widening : List Step :=
  [.decorate "t".toList (plainRegistration "x" none (some "item".toList) []),
    .decorate "t".toList (plainRegistration "\x7barea\x7d/\x7bid\x7d" none none [])]

/-- A request by its path. -/
def requestTo (path : String) : Request := ⟨"http".toList, "h".toList, path.toList, []⟩

theorem first_candidate_wins_widening :
    let s := (Session.empty.run narrow).2
    let s' := (s.run widening).2
    ∃ t' : Table, s'.tables[0]? = some t' ∧
      (t'.match? s'.store (requestTo "/a/7")).map Prod.fst = some 0 ∧
      (t'.match? s'.store (requestTo "/b/7")).map Prod.fst = some 1 ∧
      ∀ d, ∃ found, t'.generate? s'.store none d = .ok (some found) ∧ found.1 = 0 := by
  intro s s'
  have hkeep : ∀ step ∈ widening, step.assigns = false := by decide
  obtain ⟨t, ht⟩ : ∃ t, s.tables[0]? = some t := ⟨_, rfl⟩
  obtain ⟨hfirst, t', ht', -, hfollows⟩ := first_candidate_wins narrow widening hkeep 0 t ht
  have hadded : (s.registeredAlong 0 widening).map Prod.fst = [1] := rfl
  rw [hadded] at hfollows
  have hroutes : t.routes = [] ++ 0 :: [] := by
    cases ht
    rfl
  obtain ⟨route, hroute, hrules⟩ : ∃ route, s.store[0]? = some route ∧
      route.constraints.getD .empty = .empty := ⟨_, rfl, rfl⟩
  refine ⟨t', ht', ?_, ?_, ?_⟩
  · obtain ⟨found, hfound, hplace⟩ : ∃ found,
        t.match? s.store (requestTo "/a/7") = some found ∧ found.1 = 0 := by
      cases ht
      exact ⟨_, rfl, rfl⟩
    rw [hfollows.match_kept _ _ hfound, Option.map_some, hplace]
  · have hnone : t.match? s.store (requestTo "/b/7") = none := by
      cases ht
      rfl
    rw [hfollows.match_added _ hnone]
    cases ht'
    rfl
  · intro d
    obtain ⟨⟨ref, r, path⟩, hfound, -⟩ := hfirst.stops_without_rules _ _ _ _ hroutes hroute hrules d
    obtain ⟨found, hgenerates, hfinds⟩ := hfirst.generates_first d
    cases hgenerates.symm.trans hfound
    obtain ⟨⟨before, behind, hsplit, -⟩, -⟩ := (hfinds.some_iff ref r path).1 rfl
    refine ⟨_, hfollows.generate_kept d _ hfound, ?_⟩
    have hmem : ref ∈ t.routes := hsplit ▸ List.mem_append_right _ List.mem_cons_self
    rw [hroutes] at hmem
    exact List.mem_singleton.1 hmem

end Session

end UrlRouting
