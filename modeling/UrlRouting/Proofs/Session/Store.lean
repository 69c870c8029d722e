import UrlRouting.Proofs.Route.Coherence
import UrlRouting.Proofs.Session.Atomicity

/-!
# The routes of a session

What a step does to the routes that a session owns: nothing, or it makes one more, or it assigns to
one of them.  `storeChange_step` says so for every step; `coherent_run` carries the coherence of
routes through a whole session, and `routes_agree_with_construction` is what that means for each
of them.
-/

namespace UrlRouting

/-- How a step may change the routes that there are. -/
inductive StoreChange : RouteStore → RouteStore → Prop
  | same (store : RouteStore) : StoreChange store store
  | made {store : RouteStore} {d : RouteDescription} {r : Route} (h : Route.make? d = .ok r) :
      StoreChange store (store ++ [r])
  | assigned {store : RouteStore} {ref : RouteRef} {r r' : Route} (hr : store[ref]? = some r)
      (h : r.Assigned r') : StoreChange store (store.set ref r')

/-- A change of the routes keeps them coherent. -/
theorem StoreChange.coherent {store store' : RouteStore}
    (h : StoreChange store store') (hc : ∀ r ∈ store, r.Coherent) : ∀ r ∈ store', r.Coherent := by
  cases h with
  | same => exact hc
  | made hmake =>
    intro r hr
    rcases List.mem_append.1 hr with hr | hr
    · exact hc r hr
    · rw [List.mem_singleton.1 hr]
      exact Route.coherent_of_make? hmake
  | @assigned ref old new hold hassigned =>
    intro r hr
    rcases List.mem_or_eq_of_mem_set hr with hr | rfl
    · exact hc r hr
    · exact (hc old (List.mem_of_getElem? hold)).assign hassigned

namespace Session

/-- An effect on a session as a change of its routes. -/
theorem Effect.storeChange {s s' : Session} {step : Step} (h : Effect s step s') :
    StoreChange s.store s'.store := by
  cases h with
  | tableMade => exact .same _
  | routeMade hmake => exact .made hmake
  | added _ _ hmake _ => exact .made hmake
  | decorated _ _ hmake _ => exact .made hmake
  | entered => exact .same _
  | patternSet hroute => exact .assigned (route?_eq_ok_iff.1 hroute).2 (.pattern _ _)
  | constraintsSet hroute hrules =>
    exact .assigned (route?_eq_ok_iff.1 hroute).2 (.constraints hrules)
  | asked => exact .same _

/-- What a step does to the routes, whatever it comes to. -/
theorem storeChange_step (s : Session) (step : Step) :
    StoreChange s.store (s.step step).session.store :=
  of_effect (.same s.store) fun _ heffect => heffect.storeChange

/-! ## Coherence through a session -/

/-- All routes of a session are coherent. -/
def Coherent (s : Session) : Prop := ∀ r ∈ s.store, r.Coherent

/-- A step keeps the routes coherent. -/
theorem coherent_step {s : Session} (h : s.Coherent) (step : Step) :
    (s.step step).session.Coherent :=
  (storeChange_step s step).coherent h

/-- A whole session keeps the routes coherent. -/
theorem coherent_run {s : Session} (h : s.Coherent) (steps : List Step) :
    (s.run steps).2.Coherent :=
  run_invariant (P := Coherent) (fun _ step h => coherent_step h step) h steps

/-! ## Assignment and construction -/

/-- A step that fails leaves the session as it was. -/
theorem session_of_result_eq_error {s : Session} {step : Step} {fault : StepFault}
    (h : (s.step step).result = .error fault) : (s.step step).session = s :=
  (step_of_result_eq_error h).1

/-- **Assignment agrees with construction.**  After any steps, among them any number of patterns
and rules assigned to any routes, successfully or not, every route has the pattern that its text
reads as and the checks that its rules read as, in their order.  Made again from what it shows,
it is made without a fault and gives the same answers.  A step that fails changes nothing, no
matter which rule was at fault. -/
theorem routes_agree_with_construction (steps : List Step) :
    let s := (Session.empty.run steps).2
    (∀ r ∈ s.store,
      r.pattern = .parse r.urlPattern ∧ ReadFrom r.constraints r.checks ∧
      ∃ fresh, Route.make? r.description = .ok fresh ∧
        (∀ request, fresh.match? request = r.match? request) ∧
        ∀ d, fresh.generate? d = r.generate? d) ∧
    ∀ step fault, (s.step step).result = .error fault → (s.step step).session = s := by
  intro s
  refine ⟨?_, fun step fault h => session_of_result_eq_error h⟩
  intro r hr
  have hempty : Session.empty.Coherent := fun r hr => absurd hr (List.not_mem_nil)
  have hc : r.Coherent := coherent_run hempty steps r hr
  exact ⟨hc.pattern_eq, hc.checks, r, hc.make?_description, fun _ => rfl, fun _ => rfl⟩

/-- A route is made, is given another pattern and then rules of which the second is none. -/
def reassignment : List Step :=
  [.makeRoute ['r'] ⟨some "\x7bid\x7d".toList, none,
      some (.ofList [("id".toList, .text "\\d+".toList)]), none, .absent⟩,
    .setPattern ['r'] (some "\x7barea\x7d/\x7bid\x7d".toList)]

/-- Rules of which the second one cannot be read. -/
def faultyRules : Step :=
  .setConstraints ['r'] (some (.ofList [("area".toList, .text "en|fr".toList),
    ("id".toList, .text "(".toList)]))

/-- The fault of a step, if it fails. -/
def faultOf? (s : Session) (step : Step) : Option StepFault :=
  match (s.step step).result with
  | .ok _ => none
  | .error fault => some fault

theorem routes_agree_with_construction_reassignment :
    let s := (Session.empty.run reassignment).2
    (∃ r ∈ s.store, r.urlPattern = "\x7barea\x7d/\x7bid\x7d".toList ∧
      r.pattern = .parse r.urlPattern ∧ ReadFrom r.constraints r.checks) ∧
    (s.faultOf? faultyRules).isSome = true ∧ (s.step faultyRules).session = s := by
  intro s
  obtain ⟨hroutes, hfaults⟩ := routes_agree_with_construction reassignment
  have htexts : s.store.map Route.urlPattern = ["\x7barea\x7d/\x7bid\x7d".toList] := by
    decide +kernel
  obtain ⟨r, hr, hpattern⟩ : ∃ r ∈ s.store, r.urlPattern = "\x7barea\x7d/\x7bid\x7d".toList :=
    List.mem_map.1 (by rw [htexts]; exact List.mem_singleton_self _)
  have hfault : (s.faultOf? faultyRules).isSome = true := by decide +kernel
  refine ⟨⟨r, hr, hpattern, (hroutes r hr).1, (hroutes r hr).2.1⟩, hfault, ?_⟩
  cases hresult : (s.step faultyRules).result with
  | ok answer => simp [faultOf?, hresult] at hfault
  | error fault => exact hfaults faultyRules fault hresult

end Session

end UrlRouting
