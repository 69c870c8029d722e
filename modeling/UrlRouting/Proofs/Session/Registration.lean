import UrlRouting.Proofs.Bindings
import UrlRouting.Proofs.Except
import UrlRouting.Proofs.Session.Atomicity

/-!
# Registrations

What becomes of the tables of a session.  `registered` is what a single step registers in a table,
and `registeredAlong` what all steps of a run do.  `growsBy_step` says that a table changes by just
that, `growsBy_run` carries it through a whole run, and `Sound` is the invariant that ties the
tables to the store.  The main statement is `registrations_are_atomic`: a table only grows at its
end, by one entry for each registration that succeeds; a name stays with its route; and whatever
fails leaves no trace, its first fault being reported.
-/

namespace UrlRouting

/-- A registration that took place: a route, and the name that it goes by. -/
abbrev Entry := RouteRef × Option Text

namespace Table

/-! ## Tables that grow -/

/-- A table becomes another one by registrations in this order. -/
structure GrowsBy (t t' : Table) (entries : List Entry) : Prop where
  name_eq : t'.name = t.name
  debug_eq : t'.debug = t.debug
  routes_eq : t'.routes = t.routes ++ entries.map Prod.fst
  named_eq : t'.named.entries = t.named.entries ++ entries.filterMap fun e => e.2.map (·, e.1)

theorem GrowsBy.refl (t : Table) : t.GrowsBy t [] :=
  ⟨rfl, rfl, (List.append_nil _).symm, (List.append_nil _).symm⟩

theorem GrowsBy.trans {t t' t'' : Table} {entries entries' : List Entry}
    (h : t.GrowsBy t' entries) (h' : t'.GrowsBy t'' entries') :
    t.GrowsBy t'' (entries ++ entries') where
  name_eq := h'.name_eq.trans h.name_eq
  debug_eq := h'.debug_eq.trans h.debug_eq
  routes_eq := by rw [h'.routes_eq, h.routes_eq, List.map_append, List.append_assoc]
  named_eq := by rw [h'.named_eq, h.named_eq, List.filterMap_append, List.append_assoc]

/-- A name that is bound stays bound to its route while the table grows. -/
theorem GrowsBy.get?_named {t t' : Table} {entries : List Entry} (h : t.GrowsBy t' entries)
    {name : Text} {ref : RouteRef} (hname : t.named.get? name = some ref) :
    t'.named.get? name = some ref := by
  rw [Bindings.get?] at hname ⊢
  rw [h.named_eq, List.lookup_append, hname, Option.some_or]

/-- A route that is registered keeps its first place while the table grows. -/
theorem GrowsBy.indexOf_eq {t t' : Table} {entries : List Entry} (h : t.GrowsBy t' entries)
    {ref : RouteRef} (href : ref ∈ t.routes) : t'.indexOf ref = t.indexOf ref := by
  rw [indexOf, h.routes_eq, List.idxOf_append_of_mem href]
  rfl

/-- A registration whose name is not taken makes the table grow by its own entry. -/
theorem growsBy_withEntry {t : Table} {name : Option Text} (h : t.checkName name = .ok ())
    (ref : RouteRef) : t.GrowsBy (t.withEntry ref name) [(ref, name)] := by
  cases name with
  | none => exact ⟨rfl, rfl, rfl, (List.append_nil _).symm⟩
  | some name =>
    rw [checkName] at h
    split at h
    · cases h
    · next hfree =>
      rw [Bindings.contains_iff_mem_keys] at hfree
      exact ⟨rfl, rfl, rfl, Bindings.setEntry_of_not_mem ref hfree⟩

/-- A name that is not taken is not refused. -/
theorem checkName_of_free {t : Table} {name : Option Text}
    (hfree : ∀ n, name = some n → t.named.contains n = false) : t.checkName name = .ok () := by
  cases name with
  | none => rfl
  | some name => rw [checkName, hfree name rfl, if_neg Bool.false_ne_true]

end Table

namespace Session

/-! ## What steps register -/

/-- What a step asks to be registered: a table by its place, a route and a name. -/
def registration? (s : Session) : Step → Option (TableRef × Entry)
  | .add tableId registration _ =>
      (s.tableIds.get? tableId).map (·, s.store.length, registration.name)
  | .decorate tableId registration =>
      (s.tableIds.get? tableId).map (·, s.store.length, registration.name)
  | .addRoute tableId routeId name =>
      (s.tableIds.get? tableId).bind fun place =>
        (s.routeIds.get? routeId).map fun ref => (place, ref, name)
  | _ => none

/-- What a step registers in the table at a place: what it asks for, if it answers. -/
def registered (s : Session) (place : TableRef) (step : Step) : List Entry :=
  match s.registration? step, (s.step step).result with
  | some (table, entry), .ok _ => if table = place then [entry] else []
  | _, _ => []

/-- What steps register in the table at a place, one after the other. -/
def registeredAlong (s : Session) (place : TableRef) : List Step → List Entry
  | [] => []
  | step :: steps => s.registered place step ++ (s.step step).session.registeredAlong place steps

theorem registered_of_error {s : Session} {place : TableRef} {step : Step} {fault : StepFault}
    (h : (s.step step).result = .error fault) : s.registered place step = [] := by
  unfold registered
  rw [h]
  cases s.registration? step <;> rfl

theorem registered_of_none {s : Session} {place : TableRef} {step : Step}
    (h : s.registration? step = none) : s.registered place step = [] := by
  unfold registered
  rw [h]

theorem registered_of_ok {s : Session} {place table : TableRef} {step : Step} {answer : Answer}
    {entry : Entry} (h : (s.step step).result = .ok answer)
    (hentry : s.registration? step = some (table, entry)) :
    s.registered place step = if table = place then [entry] else [] := by
  unfold registered
  rw [hentry, h]

/-- The table at a place after the table at some place has taken an entry. -/
theorem growsBy_set {tables : List Table} {place table : TableRef} {t old new : Table}
    {entry : Entry} (ht : tables[place]? = some t) (hold : tables[table]? = some old)
    (hnew : old.GrowsBy new [entry]) :
    ∃ t', (tables.set table new)[place]? = some t' ∧
      t.GrowsBy t' (if table = place then [entry] else []) := by
  by_cases hplace : table = place
  · subst hplace
    obtain rfl : old = t := Option.some.inj (hold.symm.trans ht)
    have hlt : table < tables.length := (List.getElem?_eq_some_iff.1 ht).1
    rw [if_pos rfl]
    exact ⟨new, List.getElem?_set_self hlt, hnew⟩
  · rw [if_neg hplace]
    exact ⟨t, (List.getElem?_set_ne hplace).trans ht, .refl t⟩

/-- A step makes a table grow by what it registers there. -/
theorem growsBy_step {s : Session} {place : TableRef} {t : Table} (ht : s.tables[place]? = some t)
    (step : Step) :
    ∃ t', (s.step step).session.tables[place]? = some t' ∧
      t.GrowsBy t' (s.registered place step) := by
  cases hresult : (s.step step).result with
  | error fault =>
    rw [(step_of_result_eq_error hresult).1, registered_of_error hresult]
    exact ⟨t, ht, .refl t⟩
  | ok answer =>
    have heffect := effect_of_result_eq_ok hresult
    generalize (s.step step).session = s' at heffect ⊢
    cases heffect with
    | tableMade id name configure debug =>
      rw [registered_of_none rfl]
      refine ⟨t, ?_, .refl t⟩
      have hlt : place < s.tables.length := (List.getElem?_eq_some_iff.1 ht).1
      exact (List.getElem?_append_left hlt).trans ht
    | added htable hoptions hmake hname =>
      obtain ⟨hid, hold⟩ := table?_eq_ok_iff.1 htable
      rw [registered_of_ok hresult (by rw [registration?, hid]; rfl)]
      exact growsBy_set ht hold (Table.growsBy_withEntry hname _)
    | decorated htable hoptions hmake hname =>
      obtain ⟨hid, hold⟩ := table?_eq_ok_iff.1 htable
      rw [registered_of_ok hresult (by rw [registration?, hid]; rfl)]
      exact growsBy_set ht hold (Table.growsBy_withEntry hname _)
    | entered htable hroute hname =>
      obtain ⟨hid, hold⟩ := table?_eq_ok_iff.1 htable
      obtain ⟨hrouteId, -⟩ := route?_eq_ok_iff.1 hroute
      rw [registered_of_ok hresult (by rw [registration?, hid, hrouteId]; rfl)]
      exact growsBy_set ht hold (Table.growsBy_withEntry hname _)
    | asked hasks =>
      rw [registered_of_none (by cases step <;> first | rfl | cases hasks)]
      exact ⟨t, ht, .refl t⟩
    | _ =>
      rw [registered_of_none rfl]
      exact ⟨t, ht, .refl t⟩

/-- Steps make a table grow by what they register there. -/
theorem growsBy_run {s : Session} {place : TableRef} {t : Table} (ht : s.tables[place]? = some t)
    (steps : List Step) :
    ∃ t', (s.run steps).2.tables[place]? = some t' ∧
      t.GrowsBy t' (s.registeredAlong place steps) := by
  induction steps generalizing s t with
  | nil => exact ⟨t, ht, .refl t⟩
  | cons step steps ih =>
    obtain ⟨t₁, ht₁, hstep⟩ := growsBy_step ht step
    obtain ⟨t₂, ht₂, hrun⟩ := ih ht₁
    exact ⟨t₂, ht₂, hstep.trans hrun⟩

end Session

/-! ## Tables and the store -/

/-- A table refers to routes that there are, and by name to those that are registered only. -/
structure Table.Sound (t : Table) (size : Nat) : Prop where
  made : ∀ ref ∈ t.routes, ref < size
  registered : ∀ name ref, t.named.get? name = some ref → ref ∈ t.routes

/-- A table stays sound if it grows by routes that there are. -/
theorem Table.Sound.growsBy {t t' : Table} {size size' : Nat} {entries : List Entry}
    (h : t.Sound size) (hle : size ≤ size') (hgrows : t.GrowsBy t' entries)
    (hmade : ∀ e ∈ entries, e.1 < size') : t'.Sound size' where
  made := by
    intro ref href
    rw [hgrows.routes_eq, List.mem_append] at href
    rcases href with hold | hnew
    · exact Nat.lt_of_lt_of_le (h.made ref hold) hle
    · obtain ⟨e, he, rfl⟩ := List.mem_map.1 hnew
      exact hmade e he
  registered := by
    intro name ref hname
    rw [hgrows.routes_eq, List.mem_append]
    rw [Bindings.get?, hgrows.named_eq, List.lookup_append, Option.or_eq_some_iff] at hname
    rcases hname with hold | ⟨-, hnew⟩
    · exact .inl (h.registered name ref hold)
    · obtain ⟨e, he, hentry⟩ := List.mem_filterMap.1 (Bindings.mem_of_lookup hnew)
      obtain ⟨n, -, hpair⟩ := Option.map_eq_some_iff.1 hentry
      cases hpair
      exact .inr (List.mem_map_of_mem he)

namespace Session

/-- All tables of a session are sound. -/
def Sound (s : Session) : Prop := ∀ t ∈ s.tables, t.Sound s.store.length

theorem sound_empty : Session.empty.Sound := fun _ ht => absurd ht List.not_mem_nil

/-- Tables stay sound while the store grows and one of them takes a route that there is. -/
theorem Sound.set {s : Session} (h : s.Sound) {place : TableRef} {t t' : Table} {size : Nat}
    {entry : Entry} (hle : s.store.length ≤ size) (ht : s.tables[place]? = some t)
    (hgrows : t.GrowsBy t' [entry]) (hmade : entry.1 < size) :
    ∀ t ∈ s.tables.set place t', t.Sound size := by
  intro u hu
  rcases List.mem_or_eq_of_mem_set hu with hu | rfl
  · exact (h u hu).growsBy hle (.refl u) fun _ he => absurd he List.not_mem_nil
  · refine (h t (List.mem_of_getElem? ht)).growsBy hle hgrows ?_
    intro e he
    rw [List.mem_singleton.1 he]
    exact hmade

/-- No effect harms the tables. -/
theorem Effect.sound {s s' : Session} {step : Step} (heffect : Effect s step s') (h : s.Sound) :
    s'.Sound := by
  -- More routes do not harm a table.
  have hmono : ∀ size, s.store.length ≤ size → ∀ t ∈ s.tables, t.Sound size := fun size hle t ht =>
    (h t ht).growsBy hle (.refl t) fun _ he => absurd he List.not_mem_nil
  have hmore : ∀ r : Route, (s.store ++ [r]).length = s.store.length + 1 := fun r => by simp
  cases heffect with
  | tableMade id name configure debug =>
    intro t ht
    rcases List.mem_append.1 ht with ht | ht
    · exact h t ht
    · rw [List.mem_singleton.1 ht]
      exact ⟨fun _ hr => absurd hr List.not_mem_nil, fun _ _ hn => by cases hn⟩
  | routeMade hmake => exact hmono _ (by rw [hmore]; omega)
  | added htable hoptions hmake hname =>
    exact h.set (by rw [hmore]; omega) (table?_eq_ok_iff.1 htable).2
      (Table.growsBy_withEntry hname _) (by rw [hmore]; exact Nat.lt_succ_self _)
  | decorated htable hoptions hmake hname =>
    exact h.set (by rw [hmore]; omega) (table?_eq_ok_iff.1 htable).2
      (Table.growsBy_withEntry hname _) (by rw [hmore]; exact Nat.lt_succ_self _)
  | entered htable hroute hname =>
    exact h.set (Nat.le_refl _) (table?_eq_ok_iff.1 htable).2 (Table.growsBy_withEntry hname _)
      (List.getElem?_eq_some_iff.1 (route?_eq_ok_iff.1 hroute).2).1
  | patternSet hroute => exact hmono _ (Nat.le_of_eq List.length_set.symm)
  | constraintsSet hroute hrules => exact hmono _ (Nat.le_of_eq List.length_set.symm)
  | asked hasks => exact h

/-- A step keeps the tables sound. -/
theorem sound_step {s : Session} (h : s.Sound) (step : Step) : (s.step step).session.Sound :=
  of_effect h fun _ heffect => heffect.sound h

/-- A whole session keeps the tables sound. -/
theorem sound_run {s : Session} (h : s.Sound) (steps : List Step) : (s.run steps).2.Sound :=
  run_invariant (P := Sound) (fun _ step h => sound_step h step) h steps

/-! ## The first fault of a registration -/

section

open UrlRouting.Action

variable {p : Progress} {tableId : Text} {place : TableRef} {t : Table} {registration : Registration}

/-- Options that nobody knows are refused before anything else is looked at. -/
theorem addNew_of_unexpected (htable : p.session.table? tableId = .ok (place, t))
    (hoptions : registration.unexpected ≠ []) :
    addNew tableId registration p =
      .error (.table (.unexpectedOptions registration.unexpected.eraseDups)) p := by
  rw [addNew, look_bind_of_ok htable]
  refine check_bind_of_error ?_
  rw [Registration.checkOptions, if_neg hoptions]
  rfl

/-- Rules that cannot be read are refused next. -/
theorem addNew_of_unreadable (htable : p.session.table? tableId = .ok (place, t))
    (hoptions : registration.unexpected = []) {cause : ConstraintFault}
    (hmake : Route.make? registration.description = .error cause) :
    addNew tableId registration p = .error (.constraint cause) p := by
  rw [addNew, look_bind_of_ok htable]
  dsimp only
  rw [check_bind_of_ok (liftTable_eq_ok_iff.2 (checkOptions_eq_ok_iff.2 hoptions)), hmake]
  exact check_bind_of_error rfl

/-- A name that is taken is refused last. -/
theorem addNew_of_taken (htable : p.session.table? tableId = .ok (place, t))
    (hoptions : registration.unexpected = []) {r : Route}
    (hmake : Route.make? registration.description = .ok r) {cause : TableFault}
    (hname : t.checkName registration.name = .error cause) :
    addNew tableId registration p = .error (.table cause) p := by
  have henter : enter place (keep r) r registration.name p = .error (.table cause) p := by
    rw [enter, look_bind_of_ok (tableAt?_eq_ok_iff.2 (table?_eq_ok_iff.1 htable).2), hname]
    exact check_bind_of_error rfl
  rw [addNew, look_bind_of_ok htable]
  dsimp only
  rw [check_bind_of_ok (liftTable_eq_ok_iff.2 (checkOptions_eq_ok_iff.2 hoptions)),
    check_bind_of_ok (liftConstraint_eq_ok_iff.2 hmake)]
  exact Action.bind_eq_error_iff.2 (.inl henter)

end

end Session

/-- A registration has no options that nobody knows, and this route is made for it. -/
def Registration.Makes (registration : Registration) (r : Route) : Prop :=
  registration.unexpected = [] ∧ Route.make? registration.description = .ok r

/-- If each registration can be made a route for, there are routes for all of them. -/
theorem exists_forall₂_makes {registrations : List Registration}
    (h : ∀ registration ∈ registrations, registration.unexpected = [] ∧
      (Route.make? registration.description).isOk = true) :
    ∃ routes, List.Forall₂ Registration.Makes registrations routes := by
  induction registrations with
  | nil => exact ⟨[], .nil⟩
  | cons registration registrations ih =>
    rw [List.forall_mem_cons] at h
    obtain ⟨⟨hoptions, hok⟩, hrest⟩ := h
    obtain ⟨routes, hroutes⟩ := ih hrest
    obtain ⟨r, hmake⟩ := exists_ok_of_isOk hok
    exact ⟨r :: routes, .cons ⟨hoptions, hmake⟩ hroutes⟩

/-- The two steps that make a route and register it. -/
inductive Step.Adds (tableId : Text) (registration : Registration) : Step → Prop
  | add (id : Option Text) : Adds tableId registration (.add tableId registration id)
  | decorate : Adds tableId registration (.decorate tableId registration)

/-- The result of a registration in a table reports the first fault that there is. -/
structure Table.ReportsFirstFault (t : Table) (registration : Registration)
    (result : Except StepFault Answer) : Prop where
  /-- Options that nobody knows come before everything else. -/
  options : registration.unexpected ≠ [] →
    result = .error (.table (.unexpectedOptions registration.unexpected.eraseDups))
  /-- Rules that cannot be read come before a name that is taken. -/
  rules : registration.unexpected = [] → ∀ cause,
    Route.make? registration.description = .error cause → result = .error (.constraint cause)
  /-- A name that is taken comes last. -/
  name : registration.unexpected = [] → (Route.make? registration.description).isOk = true →
    ∀ name, registration.name = some name → t.named.contains name = true →
      result = .error (.table (.duplicateName name))
  /-- Without a fault there is an answer. -/
  answer : registration.unexpected = [] → (Route.make? registration.description).isOk = true →
    (∀ name, registration.name = some name → t.named.contains name = false) →
      ∃ answer, result = .ok answer

namespace Session

/-- A step that makes and registers a route fails as soon as this does. -/
theorem result_of_addNew_eq_error {s : Session} {p : Progress} {tableId : Text}
    {registration : Registration} {step : Step} {fault : StepFault}
    (hadds : step.Adds tableId registration)
    (h : addNew tableId registration ⟨s, []⟩ = .error fault p) :
    (s.step step).result = .error fault := by
  have hattempt : attempt step ⟨s, []⟩ = .error fault p := by
    cases hadds <;> exact Action.bind_eq_error_iff.2 (.inl h)
  rw [step_of_error hattempt]

/-- It answers if this goes through. -/
theorem result_of_addNew_eq_ok {s : Session} {p : Progress} {tableId : Text}
    {registration : Registration} {step : Step} {ref : RouteRef} {r : Route}
    (hadds : step.Adds tableId registration)
    (h : addNew tableId registration ⟨s, []⟩ = .ok (ref, r) p) :
    ∃ answer, (s.step step).result = .ok answer := by
  cases hadds <;>
  · rw [Session.step, attempt, Action.bind_of_ok h]
    exact ⟨_, rfl⟩

/-- A registration reports its first fault. -/
theorem reportsFirstFault {s : Session} {tableId : Text} {place : TableRef} {t : Table}
    (htable : s.table? tableId = .ok (place, t)) {registration : Registration} {step : Step}
    (hadds : step.Adds tableId registration) :
    t.ReportsFirstFault registration (s.step step).result := by
  refine ⟨?_, ?_, ?_, ?_⟩
  · intro hoptions
    exact result_of_addNew_eq_error hadds (addNew_of_unexpected htable hoptions)
  · intro hoptions cause hmake
    exact result_of_addNew_eq_error hadds (addNew_of_unreadable htable hoptions hmake)
  · intro hoptions hmade name hname htaken
    have hrefused : t.checkName registration.name = .error (.duplicateName name) := by
      rw [hname, Table.checkName, if_pos htaken]
    obtain ⟨r, hmake⟩ := exists_ok_of_isOk hmade
    exact result_of_addNew_eq_error hadds (addNew_of_taken htable hoptions hmake hrefused)
  · intro hoptions hmade hfree
    obtain ⟨r, hmake⟩ := exists_ok_of_isOk hmade
    exact result_of_addNew_eq_ok hadds (addNew_eq_ok_iff.2
      ⟨place, t, htable, hoptions, hmake, Table.checkName_of_free hfree, rfl, rfl⟩)

/-- What a table answers when it is asked for a route by its name. -/
theorem result_get {s : Session} {tableId : Text} {place : TableRef} {t : Table}
    (htable : s.table? tableId = .ok (place, t)) (name : Text) :
    (s.step (.get tableId name)).result = .ok (.place ((t.named.get? name).map t.indexOf)) := by
  rw [Session.step, attempt, Action.look_bind_of_ok htable]
  rfl

/-! ## Several registrations -/

/-- A route that can be made goes to the end of the store and, under a name that is free, of the
table. -/
theorem session_decorate {s : Session} {id : Text} {place : TableRef} {t : Table}
    {registration : Registration} {r : Route} (htable : s.table? id = .ok (place, t))
    (hmakes : registration.Makes r) (hname : t.checkName registration.name = .ok ()) :
    (s.step (.decorate id registration)).session =
      { s with
        store := s.store ++ [r]
        tables := s.tables.set place (t.withEntry s.store.length registration.name) } := by
  have hadd := (addNew_eq_ok_iff (p := ⟨s, []⟩)).2
    ⟨place, t, htable, hmakes.1, hmakes.2, hname, rfl, rfl⟩
  rw [Session.step, attempt, Action.bind_of_ok hadd]
  rfl

/-- Registrations without a fault, under names that are all free and different, leave their routes at
the end of the store and, in their order, of the table. -/
theorem exists_table_run_decorate {id : Text} {place : TableRef} {registrations : List Registration}
    {routes : List Route}
    (hmade : List.Forall₂ Registration.Makes registrations routes)
    {s : Session} {t : Table} (htable : s.table? id = .ok (place, t))
    (hnames : (t.named.keys ++ registrations.filterMap Registration.name).Nodup) :
    let s' := (s.run (registrations.map (.decorate id ·))).2
    s'.store = s.store ++ routes ∧ ∃ t', s'.table? id = .ok (place, t') ∧
      t'.routes = t.routes ++ List.range' s.store.length routes.length := by
  induction hmade generalizing s t with
  | nil =>
    refine ⟨(List.append_nil _).symm, t, htable, ?_⟩
    exact (List.append_nil _).symm
  | @cons registration r registrations routes hmakes _ ih =>
    have hfree : ∀ n, registration.name = some n → t.named.contains n = false := by
      intro n hn
      rw [List.filterMap_cons_some hn] at hnames
      rw [Bool.eq_false_iff, Ne, Bindings.contains_iff_mem_keys]
      exact fun hmem => (List.nodup_append.1 hnames).2.2 n hmem n List.mem_cons_self rfl
    have hname := Table.checkName_of_free hfree
    have hsession := session_decorate htable hmakes hname
    have hgrows := Table.growsBy_withEntry hname s.store.length
    generalize t.withEntry s.store.length registration.name = t₁ at hsession hgrows
    obtain ⟨hid, ht⟩ := table?_eq_ok_iff.1 htable
    have htable₁ : (s.step (.decorate id registration)).session.table? id = .ok (place, t₁) := by
      rw [hsession]
      refine table?_eq_ok_iff.2 ⟨hid, List.getElem?_set_self ?_⟩
      exact (List.getElem?_eq_some_iff.1 ht).1
    have hnames₁ : (t₁.named.keys ++ registrations.filterMap Registration.name).Nodup := by
      rw [Bindings.keys, hgrows.named_eq, List.map_append, ← Bindings.keys, List.append_assoc]
      cases hgiven : registration.name with
      | none => rwa [List.filterMap_cons_none hgiven] at hnames
      | some name => rwa [List.filterMap_cons_some hgiven] at hnames
    obtain ⟨hstore, t', htable', hroutes⟩ := ih htable₁ hnames₁
    have hmore : (s.step (.decorate id registration)).session.store = s.store ++ [r] :=
      congrArg Session.store hsession
    rw [hmore] at hstore hroutes
    refine ⟨?_, t', htable', ?_⟩
    · rw [List.append_cons]
      exact hstore
    · rw [hroutes, hgrows.routes_eq, List.length_append, List.append_assoc]
      rfl

/-- A table that is made and filled by such registrations holds their routes, one behind the other,
and so does the store. -/
theorem exists_table_run_makeTable (id name : Text) (configure debug : Bool)
    {registrations : List Registration} {routes : List Route}
    (hmade : List.Forall₂ Registration.Makes registrations routes)
    (hnames : (registrations.filterMap Registration.name).Nodup) :
    let s := (Session.empty.run
      (.makeTable id name configure debug :: registrations.map (.decorate id ·))).2
    s.store = routes ∧ ∃ t, s.table? id = .ok (0, t) ∧ t.routes = List.range routes.length := by
  intro s
  have htable : (Session.empty.step (.makeTable id name configure debug)).session.table? id =
      .ok (0, Table.empty name debug) := by
    rw [session_makeTable]
    refine table?_eq_ok_iff.2 ⟨?_, rfl⟩
    exact (Bindings.get?_set .empty id id 0).trans (if_pos rfl)
  have hnone : (Session.empty.step (.makeTable id name configure debug)).session.store = [] := by
    rw [session_makeTable]
    rfl
  obtain ⟨hstore, t, ht, hroutes⟩ := exists_table_run_decorate hmade htable hnames
  rw [hnone] at hstore hroutes
  refine ⟨hstore, t, ht, ?_⟩
  rw [List.range_eq_range']
  exact hroutes

/-! ## Whole sessions -/

/-- **Registration is atomic.**  At any moment of a session, a table refers to routes that there are,
each of its names is bound once, and to a route that is registered.  After any further steps it
has grown at its end by just the registrations that succeeded, in their order, and a name that
was bound is bound to the same route, which a look-up finds at the same place.  A step that fails
leaves the session and the log as they were (but for a dispatch whose URL can be read: its match is
recorded before its rendering fails).  Of several faults of a registration the first one is reported: options that
nobody knows, rules that cannot be read, a name that is taken. -/
theorem registrations_are_atomic (before after : List Step) :
    let s := (Session.empty.run before).2
    let s' := (s.run after).2
    (∀ place t, s.tables[place]? = some t →
      (∀ ref ∈ t.routes, ∃ r, s.store[ref]? = some r) ∧
      (∀ name ref, t.named.get? name = some ref → ref ∈ t.routes) ∧ t.named.keys.Nodup ∧
      ∃ t', s'.tables[place]? = some t' ∧ t.GrowsBy t' (s.registeredAlong place after) ∧
        ∀ name ref, t.named.get? name = some ref → t'.named.get? name = some ref ∧
          ∀ id, s'.tableIds.get? id = some place →
            (s'.step (.get id name)).result = .ok (.place (some (t.indexOf ref)))) ∧
    (∀ step fault, (s.step step).result = .error fault →
      (s.step step).session = s ∧
        ((∀ table url, step = .dispatch table url → (Request.ofUrl url).isOk = false) →
          (s.step step).log = [])) ∧
    ∀ id place t, s.table? id = .ok (place, t) → ∀ registration step,
      step.Adds id registration → t.ReportsFirstFault registration (s.step step).result := by
  intro s s'
  have hsound : s.Sound := sound_run sound_empty before
  refine ⟨?_, fun step fault => step_of_result_eq_error, fun id place t htable registration step =>
    reportsFirstFault htable⟩
  intro place t ht
  have hown : t.Sound s.store.length := hsound t (List.mem_of_getElem? ht)
  obtain ⟨t', ht', hgrows⟩ := growsBy_run ht after
  refine ⟨fun ref href => ⟨_, List.getElem?_eq_getElem (hown.made ref href)⟩, hown.registered,
    t.named.nodup, t', ht', hgrows, ?_⟩
  intro name ref hname
  have hkept := hgrows.get?_named hname
  refine ⟨hkept, fun id hid => ?_⟩
  rw [result_get (table?_eq_ok_iff.2 ⟨hid, ht'⟩), hkept, Option.map_some,
    hgrows.indexOf_eq (hown.registered name ref hname)]

/-- A registration of a pattern without defaults. -/
def plainRegistration (urlPattern : String) (rules : Option (Bindings Value))
    (name : Option Text) (unexpected : List Text) : Registration where
  description := ⟨some urlPattern.toList, none, rules, none, .absent⟩
  name := name
  unexpected := unexpected

/-- A table with a route under a name. -/
def opened : List Step :=
  [.makeTable "t".toList "app".toList true true,
    .add "t".toList (plainRegistration "\x7barea\x7d" none (some "home".toList) []) (some "r".toList)]

/-- Registrations of which the first one fails, for its name is taken. -/
def continued : List Step :=
  [.decorate "t".toList (plainRegistration "x" none (some "home".toList) []),
    .decorate "t".toList (plainRegistration "\x7bid\x7d" none (some "item".toList) []),
    .addRoute "t".toList "r".toList none]

/-- A registration with three faults. -/
def threefold : Registration :=
  plainRegistration "y" (some (.ofList [("id".toList, .int 5)])) (some "home".toList)
    ["methods".toList]

theorem registrations_are_atomic_opened :
    let s := (Session.empty.run opened).2
    (∃ t', (s.run continued).2.tables[0]? = some t' ∧ t'.routes = [0, 1, 0] ∧
      t'.named.get? "home".toList = some 0) ∧
    (s.step (.decorate "t".toList threefold)).result =
      .error (.table (.unexpectedOptions ["methods".toList])) ∧
    (s.step (.decorate "t".toList threefold)).session = s ∧
    (s.step (.decorate "t".toList threefold)).log = [] := by
  intro s
  obtain ⟨htables, hfailures, hfaults⟩ := registrations_are_atomic opened continued
  obtain ⟨t, htable⟩ : ∃ t, s.table? "t".toList = .ok (0, t) := ⟨_, rfl⟩
  have ht : s.tables[0]? = some t := (table?_eq_ok_iff.1 htable).2
  have hroutes : t.routes = [0] := by
    cases htable
    rfl
  have hhome : t.named.get? "home".toList = some 0 := by
    cases htable
    rfl
  have hentries : s.registeredAlong 0 continued = [(1, some "item".toList), (0, none)] := rfl
  obtain ⟨-, -, -, t', ht', hgrows, hnames⟩ := htables 0 t ht
  have hfault := (hfaults "t".toList 0 t htable threefold _ .decorate).options (by decide)
  obtain ⟨hsession, hlog⟩ := hfailures _ _ hfault
  refine ⟨⟨t', ht', ?_, (hnames _ _ hhome).1⟩, hfault, hsession, hlog (by simp)⟩
  rw [hgrows.routes_eq, hroutes, hentries]
  rfl

end Session

end UrlRouting
