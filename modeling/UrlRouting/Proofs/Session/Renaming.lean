import UrlRouting.Proofs.Except
import UrlRouting.Proofs.Session.Effect
import UrlRouting.Proofs.Table.FirstCandidate

/-!
# Sessions up to the places of their routes

A session keeps its routes at places of a store, and its tables and identifiers refer to these
places.  No answer shows a place: `Renames` relates two sessions that differ only in where their
routes are kept.  Actions that such sessions go through side by side stay so in sequence,
`InStep.bind`, and the main statements are that the sessions answer a step alike and still differ
in nothing else afterwards, `renames_step`, and that they answer whole runs alike, `results_run_eq`.
-/

namespace UrlRouting

namespace Bindings

variable {α β : Type}

/-- The same names in the same order, bound to what becomes of the things they were bound to. -/
def map (f : α → β) (b : Bindings α) : Bindings β where
  entries := b.entries.map fun e => (e.1, f e.2)
  nodup := by
    rw [List.map_map]
    exact b.nodup

theorem eq_of_entries {b b' : Bindings α} (h : b.entries = b'.entries) : b = b' := by
  cases b
  cases b'
  cases h
  rfl

theorem lookup_map (f : α → β) (entries : List (Text × α)) (name : Text) :
    (entries.map fun e => (e.1, f e.2)).lookup name = (entries.lookup name).map f := by
  induction entries with
  | nil => rfl
  | cons e entries ih =>
    rw [List.map_cons, List.lookup_cons, List.lookup_cons, ih]
    cases name == e.1 <;> rfl

theorem get?_map (f : α → β) (b : Bindings α) (name : Text) :
    (b.map f).get? name = (b.get? name).map f :=
  lookup_map f b.entries name

theorem contains_map (f : α → β) (b : Bindings α) (name : Text) :
    (b.map f).contains name = b.contains name := by
  rw [contains, get?_map, Option.isSome_map, contains]

theorem map_set (f : α → β) (b : Bindings α) (name : Text) (value : α) :
    (b.set name value).map f = (b.map f).set name (f value) := by
  apply eq_of_entries
  unfold map set
  dsimp only
  induction b.entries with
  | nil => rfl
  | cons e entries ih =>
    obtain ⟨key, old⟩ := e
    by_cases h : key = name
    · simp [setEntry, h]
    · simpa [setEntry, h] using ih

end Bindings

/-! ## A table with other places -/

namespace Table

variable {α : Type} {ρ : RouteRef → RouteRef} {store store' : RouteStore}

/-- The table that refers to other places, in the same order and under the same names. -/
def rename (ρ : RouteRef → RouteRef) (t : Table) : Table :=
  { t with routes := t.routes.map ρ, named := t.named.map ρ }

/-- Places that are kept apart are found at the same positions. -/
theorem indexOf_rename (hρ : Function.Injective ρ) (t : Table) (ref : RouteRef) :
    (t.rename ρ).indexOf (ρ ref) = t.indexOf ref := by
  unfold indexOf rename
  dsimp only
  induction t.routes with
  | nil => rfl
  | cons first routes ih =>
    have hbeq : (ρ first == ρ ref) = (first == ref) := by
      rw [Bool.eq_iff_iff, beq_iff_eq, beq_iff_eq, hρ.eq_iff]
    rw [List.map_cons, List.idxOf_cons, List.idxOf_cons, ih, hbeq]

theorem checkName_rename (ρ : RouteRef → RouteRef) (t : Table) (name : Option Text) :
    (t.rename ρ).checkName name = t.checkName name := by
  cases name with
  | none => rfl
  | some name =>
    have htaken : (t.rename ρ).named.contains name = t.named.contains name :=
      Bindings.contains_map ρ t.named name
    rw [checkName, checkName, htaken]

theorem bindName_rename (ρ : RouteRef → RouteRef) (t : Table) (name : Option Text)
    (ref : RouteRef) : (t.rename ρ).bindName name (ρ ref) = (t.bindName name ref).rename ρ := by
  cases name with
  | none => rfl
  | some name => simp only [bindName, rename, Bindings.map_set]

theorem append_rename (ρ : RouteRef → RouteRef) (t : Table) (ref : RouteRef) :
    (t.rename ρ).append (ρ ref) = (t.append ref).rename ρ := by
  simp only [append, rename, List.map_append, List.map_cons, List.map_nil]

/-- An answer with the place of its route renamed. -/
def renameAnswer (ρ : RouteRef → RouteRef) (found : RouteRef × Route × α) :
    RouteRef × Route × α :=
  (ρ found.1, found.2)

/-- A search among renamed places finds the same answer. -/
theorem firstAnswer?_map (hroutes : ∀ ref, store'[ρ ref]? = store[ref]?)
    (answer : Route → Option α) (routes : List RouteRef) :
    firstAnswer? store' answer (routes.map ρ) =
      (firstAnswer? store answer routes).map (renameAnswer ρ) := by
  have hask : ∀ ref, answerAt? store' answer (ρ ref) =
      (answerAt? store answer ref).map (renameAnswer ρ) := by
    intro ref
    rw [answerAt?, answerAt?, hroutes]
    cases hroute : store[ref]? with
    | none => rfl
    | some route => cases hanswer : answer route <;> simp [hanswer, renameAnswer]
  induction routes with
  | nil => rfl
  | cons ref routes ih =>
    rw [firstAnswer?] at ih ⊢
    rw [firstAnswer?] at ih ⊢
    rw [List.map_cons, List.findSome?_cons, List.findSome?_cons, hask, ih]
    cases answerAt? store answer ref <;> rfl

theorem match?_rename (hroutes : ∀ ref, store'[ρ ref]? = store[ref]?) (t : Table)
    (request : Request) :
    (t.rename ρ).match? store' request = (t.match? store request).map (renameAnswer ρ) := by
  rw [match?_eq_firstAnswer?, match?_eq_firstAnswer?]
  exact firstAnswer?_map hroutes _ t.routes

theorem generate?_rename (hroutes : ∀ ref, store'[ρ ref]? = store[ref]?) (t : Table)
    (name : Option Text) (d : UrlDemand) :
    (t.rename ρ).generate? store' name d =
      (t.generate? store name d).map (Option.map (renameAnswer ρ)) := by
  cases name with
  | none =>
    rw [generate?_none, generate?_none]
    exact congrArg Except.ok (firstAnswer?_map hroutes _ t.routes)
  | some name =>
    have hget : (t.rename ρ).named.get? name = (t.named.get? name).map ρ :=
      Bindings.get?_map ρ t.named name
    cases hname : t.named.get? name with
    | none =>
      rw [hname] at hget
      simp only [generate?, generators, hname, hget, Option.map_none]
      rfl
    | some ref =>
      rw [hname] at hget
      rw [generate?_some hget, generate?_some hname]
      have hone := firstAnswer?_map hroutes (·.generate? d) [ref]
      simp only [firstAnswer?, List.map_cons, List.map_nil, List.findSome?_singleton] at hone
      exact congrArg Except.ok hone

theorem matchMessage_rename (ρ : RouteRef → RouteRef) (request : Request)
    (found : Option (RouteRef × Route × RouteData)) :
    matchMessage request (found.map (renameAnswer ρ)) = matchMessage request found := by
  cases found <;> rfl

theorem generationMessage_rename (ρ : RouteRef → RouteRef) (d : UrlDemand)
    (found : Option (RouteRef × Route × VirtualPath)) :
    generationMessage d (found.map (renameAnswer ρ)) = generationMessage d found := by
  cases found <;> rfl

/-- The routes of a renamed table are the same ones. -/
theorem candidates_rename (hroutes : ∀ ref, store'[ρ ref]? = store[ref]?) (t : Table) :
    ((t.rename ρ).candidates store').map Prod.snd = (t.candidates store).map Prod.snd := by
  unfold candidates rename
  rw [List.map_filterMap, List.map_filterMap, List.filterMap_map]
  congr 1
  funext ref
  simp only [Function.comp_apply, hroutes, Option.map_map]
  rfl

end Table

namespace Session

open UrlRouting.Action

/-! ## Two sessions that differ in the places of their routes -/

/-- The second session keeps at the place `ρ ref` the route that the first one keeps at `ref`, and
whatever refers to that route refers to its own place.  Routes that are made later go to places
that correspond. -/
structure Renames (ρ : RouteRef → RouteRef) (s s' : Session) : Prop where
  injective : Function.Injective ρ
  route_eq : ∀ ref, s'.store[ρ ref]? = s.store[ref]?
  later_eq : ∀ n, ρ (s.store.length + n) = s'.store.length + n
  tables_eq : s'.tables = s.tables.map (Table.rename ρ)
  routeIds_eq : s'.routeIds = s.routeIds.map ρ
  tableIds_eq : s'.tableIds = s.tableIds
  loggers_eq : s'.loggers = s.loggers

/-- Two outcomes with the same answer and the same record, after which the sessions differ in the
places of their routes only. -/
structure Alike (ρ : RouteRef → RouteRef) (o o' : Outcome) : Prop where
  result_eq : o'.result = o.result
  log_eq : o'.log = o.log
  renames : Renames ρ o.session o'.session

namespace Renames

variable {ρ : RouteRef → RouteRef} {s s' : Session}

/-! ### Looking things up -/

theorem tableAt?_eq (h : Renames ρ s s') (place : TableRef) :
    s'.tableAt? place = (s.tableAt? place).map (Table.rename ρ) := by
  have hplace : s'.tables[place]? = s.tables[place]?.map (Table.rename ρ) := by
    rw [h.tables_eq, List.getElem?_map]
  rw [tableAt?, tableAt?, hplace]
  cases s.tables[place]? <;> rfl

theorem table?_eq (h : Renames ρ s s') (id : Text) :
    s'.table? id = (s.table? id).map fun found => (found.1, found.2.rename ρ) := by
  rw [table?, table?, h.tableIds_eq]
  cases s.tableIds.get? id with
  | none => rfl
  | some place =>
    dsimp only
    rw [h.tableAt?_eq]
    cases s.tableAt? place <;> rfl

theorem route?_eq (h : Renames ρ s s') (id : Text) :
    s'.route? id = (s.route? id).map fun found => (ρ found.1, found.2) := by
  have hid : s'.routeIds.get? id = (s.routeIds.get? id).map ρ := by
    rw [h.routeIds_eq, Bindings.get?_map]
  rw [route?, route?, hid]
  cases s.routeIds.get? id with
  | none => rfl
  | some ref =>
    simp only [Option.map_some, h.route_eq]
    cases s.store[ref]? <;> rfl

/-! ### Changing things -/

/-- A route that is kept goes to places that correspond. -/
theorem append_store (h : Renames ρ s s') (r : Route) :
    Renames ρ { s with store := s.store ++ [r] } { s' with store := s'.store ++ [r] } := by
  have hlast : ρ s.store.length = s'.store.length := h.later_eq 0
  refine { h with route_eq := ?_, later_eq := ?_ }
  · intro ref
    rcases Nat.lt_trichotomy ref s.store.length with hlt | rfl | hgt
    · have hlt' : ρ ref < s'.store.length := by
        have hroute := h.route_eq ref
        rw [List.getElem?_eq_getElem hlt] at hroute
        exact (List.getElem?_eq_some_iff.1 hroute).1
      rw [List.getElem?_append_left hlt, List.getElem?_append_left hlt', h.route_eq]
    · rw [hlast, List.getElem?_concat_length, List.getElem?_concat_length]
    · obtain ⟨n, rfl⟩ := Nat.exists_eq_add_of_lt hgt
      have hnone : (s.store ++ [r])[s.store.length + (n + 1)]? = none :=
        List.getElem?_eq_none (by simp)
      rw [Nat.add_assoc, h.later_eq, hnone]
      exact List.getElem?_eq_none (by simp)
  · intro n
    simp only [List.length_append, List.length_singleton]
    rw [Nat.add_assoc, h.later_eq, Nat.add_assoc]

/-- Tables that correspond change alike. -/
theorem updateTable (h : Renames ρ s s') (place : TableRef) {f g : Table → Table}
    (hfg : ∀ t : Table, g (t.rename ρ) = (f t).rename ρ) :
    Renames ρ (s.updateTable place f) (s'.updateTable place g) := by
  refine { h with tables_eq := List.ext_getElem? fun i => ?_ }
  simp only [Session.updateTable, h.tables_eq, List.getElem?_modify, List.getElem?_map,
    Option.map_eq_map, Option.map_map]
  congr 1
  funext t
  by_cases hi : place = i <;> simp [hi, hfg]

/-- A route goes by the same identifier. -/
theorem identifyRoute (h : Renames ρ s s') (id : Text) (ref : RouteRef) :
    Renames ρ (s.identifyRoute id ref) (s'.identifyRoute id (ρ ref)) := by
  refine { h with routeIds_eq := ?_ }
  simp only [Session.identifyRoute, h.routeIds_eq, Bindings.map_set]

theorem configureLogger (h : Renames ρ s s') (t : Table) :
    Renames ρ (s.configureLogger t) (s'.configureLogger t) := by
  refine { h with loggers_eq := ?_ }
  simp only [Session.configureLogger, h.loggers_eq]

/-- A table goes to the same place, and by the same identifier. -/
theorem addTable (h : Renames ρ s s') (id : Text) (t : Table) :
    Renames ρ (s.addTable id t) (s'.addTable id (t.rename ρ)) := by
  refine { h with tables_eq := ?_, tableIds_eq := ?_ }
  · simp only [Session.addTable, h.tables_eq, List.map_append, List.map_cons, List.map_nil]
  · simp only [Session.addTable, h.tables_eq, h.tableIds_eq, List.length_map]

/-- Routes at places that correspond are replaced alike. -/
theorem replaceRoute (h : Renames ρ s s') (ref : RouteRef) (r : Route) :
    Renames ρ (s.replaceRoute ref r) (s'.replaceRoute (ρ ref) r) := by
  refine { h with route_eq := ?_, later_eq := ?_ }
  · intro other
    have hset : (ρ ref = ρ other) = (ref = other) := propext h.injective.eq_iff
    have hlt : ρ ref < s'.store.length ↔ ref < s.store.length := by
      rw [← not_iff_not, Nat.not_lt, Nat.not_lt, ← List.getElem?_eq_none_iff,
        ← List.getElem?_eq_none_iff, h.route_eq]
    simp only [Session.replaceRoute, List.getElem?_set, hset, hlt, h.route_eq]
  · intro n
    simp only [Session.replaceRoute, List.length_set, h.later_eq]

/-! ### Asking -/

theorem tableState_eq (h : Renames ρ s s') (t : Table) :
    s'.tableState (t.rename ρ) = s.tableState t := by
  have hroutes : ((t.rename ρ).candidates s'.store).map (·.2.display) =
      (t.candidates s.store).map (·.2.display) := by
    have hsame := congrArg (List.map Route.display) (t.candidates_rename h.route_eq)
    rwa [List.map_map, List.map_map] at hsame
  have hnamed : (t.rename ρ).named.entries.map (fun e => (e.1, (t.rename ρ).indexOf e.2)) =
      t.named.entries.map fun e => (e.1, t.indexOf e.2) := by
    simp only [Table.rename, Bindings.map, List.map_map]
    congr 1
    funext e
    exact congrArg (e.1, ·) (t.indexOf_rename h.injective e.2)
  have hsize : (t.rename ρ).size = t.size := List.length_map ..
  rw [tableState, tableState, hroutes, hnamed, hsize]

end Renames

/-! ## Actions in step -/

/-- Two sessions that differ in the places of their routes only, after the same has been written. -/
structure Abreast (ρ : RouteRef → RouteRef) (p p' : Progress) : Prop where
  renames : Renames ρ p.session p'.session
  log_eq : p'.log = p.log

variable {α α' β β' : Type} {R : α → α' → Prop} {S : β → β' → Prop} {ρ : RouteRef → RouteRef}

/-- Both results are failures for the same reason, or both yield something and the two are related; the
sessions are abreast. -/
inductive EndAbreast (ρ : RouteRef → RouteRef) (R : α → α' → Prop) :
    EStateM.Result StepFault Progress α → EStateM.Result StepFault Progress α' → Prop
  | error (fault : StepFault) {p p' : Progress} (h : Abreast ρ p p') :
      EndAbreast ρ R (.error fault p) (.error fault p')
  | ok {a : α} {a' : α'} {p p' : Progress} (hyield : R a a') (h : Abreast ρ p p') :
      EndAbreast ρ R (.ok a p) (.ok a' p')

/-- Sessions that are abreast are so still when one of them has gone through the first action and the
other one through the second. -/
def InStep (ρ : RouteRef → RouteRef) (R : α → α' → Prop) (x : Action α) (y : Action α') : Prop :=
  ∀ p p', Abreast ρ p p' → EndAbreast ρ R (x p) (y p')

theorem inStep_pure {a : α} {a' : α'} (h : R a a') : InStep ρ R (pure a) (pure a') :=
  fun _ _ hp => .ok h hp

/-- Actions stay in step if they go on in step from whatever they have yielded. -/
theorem InStep.bind {x : Action α} {y : Action α'} {f : α → Action β} {g : α' → Action β'}
    (h : InStep ρ R x y) (hnext : ∀ a a', R a a' → InStep ρ S (f a) (g a')) :
    InStep ρ S (x >>= f) (y >>= g) := by
  intro p p' hp
  have hfirst := h p p' hp
  show EndAbreast ρ S (EStateM.bind x f p) (EStateM.bind y g p')
  unfold EStateM.bind
  generalize x p = first at hfirst
  generalize y p' = first' at hfirst
  cases hfirst with
  | error fault hp => exact .error fault hp
  | ok hyield hp => exact hnext _ _ hyield _ _ hp

/-- They do so too if they have yielded the same. -/
theorem InStep.bind_same {x y : Action α} {f : α → Action β} {g : α → Action β'}
    (h : InStep ρ Eq x y) (hnext : ∀ a, InStep ρ S (f a) (g a)) :
    InStep ρ S (x >>= f) (y >>= g) := by
  refine h.bind ?_
  rintro a _ rfl
  exact hnext a

theorem inStep_look {f : Session → Except StepFault α} {g : Session → Except StepFault α'}
    (h : ∀ s s', Renames ρ s s' → BothYield R (f s) (g s')) : InStep ρ R (look f) (look g) := by
  intro p p' hp
  have hfound := h _ _ hp.renames
  unfold look
  generalize f p.session = found at hfound
  generalize g p'.session = found' at hfound
  cases hfound with
  | error fault => exact .error fault hp
  | ok hyield => exact .ok hyield hp

theorem inStep_check (x : Except StepFault α) : InStep ρ Eq (check x) (check x) :=
  inStep_look fun _ _ _ => by
    cases x with
    | error fault => exact .error fault
    | ok a => exact .ok rfl

theorem inStep_change {f g : Session → Session}
    (h : ∀ s s', Renames ρ s s' → Renames ρ (f s) (g s')) : InStep ρ Eq (change f) (change g) :=
  fun _ _ hp => .ok rfl ⟨h _ _ hp.renames, hp.log_eq⟩

theorem inStep_report (name message : Text) :
    InStep ρ Eq (report name message) (report name message) := by
  refine fun p p' hp => .ok rfl ⟨hp.renames, ?_⟩
  dsimp only
  rw [hp.log_eq, hp.renames.loggers_eq]

/-! ### The parts of the steps -/

theorem inStep_table? (id : Text) :
    InStep ρ (fun found found' => found' = (found.1, found.2.rename ρ)) (look (·.table? id))
      (look (·.table? id)) :=
  inStep_look fun _ _ h => .of_eq (h.table?_eq id)

theorem inStep_tableAt? (place : TableRef) :
    InStep ρ (fun t t' => t' = t.rename ρ) (look (·.tableAt? place)) (look (·.tableAt? place)) :=
  inStep_look fun _ _ h => .of_eq (h.tableAt?_eq place)

theorem inStep_route? (id : Text) :
    InStep ρ (fun found found' => found' = (ρ found.1, found.2)) (look (·.route? id))
      (look (·.route? id)) :=
  inStep_look fun _ _ h => .of_eq (h.route?_eq id)

theorem inStep_keep (r : Route) : InStep ρ (fun ref ref' => ref' = ρ ref) (keep r) (keep r) := by
  intro p p' hp
  exact .ok (hp.renames.later_eq 0).symm ⟨hp.renames.append_store r, hp.log_eq⟩

/-- A route is registered in tables that correspond. -/
theorem inStep_enter (place : TableRef) {refer refer' : Action RouteRef}
    (hrefer : InStep ρ (fun ref ref' => ref' = ρ ref) refer refer') (r : Route)
    (name : Option Text) :
    InStep ρ (fun ref ref' => ref' = ρ ref) (enter place refer r name)
      (enter place refer' r name) := by
  refine (inStep_tableAt? place).bind ?_
  rintro t _ rfl
  rw [Table.checkName_rename]
  refine (inStep_check _).bind_same fun _ => ?_
  refine hrefer.bind ?_
  rintro ref _ rfl
  have hbind : InStep ρ Eq (change (·.updateTable place (·.bindName name ref)))
      (change (·.updateTable place (·.bindName name (ρ ref)))) :=
    inStep_change fun _ _ h => h.updateTable place (Table.bindName_rename ρ · name ref)
  have happend : InStep ρ Eq (change (·.updateTable place (·.append ref)))
      (change (·.updateTable place (·.append (ρ ref)))) :=
    inStep_change fun _ _ h => h.updateTable place (Table.append_rename ρ · ref)
  exact hbind.bind_same fun _ => happend.bind_same fun _ =>
    (inStep_report t.name _).bind_same fun _ => inStep_pure rfl

theorem inStep_addNew (tableId : Text) (registration : Registration) :
    InStep ρ (fun added added' => added' = (ρ added.1, added.2)) (addNew tableId registration)
      (addNew tableId registration) := by
  refine (inStep_table? tableId).bind ?_
  rintro ⟨place, t⟩ _ rfl
  refine (inStep_check _).bind_same fun _ => ?_
  refine (inStep_check _).bind_same fun r => ?_
  refine (inStep_enter place (inStep_keep r) r registration.name).bind ?_
  rintro ref _ rfl
  exact inStep_pure rfl

theorem inStep_matchTable (t : Table) (query : Query) :
    InStep ρ (fun found found' => found' = found.map (Table.renameAnswer ρ)) (matchTable t query)
      (matchTable (t.rename ρ) query) := by
  refine (inStep_check _).bind_same fun request => ?_
  have hlook : InStep ρ (fun found found' => found' = found.map (Table.renameAnswer ρ))
      (look fun s => .ok (t.match? s.store request))
      (look fun s => .ok ((t.rename ρ).match? s.store request)) :=
    inStep_look fun _ _ h => .ok (t.match?_rename h.route_eq request)
  refine hlook.bind ?_
  rintro found _ rfl
  rw [Table.matchMessage_rename]
  refine (inStep_report t.name _).bind_same fun _ => ?_
  exact inStep_pure rfl

theorem inStep_matchTarget (hρ : Function.Injective ρ) (target : Target) (query : Query) :
    InStep ρ Eq (matchTarget target query) (matchTarget target query) := by
  cases target with
  | route id =>
    refine (inStep_route? id).bind ?_
    rintro ⟨ref, r⟩ _ rfl
    refine (inStep_check _).bind_same fun request => ?_
    exact inStep_pure rfl
  | table id =>
    refine (inStep_table? id).bind ?_
    rintro ⟨place, t⟩ _ rfl
    refine (inStep_matchTable t query).bind ?_
    rintro found _ rfl
    refine inStep_pure ?_
    cases found with
    | none => rfl
    | some found => simp only [Option.map_some, Table.renameAnswer, t.indexOf_rename hρ]

theorem inStep_generateTarget (hρ : Function.Injective ρ) (target : Target) (name : Option Text)
    (d : UrlDemand) :
    InStep ρ Eq (generateTarget target name d) (generateTarget target name d) := by
  cases target with
  | route id =>
    refine (inStep_route? id).bind ?_
    rintro ⟨ref, r⟩ _ rfl
    exact inStep_pure rfl
  | table id =>
    refine (inStep_table? id).bind ?_
    rintro ⟨place, t⟩ _ rfl
    have hlook : InStep ρ (fun found found' => found' = found.map (Table.renameAnswer ρ))
        (look fun s => liftTable (t.generate? s.store name d))
        (look fun s => liftTable ((t.rename ρ).generate? s.store name d)) := by
      refine inStep_look fun s _ h => ?_
      rw [t.generate?_rename h.route_eq]
      cases t.generate? s.store name d with
      | error cause => exact .error _
      | ok found => exact .ok rfl
    refine hlook.bind ?_
    rintro found _ rfl
    rw [Table.generationMessage_rename]
    refine (inStep_report t.name _).bind_same fun _ => ?_
    refine inStep_pure ?_
    cases found with
    | none => rfl
    | some found => simp only [Option.map_some, Table.renameAnswer, t.indexOf_rename hρ]

theorem inStep_dispatch (place : TableRef) (url : Text) :
    InStep ρ Eq (dispatch place url) (dispatch place url) := by
  refine (inStep_tableAt? place).bind ?_
  rintro t _ rfl
  refine (inStep_matchTable t (.url url)).bind ?_
  rintro found _ rfl
  cases found with
  | none => exact inStep_pure rfl
  | some found => exact inStep_check _

/-! ### Steps and runs -/

/-- Two sessions that differ in the places of their routes go through the same steps side by side. -/
theorem inStep_attempt (hρ : Function.Injective ρ) (step : Step) :
    InStep ρ Eq (attempt step) (attempt step) := by
  cases step with
  | makeTable id name configure debug =>
    cases configure with
    | false => exact fun p p' hp => .ok rfl ⟨hp.renames.addTable id _, hp.log_eq⟩
    | true =>
      exact fun p p' hp => .ok rfl ⟨(hp.renames.configureLogger _).addTable id _, hp.log_eq⟩
  | makeRoute id d =>
    refine (inStep_check _).bind_same fun r => ?_
    refine (inStep_keep r).bind ?_
    rintro ref _ rfl
    refine (inStep_change fun _ _ h => h.identifyRoute id ref).bind_same fun _ => ?_
    exact inStep_pure rfl
  | add tableId registration id =>
    refine (inStep_addNew tableId registration).bind ?_
    rintro ⟨ref, r⟩ _ rfl
    have hidentify : ∀ s s', Renames ρ s s' →
        Renames ρ (id.elim s (s.identifyRoute · ref)) (id.elim s' (s'.identifyRoute · (ρ ref))) := by
      intro s s' h
      cases id with
      | none => exact h
      | some id => exact h.identifyRoute id ref
    refine (inStep_change hidentify).bind_same fun _ => ?_
    exact inStep_pure rfl
  | decorate tableId registration =>
    refine (inStep_addNew tableId registration).bind ?_
    rintro ⟨ref, r⟩ _ rfl
    exact inStep_pure rfl
  | addRoute tableId routeId name =>
    refine (inStep_table? tableId).bind ?_
    rintro ⟨place, t⟩ _ rfl
    refine (inStep_route? routeId).bind ?_
    rintro ⟨ref, r⟩ _ rfl
    refine (inStep_enter place (inStep_pure rfl) r name).bind ?_
    rintro _ _ -
    exact inStep_pure rfl
  | setPattern routeId urlPattern =>
    refine (inStep_route? routeId).bind ?_
    rintro ⟨ref, r⟩ _ rfl
    refine (inStep_change fun _ _ h => h.replaceRoute ref _).bind_same fun _ => ?_
    exact inStep_pure rfl
  | setConstraints routeId rules =>
    refine (inStep_route? routeId).bind ?_
    rintro ⟨ref, r⟩ _ rfl
    refine (inStep_check _).bind ?_
    rintro r' _ rfl
    refine (inStep_change fun _ _ h => h.replaceRoute ref r').bind_same fun _ => ?_
    exact inStep_pure rfl
  | inspect target =>
    cases target with
    | route id =>
      refine (inStep_route? id).bind ?_
      rintro ⟨ref, r⟩ _ rfl
      exact inStep_pure rfl
    | table id =>
      refine (inStep_table? id).bind ?_
      rintro ⟨place, t⟩ _ rfl
      exact inStep_look fun _ _ h => .ok (h.tableState_eq t).symm
  | get tableId name =>
    refine (inStep_table? tableId).bind ?_
    rintro ⟨place, t⟩ _ rfl
    have hindex : (t.rename ρ).indexOf ∘ ρ = t.indexOf := funext (t.indexOf_rename hρ)
    have hget : (t.rename ρ).named.get? name = (t.named.get? name).map ρ :=
      Bindings.get?_map ρ t.named name
    refine inStep_pure ?_
    simp only [hget, Option.map_map, hindex]
  | matchRequest target query =>
    refine (inStep_matchTarget hρ target query).bind_same fun found => ?_
    exact inStep_pure rfl
  | generate target name d =>
    refine (inStep_generateTarget hρ target name d).bind_same fun found => ?_
    exact inStep_pure rfl
  | rematch target url =>
    refine (inStep_matchTarget hρ target (.url url)).bind_same fun found => ?_
    exact inStep_pure rfl
  | dispatch place url => exact inStep_dispatch place url

/-- Two sessions that differ in the places of their routes answer a step alike. -/
theorem renames_step {s s' : Session} (h : Renames ρ s s') (step : Step) :
    Alike ρ (s.step step) (s'.step step) := by
  have hattempt := inStep_attempt h.injective step ⟨s, []⟩ ⟨s', []⟩ ⟨h, rfl⟩
  unfold Session.step
  generalize attempt step ⟨s, []⟩ = x at hattempt
  generalize attempt step ⟨s', []⟩ = y at hattempt
  cases hattempt with
  | error fault hp => exact ⟨rfl, hp.log_eq, hp.renames⟩
  | ok hyield hp => exact ⟨congrArg Except.ok hyield.symm, hp.log_eq, hp.renames⟩

/-- Two sessions that differ in the places of their routes answer whole runs alike. -/
theorem results_run_eq {s s' : Session} (h : Renames ρ s s') (steps : List Step) :
    (s'.run steps).1 = (s.run steps).1 := by
  induction steps generalizing s s' with
  | nil => rfl
  | cons step steps ih =>
    obtain ⟨hresult, hlog, hrenames⟩ := renames_step h step
    have hrest := ih hrenames
    simp only [run, hresult, hlog, hrest]

end Session

end UrlRouting
