import UrlRouting.Proofs.Route.Coherence
import UrlRouting.Proofs.Route.MatchValues
import UrlRouting.Proofs.Session.Report

/-!
# Dispatching requests

A dispatch renders the view of the first route that matches with the values of the match.  The names of
these values are the same for every request (`Route.keys_valuesFor`), so a route serves its view well
if they are the parameters of the view.  `Session.result_dispatch` says that a table whose routes all
do so answers every URL that can be read with a text, and with which one.
-/

namespace UrlRouting

/-! ## Views -/

/-- What a part comes to if its parameter has a value. -/
def ViewPart.text (values : Bindings Value) : ViewPart → Text
  | verbatim t => t
  | parameter name => (values.get? name).elim [] Value.message

/-- Whether a part takes no parameter but these. -/
def ViewPart.takesOnly (parameters : List Text) : ViewPart → Bool
  | verbatim _ => true
  | parameter name => parameters.contains name

/-- What the parts of a view come to. -/
def View.text (v : View) (values : Bindings Value) : Text :=
  (v.parts.map (ViewPart.text values)).flatten

/-- Whether the parts of a view take its own parameters only. -/
def View.isClosed (v : View) : Bool := v.parts.all (ViewPart.takesOnly v.parameters)

variable {values : Bindings Value}

theorem ViewPart.render?_eq_some {part : ViewPart} {parameters : List Text}
    (htakes : part.takesOnly parameters = true)
    (hbound : ∀ name ∈ parameters, values.contains name = true) :
    part.render? values = some (part.text values) := by
  cases part with
  | verbatim t => rfl
  | parameter name =>
    have hname : name ∈ parameters := List.contains_iff_mem.1 htakes
    obtain ⟨value, hvalue⟩ := Option.isSome_iff_exists.1 (hbound name hname)
    rw [render?, text, hvalue]
    rfl

theorem mapM_render?_eq_some {parts : List ViewPart} {parameters : List Text}
    (htake : ∀ part ∈ parts, part.takesOnly parameters = true)
    (hbound : ∀ name ∈ parameters, values.contains name = true) :
    parts.mapM (ViewPart.render? values) = some (parts.map (ViewPart.text values)) := by
  induction parts with
  | nil => rfl
  | cons part parts ih =>
    rw [List.forall_mem_cons] at htake
    rw [List.mapM_cons, ViewPart.render?_eq_some htake.1 hbound, ih htake.2]
    rfl

/-- A view that is given just its parameters is rendered. -/
theorem View.render?_eq_some {v : View} (hclosed : v.isClosed = true)
    (hnames : values.keys.Perm v.parameters) : v.render? values = some (v.text values) := by
  have hbound : ∀ name ∈ v.parameters, values.contains name = true := fun name hname =>
    (values.contains_iff_mem_keys name).2 (hnames.mem_iff.2 hname)
  have hknown : ∀ name ∈ values.keys, v.parameters.contains name = true := fun name hname =>
    List.contains_iff_mem.2 (hnames.mem_iff.1 hname)
  rw [render?, if_pos ⟨List.all_eq_true.2 hbound, List.all_eq_true.2 hknown⟩,
    mapM_render?_eq_some (List.all_eq_true.1 hclosed) hbound]
  rfl

/-- The text of the view that a handler is. -/
def Handler.text (values : Bindings Value) : Handler → Text
  | view v => v.text values
  | _ => []

/-! ## Routes -/

/-- The names of the values of a match, for these defaults and this pattern. -/
def boundNames (defaults : Bindings Value) (pattern : Pattern) : List Text :=
  defaults.keys ++ pattern.variables.eraseDups.filter (!defaults.contains ·)

/-- Whether a description leads to a view whose parameters are what every match binds. -/
def RouteDescription.suitsView (d : RouteDescription) : Bool :=
  match d.handler with
  | .view v =>
      decide ((boundNames (d.defaults.getD .empty) (.ofWritten d.urlPattern)).Perm v.parameters) &&
        v.isClosed
  | _ => false

namespace Route

/-- A route leads to a view whose parameters are what every match binds. -/
structure Serves (r : Route) (view : View) : Prop where
  handler_eq : r.handler = .view view
  names_perm : (boundNames r.defaults r.pattern).Perm view.parameters
  isClosed : view.isClosed = true

/-- A route that has been made from a description which suits its view serves it. -/
theorem exists_serves_of_make? {d : RouteDescription} {r : Route} (hsuits : d.suitsView = true)
    (hmake : make? d = .ok r) : ∃ view, r.Serves view := by
  obtain ⟨hpattern, hdefaults, -, hhandler⟩ := fields_of_make? hmake
  rw [RouteDescription.suitsView] at hsuits
  cases hview : d.handler with
  | view v =>
    rw [hview, Bool.and_eq_true, decide_eq_true_eq] at hsuits
    exact ⟨v, hhandler.trans hview, by rw [hpattern, hdefaults]; exact hsuits.1, hsuits.2⟩
  | absent =>
    rw [hview] at hsuits
    cases hsuits
  | label t =>
    rw [hview] at hsuits
    cases hsuits

/-- The text that a route shows for a request that it matches. -/
def shown? (r : Route) (request : Request) : Option Text :=
  (r.match? request).map fun data => data.handler.text data.values

variable {r : Route} {request : Request} {view : View} {data : RouteData}

/-- Whatever the request is, the values of a match have the same names. -/
theorem keys_valuesFor (hfit : r.Accommodates request) :
    (r.valuesFor request).keys = boundNames r.defaults r.pattern :=
  (describes_valuesFor hfit).keys_eq

/-- The values of a match are just the parameters of the view that is served. -/
theorem Serves.of_match? (h : r.Serves view) (hmatch : r.match? request = some data) :
    data.handler = .view view ∧ data.values.keys.Perm view.parameters := by
  obtain ⟨hfit, -, rfl⟩ := (r.match?_eq_some_iff request data).1 hmatch
  refine ⟨h.handler_eq, ?_⟩
  rw [keys_valuesFor hfit]
  exact h.names_perm

/-- A match of a route that serves a view is rendered. -/
theorem Serves.render_eq_ok (h : r.Serves view) (hmatch : r.match? request = some data) :
    Session.render data = .ok (.rendered (data.handler.text data.values)) := by
  obtain ⟨hhandler, hnames⟩ := h.of_match? hmatch
  rw [Session.render, hhandler]
  dsimp only
  rw [View.render?_eq_some h.isClosed hnames]
  rfl

/-- What is shown for a request that fits. -/
theorem shown?_eq_ite (hfit : r.Accommodates request) :
    r.shown? request =
      if r.accepts (r.valuesFor request) = true then some (r.handler.text (r.valuesFor request))
      else none := by
  rw [shown?]
  split
  · next hobeys =>
    rw [(r.match?_eq_some_iff request _).2 ⟨hfit, hobeys, rfl⟩]
    rfl
  · next hobeys =>
    rw [Option.map_eq_none_iff, Option.eq_none_iff_forall_ne_some]
    exact fun data hmatch => hobeys ((r.match?_eq_some_iff request data).1 hmatch).2.1

/-- Nothing is shown for a request that does not fit. -/
theorem shown?_eq_none (hfit : ¬ r.Accommodates request) : r.shown? request = none := by
  rw [shown?, Option.map_eq_none_iff, Option.eq_none_iff_forall_ne_some]
  exact fun data hmatch => hfit ((r.match?_eq_some_iff request data).1 hmatch).1

end Route

/-! ## Tables -/

namespace Table

variable {t : Table} {store : RouteStore} {request : Request}

/-- All routes of a table serve their views. -/
def AllServe (t : Table) (store : RouteStore) : Prop :=
  ∀ e ∈ t.candidates store, ∃ view, e.2.Serves view

/-- The text that a table shows for a request: that of the first route that shows one. -/
def shown? (t : Table) (store : RouteStore) (request : Request) : Option Text :=
  (t.candidates store).findSome? (·.2.shown? request)

/-- What is found is a match of one of the candidates. -/
theorem mem_candidates_of_match? {ref : RouteRef} {r : Route} {data : RouteData}
    (h : t.match? store request = some (ref, r, data)) :
    (ref, r) ∈ t.candidates store ∧ r.match? request = some data := by
  obtain ⟨⟨ref', r'⟩, hmem, hfound⟩ := List.exists_of_findSome?_eq_some h
  obtain ⟨data', hdata, heq⟩ := Option.map_eq_some_iff.1 hfound
  cases heq
  exact ⟨hmem, hdata⟩

/-- What a table shows is the text of what it finds. -/
theorem shown?_eq (t : Table) (store : RouteStore) (request : Request) :
    t.shown? store request =
      (t.match? store request).map fun found => found.2.2.handler.text found.2.2.values := by
  rw [shown?, match?, List.map_findSome?]
  congr 1
  funext e
  rw [Function.comp_apply, Option.map_map]
  rfl

end Table

/-! ## Steps -/

namespace Session

variable {s : Session} {place : TableRef} {t : Table} {url : Text} {request : Request}

/-- A table whose routes all serve their views answers every URL that can be read: with what it shows
for the request, and with a fixed text if that is nothing. -/
theorem result_dispatch (htable : s.tables[place]? = some t) (hserve : t.AllServe s.store)
    (hurl : Request.ofUrl url = .ok request) :
    (s.step (.dispatch place url)).result =
      .ok (.rendered ((t.shown? s.store request).getD "Not found".toList)) := by
  rw [step_dispatch htable hurl, Table.shown?_eq]
  cases hfound : t.match? s.store request with
  | none => rfl
  | some found =>
    obtain ⟨ref, r, data⟩ := found
    obtain ⟨hmem, hmatch⟩ := Table.mem_candidates_of_match? hfound
    obtain ⟨view, hview⟩ := hserve _ hmem
    exact hview.render_eq_ok hmatch

end Session

end UrlRouting
