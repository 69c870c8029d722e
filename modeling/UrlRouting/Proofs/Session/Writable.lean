import UrlRouting.Proofs.Route.Coherence
import UrlRouting.Proofs.Route.MatchValues
import UrlRouting.Proofs.Session.Atomicity

/-!
# What can be written

The texts of values are those of writable values: an integer with too many digits has none.  Routes make
no values but the texts of tokens, and pass on what they are given.  So a session that is given writable
values only never comes to write another one: `writes_writable_values_only`.
-/

namespace UrlRouting

/-! ## Bindings of writable values -/

/-- Every value that is bound can be written. -/
def Bindings.AllWritable (b : Bindings Value) : Prop :=
  ∀ name value, b.get? name = some value → value.isWritable = true

namespace Bindings

variable {b c : Bindings Value}

/-- Bindings of what is bound in one of two maps, or else in the other one, can be written if both
can. -/
theorem allWritable_of_get?_eq_or {bound : Bindings Value} (hb : b.AllWritable)
    (hc : c.AllWritable) (h : ∀ name, bound.get? name = (b.get? name).or (c.get? name)) :
    bound.AllWritable := by
  intro name value hvalue
  rw [h, Option.or_eq_some_iff] at hvalue
  rcases hvalue with htop | ⟨-, hbase⟩
  · exact hb name value htop
  · exact hc name value hbase

theorem AllWritable.overlay (hb : b.AllWritable) (hc : c.AllWritable) :
    (b.overlay c).AllWritable :=
  allWritable_of_get?_eq_or hc hb (get?_overlay b c)

theorem AllWritable.withDefaults (hb : b.AllWritable) (hc : c.AllWritable) :
    (b.withDefaults c).AllWritable :=
  allWritable_of_get?_eq_or hb hc (get?_withDefaults b c)

/-- The entries of a record can be written one by one. -/
theorem entriesWritable_iff (entries : List (Text × Value)) :
    Value.entriesWritable entries = true ↔ ∀ e ∈ entries, e.2.isWritable = true := by
  induction entries with
  | nil => simp [Value.entriesWritable]
  | cons e entries ih =>
    obtain ⟨name, value⟩ := e
    rw [Value.entriesWritable, Bool.and_eq_true, ih, List.forall_mem_cons]

/-- Bindings are written out as a record if all their values can be written. -/
theorem isWritable_record_iff (b : Bindings Value) :
    (Value.record b.entries).isWritable = true ↔ b.AllWritable := by
  rw [Value.isWritable, entriesWritable_iff]
  constructor
  · intro h name value hvalue
    exact h (name, value) (mem_of_lookup hvalue)
  · rintro h ⟨name, value⟩ hmem
    exact h name value (lookup_of_mem b.nodup hmem)

end Bindings

/-! ## Routes -/

/-- What is asked for by writable values only. -/
structure UrlDemand.IsWritable (d : UrlDemand) : Prop where
  values : (d.values.getD .empty).AllWritable
  currentValues : (d.currentValues.getD .empty).AllWritable

theorem UrlDemand.IsWritable.context {d : UrlDemand} (h : d.IsWritable) :
    d.context.AllWritable :=
  h.currentValues.overlay h.values

namespace Route

/-- The tokens of a request are texts, whatever is bound to them. -/
theorem exists_text_of_mem_entriesFor {r : Route} {request : Request} {name : Text} {value : Value}
    (h : (name, value) ∈ r.entriesFor request) : ∃ token, value = .text token := by
  have hside : ∀ segments tokens, (name, value) ∈ boundEntries segments tokens →
      ∃ token, value = .text token := by
    intro segments tokens hmem
    rw [boundEntries_eq_filterMap] at hmem
    obtain ⟨place, -, hplace⟩ := List.mem_filterMap.1 hmem
    obtain ⟨other, -, hentry⟩ := Option.map_eq_some_iff.1 hplace
    cases hentry
    exact ⟨place.2, rfl⟩
  rcases List.mem_append.1 h with hhost | hpath
  · exact hside _ _ hhost
  · exact hside _ _ hpath

/-- The values that a route finds in a request are tokens, or defaults of its own. -/
theorem allWritable_valuesFor {r : Route} (h : r.defaults.AllWritable) (request : Request) :
    (r.valuesFor request).AllWritable := by
  intro name value hvalue
  rw [lookup_valuesFor, Option.or_eq_some_iff] at hvalue
  rcases hvalue with htoken | ⟨-, hdefault⟩
  · obtain ⟨token, htext⟩ :=
      exists_text_of_mem_entriesFor (List.mem_reverse.1 (Bindings.mem_of_lookup htoken))
    rw [htext, Value.isWritable]
  · exact h name value hdefault

end Route

/-! ## Sessions -/

/-- Routes are made with writable defaults only. -/
def Step.GivesWritable : Step → Prop
  | .makeRoute _ d => (d.defaults.getD .empty).AllWritable
  | .add _ registration _ | .decorate _ registration =>
      (registration.description.defaults.getD .empty).AllWritable
  | _ => True

namespace Session

variable {s s' : Session} {step : Step}

/-- The defaults of all routes can be written. -/
def AllWritable (s : Session) : Prop := ∀ r ∈ s.store, r.defaults.AllWritable

theorem AllWritable.push {r : Route} (h : s.AllWritable) (hr : r.defaults.AllWritable) :
    ∀ made ∈ s.store ++ [r], made.defaults.AllWritable := by
  intro made hmade
  rcases List.mem_append.1 hmade with hold | hnew
  · exact h made hold
  · rw [List.mem_singleton.1 hnew]
    exact hr

/-- A route that is made takes its defaults over. -/
theorem allWritable_of_make? {d : RouteDescription} {r : Route} (hmake : Route.make? d = .ok r)
    (hd : (d.defaults.getD .empty).AllWritable) : r.defaults.AllWritable := by
  rw [(Route.fields_of_make? hmake).2.1]
  exact hd

/-- An assignment leaves the defaults of a route. -/
theorem AllWritable.replaceRoute {id : Text} {ref : RouteRef} {r r' : Route} (h : s.AllWritable)
    (hroute : s.route? id = .ok (ref, r)) (hsame : r'.defaults = r.defaults) :
    (s.replaceRoute ref r').AllWritable := by
  intro made hmade
  rcases List.mem_or_eq_of_mem_set hmade with hold | rfl
  · exact h made hold
  · rw [hsame]
    exact h r (List.mem_of_getElem? (route?_eq_ok_iff.1 hroute).2)

/-- No effect gives a route defaults that cannot be written. -/
theorem Effect.allWritable (heffect : Effect s step s') (hgives : step.GivesWritable)
    (h : s.AllWritable) : s'.AllWritable := by
  cases heffect with
  | tableMade => exact h
  | routeMade hmake => exact h.push (allWritable_of_make? hmake hgives)
  | added htable hoptions hmake hname => exact h.push (allWritable_of_make? hmake hgives)
  | decorated htable hoptions hmake hname => exact h.push (allWritable_of_make? hmake hgives)
  | entered => exact h
  | patternSet hroute => exact h.replaceRoute hroute rfl
  | constraintsSet hroute hrules =>
    obtain ⟨checks, -, rfl⟩ := (Route.withConstraints?_eq_ok_iff _ _ _).1 hrules
    exact h.replaceRoute hroute rfl
  | asked => exact h

/-- A whole session that is given writable defaults has no other ones. -/
theorem allWritable_run (h : s.AllWritable) {steps : List Step}
    (hgive : ∀ step ∈ steps, step.GivesWritable) : (s.run steps).2.AllWritable := by
  induction steps generalizing s with
  | nil => exact h
  | cons step steps ih =>
    obtain ⟨hfirst, hrest⟩ := List.forall_mem_cons.1 hgive
    exact ih (of_effect h fun _ heffect => heffect.allWritable hfirst h) hrest

/-- **Only writable values are written.**  At any moment of a session that was given writable defaults,
all that a route may write is writable: its defaults; the values that it finds in a request, with which
it asks its rules and renders its view; and what a demand for writable values leaves, with the defaults
or without.  Such a demand can be written out itself, for the record that no route takes it. -/
theorem writes_writable_values_only (before : List Step)
    (hgive : ∀ step ∈ before, step.GivesWritable) :
    ∀ r ∈ (Session.empty.run before).2.store,
      r.defaults.AllWritable ∧ (∀ request, (r.valuesFor request).AllWritable) ∧
      ∀ d : UrlDemand, d.IsWritable →
        d.context.AllWritable ∧ (d.context.withDefaults r.defaults).AllWritable ∧
        (Value.record (d.values.getD .empty).entries).isWritable = true := by
  intro r hr
  have hempty : Session.empty.AllWritable := fun r hr => absurd hr List.not_mem_nil
  have hdefaults : r.defaults.AllWritable := allWritable_run hempty hgive r hr
  refine ⟨hdefaults, Route.allWritable_valuesFor hdefaults, fun d hd => ?_⟩
  exact ⟨hd.context, hd.context.withDefaults hdefaults,
    (Bindings.isWritable_record_iff _).2 hd.values⟩

end Session

end UrlRouting
