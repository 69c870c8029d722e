import UrlRouting.Proofs.Session.Report
import UrlRouting.Proofs.Text.Quoted

/-!
# What messages tell

Patterns, names and URLs stand in messages between quotes, and a quoted text tells where it ends.  So
a message about a registration tells the pattern and the name, one about a generated URL the URL and
the pattern, and the display of a route its pattern.  `Session.records_are_unambiguous` says so for
the records that calls on tables leave, and `log_of_registers` and `log_of_generates` which records
these are.
-/

namespace UrlRouting

/-! ## Messages -/

namespace Table

/-- A name is quoted, and no quoted name is taken for the missing one. -/
theorem elim_quoted_inj {name name' : Option Text} :
    name.elim ("None" : Text) Text.quoted = name'.elim ("None" : Text) Text.quoted ↔
      name = name' := by
  have hmissing : ∀ t : Text, ("None" : Text) ≠ Text.quoted t := by
    intro t h
    rcases Text.isQuote_quoteFor t with hquote | hquote
    all_goals
      rw [Text.quoted, hquote] at h
      exact absurd (List.cons.inj h).1 (by decide)
  cases name with
  | none =>
    cases name' with
    | none => simp
    | some t => simpa using hmissing t
  | some t =>
    cases name' with
    | none => simpa using (hmissing t).symm
    | some t' => simpa using Text.quoted_inj

/-- A message about a registration tells the pattern and the name. -/
theorem registrationMessage_eq_iff {r r' : Route} {name name' : Option Text} :
    registrationMessage r name = registrationMessage r' name' ↔
      r.urlPattern = r'.urlPattern ∧ name = name' := by
  constructor
  · intro h
    unfold registrationMessage at h
    simp only [List.append_assoc] at h
    obtain ⟨hpattern, hbehind⟩ := Text.quoted_append_inj (List.append_cancel_left h)
    exact ⟨hpattern, elim_quoted_inj.1 (List.append_cancel_left hbehind)⟩
  · rintro ⟨hpattern, rfl⟩
    unfold registrationMessage
    rw [hpattern]

/-- A message about a generated URL tells the URL and the pattern. -/
theorem generationMessage_eq_iff {d d' : UrlDemand} {ref ref' : RouteRef} {r r' : Route}
    {path path' : VirtualPath} :
    generationMessage d (some (ref, r, path)) = generationMessage d' (some (ref', r', path')) ↔
      path.text = path'.text ∧ r.urlPattern = r'.urlPattern := by
  constructor
  · intro h
    unfold generationMessage at h
    simp only [List.append_assoc] at h
    obtain ⟨hpath, hbehind⟩ := Text.quoted_append_inj (List.append_cancel_left h)
    exact ⟨hpath, Text.quoted_inj.1 (List.append_cancel_left hbehind)⟩
  · rintro ⟨hpath, hpattern⟩
    unfold generationMessage
    dsimp only
    rw [hpath, hpattern]

end Table

namespace Route

/-- The display of a route tells its pattern. -/
theorem display_eq_iff {r r' : Route} : r.display = r'.display ↔ r.urlPattern = r'.urlPattern := by
  constructor
  · intro h
    unfold display at h
    simp only [List.append_assoc] at h
    exact (Text.quoted_append_inj (List.append_cancel_left h)).1
  · intro h
    unfold display
    rw [h]

theorem newline_not_mem_display (r : Route) : '\n' ∉ r.display := by
  unfold display
  simp [Text.newline_not_mem_quoted]

end Route

/-! ## Calls that leave messages -/

namespace Session

open UrlRouting.Action

variable {s : Session} {step : Step} {t : Table} {r : Route} {name : Option Text}
  {d : UrlDemand} {ref : RouteRef} {path : VirtualPath} {p p' : Progress}

/-- A step registers a route in a table, under a name if there is one. -/
def Registers (s : Session) (step : Step) (t : Table) (r : Route) (name : Option Text) : Prop :=
  ∃ place ref, s.tables[place]? = some t ∧ (ref, name) ∈ s.registered place step ∧
    (s.step step).session.store[ref]? = some r

/-- A step generates a URL on a table, by a route of it. -/
def Generates (s : Session) (step : Step) (t : Table) (d : UrlDemand) (ref : RouteRef) (r : Route)
    (path : VirtualPath) : Prop :=
  ∃ id name place, step = .generate (.table id) name d ∧ s.table? id = .ok (place, t) ∧
    t.generate? s.store name d = .ok (some (ref, r, path))

/-- A log is a single message from a table: behind the name of its logger and the level, with a line
end behind it and none inside. -/
def Tells (t : Table) (message log : Text) : Prop :=
  log = '[' :: (Loggers.canonicalName t.name ++ ("] - [DEBUG] - " : Text) ++ message ++ ['\n']) ∧
    '\n' ∉ message

/-- A log tells a single message of tables with one name. -/
theorem Tells.unique {t t' : Table} {message message' log : Text} (h : Tells t message log)
    (h' : Tells t' message' log) (hname : t.name = t'.name) : message = message' := by
  have hlogs := h.1.symm.trans h'.1
  rw [hname] at hlogs
  simpa using hlogs

/-- A step that registers something answers, and asked for what it registers. -/
theorem of_mem_registered {place : TableRef} {entry : Entry} (h : entry ∈ s.registered place step) :
    (∃ answer, (s.step step).result = .ok answer) ∧
      s.registration? step = some (place, entry) := by
  cases hresult : (s.step step).result with
  | error fault =>
    rw [registered_of_error hresult] at h
    cases h
  | ok answer =>
    cases hasked : s.registration? step with
    | none =>
      rw [registered_of_none hasked] at h
      cases h
    | some asked =>
      obtain ⟨table, entry'⟩ := asked
      rw [registered_of_ok hresult hasked] at h
      split at h
      · next hplace =>
        subst hplace
        obtain rfl := List.mem_singleton.1 h
        exact ⟨⟨answer, rfl⟩, rfl⟩
      · cases h

/-- A route that is made and registered stands at the end of the store, and is what is recorded. -/
theorem log_of_addNew {id : Text} {registration : Registration} {place : TableRef} {r' : Route}
    (h : addNew id registration p = .ok (ref, r') p') (ht : p.session.tables[place]? = some t)
    {entry : Entry}
    (hasked : (p.session.tableIds.get? id).map (·, p.session.store.length, registration.name) =
      some (place, entry))
    (hr : p'.session.store[entry.1]? = some r) :
    p'.log = p.log ++
      p.session.loggers.record t.name (Table.registrationMessage r entry.2) := by
  obtain ⟨place', hid, hentry⟩ := Option.map_eq_some_iff.1 hasked
  obtain ⟨rfl, rfl⟩ := Prod.mk.inj hentry
  obtain ⟨placeOld, old, htable, -, -, -, -, rfl⟩ := addNew_eq_ok_iff.1 h
  obtain ⟨hid', hold⟩ := table?_eq_ok_iff.1 htable
  obtain rfl : placeOld = place' := Option.some.inj (hid'.symm.trans hid)
  obtain rfl : old = t := Option.some.inj (hold.symm.trans ht)
  obtain rfl : r' = r := Option.some.inj (List.getElem?_concat_length.symm.trans hr)
  rfl

/-- A registration is recorded with the pattern of the route and the name. -/
theorem log_of_registers (h : s.Registers step t r name) :
    (s.step step).log = s.loggers.record t.name (Table.registrationMessage r name) := by
  obtain ⟨place, ref, ht, hentry, hr⟩ := h
  obtain ⟨⟨answer, hresult⟩, hasked⟩ := of_mem_registered hentry
  obtain ⟨p, hattempt⟩ := exists_attempt_of_result_eq_ok hresult
  rw [step_of_ok hattempt] at hr ⊢
  cases step with
  | add id registration routeId =>
    obtain ⟨⟨ref', r'⟩, p', hadd, h⟩ := Action.bind_eq_ok_iff.1 hattempt
    cases h
    refine log_of_addNew hadd ht hasked ?_
    cases routeId <;> exact hr
  | decorate id registration =>
    obtain ⟨⟨ref', r'⟩, p', hadd, h⟩ := Action.bind_eq_ok_iff.1 hattempt
    cases h
    exact log_of_addNew hadd ht hasked hr
  | addRoute id routeId name' =>
    obtain ⟨place', old, ref', r', htable, hroute, -, rfl⟩ := exists_of_addRoute_eq_ok hattempt
    obtain ⟨hid, hold⟩ := table?_eq_ok_iff.1 htable
    obtain ⟨hrouteId, hr'⟩ := route?_eq_ok_iff.1 hroute
    rw [registration?, hid, Option.bind_some, hrouteId, Option.map_some] at hasked
    cases hasked
    obtain rfl : old = t := Option.some.inj (hold.symm.trans ht)
    obtain rfl : r' = r := Option.some.inj (hr'.symm.trans hr)
    rfl
  | _ => cases hasked

/-- A generated URL is recorded with the pattern of its route. -/
theorem log_of_generates (h : s.Generates step t d ref r path) :
    (s.step step).log =
      s.loggers.record t.name (Table.generationMessage d (some (ref, r, path))) := by
  obtain ⟨id, name, place, rfl, htable, hfound⟩ := h
  have hgenerate : generateTarget (.table id) name d ⟨s, []⟩ =
      .ok (some (.index (t.indexOf ref), path))
        ⟨s, s.loggers.record t.name (Table.generationMessage d (some (ref, r, path)))⟩ :=
    look_bind_eq_ok_iff.2 ⟨_, htable, look_bind_eq_ok_iff.2 ⟨_, liftTable_eq_ok_iff.2 hfound, rfl⟩⟩
  have hstep : attempt (.generate (.table id) name d) ⟨s, []⟩ =
      .ok (.generated (some (.index (t.indexOf ref), path)))
        ⟨s, s.loggers.record t.name (Table.generationMessage d (some (ref, r, path)))⟩ :=
    Action.bind_eq_ok_iff.2 ⟨_, _, hgenerate, rfl⟩
  rw [step_of_ok hstep]

/-- A loud table tells a message in a single line. -/
theorem tells_record (hloud : s.loggers.IsLoud t.name) {message : Text} (hline : '\n' ∉ message) :
    Tells t message (s.loggers.record t.name message) :=
  ⟨hloud.record_eq message, hline⟩

/-- **Records are unambiguous.**  A step that registers a route on a loud table, and one that generates
a URL there, each leave one message in a single line, whenever and in whatever sessions they take
place.  Two messages about registrations are the same only if the routes have the same pattern and
go by the same name, or both by none; two messages about generated URLs only if the URLs and the
patterns of their routes are the same; and two routes show alike, in a single line too, if and only
if their patterns are the same. -/
theorem records_are_unambiguous {s₁ s₂ : Session} {t₁ t₂ : Table}
    (hloud₁ : s₁.loggers.IsLoud t₁.name) (hloud₂ : s₂.loggers.IsLoud t₂.name)
    (step₁ step₂ : Step) :
    (∀ r₁ r₂ name₁ name₂, s₁.Registers step₁ t₁ r₁ name₁ → s₂.Registers step₂ t₂ r₂ name₂ →
      let message₁ := Table.registrationMessage r₁ name₁
      let message₂ := Table.registrationMessage r₂ name₂
      Tells t₁ message₁ (s₁.step step₁).log ∧ Tells t₂ message₂ (s₂.step step₂).log ∧
        (message₁ = message₂ ↔ r₁.urlPattern = r₂.urlPattern ∧ name₁ = name₂)) ∧
    (∀ d₁ d₂ ref₁ ref₂ r₁ r₂ path₁ path₂, s₁.Generates step₁ t₁ d₁ ref₁ r₁ path₁ →
      s₂.Generates step₂ t₂ d₂ ref₂ r₂ path₂ →
      let message₁ := Table.generationMessage d₁ (some (ref₁, r₁, path₁))
      let message₂ := Table.generationMessage d₂ (some (ref₂, r₂, path₂))
      Tells t₁ message₁ (s₁.step step₁).log ∧ Tells t₂ message₂ (s₂.step step₂).log ∧
        (message₁ = message₂ ↔ path₁.text = path₂.text ∧ r₁.urlPattern = r₂.urlPattern)) ∧
    ∀ r₁ r₂ : Route, '\n' ∉ r₁.display ∧
      (r₁.display = r₂.display ↔ r₁.urlPattern = r₂.urlPattern) := by
  refine ⟨?_, ?_, fun r₁ r₂ => ⟨r₁.newline_not_mem_display, Route.display_eq_iff⟩⟩
  · intro r₁ r₂ name₁ name₂ h₁ h₂
    rw [log_of_registers h₁, log_of_registers h₂]
    exact ⟨tells_record hloud₁ (Table.newline_not_mem_registrationMessage r₁ name₁),
      tells_record hloud₂ (Table.newline_not_mem_registrationMessage r₂ name₂),
      Table.registrationMessage_eq_iff⟩
  · intro d₁ d₂ ref₁ ref₂ r₁ r₂ path₁ path₂ h₁ h₂
    rw [log_of_generates h₁, log_of_generates h₂]
    exact ⟨tells_record hloud₁ (Table.newline_not_mem_generationMessage d₁ _),
      tells_record hloud₂ (Table.newline_not_mem_generationMessage d₂ _),
      Table.generationMessage_eq_iff⟩

/-- A session with a loud table. -/
def loudSession : Session := (Session.empty.run [.makeTable "t".toList "app".toList true true]).2

/-- A pattern and a name, and the same text cut elsewhere: between single quotes as they are, both
would read `'x' as 'y' as 'z'`. -/
def lookalikes : Step × Step :=
  (.add "t".toList (plainRegistration "x' as 'y" none (some "z".toList) []) none,
    .add "t".toList (plainRegistration "x" none (some "y' as 'z".toList) []) none)

theorem records_are_unambiguous_lookalikes :
    let s := loudSession
    let s' := (s.step lookalikes.1).session
    let s'' := (s'.step lookalikes.2).session
    let asks := fun name : String =>
      Step.generate (.table "t".toList) (some name.toList) ⟨none, none, none⟩
    (s.step lookalikes.1).log ≠ (s'.step lookalikes.2).log ∧
      (s''.step (asks "z")).log ≠ (s''.step (asks "y' as 'z")).log := by
  intro s s' s'' asks
  obtain ⟨r, hr⟩ : ∃ r, s'.store[0]? = some r := ⟨_, rfl⟩
  obtain ⟨r', hr'⟩ : ∃ r, s''.store[1]? = some r := ⟨_, rfl⟩
  have hpatterns : r.urlPattern ≠ r'.urlPattern := by
    cases hr
    cases hr'
    decide
  constructor
  · obtain ⟨t, hname, hloud, hfirst⟩ : ∃ t, t.name = "app".toList ∧
        s.loggers.IsLoud t.name ∧ s.Registers lookalikes.1 t r (some "z".toList) :=
      ⟨_, rfl, ⟨rfl, rfl⟩, 0, 0, rfl, List.mem_singleton.2 rfl, hr⟩
    obtain ⟨t', hname', hloud', hsecond⟩ : ∃ t, t.name = "app".toList ∧
        s'.loggers.IsLoud t.name ∧
        s'.Registers lookalikes.2 t r' (some "y' as 'z".toList) :=
      ⟨_, rfl, ⟨rfl, rfl⟩, 0, 1, rfl, List.mem_singleton.2 rfl, hr'⟩
    obtain ⟨hregistered, -⟩ := records_are_unambiguous hloud hloud' lookalikes.1 lookalikes.2
    obtain ⟨htells, htells', hiff⟩ := hregistered r r' _ _ hfirst hsecond
    intro hlogs
    rw [hlogs] at htells
    exact hpatterns (hiff.1 (htells.unique htells' (hname.trans hname'.symm))).1
  · obtain ⟨t, path, hname, hloud, hfirst⟩ : ∃ t path, t.name = "app".toList ∧
        s''.loggers.IsLoud t.name ∧
        s''.Generates (asks "z") t ⟨none, none, none⟩ 0 r path := by
      cases hr
      exact ⟨_, _, rfl, ⟨rfl, rfl⟩, _, _, 0, rfl, rfl, rfl⟩
    obtain ⟨t', path', hname', hloud', hsecond⟩ : ∃ t path, t.name = "app".toList ∧
        s''.loggers.IsLoud t.name ∧
        s''.Generates (asks "y' as 'z") t ⟨none, none, none⟩ 1 r' path := by
      cases hr'
      exact ⟨_, _, rfl, ⟨rfl, rfl⟩, _, _, 0, rfl, rfl, rfl⟩
    obtain ⟨-, hgenerated, -⟩ :=
      records_are_unambiguous hloud hloud' (asks "z") (asks "y' as 'z")
    obtain ⟨htells, htells', hiff⟩ := hgenerated _ _ _ _ _ _ _ _ hfirst hsecond
    intro hlogs
    rw [hlogs] at htells
    exact hpatterns (hiff.1 (htells.unique htells' (hname.trans hname'.symm))).2

end Session

end UrlRouting
