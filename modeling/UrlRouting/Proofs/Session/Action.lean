import UrlRouting.Session.Basic

/-!
# Actions and their traces

What an action did is taken apart with `bind_eq_ok_iff`.  Where it fails, all that it has changed and
written by then stays, so a failure leaves no trace only if whatever may fail comes before the first
change.  That is what the rules here are for: `OnlyLooks.bind` goes on behind a check, and
`LeavesNoTrace.bind` ends with changes that cannot fail.  `KeepsSession` is for what writes to the log
and changes nothing else.
-/

namespace UrlRouting

namespace Action

variable {α β : Type} {x : Action α} {f : α → Action β} {p p' p'' : Progress} {fault : StepFault}

/-! ## Sequences -/

/-- A sequence goes through if and only if the first action and the rest do. -/
theorem bind_eq_ok_iff {b : β} :
    (x >>= f) p = .ok b p'' ↔ ∃ a p', x p = .ok a p' ∧ f a p' = .ok b p'' := by
  show EStateM.bind x f p = .ok b p'' ↔ _
  unfold EStateM.bind
  cases x p <;> simp [and_assoc]

/-- A sequence fails if and only if the first action does, or else the rest. -/
theorem bind_eq_error_iff :
    (x >>= f) p = .error fault p'' ↔
      x p = .error fault p'' ∨ ∃ a p', x p = .ok a p' ∧ f a p' = .error fault p'' := by
  show EStateM.bind x f p = .error fault p'' ↔ _
  unfold EStateM.bind
  cases x p <;> simp [and_assoc]

/-- A sequence goes on with the rest where the first action goes through. -/
theorem bind_of_ok {a : α} (h : x p = .ok a p') : (x >>= f) p = f a p' := by
  show EStateM.bind x f p = f a p'
  rw [EStateM.bind, h]

theorem look_of_ok {g : Session → Except StepFault α} {a : α} (h : g p.session = .ok a) :
    look g p = .ok a p := by
  rw [look, h]

theorem look_of_error {g : Session → Except StepFault α} (h : g p.session = .error fault) :
    look g p = .error fault p := by
  rw [look, h]

/-- A sequence goes on with what has been looked up, and nothing has changed by then. -/
theorem look_bind_of_ok {g : Session → Except StepFault α} {a : α} (h : g p.session = .ok a) :
    (look g >>= f) p = f a p :=
  bind_of_ok (look_of_ok h)

/-- It ends where there is nothing to be found. -/
theorem look_bind_of_error {g : Session → Except StepFault α} (h : g p.session = .error fault) :
    (look g >>= f) p = .error fault p :=
  bind_eq_error_iff.2 (.inl (look_of_error h))

theorem look_bind_eq_ok_iff {g : Session → Except StepFault α} {b : β} :
    (look g >>= f) p = .ok b p'' ↔ ∃ a, g p.session = .ok a ∧ f a p = .ok b p'' := by
  cases hg : g p.session with
  | ok a => simp [look_bind_of_ok hg]
  | error fault => simp [look_bind_of_error hg]

theorem check_eq_ok_iff {r : Except StepFault α} {a : α} :
    check r p = .ok a p' ↔ r = .ok a ∧ p = p' := by
  cases r <;> simp [check, look]

theorem check_bind_of_ok {r : Except StepFault α} {a : α} (h : r = .ok a) :
    (check r >>= f) p = f a p :=
  look_bind_of_ok h

theorem check_bind_of_error {r : Except StepFault α} (h : r = .error fault) :
    (check r >>= f) p = .error fault p :=
  look_bind_of_error h

theorem check_bind_eq_ok_iff {r : Except StepFault α} {b : β} :
    (check r >>= f) p = .ok b p'' ↔ ∃ a, r = .ok a ∧ f a p = .ok b p'' :=
  look_bind_eq_ok_iff

/-! ## Traces -/

/-- An action changes nothing, whatever it comes to. -/
def OnlyLooks (x : Action α) : Prop :=
  ∀ p, (∃ a, x p = .ok a p) ∨ ∃ fault, x p = .error fault p

/-- An action cannot fail. -/
def GoesThrough (x : Action α) : Prop := ∀ p, ∃ a p', x p = .ok a p'

/-- Where an action fails, everything is as it was before. -/
def LeavesNoTrace (x : Action α) : Prop := ∀ p fault p', x p = .error fault p' → p' = p

theorem onlyLooks_look (g : Session → Except StepFault α) : (look g).OnlyLooks := by
  intro p
  cases hg : g p.session with
  | ok a => exact .inl ⟨a, look_of_ok hg⟩
  | error fault => exact .inr ⟨fault, look_of_error hg⟩

theorem onlyLooks_check (r : Except StepFault α) : (check r).OnlyLooks := onlyLooks_look _

theorem goesThrough_pure (a : α) : GoesThrough (pure a) := fun p => ⟨a, p, rfl⟩

theorem goesThrough_change (g : Session → Session) : (change g).GoesThrough := fun _ => ⟨_, _, rfl⟩

theorem goesThrough_report (name message : Text) : (report name message).GoesThrough :=
  fun _ => ⟨_, _, rfl⟩

/-- Changes that cannot fail go on with others. -/
theorem GoesThrough.bind (hx : x.GoesThrough) (hf : ∀ a, (f a).GoesThrough) :
    (x >>= f).GoesThrough := by
  intro p
  obtain ⟨a, p', hxp⟩ := hx p
  rw [bind_of_ok hxp]
  exact hf a p'

theorem GoesThrough.leavesNoTrace (hx : x.GoesThrough) : x.LeavesNoTrace := by
  intro p fault p' herror
  obtain ⟨a, q, hok⟩ := hx p
  rw [hok] at herror
  cases herror

theorem OnlyLooks.leavesNoTrace (hx : x.OnlyLooks) : x.LeavesNoTrace := by
  intro p fault p' herror
  rcases hx p with ⟨a, hok⟩ | ⟨fault', hfault⟩
  · rw [hok] at herror
    cases herror
  · rw [hfault] at herror
    cases herror
    rfl

/-- Behind a check comes anything that leaves no trace itself. -/
theorem OnlyLooks.bind (hx : x.OnlyLooks) (hf : ∀ a, (f a).LeavesNoTrace) :
    (x >>= f).LeavesNoTrace := by
  intro p fault p' herror
  rcases bind_eq_error_iff.1 herror with hfirst | ⟨a, q, hfirst, hrest⟩
  · exact hx.leavesNoTrace p fault p' hfirst
  · rcases hx p with ⟨b, hok⟩ | ⟨fault', hfault⟩
    · rw [hok] at hfirst
      cases hfirst
      exact hf a p fault p' hrest
    · rw [hfault] at hfirst
      cases hfirst

/-- Behind anything that leaves no trace come changes that cannot fail. -/
theorem LeavesNoTrace.bind (hx : x.LeavesNoTrace) (hf : ∀ a, (f a).GoesThrough) :
    (x >>= f).LeavesNoTrace := by
  intro p fault p' herror
  rcases bind_eq_error_iff.1 herror with hfirst | ⟨a, q, -, hrest⟩
  · exact hx p fault p' hfirst
  · obtain ⟨b, r, hok⟩ := hf a q
    rw [hok] at hrest
    cases hrest

/-! ## What writes to the log only -/

/-- An action leaves the session as it was, whether it goes through or fails. -/
def KeepsSession (x : Action α) : Prop :=
  ∀ p, (∀ a p', x p = .ok a p' → p'.session = p.session) ∧
    ∀ fault p', x p = .error fault p' → p'.session = p.session

theorem OnlyLooks.keepsSession (hx : x.OnlyLooks) : x.KeepsSession := by
  intro p
  rcases hx p with ⟨a, hok⟩ | ⟨fault, hfault⟩
  · rw [hok]
    exact ⟨fun _ _ h => by cases h; rfl, nofun⟩
  · rw [hfault]
    exact ⟨nofun, fun _ _ h => by cases h; rfl⟩

theorem keepsSession_pure (a : α) : KeepsSession (pure a) := fun _ =>
  ⟨fun _ _ h => by cases h; rfl, nofun⟩

theorem keepsSession_report (name message : Text) : (report name message).KeepsSession := fun _ =>
  ⟨fun _ _ h => by cases h; rfl, nofun⟩

theorem KeepsSession.bind (hx : x.KeepsSession) (hf : ∀ a, (f a).KeepsSession) :
    (x >>= f).KeepsSession := by
  intro p
  constructor
  · intro b p'' hok
    obtain ⟨a, p', hfirst, hrest⟩ := bind_eq_ok_iff.1 hok
    exact ((hf a p').1 b p'' hrest).trans ((hx p).1 a p' hfirst)
  · intro fault p'' herror
    rcases bind_eq_error_iff.1 herror with hfirst | ⟨a, p', hfirst, hrest⟩
    · exact (hx p).2 fault p'' hfirst
    · exact ((hf a p').2 fault p'' hrest).trans ((hx p).1 a p' hfirst)

end Action

end UrlRouting
