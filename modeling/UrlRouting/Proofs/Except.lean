import Mathlib.Data.List.Forall2

/-!
# Steps that may fail

A reader goes on while its steps succeed.  What it read is taken apart step by step with
`bind_eq_ok_iff`, and a list that it read element by element with `mapM_eq_ok_iff`.  Where it fails,
`bind_eq_error_iff` and `mapM_eq_error_iff` lead to the step or the element that is to blame.

`BothYield` compares two readers that fail alike or read related things.
-/

namespace UrlRouting

variable {ε α β : Type}

/-- A sequence of steps succeeds if and only if the first one and the rest do. -/
theorem bind_eq_ok_iff {x : Except ε α} {f : α → Except ε β} {b : β} :
    (x >>= f) = .ok b ↔ ∃ a, x = .ok a ∧ f a = .ok b := by
  cases x with
  | error fault => simp [bind, Except.bind]
  | ok a => simp [bind, Except.bind]

/-- A step that is said to succeed yields something. -/
theorem exists_ok_of_isOk {x : Except ε α} (h : x.isOk = true) : ∃ a, x = .ok a := by
  cases x with
  | error fault => cases h
  | ok a => exact ⟨a, rfl⟩

/-- Reading a list succeeds if and only if every element can be read, in order. -/
theorem mapM_eq_ok_iff {f : α → Except ε β} {l : List α} {bs : List β} :
    l.mapM f = .ok bs ↔ List.Forall₂ (fun a b => f a = .ok b) l bs := by
  induction l generalizing bs with
  | nil =>
    rw [List.mapM_nil, List.forall₂_nil_left_iff]
    exact ⟨fun h => (Except.ok.inj h).symm, fun h => h ▸ rfl⟩
  | cons a l ih =>
    rw [List.mapM_cons, bind_eq_ok_iff, List.forall₂_cons_left_iff]
    constructor
    · rintro ⟨b, hb, h⟩
      obtain ⟨cs, hcs, h⟩ := bind_eq_ok_iff.1 h
      exact ⟨b, cs, hb, ih.1 hcs, (Except.ok.inj h).symm⟩
    · rintro ⟨b, cs, hb, hcs, rfl⟩
      exact ⟨b, hb, bind_eq_ok_iff.2 ⟨cs, ih.2 hcs, rfl⟩⟩

/-- A sequence of steps fails if and only if the first one does, or else the rest. -/
theorem bind_eq_error_iff {x : Except ε α} {f : α → Except ε β} {fault : ε} :
    (x >>= f) = .error fault ↔ x = .error fault ∨ ∃ a, x = .ok a ∧ f a = .error fault := by
  cases x with
  | error fault' => simp [bind, Except.bind]
  | ok a => simp [bind, Except.bind]

/-- Reading a list fails by the first element that cannot be read, whatever stands behind it. -/
theorem mapM_eq_error_iff {f : α → Except ε β} {l : List α} {fault : ε} :
    l.mapM f = .error fault ↔ ∃ before a behind, l = before ++ a :: behind ∧
      (∀ b ∈ before, ∃ c, f b = .ok c) ∧ f a = .error fault := by
  induction l with
  | nil =>
    rw [List.mapM_nil]
    constructor
    · intro h
      cases h
    · rintro ⟨before, a, behind, hsplit, -⟩
      simp at hsplit
  | cons first l ih =>
    rw [List.mapM_cons, bind_eq_error_iff]
    constructor
    · rintro (hfirst | ⟨c, hc, h⟩)
      · exact ⟨[], first, l, rfl, by simp, hfirst⟩
      · rcases bind_eq_error_iff.1 h with hrest | ⟨cs, -, h⟩
        · obtain ⟨before, a, behind, rfl, hbefore, ha⟩ := ih.1 hrest
          exact ⟨first :: before, a, behind, rfl, List.forall_mem_cons.2 ⟨⟨c, hc⟩, hbefore⟩, ha⟩
        · cases h
    · rintro ⟨before, a, behind, hsplit, hbefore, ha⟩
      cases before with
      | nil =>
        cases hsplit
        exact .inl ha
      | cons b before =>
        cases hsplit
        obtain ⟨⟨c, hc⟩, hbefore⟩ := List.forall_mem_cons.1 hbefore
        exact .inr ⟨c, hc, bind_eq_error_iff.2 (.inl (ih.2 ⟨before, a, behind, rfl, hbefore, ha⟩))⟩

variable {α' : Type} {R : α → α' → Prop}

/-- Both fail for the same reason, or both yield something and the two are related. -/
inductive BothYield (R : α → α' → Prop) : Except ε α → Except ε α' → Prop
  | error (fault : ε) : BothYield R (.error fault) (.error fault)
  | ok {a : α} {a' : α'} (h : R a a') : BothYield R (.ok a) (.ok a')

/-- What does not differ yields the same. -/
theorem BothYield.of_eq {x : Except ε α} {y : Except ε α'} {f : α → α'} (h : y = x.map f) :
    BothYield (fun a a' => a' = f a) x y := by
  rw [h]
  cases x with
  | error fault => exact .error fault
  | ok a => exact .ok rfl

end UrlRouting
