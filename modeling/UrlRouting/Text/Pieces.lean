import UrlRouting.Text.Ranges

/-!
# Texts in pieces

A text is split at every occurrence of a separator and joined again.  `join_splitAt` says
that joining undoes splitting, `splitAt_join` that pieces without the separator come back,
and `not_mem_of_mem_splitAt` that splitting leaves no separator behind.  `upTo` and `beyond`
cut a text at the first separator only, which `upTo_append_cons` and `beyond_append_cons` say.
-/

namespace UrlRouting.Text

/-- The pieces of a text between the separators; even an empty text has one. -/
def splitAt (sep : Char) : Text → List Text
  | [] => [[]]
  | c :: cs =>
      if c = sep then [] :: splitAt sep cs
      else
        match splitAt sep cs with
        | [] => [[c]]
        | p :: ps => (c :: p) :: ps

/-- The pieces with a separator between each two. -/
def join (sep : Text) : List Text → Text
  | [] => []
  | [p] => p
  | p :: ps => p ++ sep ++ join sep ps

/-- The part of a text in front of the first separator, the whole text without one. -/
def upTo (sep : Char) (t : Text) : Text := t.takeWhile (· != sep)

/-- The part of a text behind the first separator, nothing without one. -/
def beyond (sep : Char) (t : Text) : Text := (t.dropWhile (· != sep)).drop 1

/-- The part of a text behind the last separator, the whole text without one. -/
def afterLast (sep : Char) (t : Text) : Text := (t.reverse.takeWhile (· != sep)).reverse

/-! ## Laws of splitting and joining -/

theorem splitAt_ne_nil (sep : Char) (t : Text) : splitAt sep t ≠ [] := by
  cases t with
  | nil => simp [splitAt]
  | cons c cs => unfold splitAt; split <;> (try split) <;> simp

/-- A separator starts a new piece. -/
theorem splitAt_cons_self (sep : Char) (cs : Text) :
    splitAt sep (sep :: cs) = [] :: splitAt sep cs := by
  simp [splitAt]

/-- Another character goes to the first piece. -/
theorem splitAt_cons_of_ne {sep c : Char} (h : c ≠ sep) {cs p : Text} {ps : List Text}
    (hs : splitAt sep cs = p :: ps) : splitAt sep (c :: cs) = (c :: p) :: ps := by
  simp [splitAt, h, hs]

theorem join_cons_cons (sep p q : Text) (ps : List Text) :
    join sep (p :: q :: ps) = p ++ sep ++ join sep (q :: ps) := rfl

/-- The first character of the first piece is the first character of the joined text. -/
theorem join_cons_head (sep : Text) (c : Char) (p : Text) (ps : List Text) :
    join sep ((c :: p) :: ps) = c :: join sep (p :: ps) := by
  cases ps <;> rfl

/-- Joining undoes splitting. -/
theorem join_splitAt (sep : Char) (t : Text) : join [sep] (splitAt sep t) = t := by
  induction t with
  | nil => rfl
  | cons c cs ih =>
    obtain ⟨p, ps, hs⟩ := List.exists_cons_of_ne_nil (splitAt_ne_nil sep cs)
    by_cases h : c = sep
    · subst h
      rw [splitAt_cons_self, hs, join_cons_cons, ← hs, ih]
      rfl
    · rw [splitAt_cons_of_ne h hs, join_cons_head, ← hs, ih]

/-- No piece holds a separator. -/
theorem not_mem_of_mem_splitAt {sep : Char} {t p : Text} (hp : p ∈ splitAt sep t) : sep ∉ p := by
  induction t generalizing p with
  | nil => simp_all [splitAt]
  | cons c cs ih =>
    obtain ⟨q, qs, hs⟩ := List.exists_cons_of_ne_nil (splitAt_ne_nil sep cs)
    by_cases h : c = sep
    · subst h
      rw [splitAt_cons_self] at hp
      rcases List.mem_cons.1 hp with rfl | hp
      · simp
      · exact ih hp
    · rw [splitAt_cons_of_ne h hs] at hp
      rcases List.mem_cons.1 hp with rfl | hp
      · have := ih (p := q) (by simp [hs])
        simp [this, Ne.symm h]
      · exact ih (by simp [hs, hp])

/-- A text without the separator is its only piece. -/
theorem splitAt_of_not_mem {sep : Char} {t : Text} (h : sep ∉ t) : splitAt sep t = [t] := by
  induction t with
  | nil => rfl
  | cons c cs ih =>
    simp only [List.mem_cons, not_or] at h
    exact splitAt_cons_of_ne (Ne.symm h.1) (ih h.2)

/-- The text in front of the first separator is the first piece. -/
theorem splitAt_append_cons {sep : Char} {p : Text} (h : sep ∉ p) (t : Text) :
    splitAt sep (p ++ sep :: t) = p :: splitAt sep t := by
  induction p with
  | nil => exact splitAt_cons_self sep t
  | cons c cs ih =>
    simp only [List.mem_cons, not_or] at h
    exact splitAt_cons_of_ne (Ne.symm h.1) (ih h.2)

/-- Splitting undoes joining, if no piece holds the separator. -/
theorem splitAt_join {sep : Char} {ps : List Text} (hne : ps ≠ []) (h : ∀ p ∈ ps, sep ∉ p) :
    splitAt sep (join [sep] ps) = ps := by
  induction ps with
  | nil => exact absurd rfl hne
  | cons p ps ih =>
    cases ps with
    | nil => exact splitAt_of_not_mem (h p (by simp))
    | cons q qs =>
      rw [join_cons_cons, List.append_assoc, List.singleton_append,
        splitAt_append_cons (h p (by simp)), ih (by simp) (fun r hr => h r (by simp [hr]))]

/-- A character of a piece is one of the joined text. -/
theorem mem_join_of_mem {sep p : Text} {ps : List Text} {c : Char} (hp : p ∈ ps) (hc : c ∈ p) :
    c ∈ join sep ps := by
  induction ps with
  | nil => cases hp
  | cons q qs ih =>
    cases qs with
    | nil =>
      rw [List.mem_singleton] at hp
      rwa [join, ← hp]
    | cons r rs =>
      rw [join_cons_cons, List.mem_append, List.mem_append]
      rcases List.mem_cons.1 hp with rfl | hp
      · exact .inl (.inl hc)
      · exact .inr (ih hp)

/-- A character of the joined text is one of a separator or of a piece. -/
theorem mem_of_mem_join {sep : Text} {ps : List Text} {c : Char} (h : c ∈ join sep ps) :
    c ∈ sep ∨ ∃ p ∈ ps, c ∈ p := by
  induction ps with
  | nil => cases h
  | cons q qs ih =>
    cases qs with
    | nil => exact .inr ⟨q, List.mem_cons_self, h⟩
    | cons r rs =>
      rw [join_cons_cons, List.mem_append, List.mem_append] at h
      rcases h with (h | h) | h
      · exact .inr ⟨q, List.mem_cons_self, h⟩
      · exact .inl h
      · rcases ih h with h | ⟨p, hp, hc⟩
        · exact .inl h
        · exact .inr ⟨p, List.mem_cons_of_mem _ hp, hc⟩

/-- A character of a piece is one of the text that was split. -/
theorem mem_of_mem_splitAt {sep c : Char} {t p : Text} (hp : p ∈ splitAt sep t) (hc : c ∈ p) :
    c ∈ t := by
  rw [← join_splitAt sep t]
  exact mem_join_of_mem hp hc

/-! ## Laws of cutting at the first separator -/

theorem not_mem_upTo (sep : Char) (t : Text) : sep ∉ upTo sep t := by
  intro h
  have hall := List.all_eq_true.1 (List.all_takeWhile (p := (· != sep)) (l := t)) sep h
  simp at hall

theorem mem_of_mem_upTo {sep c : Char} {t : Text} (h : c ∈ upTo sep t) : c ∈ t :=
  (List.takeWhile_prefix _).subset h

theorem mem_of_mem_beyond {sep c : Char} {t : Text} (h : c ∈ beyond sep t) : c ∈ t :=
  (List.dropWhile_suffix _).subset (List.mem_of_mem_drop h)

theorem forall_ne_of_not_mem {sep : Char} {p : Text} (h : sep ∉ p) : ∀ c ∈ p, (c != sep) = true := by
  intro c hc
  have hne : c ≠ sep := fun heq => h (heq ▸ hc)
  simpa using hne

/-- A text without the separator stays in front of the cut. -/
theorem upTo_append {sep : Char} {p : Text} (h : sep ∉ p) (t : Text) :
    upTo sep (p ++ t) = p ++ upTo sep t :=
  List.takeWhile_append_of_pos (forall_ne_of_not_mem h)

/-- A text without the separator does not matter behind the cut. -/
theorem beyond_append {sep : Char} {p : Text} (h : sep ∉ p) (t : Text) :
    beyond sep (p ++ t) = beyond sep t := by
  rw [beyond, List.dropWhile_append_of_pos (forall_ne_of_not_mem h)]
  rfl

/-- A text in front of a separator that it does not hold is all that stands there. -/
theorem upTo_append_cons {sep : Char} {p : Text} (h : sep ∉ p) (t : Text) :
    upTo sep (p ++ sep :: t) = p := by
  rw [upTo_append h, upTo, List.takeWhile_cons_of_neg (by simp), List.append_nil]

/-- What stands behind a text without the separator and one separator is left. -/
theorem beyond_append_cons {sep : Char} {p : Text} (h : sep ∉ p) (t : Text) :
    beyond sep (p ++ sep :: t) = t := by
  rw [beyond_append h, beyond, List.dropWhile_cons_of_neg (by simp)]
  rfl

/-- A text without the separator is not cut. -/
theorem upTo_of_not_mem {sep : Char} {t : Text} (h : sep ∉ t) : upTo sep t = t := by
  have happend := upTo_append h []
  rw [List.append_nil] at happend
  exact happend.trans (List.append_nil t)

/-- Nothing stands behind a separator that there is not. -/
theorem beyond_of_not_mem {sep : Char} {t : Text} (h : sep ∉ t) : beyond sep t = [] := by
  have happend := beyond_append h []
  rw [List.append_nil] at happend
  exact happend

end UrlRouting.Text
