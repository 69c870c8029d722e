import UrlRouting.Pattern.Tokens

/-!
# Tokens that are joined and split again

When the tokens of a host or a path can be read back from their joined text: `hostTokens_join` and
`pathTokens_join`.  Only a host of a single empty token and a path with an empty token at its end
cannot.  Between two slashes every path can be read back but that of a single empty token:
`pathTokens_enclosed`.

`SpellsPath` says which paths have given tokens, without reading them, and
`tokens_and_their_spellings` that these are all.
-/

namespace UrlRouting

theorem withoutClosingSlash_of_ne {path : Text} (h : path.getLast? ≠ some '/') :
    withoutClosingSlash path = path := if_neg h

theorem withoutClosingSlash_concat (path : Text) : withoutClosingSlash (path ++ ['/']) = path := by
  rw [withoutClosingSlash, List.getLast?_concat, if_pos rfl, List.dropLast_concat]

/-- Only no pieces and a single empty one join to nothing. -/
theorem join_eq_nil_iff (sep : Char) (ps : List Text) :
    Text.join [sep] ps = [] ↔ ps = [] ∨ ps = [[]] := by
  match ps with
  | [] => simp [Text.join]
  | [p] => simp [Text.join]
  | p :: q :: ps => simp [Text.join_cons_cons]

/-- The last character of joined pieces is that of the last piece, if this is not empty. -/
theorem getLast?_join (sep : Char) {ps : List Text} {p : Text} (hp : ps.getLast? = some p)
    (hne : p ≠ []) : (Text.join [sep] ps).getLast? = p.getLast? := by
  match ps with
  | [] => simp at hp
  | [q] =>
    have hq : q = p := by simpa using hp
    rw [← hq]
    rfl
  | q :: r :: ps =>
    have hp' : (r :: ps).getLast? = some p := by rwa [List.getLast?_cons_cons] at hp
    have ih := getLast?_join sep hp' hne
    obtain ⟨c, hc⟩ : ∃ c, p.getLast? = some c := by
      cases hl : p.getLast? with
      | none => exact absurd (List.getLast?_eq_none_iff.1 hl) hne
      | some c => exact ⟨c, rfl⟩
    rw [Text.join_cons_cons, List.getLast?_append, ih, hc]
    rfl

/-- Tokens without a dot are read back from the host that they make, unless there is a single
empty one. -/
theorem hostTokens_join {ps : List Text} (hdot : ∀ p ∈ ps, '.' ∉ p) (hne : ps ≠ [[]]) :
    hostTokens (Text.join ['.'] ps) = ps := by
  unfold hostTokens
  by_cases hs : ps = []
  · subst hs
    rfl
  · have hjoin : Text.join ['.'] ps ≠ [] := by
      rw [Ne, join_eq_nil_iff, not_or]
      exact ⟨hs, hne⟩
    rw [if_neg hjoin, Text.splitAt_join hs hdot]

/-- Tokens without a slash are read back from the path that they make behind a slash, unless
the last one is empty. -/
theorem pathTokens_join {ps : List Text} (hslash : ∀ p ∈ ps, '/' ∉ p)
    (hlast : ps.getLast? ≠ some []) : pathTokens ('/' :: Text.join ['/'] ps) = ps := by
  have hopen : withoutOpeningSlash ('/' :: Text.join ['/'] ps) = Text.join ['/'] ps := rfl
  unfold pathTokens
  rw [hopen]
  cases hl : ps.getLast? with
  | none =>
    rw [List.getLast?_eq_none_iff.1 hl]
    rfl
  | some p =>
    have hp : p ≠ [] := fun hc => hlast (by rw [hl, hc])
    have hs : ps ≠ [] := by
      rintro rfl
      simp at hl
    have hne : ps ≠ [[]] := by
      rintro rfl
      exact hlast rfl
    have hclose : withoutClosingSlash (Text.join ['/'] ps) = Text.join ['/'] ps := by
      rw [withoutClosingSlash, getLast?_join '/' hl hp, if_neg]
      intro hc
      exact hslash p (List.mem_of_getLast? hl) (List.mem_of_getLast? hc)
    have hjoin : Text.join ['/'] ps ≠ [] := by
      rw [Ne, join_eq_nil_iff, not_or]
      exact ⟨hs, hne⟩
    simp only [hclose]
    rw [if_neg hjoin, Text.splitAt_join hs hslash]

/-- Tokens without a slash are read back from the path that they make between two slashes, unless
there is a single empty one. -/
theorem pathTokens_enclosed {ps : List Text} (hslash : ∀ p ∈ ps, '/' ∉ p) (hne : ps ≠ [[]]) :
    pathTokens ('/' :: (Text.join ['/'] ps ++ ['/'])) = ps := by
  unfold pathTokens
  simp only [withoutOpeningSlash, withoutClosingSlash_concat]
  by_cases hs : ps = []
  · subst hs
    rfl
  · have hjoin : Text.join ['/'] ps ≠ [] := by
      rw [Ne, join_eq_nil_iff, not_or]
      exact ⟨hs, hne⟩
    rw [if_neg hjoin, Text.splitAt_join hs hslash]

/-! ## What tokens are made of -/

/-- Only an empty text is split into a single empty piece. -/
theorem splitAt_ne_singleton {sep : Char} {t : Text} (h : t ≠ []) : Text.splitAt sep t ≠ [[]] := by
  intro hsplit
  apply h
  rw [← Text.join_splitAt sep t, hsplit]
  rfl

/-- A host is never read as a single empty token. -/
theorem hostTokens_ne (host : Text) : hostTokens host ≠ [[]] := by
  unfold hostTokens
  split
  · simp
  · next h => exact splitAt_ne_singleton h

/-- A path is never read as a single empty token. -/
theorem pathTokens_ne (path : Text) : pathTokens path ≠ [[]] := by
  unfold pathTokens
  dsimp only
  split
  · simp
  · next h => exact splitAt_ne_singleton h

/-- A token of a host is made of its characters, without dots. -/
theorem of_mem_hostTokens {host token : Text} (h : token ∈ hostTokens host) :
    '.' ∉ token ∧ ∀ c ∈ token, c ∈ host := by
  unfold hostTokens at h
  split at h
  · cases h
  · exact ⟨Text.not_mem_of_mem_splitAt h, fun c hc => Text.mem_of_mem_splitAt h hc⟩

/-- Without the slashes around it a path has no new character. -/
theorem mem_of_mem_inner {path : Text} {c : Char}
    (h : c ∈ withoutClosingSlash (withoutOpeningSlash path)) : c ∈ path := by
  have hopen : ∀ c ∈ withoutOpeningSlash path, c ∈ path := by
    intro c hc
    unfold withoutOpeningSlash at hc
    split at hc
    · exact List.mem_cons_of_mem _ hc
    · exact hc
  unfold withoutClosingSlash at h
  split at h
  · exact hopen c ((List.dropLast_prefix _).subset h)
  · exact hopen c h

/-- A token of a path is made of its characters, without slashes. -/
theorem of_mem_pathTokens {path token : Text} (h : token ∈ pathTokens path) :
    '/' ∉ token ∧ ∀ c ∈ token, c ∈ path := by
  unfold pathTokens at h
  dsimp only at h
  split at h
  · cases h
  · exact ⟨Text.not_mem_of_mem_splitAt h,
      fun c hc => mem_of_mem_inner (Text.mem_of_mem_splitAt h hc)⟩

/-! ## Spellings of a path -/

/-- A path opens with a slash that was added in front of a text, or is that text, if this does not
open with a slash. -/
inductive SlashedInFront (t : Text) : Text → Prop
  | added : SlashedInFront t ('/' :: t)
  | plain (h : t.head? ≠ some '/') : SlashedInFront t t

/-- A path closes with a slash that was added behind a text, or is that text, if this does not close
with a slash. -/
inductive SlashedBehind (t : Text) : Text → Prop
  | added : SlashedBehind t (t ++ ['/'])
  | plain (h : t.getLast? ≠ some '/') : SlashedBehind t t

/-- A path spells tokens: it joins them by slashes, adds at most one behind them, and then at most one
in front. -/
def SpellsPath (tokens : List Text) (path : Text) : Prop :=
  ∃ t, SlashedBehind (Text.join ['/'] tokens) t ∧ SlashedInFront t path

/-- What stands behind the opening slash of a path, if there is one. -/
theorem slashedInFront_iff {t path : Text} :
    SlashedInFront t path ↔ withoutOpeningSlash path = t := by
  constructor
  · intro h
    cases h with
    | added => rfl
    | plain h =>
      unfold withoutOpeningSlash
      split
      · exact absurd rfl h
      · rfl
  · rintro rfl
    unfold withoutOpeningSlash
    split
    · exact .added
    · next hopens =>
      refine .plain fun h => ?_
      obtain ⟨rest, hrest⟩ := List.head?_eq_some_iff.1 h
      exact hopens rest hrest

/-- What stands in front of the closing slash of a path, if there is one. -/
theorem slashedBehind_iff {t path : Text} :
    SlashedBehind t path ↔ withoutClosingSlash path = t := by
  constructor
  · intro h
    cases h with
    | added => exact withoutClosingSlash_concat t
    | plain h => exact withoutClosingSlash_of_ne h
  · rintro rfl
    by_cases hlast : path.getLast? = some '/'
    · obtain ⟨front, rfl⟩ := List.getLast?_eq_some_iff.1 hlast
      rw [withoutClosingSlash_concat]
      exact .added
    · rw [withoutClosingSlash_of_ne hlast]
      exact .plain hlast

/-- The tokens of a path joined by slashes are the path without the slashes around it. -/
theorem join_pathTokens (path : Text) :
    Text.join ['/'] (pathTokens path) = withoutClosingSlash (withoutOpeningSlash path) := by
  unfold pathTokens
  dsimp only
  split
  · next h => exact h.symm
  · exact Text.join_splitAt '/' _

/-- A path has given tokens if and only if it spells them. -/
theorem pathTokens_eq_iff {path : Text} {tokens : List Text} (hslash : ∀ t ∈ tokens, '/' ∉ t)
    (hne : tokens ≠ [[]]) : pathTokens path = tokens ↔ SpellsPath tokens path := by
  have hspells : SpellsPath tokens path ↔
      withoutClosingSlash (withoutOpeningSlash path) = Text.join ['/'] tokens := by
    simp only [SpellsPath, slashedInFront_iff, slashedBehind_iff, exists_eq_right']
  rw [hspells]
  constructor
  · rintro rfl
    exact (join_pathTokens path).symm
  · intro hinner
    unfold pathTokens
    simp only [hinner]
    by_cases hnil : tokens = []
    · subst hnil
      rfl
    · have hjoin : Text.join ['/'] tokens ≠ [] := by
        rw [Ne, join_eq_nil_iff, not_or]
        exact ⟨hnil, hne⟩
      rw [if_neg hjoin, Text.splitAt_join hnil hslash]

/-- **Tokens and their spellings.**  A path has given tokens if and only if it is their text, joined by
slashes, with at most one slash added behind and at most one in front, where a text that none was
added to does not end, or begin, with one itself.  No path is read as a single empty token, and every
other list of tokens is read from the path that it makes between two slashes.  A host is read as
tokens without dots that join to the host, and never as a single empty one. -/
theorem tokens_and_their_spellings :
    (∀ (path : Text) (tokens : List Text), (∀ t ∈ tokens, '/' ∉ t) → tokens ≠ [[]] →
      (pathTokens path = tokens ↔ SpellsPath tokens path)) ∧
    (∀ path, (∀ t ∈ pathTokens path, '/' ∉ t) ∧ pathTokens path ≠ [[]]) ∧
    (∀ tokens : List Text, (∀ t ∈ tokens, '/' ∉ t) → tokens ≠ [[]] →
      pathTokens ('/' :: (Text.join ['/'] tokens ++ ['/'])) = tokens) ∧
    ∀ host, (∀ t ∈ hostTokens host, '.' ∉ t) ∧ Text.join ['.'] (hostTokens host) = host ∧
      hostTokens host ≠ [[]] :=
  ⟨fun _ _ hslash hne => pathTokens_eq_iff hslash hne,
    fun path => ⟨fun _ ht => (of_mem_pathTokens ht).1, pathTokens_ne path⟩,
    fun _ hslash hne => pathTokens_enclosed hslash hne,
    fun host => ⟨fun _ ht => (of_mem_hostTokens ht).1, join_hostTokens host, hostTokens_ne host⟩⟩

/-- Three slashes spell two empty tokens, two slashes do not, and four spell three. -/
theorem tokens_and_their_spellings_slashes :
    SpellsPath [[], []] "///".toList ∧ ¬ SpellsPath [[], []] "//".toList ∧
      pathTokens ('/' :: (Text.join ['/'] [[], [], []] ++ ['/'])) = [[], [], []] := by
  obtain ⟨hiff, -, henclosed, -⟩ := tokens_and_their_spellings
  have htwo := fun path => hiff path [[], []] (by decide) (by decide)
  refine ⟨(htwo _).1 (by decide), fun h => ?_, henclosed _ (by decide) (by decide)⟩
  exact absurd ((htwo _).2 h) (by decide)

end UrlRouting
