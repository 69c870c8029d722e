import Mathlib.Data.List.Forall2
import Mathlib.Data.List.TakeWhile
import UrlRouting.Proofs.Bindings
import UrlRouting.Pattern.Binding

/-!
# What fitting tokens bind

Tokens fit segments if each token may stand where its segment does.  The main statements are
`bindTokens_fits_iff`, which says when `bindTokens` accepts, and `bindTokens_values`, which says
that it then binds every variable to its token in order, and nothing else.  What is bound by tokens
that need not fit says `bindTokens_up_to_first_mismatch`.
-/

namespace UrlRouting

/-- A token may stand where a segment does: any token for a variable, the same for a literal. -/
def Segment.Admits : Segment → Text → Prop
  | .literal own, token => own = token
  | .named _ _, _ => True

/-- Tokens fit the segments of a pattern: there are none, or each one admits its token. -/
def Fits (segments : List Segment) (tokens : List Text) : Prop :=
  segments = [] ∨ List.Forall₂ Segment.Admits segments tokens

/-- The names of the variables among segments, each with its token. -/
def boundEntries : List Segment → List Text → List (Text × Value)
  | .named _ name :: segments, token :: tokens =>
      (name, .text token) :: boundEntries segments tokens
  | .literal _ :: segments, _ :: tokens => boundEntries segments tokens
  | _, _ => []

/-! ## Binding up to the first mismatch -/

instance (segment : Segment) (token : Text) : Decidable (segment.Admits token) :=
  match segment with
  | .literal own => inferInstanceAs (Decidable (own = token))
  | .named _ _ => inferInstanceAs (Decidable True)

/-- What a token binds at the place of a segment. -/
def boundEntry (e : Segment × Text) : Option (Text × Value) := e.1.name?.map (·, .text e.2)

/-- Tokens are bound place by place. -/
theorem boundEntries_eq_filterMap (segments : List Segment) (tokens : List Text) :
    boundEntries segments tokens = (segments.zip tokens).filterMap boundEntry := by
  induction segments generalizing tokens with
  | nil => rfl
  | cons segment segments ih =>
    cases tokens with
    | nil => cases segment <;> rfl
    | cons token tokens =>
      rw [List.zip_cons_cons, List.filterMap_cons, ← ih]
      cases segment <;> rfl

/-- The places in front of the first literal that differs from its token, each segment with its
token; all places if no literal does. -/
def agreeingPlaces (segments : List Segment) (tokens : List Text) : List (Segment × Text) :=
  (segments.zip tokens).takeWhile fun e => decide (e.1.Admits e.2)

theorem agreeingPlaces_cons {segment : Segment} {token : Text} (h : segment.Admits token)
    (segments : List Segment) (tokens : List Text) :
    agreeingPlaces (segment :: segments) (token :: tokens) =
      (segment, token) :: agreeingPlaces segments tokens :=
  List.takeWhile_cons_of_pos (decide_eq_true h)

/-- Nothing is passed behind a literal that differs from its token. -/
theorem agreeingPlaces_cons_of_not {segment : Segment} {token : Text} (h : ¬ segment.Admits token)
    (segments : List Segment) (tokens : List Text) :
    agreeingPlaces (segment :: segments) (token :: tokens) = [] :=
  List.takeWhile_cons_of_neg (by simpa using h)

/-- Binding goes on while segments admit their tokens, and by then the variables that were passed
are bound. -/
theorem bindEach_eq (segments : List Segment) (tokens : List Text) (values : Bindings Value) :
    bindEach segments tokens values =
      ⟨(segments.zip tokens).all fun e => decide (e.1.Admits e.2),
        values.setAll ((agreeingPlaces segments tokens).filterMap boundEntry)⟩ := by
  induction segments generalizing tokens values with
  | nil => rfl
  | cons segment segments ih =>
    cases tokens with
    | nil => cases segment <;> rfl
    | cons token tokens =>
      cases segment with
      | literal own =>
        by_cases h : own = token
        · have hadmits : (Segment.literal own).Admits token := h
          rw [bindEach, if_pos h, ih, agreeingPlaces_cons hadmits]
          simp [hadmits, boundEntry, Segment.name?, List.filterMap_cons]
        · have hrefuses : ¬ (Segment.literal own).Admits token := h
          rw [bindEach, if_neg h, agreeingPlaces_cons_of_not hrefuses]
          simp [hrefuses, Bindings.setAll]
      | named written name =>
        have hadmits : (Segment.named written name).Admits token := trivial
        rw [bindEach, ih, agreeingPlaces_cons hadmits]
        simp [hadmits, boundEntry, Segment.name?, Bindings.setAll]

/-- Binding goes through to the end if every segment admits its token. -/
theorem bindEach_fits_iff {segments : List Segment} {tokens : List Text}
    (hl : segments.length = tokens.length) (values : Bindings Value) :
    (bindEach segments tokens values).fits = true ↔
      List.Forall₂ Segment.Admits segments tokens := by
  rw [bindEach_eq, List.forall₂_iff_zip]
  simp [hl]

/-- What binding leaves if every segment admits its token. -/
theorem bindEach_values {segments : List Segment} {tokens : List Text}
    (h : List.Forall₂ Segment.Admits segments tokens) (values : Bindings Value) :
    (bindEach segments tokens values).values = values.setAll (boundEntries segments tokens) := by
  have hall : agreeingPlaces segments tokens = segments.zip tokens := by
    rw [agreeingPlaces, List.takeWhile_eq_self_iff]
    intro e he
    exact decide_eq_true ((List.forall₂_iff_zip.1 h).2 he)
  rw [bindEach_eq, hall, boundEntries_eq_filterMap]

theorem admits_of_mem_agreeingPlaces {segments : List Segment} {tokens : List Text}
    {e : Segment × Text} (h : e ∈ agreeingPlaces segments tokens) : e.1.Admits e.2 := by
  rw [agreeingPlaces] at h
  simpa using List.mem_takeWhile_imp h

/-- All places are passed, unless there is a first one whose literal differs from its token. -/
theorem agreeingPlaces_cases (segments : List Segment) (tokens : List Text) :
    agreeingPlaces segments tokens = segments.zip tokens ∨
      ∃ own token behind, own ≠ token ∧
        segments.zip tokens = agreeingPlaces segments tokens ++ (.literal own, token) :: behind := by
  have hsplit := List.takeWhile_append_dropWhile (p := fun e => decide (e.1.Admits e.2))
    (l := segments.zip tokens)
  rw [← agreeingPlaces] at hsplit
  cases hdrop : (segments.zip tokens).dropWhile fun e => decide (e.1.Admits e.2) with
  | nil =>
    rw [hdrop, List.append_nil] at hsplit
    exact .inl hsplit
  | cons e behind =>
    obtain ⟨segment, token⟩ := e
    have hrefuses : ¬ segment.Admits token := by
      have hfirst := List.dropWhile_get_zero_not (p := fun e => decide (e.1.Admits e.2))
        (segments.zip tokens) (by simp [hdrop])
      simpa [hdrop] using hfirst
    cases segment with
    | literal own =>
      refine .inr ⟨own, token, behind, hrefuses, ?_⟩
      rw [← hdrop, hsplit]
    | named written name => exact absurd trivial hrefuses

/-- The tokens are accepted if and only if they fit. -/
theorem bindTokens_fits_iff (segments : List Segment) (tokens : List Text)
    (values : Bindings Value) :
    (bindTokens segments tokens values).fits = true ↔ Fits segments tokens := by
  unfold bindTokens Fits
  by_cases hs : segments = []
  · simp [hs]
  · by_cases hl : segments.length = tokens.length
    · rw [if_neg hs, if_neg (not_not.2 hl), bindEach_fits_iff hl]
      simp [hs]
    · rw [if_neg hs, if_pos hl]
      have hne : ¬ List.Forall₂ Segment.Admits segments tokens := fun h => hl h.length_eq
      simp [hs, hne]

/-- Fitting tokens bind every variable to its token, in order. -/
theorem bindTokens_values {segments : List Segment} {tokens : List Text}
    (h : Fits segments tokens) (values : Bindings Value) :
    (bindTokens segments tokens values).values = values.setAll (boundEntries segments tokens) := by
  unfold bindTokens
  by_cases hs : segments = []
  · subst hs
    rfl
  · have hall := h.resolve_left hs
    rw [if_neg hs, if_neg (not_not.2 hall.length_eq), bindEach_values hall]

/-- Fitting tokens bind the names of the variables. -/
theorem keys_boundEntries {segments : List Segment} {tokens : List Text}
    (h : Fits segments tokens) :
    (boundEntries segments tokens).map Prod.fst = segments.filterMap Segment.name? := by
  rcases h with rfl | h
  · rfl
  · induction h with
    | nil => rfl
    | @cons segment token segments tokens _ _ ih =>
      cases segment <;> simp [boundEntries, Segment.name?, List.filterMap_cons, ih]

/-- A variable and its token are among what is bound. -/
theorem mem_boundEntries {segments : List Segment} {tokens : List Text} {written name : Text}
    {token : Text} (h : (Segment.named written name, token) ∈ segments.zip tokens) :
    (name, Value.text token) ∈ boundEntries segments tokens := by
  induction segments generalizing tokens with
  | nil => simp at h
  | cons segment segments ih =>
    cases tokens with
    | nil => simp at h
    | cons first tokens =>
      rw [List.zip_cons_cons, List.mem_cons] at h
      rcases h with heq | hmem
      · cases heq
        exact List.mem_cons_self
      · cases segment with
        | literal own => exact ih hmem
        | named other key => exact List.mem_cons_of_mem _ (ih hmem)

/-! ## Tokens that need not fit -/

/-- **Binding stops at the first mismatch.**  Without segments every list of tokens fits and nothing is
bound.  With segments, tokens that are not as many do not fit, and nothing is bound either.  As many
tokens fit if and only if every literal equals the token at its place; but whether they fit or not,
the variables in front of the first literal that differs from its token are bound to their tokens in
order, all variables if no literal differs, and nothing else is. -/
theorem bindTokens_up_to_first_mismatch (segments : List Segment) (tokens : List Text)
    (values : Bindings Value) :
    (segments = [] → bindTokens segments tokens values = ⟨true, values⟩) ∧
    (segments ≠ [] → segments.length ≠ tokens.length →
      bindTokens segments tokens values = ⟨false, values⟩) ∧
    (segments ≠ [] → segments.length = tokens.length →
      ((bindTokens segments tokens values).fits = true ↔
        ∀ own token, (Segment.literal own, token) ∈ segments.zip tokens → own = token) ∧
      (agreeingPlaces segments tokens = segments.zip tokens ∨
        ∃ own token behind, own ≠ token ∧ segments.zip tokens =
          agreeingPlaces segments tokens ++ (.literal own, token) :: behind) ∧
      (∀ e ∈ agreeingPlaces segments tokens, e.1.Admits e.2) ∧
      values.Updated ((agreeingPlaces segments tokens).filterMap boundEntry)
        (bindTokens segments tokens values).values) := by
  refine ⟨fun hnone => if_pos hnone, fun hsome hl => ?_, fun hsome hl => ?_⟩
  · rw [bindTokens, if_neg hsome, if_pos hl]
  · rw [bindTokens, if_neg hsome, if_neg (not_not.2 hl), bindEach_eq]
    refine ⟨?_, agreeingPlaces_cases segments tokens, ?_, values.updated_setAll _⟩
    · rw [List.all_eq_true]
      constructor
      · intro hall own token hplace
        exact of_decide_eq_true (hall _ hplace)
      · rintro hliterals ⟨segment, token⟩ hplace
        cases segment with
        | literal own => exact decide_eq_true (hliterals own token hplace)
        | named written name => rfl
    · intro e he
      exact admits_of_mem_agreeingPlaces he

/-- Variables and literals, one of them behind a variable that repeats a name. -/
def zigzagSegments : List Segment :=
  ["\x7ba\x7d".toList, "x".toList, "\x7bb\x7d".toList, "\x7ba\x7d".toList, "y".toList,
    "\x7bc\x7d".toList].map Segment.ofToken

/-- Tokens of which the last but one differs from its literal. -/
def zigzagTokens : List Text :=
  ["1".toList, "x".toList, "2".toList, "3".toList, "z".toList, "4".toList]

/-- What the host has bound before. -/
def hostValues : Bindings Value :=
  .ofList [("b".toList, .text "shop".toList), ("d".toList, .text "de".toList)]

theorem bindTokens_up_to_first_mismatch_zigzag :
    let after := bindTokens zigzagSegments zigzagTokens hostValues
    after.fits = false ∧ after.values.keys = ["b".toList, "d".toList, "a".toList] ∧
      after.values.get? "a".toList = some (.text "3".toList) ∧
      after.values.get? "b".toList = some (.text "2".toList) ∧
      after.values.get? "d".toList = some (.text "de".toList) ∧
      after.values.get? "c".toList = none := by
  intro after
  obtain ⟨-, -, hbound⟩ :=
    bindTokens_up_to_first_mismatch zigzagSegments zigzagTokens hostValues
  obtain ⟨hfits, -, -, hupdated⟩ := hbound (by decide) rfl
  have hentries : (agreeingPlaces zigzagSegments zigzagTokens).filterMap boundEntry =
      [("a".toList, .text "1".toList), ("b".toList, .text "2".toList),
        ("a".toList, .text "3".toList)] := rfl
  rw [hentries] at hupdated
  refine ⟨?_, ?_, ?_, ?_, ?_, ?_⟩
  · rw [Bool.eq_false_iff, Ne, hfits]
    intro hliterals
    exact absurd (hliterals "y".toList "z".toList (by decide)) (by decide)
  · exact hupdated.keys_eq
  · exact hupdated.last_wins [_, _] "a".toList _ [] rfl (by decide)
  · exact hupdated.last_wins [_] "b".toList _ [_] rfl (by decide)
  · exact hupdated.others_kept "d".toList (by decide)
  · exact hupdated.others_kept "c".toList (by decide)

end UrlRouting
