import UrlRouting.Proofs.Pattern.Canonical

/-!
# Which tokens are variables

A token is a variable if it is a name in braces.  One line feed behind the closing brace is let
through too: `nameOf?_eq_some_iff` says so for a token, and `variables_are_names_in_braces` for tokens
and for whole patterns, whose list of variables has one entry for each token of that form.
-/

namespace UrlRouting

/-- What may stand in the braces of a variable. -/
def IsName (n : Text) : Prop := n ≠ [] ∧ '{' ∉ n ∧ '}' ∉ n

instance (n : Text) : Decidable (IsName n) :=
  inferInstanceAs (Decidable (n ≠ [] ∧ '{' ∉ n ∧ '}' ∉ n))

/-- A name in braces. -/
def braced (n : Text) : Text := '{' :: (n ++ ['}'])

variable {t n : Text}

theorem braced_inj {m : Text} : braced n = braced m ↔ n = m := by
  simp [braced]

/-- A name in braces is not one with a line feed behind. -/
theorem braced_ne_continued (n m : Text) : braced n ≠ braced m ++ ['\n'] := by
  intro h
  have hlast := congrArg List.getLast? h
  simp [braced, List.getLast?_cons] at hlast

namespace Segment

/-- A name reaches up to the first brace. -/
theorem takeWhile_name (h : IsName n) (rest : Text) :
    (n ++ '}' :: rest).takeWhile (fun c => c != '{' && c != '}') = n := by
  have hinside : ∀ c ∈ n, (c != '{' && c != '}') = true := by
    intro c hc
    have hopening : c ≠ '{' := fun heq => h.2.1 (heq ▸ hc)
    have hclosing : c ≠ '}' := fun heq => h.2.2 (heq ▸ hc)
    simp [hopening, hclosing]
  rw [List.takeWhile_append_of_pos hinside, List.takeWhile_cons_of_neg (by decide), List.append_nil]

/-- What stands in front of the first brace holds none. -/
theorem isName_takeWhile {rest : Text}
    (h : rest.takeWhile (fun c => c != '{' && c != '}') ≠ []) :
    IsName (rest.takeWhile fun c => c != '{' && c != '}') := by
  have hall : ∀ c ∈ rest.takeWhile (fun c => c != '{' && c != '}'), (c != '{' && c != '}') = true :=
    List.all_eq_true.1 List.all_takeWhile
  exact ⟨h, fun hc => absurd (hall _ hc) (by decide), fun hc => absurd (hall _ hc) (by decide)⟩

/-- A token binds a name if it is that name in braces, with one line feed behind them at most. -/
theorem nameOf?_eq_some_iff :
    nameOf? t = some n ↔ IsName n ∧ (t = braced n ∨ t = braced n ++ ['\n']) := by
  constructor
  · intro h
    unfold nameOf? at h
    split at h
    · next rest =>
      dsimp only at h
      split at h
      · next hfound =>
        cases h
        have hrest := List.prefix_iff_eq_append.1
          (List.takeWhile_prefix (l := rest) fun c => c != '{' && c != '}')
        refine ⟨isName_takeWhile hfound.1, hfound.2.imp (fun hend => ?_) fun hend => ?_⟩
        · rw [hend] at hrest
          rw [braced, hrest]
        · rw [hend] at hrest
          rw [braced, List.cons_append, List.append_assoc, List.singleton_append, hrest]
      · cases h
    · cases h
  · rintro ⟨hname, rfl | rfl⟩
    · unfold nameOf? braced
      simp only [takeWhile_name hname [], List.drop_left]
      exact if_pos ⟨hname.1, .inl trivial⟩
    · have happend : braced n ++ ['\n'] = '{' :: (n ++ ['}', '\n']) := by simp [braced]
      rw [happend]
      unfold nameOf?
      simp only [takeWhile_name hname ['\n'], List.drop_left]
      exact if_pos ⟨hname.1, .inr trivial⟩

end Segment

/-- A token that is one of two is counted with one or with the other. -/
theorem countP_either {a b : Text} (hne : a ≠ b) (tokens : List Text) :
    tokens.countP (fun t => t == a || t == b) = tokens.count a + tokens.count b := by
  induction tokens with
  | nil => rfl
  | cons t tokens ih =>
    rw [List.countP_cons, List.count_cons, List.count_cons, ih]
    by_cases ha : t = a
    · have hb : t ≠ b := ha ▸ hne
      simp only [ha, beq_self_eq_true, Bool.true_or, if_true, beq_eq_false_iff_ne.2 hne]
      simp
      omega
    · simp [ha]
      omega

/-- Among tokens, a name is bound as often as it stands in braces. -/
theorem count_filterMap_nameOf? (tokens : List Text) (n : Text) :
    (tokens.filterMap Segment.nameOf?).count n =
      if IsName n then tokens.count (braced n) + tokens.count (braced n ++ ['\n']) else 0 := by
  rw [List.count_filterMap]
  split
  · next hname =>
    rw [← countP_either (braced_ne_continued n n)]
    refine List.countP_congr fun t _ => ?_
    simp [Segment.nameOf?_eq_some_iff, hname]
  · next hname =>
    rw [List.countP_eq_zero]
    intro t _ hbinds
    exact hname (Segment.nameOf?_eq_some_iff.1 (beq_iff_eq.1 hbinds)).1

/-- The tokens of a pattern as they are written, those of the host first. -/
def Pattern.writtenTokens (p : Pattern) : List Text := p.spelling.host ++ p.spelling.path

/-- The variables of a pattern that was read are the names that its tokens bind. -/
theorem Pattern.variables_parse (t : Text) :
    (parse t).variables = (parse t).writtenTokens.filterMap Segment.nameOf? := by
  have hside : ∀ tokens : List Text,
      (tokens.map Segment.ofToken).filterMap Segment.name? = tokens.filterMap Segment.nameOf? := by
    intro tokens
    rw [List.filterMap_map]
    have hname : Segment.name? ∘ Segment.ofToken = Segment.nameOf? :=
      funext Segment.name?_ofToken
    rw [hname]
  rw [writtenTokens, ← pattern_spelling t, Spelling.spelling_pattern, Pattern.variables, segments,
    Spelling.pattern, List.filterMap_append, hside, hside, List.filterMap_append]

/-- **Variables are names in braces.**  A text is, as a token, a variable of some name if and only if it
is the name in braces, with one line feed behind them at most; so just the names in braces are
variables, unless the text is one with a line feed behind.  A token that is no variable stands for
itself.  The variables of the pattern that the text is read as have one entry for each token of its
host and of its path that is of that form. -/
theorem variables_are_names_in_braces (t : Text) :
    (∀ n, (Segment.ofToken t).name? = some n ↔
      IsName n ∧ (t = braced n ∨ t = braced n ++ ['\n'])) ∧
    ((∀ n, (Segment.ofToken t).name? = some n ↔ IsName n ∧ t = braced n) ↔
      ∀ n, IsName n → t ≠ braced n ++ ['\n']) ∧
    ((∀ n, (Segment.ofToken t).name? ≠ some n) → Segment.ofToken t = .literal t) ∧
    ∀ n, (Pattern.parse t).variables.count n =
      if IsName n then
        (Pattern.parse t).writtenTokens.count (braced n) +
          (Pattern.parse t).writtenTokens.count (braced n ++ ['\n'])
      else 0 := by
  have hread : ∀ n, (Segment.ofToken t).name? = some n ↔
      IsName n ∧ (t = braced n ∨ t = braced n ++ ['\n']) := by
    intro n
    rw [Segment.name?_ofToken, Segment.nameOf?_eq_some_iff]
  refine ⟨hread, ⟨fun honly n hname hline => ?_, fun hnone n => ?_⟩, fun hnone => ?_, fun n => ?_⟩
  · have hbraced := ((honly n).1 ((hread n).2 ⟨hname, .inr hline⟩)).2
    exact braced_ne_continued n n (hbraced.symm.trans hline)
  · rw [hread]
    exact and_congr_right fun hname => or_iff_left (hnone n hname)
  · rw [Segment.ofToken]
    cases hname : Segment.nameOf? t with
    | none => rfl
    | some n => exact absurd ((Segment.name?_ofToken t).trans hname) (hnone n)
  · rw [Pattern.variables_parse, count_filterMap_nameOf?]

/-- Braces inside braces, braces at one end and empty braces make no variable. -/
theorem variables_are_names_in_braces_nested :
    (Segment.ofToken "\x7barea\x7d".toList).name? = some "area".toList ∧
      Segment.ofToken "\x7b\x7bid\x7d\x7d".toList = .literal "\x7b\x7bid\x7d\x7d".toList ∧
      (Pattern.parse "http://\x7ba\x7d.com/\x7b\x7d/\x7ba\x7d/x\x7ba\x7d".toList).variables.count
        "a".toList = 2 := by
  refine ⟨?_, ?_, ?_⟩
  · exact ((variables_are_names_in_braces _).1 _).2 ⟨by decide, .inl rfl⟩
  · refine (variables_are_names_in_braces _).2.2.1 fun n hn => ?_
    obtain ⟨hname, heq | heq⟩ := ((variables_are_names_in_braces _).1 n).1 hn
    · have hinner : n = "\x7bid\x7d".toList := braced_inj.1 heq.symm
      exact absurd (hinner ▸ hname) (by decide)
    · have hlast := congrArg List.getLast? heq
      rw [List.getLast?_concat] at hlast
      exact absurd hlast (by decide)
  · rw [(variables_are_names_in_braces _).2.2.2]
    decide

/-- A token need not be a name in braces to be a variable: a line feed may stand behind them. -/
theorem braces_need_not_span_token :
    ¬ ∀ t n, (Segment.ofToken t).name? = some n ↔ IsName n ∧ t = braced n := by
  intro h
  have hvariable : (Segment.ofToken "\x7ba\x7d\n".toList).name? = some "a".toList := rfl
  exact absurd ((h _ _).1 hvariable).2 (by decide)

end UrlRouting
