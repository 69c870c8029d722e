import UrlRouting.Proofs.Url.Authority

/-!
# Paths that are read as URLs

Tokens that are joined by slashes are a path, but read as a URL they may have an authority.
`TakenForAuthority` says which token is taken for one, and `ofUrl_join_iff` that there is no host if and
only if no token is taken for an authority, or the one that is holds no host.
-/

namespace UrlRouting

/-- A text in small letters is empty only if the text is. -/
theorem Text.lowercase_eq_nil_iff (t : Text) : lowercase t = [] ↔ t = [] := by
  cases t with
  | nil => exact iff_of_true rfl rfl
  | cons c cs =>
    have hchar : lowercaseChar [] c cs ≠ [] := by
      unfold lowercaseChar
      split
      · split <;> exact List.cons_ne_nil _ _
      · split <;> exact List.cons_ne_nil _ _
    simp [lowercase, lowercaseFrom, hchar]

namespace Url

/-- The text without tabs and line ends. -/
def withoutLineEnds (t : Text) : Text := t.filter fun c => c != '\t' && c != '\r' && c != '\n'

/-- Of several tokens, joined by slashes, one is taken for an authority: the third one up to a number
sign, if the second one is empty and the first one too, or a scheme with its colon.  Blanks in front, tabs
and line ends do not count. -/
def TakenForAuthority (tokens : List Text) (authority : Text) : Prop :=
  ∃ first second third rest, tokens = first :: second :: third :: rest ∧
    (cleaned first = [] ∨ ∃ scheme, isScheme scheme = true ∧ cleaned first = scheme ++ [':']) ∧
    withoutLineEnds second = [] ∧ authority = Text.upTo '#' (withoutLineEnds third)

/-! ## Cleaning -/

theorem withoutLineEnds_join (tokens : List Text) :
    withoutLineEnds (Text.join ['/'] tokens) = Text.join ['/'] (tokens.map withoutLineEnds) := by
  induction tokens with
  | nil => rfl
  | cons token tokens ih =>
    cases tokens with
    | nil => rfl
    | cons next tokens =>
      rw [Text.join_cons_cons, List.map_cons, List.map_cons, Text.join_cons_cons, ← List.map_cons,
        ← ih]
      simp [withoutLineEnds]

/-- Cleaning joined tokens cleans each of them, blanks being taken from the first one only. -/
theorem cleaned_join_cons (first : Text) (rest : List Text) :
    cleaned (Text.join ['/'] (first :: rest)) =
      Text.join ['/'] (cleaned first :: rest.map withoutLineEnds) := by
  have hcleaned : ∀ t, cleaned t = withoutLineEnds (t.dropWhile (·.toNat ≤ 0x20)) := fun _ => rfl
  have hblanks : (Text.join ['/'] (first :: rest)).dropWhile (·.toNat ≤ 0x20) =
      Text.join ['/'] (first.dropWhile (·.toNat ≤ 0x20) :: rest) := by
    cases rest with
    | nil => rfl
    | cons second rest =>
      rw [Text.join_cons_cons, Text.join_cons_cons, List.append_assoc, List.append_assoc,
        List.dropWhile_append]
      split
      · next hnil =>
        rw [List.isEmpty_iff.1 hnil]
        rfl
      · rfl
  rw [hcleaned, hblanks, withoutLineEnds_join, List.map_cons, hcleaned]

theorem not_mem_withoutLineEnds {t : Text} {c : Char} (h : c ∉ t) : c ∉ withoutLineEnds t :=
  fun hc => h (List.mem_of_mem_filter hc)

theorem not_mem_cleaned {t : Text} {c : Char} (h : c ∉ t) : c ∉ cleaned t :=
  not_mem_withoutLineEnds fun hc => h ((List.dropWhile_suffix _).subset hc)

/-! ## Behind the scheme -/

/-- A scheme can stand in the first token only. -/
theorem schemeAndRest_join_cons (first : Text) (rest : List Text) :
    (schemeAndRest (Text.join ['/'] (first :: rest))).2 =
      Text.join ['/'] ((schemeAndRest first).2 :: rest) := by
  cases rest with
  | nil => rfl
  | cons second rest =>
    rw [Text.join_cons_cons, Text.join_cons_cons, List.append_assoc, List.append_assoc]
    by_cases hcolon : ':' ∈ first
    · obtain ⟨front, behind, rfl, hfront⟩ := List.eq_append_cons_of_mem hcolon
      unfold schemeAndRest
      simp only [List.append_assoc, List.cons_append, Text.upTo_append_cons hfront,
        Text.beyond_append_cons hfront]
      by_cases hscheme : isScheme front = true
      · simp [hscheme]
      · simp [hscheme]
    · have hnone : ∀ t, ':' ∈ t → ¬ isScheme (Text.upTo ':' (first ++ '/' :: t)) = true := by
        intro t ht hscheme
        refine not_mem_of_isScheme hscheme (c := '/') rfl ?_
        rw [Text.upTo_append hcolon, Text.upTo, List.takeWhile_cons_of_pos rfl]
        exact List.mem_append_right _ List.mem_cons_self
      have hfirst : schemeAndRest first = ([], first) := by
        unfold schemeAndRest
        simp [hcolon]
      rw [hfirst]
      unfold schemeAndRest
      simp only [List.singleton_append]
      refine congrArg Prod.snd (if_neg ?_)
      rintro ⟨hmem, hscheme⟩
      rcases List.mem_append.1 hmem with hmem | hmem
      · exact hcolon hmem
      · exact hnone _ ((List.mem_cons.1 hmem).resolve_left (by decide)) hscheme

/-- Behind a scheme nothing stands if there is nothing but a scheme and its colon. -/
theorem schemeAndRest_snd_eq_nil_iff (t : Text) :
    (schemeAndRest t).2 = [] ↔ t = [] ∨ ∃ scheme, isScheme scheme = true ∧ t = scheme ++ [':'] := by
  unfold schemeAndRest
  dsimp only
  by_cases hcolon : ':' ∈ t
  · obtain ⟨front, behind, rfl, hfront⟩ := List.eq_append_cons_of_mem hcolon
    rw [Text.upTo_append_cons hfront, Text.beyond_append_cons hfront]
    have hwhole : ∀ scheme, isScheme scheme = true →
        (front ++ ':' :: behind = scheme ++ [':'] ↔ front = scheme ∧ behind = []) := by
      intro scheme hscheme
      have hfree : ':' ∉ scheme := not_mem_of_isScheme hscheme rfl
      constructor
      · intro heq
        have hup := congrArg (Text.upTo ':') heq
        have hbeyond := congrArg (Text.beyond ':') heq
        rw [Text.upTo_append_cons hfront, Text.upTo_append_cons hfree] at hup
        rw [Text.beyond_append_cons hfront, Text.beyond_append_cons hfree] at hbeyond
        exact ⟨hup, hbeyond⟩
      · rintro ⟨rfl, rfl⟩
        rfl
    by_cases hscheme : isScheme front = true
    · rw [if_pos ⟨hcolon, hscheme⟩]
      constructor
      · rintro rfl
        exact .inr ⟨front, hscheme, rfl⟩
      · rintro (hnil | ⟨scheme, hother, heq⟩)
        · simp at hnil
        · exact ((hwhole scheme hother).1 heq).2
    · rw [if_neg fun h => hscheme h.2]
      refine iff_of_false (by simp) ?_
      rintro (hnil | ⟨scheme, hother, heq⟩)
      · simp at hnil
      · exact hscheme (((hwhole scheme hother).1 heq).1 ▸ hother)
  · rw [if_neg fun h => hcolon h.1]
    refine ⟨.inl, ?_⟩
    rintro (hnil | ⟨scheme, -, rfl⟩)
    · exact hnil
    · exact absurd (by simp) hcolon

/-! ## Behind two slashes -/

/-- An authority stands behind two slashes, or there is none. -/
theorem authorityAndRest_fst (t : Text) :
    (∃ rest, t = '/' :: '/' :: rest ∧
        (authorityAndRest t).1 = rest.takeWhile (!endsAuthority ·)) ∨
      ((∀ rest, t ≠ '/' :: '/' :: rest) ∧ (authorityAndRest t).1 = []) := by
  unfold authorityAndRest
  split
  · next rest => exact .inl ⟨rest, rfl, rfl⟩
  · next hother => exact .inr ⟨hother, rfl⟩

/-- Tokens without slashes begin with two slashes if two of them are empty in front of a third one. -/
theorem join_eq_slashes_iff {tokens : List Text} (hslash : ∀ t ∈ tokens, '/' ∉ t) (rest : Text) :
    Text.join ['/'] tokens = '/' :: '/' :: rest ↔
      ∃ third behind, tokens = [] :: [] :: third :: behind ∧
        rest = Text.join ['/'] (third :: behind) := by
  constructor
  · intro h
    have hne : tokens ≠ [] := by
      rintro rfl
      cases h
    have hsplit := Text.splitAt_join hne hslash
    rw [h, Text.splitAt_cons_self, Text.splitAt_cons_self] at hsplit
    obtain ⟨third, behind, hrest⟩ := List.exists_cons_of_ne_nil (Text.splitAt_ne_nil '/' rest)
    rw [hrest] at hsplit
    refine ⟨third, behind, hsplit.symm, ?_⟩
    rw [← hrest, Text.join_splitAt]
  · rintro ⟨third, behind, rfl, rfl⟩
    rfl

/-- Of tokens without slashes and question marks the first one is cut at a number sign. -/
theorem takeWhile_join_cons {third : Text} (hslash : '/' ∉ third) (hquery : '?' ∉ third)
    (behind : List Text) :
    (Text.join ['/'] (third :: behind)).takeWhile (!endsAuthority ·) = Text.upTo '#' third := by
  have hcut : ∀ rest, (rest = [] ∨ ∃ t, rest = '/' :: t) →
      (third ++ rest).takeWhile (!endsAuthority ·) = Text.upTo '#' third := by
    intro rest hrest
    induction third with
    | nil =>
      rcases hrest with rfl | ⟨t, rfl⟩ <;> rfl
    | cons c third ih =>
      rw [List.mem_cons, not_or] at hslash hquery
      have hends : (!endsAuthority c) = (c != '#') := by
        have hc : (c == '/') = false := beq_eq_false_iff_ne.2 (Ne.symm hslash.1)
        have hq : (c == '?') = false := beq_eq_false_iff_ne.2 (Ne.symm hquery.1)
        rw [endsAuthority, hc, hq]
        rfl
      rw [List.cons_append, List.takeWhile_cons, hends, ih hslash.2 hquery.2, Text.upTo, Text.upTo,
        List.takeWhile_cons]
  cases behind with
  | nil =>
    have hnil := hcut [] (.inl rfl)
    rwa [List.append_nil] at hnil
  | cons next behind =>
    rw [Text.join_cons_cons, List.append_assoc]
    exact hcut _ (.inr ⟨_, rfl⟩)

/-! ## The authority of joined tokens -/

variable {tokens : List Text} {authority : Text}

/-- The authority of joined tokens is the token that is taken for one, and empty without it. -/
theorem authority_split_join (hplain : ∀ t ∈ tokens, '/' ∉ t ∧ '?' ∉ t) :
    TakenForAuthority tokens (split (Text.join ['/'] tokens)).authority ∨
      ((∀ authority, ¬ TakenForAuthority tokens authority) ∧
        (split (Text.join ['/'] tokens)).authority = []) := by
  cases tokens with
  | nil =>
    refine .inr ⟨?_, rfl⟩
    rintro authority ⟨first, second, third, rest, h, -⟩
    cases h
  | cons first others =>
    have hbehind : (schemeAndRest (cleaned (Text.join ['/'] (first :: others)))).2 =
        Text.join ['/'] ((schemeAndRest (cleaned first)).2 :: others.map withoutLineEnds) := by
      rw [cleaned_join_cons, schemeAndRest_join_cons]
    have hauthority : (split (Text.join ['/'] (first :: others))).authority =
        (authorityAndRest
          (Text.join ['/'] ((schemeAndRest (cleaned first)).2 :: others.map withoutLineEnds))).1 := by
      rw [← hbehind]
      rfl
    have hslash : ∀ t ∈ (schemeAndRest (cleaned first)).2 :: others.map withoutLineEnds, '/' ∉ t := by
      intro t ht
      rcases List.mem_cons.1 ht with rfl | ht
      · have hclean := not_mem_cleaned (hplain first List.mem_cons_self).1
        unfold schemeAndRest
        dsimp only
        split
        · exact fun hc => hclean (Text.mem_of_mem_beyond hc)
        · exact hclean
      · obtain ⟨u, hu, rfl⟩ := List.mem_map.1 ht
        exact not_mem_withoutLineEnds (hplain u (List.mem_cons_of_mem _ hu)).1
    rcases authorityAndRest_fst
        (Text.join ['/'] ((schemeAndRest (cleaned first)).2 :: others.map withoutLineEnds)) with
      ⟨rest, hopens, hread⟩ | ⟨hopens, hread⟩
    · obtain ⟨third', behind', htokens, rfl⟩ := (join_eq_slashes_iff hslash rest).1 hopens
      obtain ⟨hfirst, hothers⟩ := List.cons.inj htokens
      obtain ⟨second, more, rfl, hsecond, hmore⟩ := List.map_eq_cons_iff.1 hothers
      obtain ⟨third, behind, rfl, rfl, rfl⟩ := List.map_eq_cons_iff.1 hmore
      have hthird := hplain third (by simp)
      refine .inl ⟨first, second, third, behind, rfl, (schemeAndRest_snd_eq_nil_iff _).1 hfirst,
        hsecond, ?_⟩
      rw [hauthority, hread, takeWhile_join_cons (not_mem_withoutLineEnds hthird.1)
        (not_mem_withoutLineEnds hthird.2)]
    · refine .inr ⟨?_, hauthority.trans hread⟩
      rintro authority ⟨first', second, third, rest, htokens, hfirst, hsecond, -⟩
      obtain ⟨rfl, rfl⟩ := List.cons.inj htokens
      refine hopens _ ((join_eq_slashes_iff hslash _).2
        ⟨withoutLineEnds third, rest.map withoutLineEnds, ?_, rfl⟩)
      rw [(schemeAndRest_snd_eq_nil_iff _).2 hfirst, List.map_cons, List.map_cons, hsecond]

/-- Only one token can be taken for an authority. -/
theorem TakenForAuthority.unique {other : Text} (h : TakenForAuthority tokens authority)
    (hother : TakenForAuthority tokens other) : authority = other := by
  obtain ⟨first, second, third, rest, rfl, -, -, rfl⟩ := h
  obtain ⟨first', second', third', rest', htokens, -, -, rfl⟩ := hother
  cases htokens
  rfl

end Url

namespace Request

/-- A host in small letters is empty only if the host is. -/
theorem normalizedHost_eq_nil_iff (host : Text) : normalizedHost host = [] ↔ host = [] := by
  rw [normalizedHost, List.append_eq_nil_iff, Text.lowercase_eq_nil_iff]
  constructor
  · rintro ⟨hfront, hbehind⟩
    have hwhole : Text.upTo '%' host ++ host.dropWhile (· != '%') = host :=
      List.takeWhile_append_dropWhile
    rw [← hwhole, hfront, hbehind]
    rfl
  · rintro rfl
    exact ⟨rfl, rfl⟩

/-- A URL is read and names no host if its authority is acceptable and holds none. -/
theorem exists_ofUrl_without_host_iff (t : Text) :
    (∃ request, ofUrl t = .ok request ∧ request.host = []) ↔
      Url.Acceptable (Url.split t).authority ∧ Url.hostOf (Url.split t).authority = [] := by
  have hhost : (ofParts (Url.split t)).host = [] ↔ Url.hostOf (Url.split t).authority = [] :=
    normalizedHost_eq_nil_iff _
  rw [← hhost]
  constructor
  · rintro ⟨request, hof, hnone⟩
    obtain ⟨hbrackets, hcharacters, rfl⟩ := ofUrl_eq_ok_iff.1 hof
    exact ⟨Url.checks_eq_ok_iff.1 ⟨hbrackets, hcharacters⟩, hnone⟩
  · rintro ⟨hacceptable, hnone⟩
    exact ⟨_, ofUrl_of_acceptable hacceptable, hnone⟩

/-- Joined tokens are read as a URL that names no host if and only if a token that is taken for an
authority is acceptable and holds none. -/
theorem ofUrl_join_iff {tokens : List Text} (hplain : ∀ t ∈ tokens, '/' ∉ t ∧ '?' ∉ t) :
    (∃ request, ofUrl (Text.join ['/'] tokens) = .ok request ∧ request.host = []) ↔
      ∀ authority, Url.TakenForAuthority tokens authority →
        Url.Acceptable authority ∧ Url.hostOf authority = [] := by
  rw [exists_ofUrl_without_host_iff]
  rcases Url.authority_split_join hplain with htaken | ⟨hnone, hempty⟩
  · exact ⟨fun h authority hother => htaken.unique hother ▸ h, fun h => h _ htaken⟩
  · refine iff_of_true ?_ fun authority htaken => absurd htaken (hnone authority)
    rw [hempty]
    exact ⟨.of_isAscii nofun List.not_mem_nil List.not_mem_nil, rfl⟩

end Request

end UrlRouting
