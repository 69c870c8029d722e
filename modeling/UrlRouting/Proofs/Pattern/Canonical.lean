import UrlRouting.Pattern.Basic
import UrlRouting.Proofs.Pattern.Scheme
import UrlRouting.Proofs.Pattern.Tokens

/-!
# Canonical texts of patterns

A pattern is spelled by its scheme and by the tokens of its host and of its path.  Which spellings
there are is said by `Spelling.WellFormed`, without reading anything: no token holds a delimiter,
no side is a single empty token, and there is a scheme, or a host of several tokens alone, or a
path alone.  The main statement is `parse_canonical_spelling`: every pattern is read as one of
these spellings, and each of them is read back, token by token, from its canonical text.
-/

namespace UrlRouting

/-! ## Spellings -/

/-- What a pattern is spelled with. -/
structure Spelling where
  scheme : Option Text
  host : List Text
  path : List Text
  deriving Repr, DecidableEq

namespace Spelling

/-- The shapes of a spelling. -/
inductive HasShape : Spelling → Prop
  /-- A scheme, with whatever follows it. -/
  | schemed {scheme : Text} (h : isSmallScheme scheme = true) (host path : List Text) :
      HasShape ⟨some scheme, host, path⟩
  /-- A host of several tokens alone. -/
  | hostAlone {host : List Text} (h : 2 ≤ host.length) : HasShape ⟨none, host, []⟩
  /-- A path alone. -/
  | pathAlone (path : List Text) : HasShape ⟨none, [], path⟩

/-- The spellings that patterns are read as. -/
structure WellFormed (w : Spelling) : Prop where
  host_free : ∀ token ∈ w.host, '.' ∉ token ∧ '/' ∉ token ∧ '?' ∉ token
  path_free : ∀ token ∈ w.path, '/' ∉ token ∧ '?' ∉ token
  host_ne : w.host ≠ [[]]
  path_ne : w.path ≠ [[]]
  shape : w.HasShape

/-- The canonical text of a spelling.  A path stands between two slashes, which keeps empty tokens
at its ends. -/
def canonical : Spelling → Text
  | ⟨some scheme, host, path⟩ =>
      scheme ++ ("://" : Text) ++ Text.join ['.'] host ++ ("//" : Text) ++
        Text.join ['/'] path ++ ['/']
  | ⟨none, [], path⟩ => '/' :: (Text.join ['/'] path ++ ['/'])
  | ⟨none, host, _⟩ => Text.join ['.'] host

/-- The pattern with a spelling. -/
def pattern (w : Spelling) : Pattern where
  scheme := w.scheme
  host := w.host.map Segment.ofToken
  path := w.path.map Segment.ofToken

/-- The spelling of the parts that a pattern is written with. -/
def ofParts (parts : Option Text × Text × Text) : Spelling where
  scheme := parts.1
  host := hostTokens parts.2.1
  path := pathTokens parts.2.2

end Spelling

/-- The spelling of a pattern. -/
def Pattern.spelling (p : Pattern) : Spelling where
  scheme := p.scheme
  host := p.host.map Segment.token
  path := p.path.map Segment.token

/-- A pattern shows the tokens that it was made from. -/
@[simp] theorem Spelling.spelling_pattern (w : Spelling) : w.pattern.spelling = w := by
  have htokens : ∀ tokens : List Text, (tokens.map Segment.ofToken).map Segment.token = tokens := by
    intro tokens
    rw [List.map_map]
    exact (List.map_congr_left fun t _ => Segment.token_ofToken t).trans (List.map_id' tokens)
  rw [Pattern.spelling, pattern, htokens, htokens]

/-- A pattern is read part by part. -/
theorem Pattern.parse_eq (t : Text) :
    parse t = (Spelling.ofParts (parts (Text.upTo '?' t))).pattern := rfl

/-! ## The parts of a written pattern -/

namespace Pattern

/-- The parts that a text can be read as. -/
inductive Parted (t : Text) : Option Text × Text × Text → Prop
  /-- A host and a path behind a scheme. -/
  | schemed {written host path : Text} (hscheme : isScheme written = true) (hhost : '/' ∉ host)
      (hsub : ∀ c, c ∈ host ∨ c ∈ path → c ∈ t) :
      Parted t (some (written.map Char.toLower), host, path)
  /-- A host with a dot in it. -/
  | hostAlone {host : Text} (hdot : '.' ∈ host) (hhost : '/' ∉ host) (hsub : ∀ c ∈ host, c ∈ t) :
      Parted t (none, host, [])
  /-- A path. -/
  | pathAlone : Parted t (none, [], t)

/-- How a text is read. -/
theorem parted_parts (t : Text) : Parted t (parts t) := by
  unfold parts
  split
  · next scheme rest hscheme =>
    obtain ⟨written, hwritten, rfl, rfl⟩ := (schemeAndRest?_eq_some_iff _ _ _).1 hscheme
    refine .schemed hwritten (Text.not_mem_upTo '/' rest) ?_
    intro c hc
    have hrest : c ∈ rest := hc.elim Text.mem_of_mem_upTo Text.mem_of_mem_beyond
    simp [hrest]
  · dsimp only
    split
    · next hhost =>
      exact .hostAlone hhost.1 (Text.not_mem_upTo '/' t) fun c hc => Text.mem_of_mem_upTo hc
    · exact .pathAlone

theorem parts_schemed {scheme host path : Text} (hscheme : isSmallScheme scheme = true)
    (hhost : '/' ∉ host) :
    parts (scheme ++ ("://" : Text) ++ host ++ '/' :: path) = (some scheme, host, path) := by
  obtain ⟨hwritten, hlower⟩ := isScheme_of_isSmallScheme hscheme
  have hread : schemeAndRest? (scheme ++ ("://" : Text) ++ host ++ '/' :: path) =
      some (scheme, host ++ '/' :: path) :=
    (schemeAndRest?_eq_some_iff _ _ _).2 ⟨scheme, hwritten, hlower.symm, by simp⟩
  unfold parts
  rw [hread]
  dsimp only
  rw [Text.upTo_append_cons hhost, Text.beyond_append_cons hhost]

theorem parts_hostAlone {host : Text} (hdot : '.' ∈ host) (hhost : '/' ∉ host) :
    parts host = (none, host, []) := by
  unfold parts
  rw [schemeAndRest?_of_not_mem hhost]
  dsimp only
  rw [Text.upTo_of_not_mem hhost, Text.beyond_of_not_mem hhost, if_pos ⟨hdot, rfl⟩]

theorem parts_pathAlone (path : Text) : parts ('/' :: path) = (none, [], '/' :: path) := rfl

end Pattern

/-! ## What is read is well formed -/

/-- A host with a dot in it has several tokens. -/
theorem two_le_length_hostTokens {host : Text} (h : '.' ∈ host) :
    2 ≤ (hostTokens host).length := by
  have hjoin : Text.join ['.'] (hostTokens host) = host := join_hostTokens host
  cases htokens : hostTokens host with
  | nil =>
    rw [htokens] at hjoin
    rw [← hjoin] at h
    cases h
  | cons token tokens =>
    cases tokens with
    | nil =>
      rw [htokens] at hjoin
      have htoken : token ∈ hostTokens host := by rw [htokens]; exact List.mem_singleton_self _
      have hhost : token = host := hjoin
      exact absurd (hhost ▸ h) (of_mem_hostTokens htoken).1
    | cons second tokens => simp

namespace Spelling

/-- The parts of a text without a query are spelled well. -/
theorem wellFormed_ofParts {t : Text} (hquery : '?' ∉ t) {parts : Option Text × Text × Text}
    (h : Pattern.Parted t parts) : (ofParts parts).WellFormed := by
  have hhost : '/' ∉ parts.2.1 := by
    cases h with
    | schemed _ hhost _ => exact hhost
    | hostAlone _ hhost _ => exact hhost
    | pathAlone => exact List.not_mem_nil
  have hsub : ∀ c, c ∈ parts.2.1 ∨ c ∈ parts.2.2 → c ∈ t := by
    intro c hc
    cases h with
    | schemed _ _ hsub => exact hsub c hc
    | hostAlone _ _ hsub => exact hc.elim (hsub c) fun hc => absurd hc List.not_mem_nil
    | pathAlone => exact hc.elim (fun hc => absurd hc List.not_mem_nil) id
  refine ⟨?_, ?_, hostTokens_ne _, pathTokens_ne _, ?_⟩
  · intro token htoken
    obtain ⟨hdot, hchars⟩ := of_mem_hostTokens htoken
    exact ⟨hdot, fun hc => hhost (hchars _ hc), fun hc => hquery (hsub _ (.inl (hchars _ hc)))⟩
  · intro token htoken
    obtain ⟨hslash, hchars⟩ := of_mem_pathTokens htoken
    exact ⟨hslash, fun hc => hquery (hsub _ (.inr (hchars _ hc)))⟩
  · cases h with
    | schemed hscheme _ _ => exact .schemed (isSmallScheme_map_toLower hscheme) _ _
    | hostAlone hdot _ _ => exact .hostAlone (two_le_length_hostTokens hdot)
    | pathAlone => exact .pathAlone _

/-! ## What is spelled well is read back -/

/-- The canonical text of several tokens of a host is that of the host. -/
theorem canonical_hostAlone {host : List Text} (h : 2 ≤ host.length) :
    canonical ⟨none, host, []⟩ = Text.join ['.'] host := by
  cases host with
  | nil => simp at h
  | cons token tokens => rfl

/-- A character of a joined side that is no separator is one of a token. -/
theorem not_mem_join {sep c : Char} {tokens : List Text} (hsep : c ≠ sep)
    (h : ∀ token ∈ tokens, c ∉ token) : c ∉ Text.join [sep] tokens := by
  intro hc
  rcases Text.mem_of_mem_join hc with hc | ⟨token, htoken, hc⟩
  · exact hsep (List.mem_singleton.1 hc)
  · exact h token htoken hc

/-- A host of several tokens has a dot. -/
theorem dot_mem_join {host : List Text} (h : 2 ≤ host.length) : '.' ∈ Text.join ['.'] host := by
  match host with
  | [] => simp at h
  | [_] => simp at h
  | p :: q :: ps => simp [Text.join_cons_cons]

/-- A canonical text has no query. -/
theorem WellFormed.not_mem_canonical {w : Spelling} (h : w.WellFormed) : '?' ∉ w.canonical := by
  have hhost : '?' ∉ Text.join ['.'] w.host :=
    not_mem_join (by decide) fun token htoken => (h.host_free token htoken).2.2
  have hpath : '?' ∉ Text.join ['/'] w.path :=
    not_mem_join (by decide) fun token htoken => (h.path_free token htoken).2
  cases h.shape with
  | @schemed scheme hscheme host path =>
    have hwritten := (isScheme_of_isSmallScheme hscheme).1
    have hq : '?' ∉ scheme := not_mem_of_isScheme hwritten (by decide)
    simp_all [canonical]
  | hostAlone hlength =>
    rw [canonical_hostAlone hlength]
    exact hhost
  | pathAlone path => simp_all [canonical]

/-- The parts of a canonical text are the scheme and the two sides, the path between slashes. -/
theorem WellFormed.ofParts_canonical {w : Spelling} (h : w.WellFormed) :
    ofParts (Pattern.parts w.canonical) = w := by
  have hdots : ∀ token ∈ w.host, '.' ∉ token := fun token htoken => (h.host_free token htoken).1
  have hslashes : ∀ token ∈ w.path, '/' ∉ token := fun token htoken => (h.path_free token htoken).1
  have hslash : '/' ∉ Text.join ['.'] w.host :=
    not_mem_join (by decide) fun token htoken => (h.host_free token htoken).2.1
  have hhost : hostTokens (Text.join ['.'] w.host) = w.host := hostTokens_join hdots h.host_ne
  have hpath : pathTokens ('/' :: (Text.join ['/'] w.path ++ ['/'])) = w.path :=
    pathTokens_enclosed hslashes h.path_ne
  cases h.shape with
  | @schemed scheme hscheme host path =>
    have htext : canonical ⟨some scheme, host, path⟩ = scheme ++ ("://" : Text) ++
        Text.join ['.'] host ++ '/' :: ('/' :: (Text.join ['/'] path ++ ['/'])) := by
      simp [canonical]
    rw [htext, Pattern.parts_schemed hscheme hslash, ofParts, hhost, hpath]
  | @hostAlone host hlength =>
    rw [canonical_hostAlone hlength, Pattern.parts_hostAlone (dot_mem_join hlength) hslash,
      ofParts, hhost]
    rfl
  | pathAlone path =>
    have htext : canonical ⟨none, [], path⟩ = '/' :: (Text.join ['/'] path ++ ['/']) := rfl
    rw [htext, Pattern.parts_pathAlone, ofParts, hpath]
    rfl

end Spelling

/-- A pattern is read as something that is spelled well. -/
theorem Pattern.wellFormed_spelling (t : Text) : (parse t).spelling.WellFormed := by
  rw [parse_eq, Spelling.spelling_pattern]
  exact Spelling.wellFormed_ofParts (Text.not_mem_upTo '?' t) (parted_parts _)

/-- What is spelled well is read back from its canonical text. -/
theorem Spelling.WellFormed.parse_canonical {w : Spelling} (h : w.WellFormed) :
    Pattern.parse w.canonical = w.pattern := by
  rw [Pattern.parse_eq, Text.upTo_of_not_mem h.not_mem_canonical, h.ofParts_canonical]

/-- A pattern that was read is the one with its own spelling. -/
theorem Pattern.pattern_spelling (t : Text) : (parse t).spelling.pattern = parse t := by
  rw [parse_eq, Spelling.spelling_pattern]

/-- **Patterns have canonical texts.**  Every text is read as a pattern that is spelled well, each
of whose segments is the one that its own token is read as.  Every spelling like that is read
back from its canonical text, segment by segment.  So reading the canonical text of a pattern
that was read gives the same pattern. -/
theorem Pattern.parse_canonical_spelling :
    (∀ t, (parse t).spelling.WellFormed ∧ (parse t).spelling.pattern = parse t) ∧
    (∀ w : Spelling, w.WellFormed →
      (parse w.canonical).spelling = w ∧
        (parse w.canonical).host = w.host.map Segment.ofToken ∧
        (parse w.canonical).path = w.path.map Segment.ofToken) ∧
    ∀ t, parse (parse t).spelling.canonical = parse t := by
  refine ⟨fun t => ⟨wellFormed_spelling t, pattern_spelling t⟩, ?_, ?_⟩
  · intro w hw
    rw [hw.parse_canonical]
    exact ⟨w.spelling_pattern, rfl, rfl⟩
  · intro t
    rw [(wellFormed_spelling t).parse_canonical, pattern_spelling]

/-- A spelling with empty tokens on both sides, and with dots and a colon in a path behind a
scheme. -/
def archive : Spelling where
  scheme := some "svn+ssh".toList
  host := [[], "\x7bcompany\x7d".toList, "com:8080".toList]
  path := [[], "v1.2".toList, "\x7bfile\x7d".toList, "http:".toList, []]

theorem Pattern.parse_canonical_spelling_archive :
    archive.WellFormed ∧
      archive.canonical = "svn+ssh://.\x7bcompany\x7d.com:8080///v1.2/\x7bfile\x7d/http://".toList ∧
      (parse archive.canonical).spelling = archive := by
  have hwell : archive.WellFormed :=
    ⟨by decide, by decide, by decide, by decide, .schemed (by decide) _ _⟩
  exact ⟨hwell, by decide, (parse_canonical_spelling.2.1 archive hwell).1⟩

end UrlRouting
