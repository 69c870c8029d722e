import UrlRouting.Proofs.Pattern.Canonical
import UrlRouting.Proofs.Route.Coherence
import UrlRouting.Proofs.Route.RoundTrip
import UrlRouting.Proofs.Url.Written

/-!
# Generated URLs that lead back

A route with a host, whose literals and values are words, writes a URL that is read as a request for
the same tokens, except that its host goes to small letters.  So the route matches its own URL if
and only if no literal of its host has a capital letter: `generated_url_leads_back_iff`.
-/

namespace UrlRouting

/-! ## Words -/

namespace Text

/-- Whether the character may stand in a word: a letter or a digit of ASCII, a minus or a low
line. -/
def isWordLetter (c : Char) : Bool := isAsciiLetter c || isAsciiDigit c || c == '-' || c == '_'

/-- Whether a text is a word. -/
def IsWord (t : Text) : Prop := t ≠ [] ∧ ∀ c ∈ t, isWordLetter c = true

instance (t : Text) : Decidable (IsWord t) :=
  decidable_of_iff (t ≠ [] ∧ t.all isWordLetter = true) (and_congr Iff.rfl List.all_eq_true)

variable {c d : Char} {t : Text}

theorem toNat_of_isWordLetter (h : isWordLetter c = true) : c.toNat < 128 := by
  simp only [isWordLetter, Bool.or_eq_true, beq_iff_eq, isAsciiLetter_iff, isAsciiDigit_iff] at h
  rcases h with ((h | h) | rfl) | rfl
  · omega
  · omega
  · decide
  · decide

/-- A character that may not stand in a word does not. -/
theorem IsWord.not_mem (h : t.IsWord) (hd : isWordLetter d = false) : d ∉ t := by
  intro hmem
  rw [h.2 d hmem] at hd
  cases hd

/-- The small form of a word is a word. -/
theorem IsWord.map_toLower (h : t.IsWord) : IsWord (t.map Char.toLower) := by
  refine ⟨mt List.map_eq_nil_iff.1 h.1, fun c hc => ?_⟩
  obtain ⟨d, hd, rfl⟩ := List.mem_map.1 hc
  have hword := h.2 d hd
  have heq : ∀ e f : Char, (e == f) = true ↔ e.toNat = f.toNat := fun e f => by
    rw [beq_iff_eq, Char.toNat_inj]
  simp only [isWordLetter, Bool.or_eq_true, isAsciiLetter_iff, isAsciiDigit_iff, heq,
    toNat_toLower] at hword ⊢
  split <;> omega

/-- A text is its own small form if and only if it has no capital letter. -/
theorem map_toLower_eq_self_iff : t.map Char.toLower = t ↔ ∀ c ∈ t, ¬ c.isUpper = true := by
  have hchar : ∀ c : Char, c.toLower = c ↔ ¬ c.isUpper = true := by
    intro c
    have hupper : c.isUpper = true ↔ 65 ≤ c.toNat ∧ c.toNat ≤ 90 := by
      have hdef : c.isUpper = decide (c.val ≥ 'A'.val ∧ c.val ≤ 'Z'.val) := rfl
      rw [hdef, decide_eq_true_eq, ge_iff_le, UInt32.le_iff_toNat_le, UInt32.le_iff_toNat_le]
      rfl
    rw [hupper, ← Char.toNat_inj, toNat_toLower]
    split <;> omega
  simp only [← hchar]
  induction t with
  | nil => simp
  | cons c cs ih => simp [ih]

/-- Joined pieces go to small letters piece by piece, if the separator is none that does. -/
theorem map_toLower_join {sep : Char} (hsep : sep.toLower = sep) (ps : List Text) :
    (join [sep] ps).map Char.toLower = join [sep] (ps.map (·.map Char.toLower)) := by
  induction ps with
  | nil => rfl
  | cons p ps ih =>
    cases ps with
    | nil => rfl
    | cons q qs =>
      rw [join_cons_cons, List.map_append, List.map_append, ih, List.map_singleton, hsep]
      rfl

end Text

/-! ## Segments filled with words -/

/-- The token of a segment by the given values; a variable without a value has none. -/
def Segment.filled (values : Bindings Value) (segment : Segment) : Text :=
  (segment.token? values).getD []

/-- A variable is filled with the text it is given. -/
theorem Segment.filled_named {values : Bindings Value} {name word : Text}
    (h : values.get? name = some (.text word)) (written : Text) :
    (Segment.named written name).filled values = word := by
  rw [filled, token?, h]
  rfl

/-- Without defaults no token repeats one. -/
theorem repeatsDefault_empty (segment : Segment) (token : Text) :
    repeatsDefault .empty segment token = false := by
  cases segment <;> rfl

/-- Without defaults a brief filling leaves out nothing. -/
theorem briefTokens_empty {segments : List Segment} {tokens : List Text}
    (h : segments.length = tokens.length) : briefTokens .empty segments tokens = tokens := by
  have hall : (segments.zip tokens).rdropWhile (fun e => repeatsDefault .empty e.1 e.2) =
      segments.zip tokens := by
    rw [List.rdropWhile_eq_self_iff]
    intro hne
    rw [repeatsDefault_empty]
    exact Bool.false_ne_true
  rw [briefTokens, hall, List.map_snd_zip h.ge]

/-- A segment that is given a token stands beside it. -/
theorem mem_zip_map {segments : List Segment} {segment : Segment} (h : segment ∈ segments)
    (token : Segment → Text) : (segment, token segment) ∈ segments.zip (segments.map token) := by
  induction segments with
  | nil => cases h
  | cons first segments ih =>
    rw [List.map_cons, List.zip_cons_cons]
    rcases List.mem_cons.1 h with rfl | h
    · exact List.mem_cons_self
    · exact List.mem_cons_of_mem _ (ih h)

namespace Route

/-- A route whose URLs are made of words: it has a host, neither defaults nor rules, no name twice in
its pattern, and words for literals. -/
structure MadeOfWords (r : Route) : Prop where
  coherent : r.Coherent
  host : r.pattern.host ≠ []
  distinct : r.pattern.variables.Nodup
  defaults : r.defaults = .empty
  constraints : r.constraints.getD .empty = .empty
  literals : ∀ own, Segment.literal own ∈ r.pattern.segments → own.IsWord

/-- Values that give every variable of a route a word. -/
def SuppliedBy (r : Route) (values : Bindings Value) : Prop :=
  ∀ name ∈ r.pattern.variables, ∃ word, values.get? name = some (.text word) ∧ word.IsWord


variable {r : Route} {values : Bindings Value}

/-- Every segment is filled, with a word. -/
theorem MadeOfWords.filled (hr : r.MadeOfWords) (hvalues : r.SuppliedBy values) {segment : Segment}
    (h : segment ∈ r.pattern.segments) :
    segment.token? values = some (segment.filled values) ∧ (segment.filled values).IsWord := by
  cases segment with
  | literal own => exact ⟨rfl, hr.literals own h⟩
  | named written name =>
    have hname : name ∈ r.pattern.variables := List.mem_filterMap.2 ⟨_, h, rfl⟩
    obtain ⟨word, hget, hword⟩ := hvalues name hname
    rw [Segment.filled_named hget, Segment.token?, hget]
    exact ⟨rfl, hword⟩

/-- A side of the pattern has its filled segments for tokens. -/
theorem MadeOfWords.resolved (hr : r.MadeOfWords) (hvalues : r.SuppliedBy values)
    {side : List Segment} (h : ∀ segment ∈ side, segment ∈ r.pattern.segments) :
    Resolved values .empty side (side.map (·.filled values)) := by
  refine List.forall₂_map_right_iff.2 (List.forall₂_same.2 fun segment hsegment => ?_)
  exact (hr.filled hvalues (h segment hsegment)).1

theorem mem_segments_of_mem_host {segment : Segment} (h : segment ∈ r.pattern.host) :
    segment ∈ r.pattern.segments :=
  List.mem_append_left _ h

theorem mem_segments_of_mem_path {segment : Segment} (h : segment ∈ r.pattern.path) :
    segment ∈ r.pattern.segments :=
  List.mem_append_right _ h

/-- The tokens of the host that is written. -/
theorem MadeOfWords.hostFor_eq (hr : r.MadeOfWords) (hvalues : r.SuppliedBy values) :
    r.hostFor values = r.pattern.host.map (·.filled values) := by
  rw [hostFor, hr.defaults]
  exact fillFully_eq (hr.resolved hvalues fun _ => mem_segments_of_mem_host)

/-- The tokens of the path that is written. -/
theorem MadeOfWords.pathFor_eq (hr : r.MadeOfWords) (hvalues : r.SuppliedBy values) :
    r.pathFor values = r.pattern.path.map (·.filled values) := by
  rw [pathFor, hr.defaults,
    fillBriefly_eq_briefTokens (hr.resolved hvalues fun _ => mem_segments_of_mem_path),
    briefTokens_empty (by simp)]

/-! ## The URL that is written -/

/-- The URL of a route for the given values, part by part. -/
def written (r : Route) (values : Bindings Value) : WrittenUrl where
  scheme := r.schemeFor none
  userinfo := none
  host := Text.join ['.'] (r.pattern.host.map (·.filled values))
  port := none
  path := '/' :: Text.join ['/'] (r.pattern.path.map (·.filled values))
  query := none
  fragment := none

/-- The URL that is generated is the written one. -/
theorem MadeOfWords.generate?_eq (hr : r.MadeOfWords) (hvalues : r.SuppliedBy values) :
    r.generate? ⟨some values, none, none⟩ = some ⟨(r.written values).text, r.dataTokens⟩ := by
  have hcontext : (⟨some values, none, none⟩ : UrlDemand).context = values :=
    Bindings.empty_overlay values
  rw [generate?_eq_some_iff, hcontext, hr.hostFor_eq hvalues, hr.pathFor_eq hvalues]
  refine ⟨hr.coherent.accepts_of_no_rules hr.constraints values, ?_⟩
  rw [urlText, if_neg hr.host]
  simp [written, WrittenUrl.text, WrittenUrl.authority, WrittenUrl.behind, WrittenUrl.portPart,
    WrittenUrl.queryPart, WrittenUrl.fragmentPart]

/-- The scheme of a pattern is one that a URL may have. -/
theorem Coherent.isScheme_schemeFor (h : r.Coherent) : isScheme (r.schemeFor none) = true := by
  have hscheme : r.schemeFor none = r.pattern.scheme.getD ("http" : Text) := rfl
  rw [hscheme]
  cases hs : r.pattern.scheme with
  | none => rfl
  | some scheme =>
    have hshape := (Pattern.wellFormed_spelling r.urlPattern).shape
    rw [← h.pattern_eq] at hshape
    have hspelled : r.pattern.spelling.scheme = some scheme := hs
    generalize r.pattern.spelling = spelling at hshape hspelled
    cases hshape with
    | schemed hsmall host path =>
      cases hspelled
      exact (isScheme_of_isSmallScheme hsmall).1
    | hostAlone _ => cases hspelled
    | pathAlone _ => cases hspelled

/-- What the URL is written with besides the scheme: letters of words, dots and slashes. -/
theorem MadeOfWords.of_mem_written (hr : r.MadeOfWords) (hvalues : r.SuppliedBy values) {c : Char} :
    (c ∈ (r.written values).host → c = '.' ∨ Text.isWordLetter c = true) ∧
      (c ∈ (r.written values).path → c = '/' ∨ Text.isWordLetter c = true) := by
  have hside : ∀ side : List Segment, (∀ segment ∈ side, segment ∈ r.pattern.segments) →
      ∀ sep, c ∈ Text.join [sep] (side.map (·.filled values)) →
        c = sep ∨ Text.isWordLetter c = true := by
    intro side hsub sep hc
    rcases Text.mem_of_mem_join hc with hc | ⟨token, htoken, hc⟩
    · exact .inl (List.mem_singleton.1 hc)
    · obtain ⟨segment, hsegment, rfl⟩ := List.mem_map.1 htoken
      exact .inr ((hr.filled hvalues (hsub segment hsegment)).2.2 c hc)
  refine ⟨hside _ (fun _ => mem_segments_of_mem_host) '.', fun hc => ?_⟩
  rcases List.mem_cons.1 hc with rfl | hc
  · exact .inl rfl
  · exact hside _ (fun _ => mem_segments_of_mem_path) '/' hc

/-- The written URL is well formed. -/
theorem MadeOfWords.wellFormed_written (hr : r.MadeOfWords) (hvalues : r.SuppliedBy values) :
    (r.written values).WellFormed := by
  have hscheme := hr.coherent.isScheme_schemeFor
  have hauthority : (r.written values).authority = (r.written values).host := List.append_nil _
  -- a character that is none of a word and no separator is not in the URL behind its scheme
  have hhost : ∀ c, c ≠ '.' → Text.isWordLetter c = false → c ∉ (r.written values).host := by
    intro c hdot hword hc
    rcases (hr.of_mem_written hvalues).1 hc with h | h
    · exact hdot h
    · rw [hword] at h
      cases h
  have hpath : ∀ c, c ≠ '/' → Text.isWordLetter c = false → c ∉ (r.written values).path := by
    intro c hslash hword hc
    rcases (hr.of_mem_written hvalues).2 hc with h | h
    · exact hslash h
    · rw [hword] at h
      cases h
  refine ⟨hscheme, ?_, ?_, ?_, List.not_mem_nil, .inr rfl, ?_, List.not_mem_nil, ?_⟩
  · intro c hc
    rw [hauthority] at hc
    rcases (hr.of_mem_written hvalues).1 hc with rfl | h
    · decide
    · exact Text.toNat_of_isWordLetter h
  · rw [hauthority]
    have hplain : ∀ c ∈ ['/', '?', '#', '[', ']'], c ≠ '.' ∧ Text.isWordLetter c = false := by
      simp only [List.mem_cons, List.not_mem_nil, or_false, forall_eq_or_imp, forall_eq]
      decide
    exact fun c hc => hhost c (hplain c hc).1 (hplain c hc).2
  · have hplain : ∀ c ∈ ['@', ':', '%'], c ≠ '.' ∧ Text.isWordLetter c = false := by
      simp only [List.mem_cons, List.not_mem_nil, or_false, forall_eq_or_imp, forall_eq]
      decide
    exact fun c hc => hhost c (hplain c hc).1 (hplain c hc).2
  · exact ⟨hpath '?' (by decide) (by decide), hpath '#' (by decide) (by decide)⟩
  · intro c hc hmem
    have hplain : ∀ c ∈ ['\t', '\r', '\n'], c ≠ '.' ∧ c ≠ '/' ∧ c ≠ ':' ∧
        Text.isWordLetter c = false ∧ isSchemeChar c = false := by
      simp only [List.mem_cons, List.not_mem_nil, or_false, forall_eq_or_imp, forall_eq]
      decide
    obtain ⟨hdot, hslash, hcolon, hword, hschemed⟩ := hplain c hc
    have hbehind : (r.written values).behind = (r.written values).path := by
      simp [WrittenUrl.behind, WrittenUrl.queryPart, WrittenUrl.fragmentPart, written]
    rw [WrittenUrl.text, hauthority, hbehind] at hmem
    simp only [List.mem_append, List.mem_cons, hcolon, hslash, false_or] at hmem
    rcases hmem with h | h | h
    · exact not_mem_of_isScheme hscheme hschemed h
    · exact hhost c hdot hword h
    · exact hpath c hslash hword h

/-- The tokens of the host that the written URL asks for: those of the segments, in small letters. -/
theorem MadeOfWords.hostTokens_request (hr : r.MadeOfWords) (hvalues : r.SuppliedBy values) :
    hostTokens (r.written values).request.host =
      r.pattern.host.map fun segment => (segment.filled values).map Char.toLower := by
  have hwords : ∀ token ∈ r.pattern.host.map (fun segment =>
      (segment.filled values).map Char.toLower), Text.IsWord token := by
    intro token htoken
    obtain ⟨segment, hsegment, rfl⟩ := List.mem_map.1 htoken
    exact (hr.filled hvalues (mem_segments_of_mem_host hsegment)).2.map_toLower
  rw [(hr.wellFormed_written hvalues).request_host, written, Text.map_toLower_join rfl,
    List.map_map]
  refine hostTokens_join (fun token htoken => (hwords token htoken).not_mem (by decide)) ?_
  intro hlone
  exact (hwords [] (by rw [← Function.comp_def, hlone]; exact List.mem_singleton.2 rfl)).1 rfl

/-- The tokens of the path that it asks for: those of the segments. -/
theorem MadeOfWords.pathTokens_request (hr : r.MadeOfWords) (hvalues : r.SuppliedBy values) :
    pathTokens (r.written values).request.path = r.pattern.path.map (·.filled values) := by
  have hwords : ∀ token ∈ r.pattern.path.map (·.filled values), token.IsWord := by
    intro token htoken
    obtain ⟨segment, hsegment, rfl⟩ := List.mem_map.1 htoken
    exact (hr.filled hvalues (mem_segments_of_mem_path hsegment)).2
  rw [(hr.wellFormed_written hvalues).pathTokens_request]
  refine pathTokens_join (fun token htoken => (hwords token htoken).not_mem (by decide)) ?_
  intro hlast
  exact (hwords [] (List.mem_of_getLast? hlast)).1 rfl

/-! ## What the route makes of it -/

/-- The tokens of the path that the URL asks for fit. -/
theorem MadeOfWords.fits_path (hr : r.MadeOfWords) (hvalues : r.SuppliedBy values) :
    Fits r.pattern.path (pathTokens (r.written values).request.path) := by
  rw [hr.pathTokens_request hvalues]
  exact admits_of_resolved (hr.resolved hvalues fun _ => mem_segments_of_mem_path)

/-- Those of the host fit if and only if every literal of the host is written small. -/
theorem MadeOfWords.fits_host_iff (hr : r.MadeOfWords) (hvalues : r.SuppliedBy values) :
    Fits r.pattern.host (hostTokens (r.written values).request.host) ↔
      ∀ own, Segment.literal own ∈ r.pattern.host → ∀ c ∈ own, ¬ c.isUpper = true := by
  rw [hr.hostTokens_request hvalues, Fits, or_iff_right hr.host, List.forall₂_map_right_iff,
    List.forall₂_same]
  simp only [← Text.map_toLower_eq_self_iff]
  constructor
  · exact fun h own hown => (h _ hown).symm
  · intro h segment hsegment
    cases segment with
    | literal own => exact (h own hsegment).symm
    | named written name => trivial

/-- A variable of a side whose tokens are made segment by segment is bound to its own one. -/
theorem exists_mem_boundEntries {side : List Segment} {name : Text}
    (hname : name ∈ side.filterMap Segment.name?) (token : Segment → Text) :
    ∃ written, (name, Value.text (token (.named written name))) ∈
      boundEntries side (side.map token) := by
  obtain ⟨segment, hsegment, hkey⟩ := List.mem_filterMap.1 hname
  cases segment with
  | literal own => cases hkey
  | named written key =>
    obtain rfl : key = name := Option.some.inj hkey
    exact ⟨written, mem_boundEntries (mem_zip_map hsegment token)⟩

/-- **Which generated URLs lead back.**  A route made of words generates a URL from words for all its
variables, and this URL is read.  The route matches its own URL if and only if no literal of its
host has a capital letter.  Then the variables of the path are bound to the words they were given,
and those of the host to these words in small letters. -/
theorem generated_url_leads_back_iff (hr : r.MadeOfWords) (hvalues : r.SuppliedBy values) :
    ∃ url request, r.generate? ⟨some values, none, none⟩ = some url ∧
      Request.ofUrl url.text = .ok request ∧
      ((r.match? request).isSome = true ↔
        ∀ own, Segment.literal own ∈ r.pattern.host → ∀ c ∈ own, ¬ c.isUpper = true) ∧
      ∀ data, r.match? request = some data →
        (∀ name ∈ r.pattern.path.filterMap Segment.name?,
          data.values.get? name = values.get? name) ∧
        ∀ name ∈ r.pattern.host.filterMap Segment.name?, ∀ word,
          values.get? name = some (.text word) →
            data.values.get? name = some (.text (word.map Char.toLower)) := by
  refine ⟨_, (r.written values).request, hr.generate?_eq hvalues,
    (hr.wellFormed_written hvalues).ofUrl_text, ?_, ?_⟩
  · rw [← hr.fits_host_iff hvalues, Option.isSome_iff_exists]
    constructor
    · rintro ⟨data, hdata⟩
      exact ((r.match?_eq_some_iff _ data).1 hdata).1.1
    · intro hhost
      exact ⟨_, (r.match?_eq_some_iff _ _).2 ⟨⟨hhost, hr.fits_path hvalues⟩,
        hr.coherent.accepts_of_no_rules hr.constraints _, rfl⟩⟩
  · intro data hdata
    obtain ⟨hfit, -, rfl⟩ := (r.match?_eq_some_iff _ data).1 hdata
    constructor
    · intro name hname
      obtain ⟨written, hmem⟩ := exists_mem_boundEntries hname (·.filled values)
      rw [← hr.pathTokens_request hvalues] at hmem
      obtain ⟨word, hget, -⟩ := hvalues name (by
        rw [Pattern.variables, Pattern.segments, List.filterMap_append]
        exact List.mem_append_right _ hname)
      rw [get?_valuesFor hr.distinct hfit (List.mem_append_right _ hmem), hget,
        Segment.filled_named hget]
    · intro name hname word hget
      obtain ⟨written, hmem⟩ := exists_mem_boundEntries hname
        fun segment => (segment.filled values).map Char.toLower
      rw [← hr.hostTokens_request hvalues] at hmem
      rw [get?_valuesFor hr.distinct hfit (List.mem_append_left _ hmem),
        Segment.filled_named hget]

/-- The route that is made from a pattern and nothing else. -/
def bare (urlPattern : Text) : Route :=
  ⟨urlPattern, .parse urlPattern, .empty, none, [], .empty, .absent⟩

/-- A bare route is made of words if its pattern is. -/
theorem madeOfWords_bare {urlPattern : Text} (hhost : (Pattern.parse urlPattern).host ≠ [])
    (hdistinct : (Pattern.parse urlPattern).variables.Nodup)
    (hliterals : ∀ segment ∈ (Pattern.parse urlPattern).segments,
      segment.isVariable = true ∨ segment.token.IsWord) : (bare urlPattern).MadeOfWords where
  coherent := ⟨rfl, .nil⟩
  host := hhost
  distinct := hdistinct
  defaults := rfl
  constraints := rfl
  literals _ h := (hliterals _ h).resolve_left Bool.false_ne_true

/-- The items of a tenant. -/
def tenantRoute : Route := bare "https://{tenant}.acme-2.org/Items/{item}".toList

/-- Words for its variables. -/
def tenantValues : Bindings Value :=
  .ofList [("tenant".toList, .text "North".toList), ("item".toList, .text "Box_7".toList)]

theorem generated_url_leads_back_iff_tenant :
    ∃ url request data, tenantRoute.generate? ⟨some tenantValues, none, none⟩ = some url ∧
      url.text = "https://North.acme-2.org/Items/Box_7".toList ∧
      Request.ofUrl url.text = .ok request ∧ tenantRoute.match? request = some data ∧
      data.values.get? "item".toList = some (.text "Box_7".toList) ∧
      data.values.get? "tenant".toList = some (.text "north".toList) := by
  have hr : tenantRoute.MadeOfWords :=
    madeOfWords_bare (by decide +kernel) (by decide +kernel) (by decide +kernel)
  have hvalues : tenantRoute.SuppliedBy tenantValues := by
    have hvariables : tenantRoute.pattern.variables = ["tenant".toList, "item".toList] := rfl
    rw [SuppliedBy, hvariables]
    simp only [List.mem_cons, List.not_mem_nil, or_false, forall_eq_or_imp, forall_eq]
    exact ⟨⟨"North".toList, rfl, by decide⟩, "Box_7".toList, rfl, by decide⟩
  obtain ⟨url, request, hurl, hrequest, hiff, hbound⟩ := generated_url_leads_back_iff hr hvalues
  have hsmall : ∀ own, Segment.literal own ∈ tenantRoute.pattern.host → ∀ c ∈ own,
      ¬ c.isUpper = true := by
    have hhost : tenantRoute.pattern.host = [.named "{tenant}".toList "tenant".toList,
      .literal "acme-2".toList, .literal "org".toList] := rfl
    rw [hhost]
    simp
  obtain ⟨data, hdata⟩ := Option.isSome_iff_exists.1 (hiff.2 hsmall)
  obtain ⟨hpath, hhost⟩ := hbound data hdata
  have htext : (tenantRoute.generate? ⟨some tenantValues, none, none⟩).map VirtualPath.text =
      some "https://North.acme-2.org/Items/Box_7".toList := by decide +kernel
  rw [hurl] at htext
  exact ⟨url, request, data, hurl, Option.some.inj htext, hrequest, hdata,
    hpath _ (by decide +kernel), hhost _ (by decide +kernel) "North".toList rfl⟩

/-- A route whose host has a capital letter, made of words all the same, does not match the URL that
it generates. -/
theorem capital_host_does_not_lead_back :
    let r := bare "http://Acme.com/{id}".toList
    let values : Bindings Value := .ofList [("id".toList, .text "1".toList)]
    r.MadeOfWords ∧ r.SuppliedBy values ∧
      ∃ url request, r.generate? ⟨some values, none, none⟩ = some url ∧
        url.text = "http://Acme.com/1".toList ∧ Request.ofUrl url.text = .ok request ∧
        r.match? request = none := by
  intro r values
  have hr : r.MadeOfWords :=
    madeOfWords_bare (by decide +kernel) (by decide +kernel) (by decide +kernel)
  have hvalues : r.SuppliedBy values := by
    have hvariables : r.pattern.variables = ["id".toList] := rfl
    rw [SuppliedBy, hvariables]
    simp only [List.mem_singleton, forall_eq]
    exact ⟨"1".toList, rfl, by decide⟩
  exact ⟨hr, hvalues, ⟨"http://Acme.com/1".toList, .empty⟩,
    ⟨"http".toList, "acme.com".toList, "/1".toList, []⟩, rfl, rfl, rfl, rfl⟩

end Route

end UrlRouting
