import Mathlib.Data.List.TakeWhile
import UrlRouting.Pattern.Tokens
import UrlRouting.Proofs.Pattern.Scheme
import UrlRouting.Proofs.Url.Authority

/-!
# URLs part by part

A URL is written from a scheme, an authority with or without user information and a port, a path, and
with or without a query and a fragment.  `WrittenUrl.split_text` says that the parts come back when
its text is read, however often the delimiters occur in the parts where they may; `request_host` and
`pathTokens_request` say what of them the request for it keeps.  `ofUrl_recovers_parts` puts the
conditions on each part by itself and gives the request in full.
-/

namespace UrlRouting

/-! ## Behind the last separator -/

namespace Text

/-- Nothing in front counts if the rest holds no further separator. -/
theorem afterLast_append_cons {sep : Char} {t : Text} (h : sep ∉ t) (p : Text) :
    afterLast sep (p ++ sep :: t) = t := by
  have hreverse : (p ++ sep :: t).reverse = t.reverse ++ sep :: p.reverse := by simp
  have hcut : afterLast sep (p ++ sep :: t) = (upTo sep (p ++ sep :: t).reverse).reverse := rfl
  rw [hcut, hreverse, upTo_append_cons (by simpa using h), List.reverse_reverse]

/-- A text without the separator is all behind it. -/
theorem afterLast_of_not_mem {sep : Char} {t : Text} (h : sep ∉ t) : afterLast sep t = t := by
  have hcut : afterLast sep t = (upTo sep t.reverse).reverse := rfl
  rw [hcut, upTo_of_not_mem (by simpa using h), List.reverse_reverse]

end Text

/-- A URL as it is written, part by part. -/
structure WrittenUrl where
  scheme : Text
  userinfo : Option Text
  host : Text
  port : Option Text
  path : Text
  query : Option Text
  fragment : Option Text

namespace WrittenUrl

/-- The port with its colon. -/
def portPart (u : WrittenUrl) : Text := u.port.elim [] (':' :: ·)

/-- The host with the user information in front and the port behind. -/
def authority (u : WrittenUrl) : Text :=
  u.userinfo.elim [] (· ++ ['@']) ++ (u.host ++ u.portPart)

/-- The query with its question mark. -/
def queryPart (u : WrittenUrl) : Text := u.query.elim [] ('?' :: ·)

/-- The fragment with its number sign. -/
def fragmentPart (u : WrittenUrl) : Text := u.fragment.elim [] ('#' :: ·)

/-- What stands behind the authority. -/
def behind (u : WrittenUrl) : Text := u.path ++ u.queryPart ++ u.fragmentPart

/-- The whole text. -/
def text (u : WrittenUrl) : Text := u.scheme ++ ':' :: '/' :: '/' :: (u.authority ++ u.behind)

/-- The request for a written URL. -/
def request (u : WrittenUrl) : Request := Request.ofParts (Url.split u.text)

/-- Every part is one that may stand in its place.  User information may hold `@` and `:`, a path `@`,
`:` and further slashes, a query `?` and slashes, a fragment anything. -/
structure WellFormed (u : WrittenUrl) : Prop where
  scheme : isScheme u.scheme = true
  authority_ascii : Text.IsAscii u.authority
  authority_plain : ∀ c ∈ ['/', '?', '#', '[', ']'], c ∉ u.authority
  host : ∀ c ∈ ['@', ':', '%'], c ∉ u.host
  port : '@' ∉ u.portPart
  path_opens : u.path = [] ∨ u.path.head? = some '/'
  path_plain : '?' ∉ u.path ∧ '#' ∉ u.path
  query : '#' ∉ u.queryPart
  clean : ∀ c ∈ ['\t', '\r', '\n'], c ∉ u.text

namespace WellFormed

variable {u : WrittenUrl}

/-- A written URL is clean: it opens with a letter. -/
theorem cleaned_text (h : u.WellFormed) : Url.cleaned u.text = u.text := by
  have hopens : u.text.dropWhile (·.toNat ≤ 0x20) = u.text := by
    have hscheme := h.scheme
    unfold text
    cases hcs : u.scheme with
    | nil =>
      rw [hcs] at hscheme
      cases hscheme
    | cons c cs =>
      rw [hcs, isScheme, Bool.and_eq_true, isAsciiLetter_iff] at hscheme
      refine List.dropWhile_cons_of_neg ?_
      rw [decide_eq_true_eq]
      omega
  rw [Url.cleaned, hopens, List.filter_eq_self]
  intro c hc
  have hne : ∀ d ∈ ['\t', '\r', '\n'], c ≠ d := fun d hd heq => h.clean d hd (heq ▸ hc)
  simp only [List.mem_cons, List.not_mem_nil, or_false, forall_eq_or_imp, forall_eq] at hne
  simp [hne]

/-- The scheme ends at the first colon. -/
theorem schemeAndRest_text (h : u.WellFormed) : Url.schemeAndRest u.text =
    (u.scheme.map Char.toLower, '/' :: '/' :: (u.authority ++ u.behind)) := by
  have hcolon : ':' ∉ u.scheme := not_mem_of_isScheme h.scheme rfl
  unfold Url.schemeAndRest text
  rw [Text.upTo_append_cons hcolon, Text.beyond_append_cons hcolon, if_pos ⟨by simp, h.scheme⟩]

/-- What stands behind the authority opens with a delimiter, if there is anything. -/
theorem takeWhile_behind (h : u.WellFormed) :
    u.behind.takeWhile (!Url.endsAuthority ·) = [] ∧
      u.behind.dropWhile (!Url.endsAuthority ·) = u.behind := by
  have hopens : u.behind = [] ∨ ∃ c rest, u.behind = c :: rest ∧ Url.endsAuthority c = true := by
    unfold behind
    rcases h.path_opens with hpath | hpath
    · rw [hpath, List.nil_append, queryPart, fragmentPart]
      cases u.query with
      | some query => exact .inr ⟨'?', _, rfl, rfl⟩
      | none =>
        cases u.fragment with
        | some fragment => exact .inr ⟨'#', _, rfl, rfl⟩
        | none => exact .inl rfl
    · obtain ⟨rest, hrest⟩ := List.head?_eq_some_iff.1 hpath
      rw [hrest]
      exact .inr ⟨'/', _, rfl, rfl⟩
  rcases hopens with hnil | ⟨c, rest, hcons, hends⟩
  · rw [hnil]
    exact ⟨rfl, rfl⟩
  · rw [hcons]
    exact ⟨List.takeWhile_cons_of_neg (by simp [hends]),
      List.dropWhile_cons_of_neg (by simp [hends])⟩

/-- The authority ends where the path opens, or else the query, or else the fragment. -/
theorem authorityAndRest_text (h : u.WellFormed) :
    Url.authorityAndRest ('/' :: '/' :: (u.authority ++ u.behind)) = (u.authority, u.behind) := by
  have hinside : ∀ c ∈ u.authority, (!Url.endsAuthority c) = true := by
    intro c hc
    have hne : ∀ d ∈ ['/', '?', '#', '[', ']'], c ≠ d := fun d hd heq =>
      h.authority_plain d hd (heq ▸ hc)
    simp only [List.mem_cons, List.not_mem_nil, or_false, forall_eq_or_imp, forall_eq] at hne
    simp [Url.endsAuthority, hne]
  unfold Url.authorityAndRest
  simp only
  rw [List.takeWhile_append_of_pos hinside, List.dropWhile_append_of_pos hinside,
    h.takeWhile_behind.1, h.takeWhile_behind.2, List.append_nil]

/-- The fragment starts at the first number sign. -/
theorem upTo_behind (h : u.WellFormed) : Text.upTo '#' u.behind = u.path ++ u.queryPart := by
  have hfront : '#' ∉ u.path ++ u.queryPart := by
    rw [List.mem_append, not_or]
    exact ⟨h.path_plain.2, h.query⟩
  rw [behind, Text.upTo_append hfront, fragmentPart]
  cases u.fragment <;> exact List.append_nil _

/-- The query starts at the first question mark in front of it. -/
theorem pathAndQuery (h : u.WellFormed) :
    Text.upTo '?' (u.path ++ u.queryPart) = u.path ∧
      Text.beyond '?' (u.path ++ u.queryPart) = u.query.getD [] := by
  rw [queryPart]
  cases u.query with
  | none =>
    have hplain : '?' ∉ u.path ++ [] := by simpa using h.path_plain.1
    rw [Option.elim_none, Text.upTo_of_not_mem hplain, Text.beyond_of_not_mem hplain]
    exact ⟨List.append_nil _, rfl⟩
  | some query =>
    exact ⟨Text.upTo_append_cons h.path_plain.1 query, Text.beyond_append_cons h.path_plain.1 query⟩

/-- **The parts of a written URL come back** when its text is read. -/
theorem split_text (h : u.WellFormed) : Url.split u.text =
    { scheme := u.scheme.map Char.toLower
      authority := u.authority
      path := u.path
      query := u.query.getD [] } := by
  unfold Url.split
  simp only [h.cleaned_text, h.schemeAndRest_text, h.authorityAndRest_text, h.upTo_behind,
    h.pathAndQuery.1, h.pathAndQuery.2]

/-- The authority of a written URL is not refused. -/
theorem acceptable_authority (h : u.WellFormed) : Url.Acceptable u.authority :=
  .of_isAscii h.authority_ascii (h.authority_plain '[' (by simp)) (h.authority_plain ']' (by simp))

/-- The host stands between the last `@` and the colon behind it. -/
theorem hostOf_authority (h : u.WellFormed) : Url.hostOf u.authority = u.host := by
  have hbehind : '@' ∉ u.host ++ u.portPart := by
    rw [List.mem_append, not_or]
    exact ⟨h.host '@' (by simp), h.port⟩
  have hhostAndPort : Url.hostAndPort u.authority = u.host ++ u.portPart := by
    rw [Url.hostAndPort, authority]
    cases u.userinfo with
    | none => exact Text.afterLast_of_not_mem hbehind
    | some userinfo =>
      rw [Option.elim_some, List.append_assoc, List.singleton_append]
      exact Text.afterLast_append_cons hbehind userinfo
  have hbracket : '[' ∉ u.host ++ u.portPart := fun hc =>
    h.authority_plain '[' (by simp) (List.mem_append_right _ hc)
  unfold Url.hostOf
  simp only [hhostAndPort, if_neg hbracket]
  rw [Text.upTo_append (h.host ':' (by simp)), portPart]
  cases u.port <;> exact List.append_nil _

/-- A host without a zone goes to small letters. -/
theorem normalizedHost_host (h : u.WellFormed) :
    Request.normalizedHost u.host = u.host.map Char.toLower := by
  have hzone : '%' ∉ u.host := h.host '%' (by simp)
  have hascii : Text.IsAscii u.host := fun c hc => h.authority_ascii c
    (List.mem_append_right _ (List.mem_append_left _ hc))
  have hnone : u.host.dropWhile (· != '%') = [] :=
    List.dropWhile_eq_nil_iff.2 (Text.forall_ne_of_not_mem hzone)
  rw [Request.normalizedHost, Text.upTo_of_not_mem hzone, hnone, List.append_nil,
    Text.lowercase_of_isAscii hascii]

/-! ### Its request -/

/-- A written URL is read as its request. -/
theorem ofUrl_text (h : u.WellFormed) : Request.ofUrl u.text = .ok u.request := by
  have hacceptable : Url.Acceptable (Url.split u.text).authority := by
    rw [h.split_text]
    exact h.acceptable_authority
  exact Request.ofUrl_of_acceptable hacceptable

/-- The request for a written URL part by part. -/
theorem request_eq (h : u.WellFormed) : u.request =
    { scheme := u.scheme.map Char.toLower
      host := u.host.map Char.toLower
      path := if u.path = [] then ['/'] else u.path
      query := u.query.getD [] } := by
  unfold request Request.ofParts
  simp only [h.split_text, h.hostOf_authority, h.normalizedHost_host]

theorem request_host (h : u.WellFormed) : u.request.host = u.host.map Char.toLower := by
  rw [h.request_eq]

/-- The path that is put for an empty one has no tokens either. -/
theorem pathTokens_request (h : u.WellFormed) : pathTokens u.request.path = pathTokens u.path := by
  rw [h.request_eq]
  dsimp only
  split
  · next hnil =>
    rw [hnil]
    rfl
  · rfl

end WellFormed

/-! ### Conditions on single parts -/

/-- The parts of the authority. -/
def authorityParts (u : WrittenUrl) : List Text := u.userinfo.toList ++ u.host :: u.port.toList

/-- The parts behind the authority. -/
def partsBehind (u : WrittenUrl) : List Text := u.path :: (u.query.toList ++ u.fragment.toList)

/-- Every part by itself may stand in its place. -/
structure HasPlainParts (u : WrittenUrl) : Prop where
  scheme : isScheme u.scheme = true
  authority_ascii : ∀ part ∈ u.authorityParts, Text.IsAscii part
  authority_plain : ∀ part ∈ u.authorityParts, ∀ c ∈ ['/', '?', '#', '[', ']'], c ∉ part
  host : ∀ c ∈ ['@', ':', '%'], c ∉ u.host
  port : ∀ port ∈ u.port, '@' ∉ port
  path_opens : u.path = [] ∨ u.path.head? = some '/'
  path_plain : '?' ∉ u.path ∧ '#' ∉ u.path
  query : ∀ query ∈ u.query, '#' ∉ query
  clean : ∀ part ∈ u.authorityParts ++ u.partsBehind, ∀ c ∈ ['\t', '\r', '\n'], c ∉ part

variable {u : WrittenUrl} {c : Char}

/-- Between the parts of an authority stand an `@` and a colon. -/
theorem of_mem_authority (h : c ∈ u.authority) :
    c ∈ ['@', ':'] ∨ ∃ part ∈ u.authorityParts, c ∈ part := by
  unfold authority portPart at h
  unfold authorityParts
  cases hinfo : u.userinfo <;> cases hport : u.port <;> rw [hinfo, hport] at h <;> simp at h ⊢ <;>
    tauto

/-- In front of the query and of the fragment stand a question mark and a number sign. -/
theorem of_mem_behind (h : c ∈ u.behind) :
    c ∈ ['?', '#'] ∨ ∃ part ∈ u.partsBehind, c ∈ part := by
  unfold behind queryPart fragmentPart at h
  unfold partsBehind
  cases hquery : u.query <;> cases hfragment : u.fragment <;> rw [hquery, hfragment] at h <;>
    simp at h ⊢ <;> tauto

namespace HasPlainParts

/-- The authority holds no character that neither stands between its parts nor in one of them. -/
theorem not_mem_authority (hbetween : c ∉ ['@', ':'])
    (hparts : ∀ part ∈ u.authorityParts, c ∉ part) : c ∉ u.authority := by
  intro h
  rcases of_mem_authority h with h | ⟨part, hpart, hc⟩
  · exact hbetween h
  · exact hparts part hpart hc

/-- A URL of plain parts is well formed. -/
theorem wellFormed (h : u.HasPlainParts) : u.WellFormed where
  scheme := h.scheme
  authority_ascii := by
    intro c hc
    have hbetween : Text.IsAscii ['@', ':'] := by simp [Text.IsAscii]
    rcases of_mem_authority hc with hc | ⟨part, hpart, hc⟩
    · exact hbetween c hc
    · exact h.authority_ascii part hpart c hc
  authority_plain := by
    intro c hc
    have hbetween : ∀ c ∈ ['/', '?', '#', '[', ']'], c ∉ ['@', ':'] := by simp
    exact not_mem_authority (hbetween c hc) fun part hpart => h.authority_plain part hpart c hc
  host := h.host
  port := by
    have hport := h.port
    unfold portPart
    cases hu : u.port with
    | none => exact List.not_mem_nil
    | some port => simpa using hport port hu
  path_opens := h.path_opens
  path_plain := h.path_plain
  query := by
    have hquery := h.query
    unfold queryPart
    cases hu : u.query with
    | none => exact List.not_mem_nil
    | some query => simpa using hquery query hu
  clean := by
    intro c hc hmem
    have hblank : ∀ c ∈ ['\t', '\r', '\n'],
        isSchemeChar c = false ∧ c ∉ [':', '/'] ∧ c ∉ ['@', ':'] ∧ c ∉ ['?', '#'] := by
      simp [isSchemeChar, Text.isAsciiLetter, Text.isAsciiDigit]
    obtain ⟨hscheme, hslashes, hbetween, hfront⟩ := hblank c hc
    have hparts : ∀ part ∈ u.authorityParts ++ u.partsBehind, c ∉ part := fun part hpart =>
      h.clean part hpart c hc
    have htext : u.text = u.scheme ++ ([':', '/', '/'] ++ (u.authority ++ u.behind)) := rfl
    rw [htext, List.mem_append, List.mem_append, List.mem_append] at hmem
    rcases hmem with hmem | hmem | hmem | hmem
    · exact not_mem_of_isScheme h.scheme hscheme hmem
    · exact hslashes (by simpa using hmem)
    · exact not_mem_authority hbetween
        (fun part hpart => hparts part (List.mem_append_left _ hpart)) hmem
    · rcases of_mem_behind hmem with hmem | ⟨part, hpart, hmem⟩
      · exact hfront hmem
      · exact hparts part (List.mem_append_right _ hpart) hmem

end HasPlainParts

/-- **The request recovers the parts.**  A URL that is written from plain parts, whichever of the
optional ones are there, is read as the request for its scheme and its host in small letters, its
path, which is a slash if it is empty, and its query, if there is one.  User information, port and
fragment leave no trace. -/
theorem ofUrl_recovers_parts (h : u.HasPlainParts) : Request.ofUrl u.text = .ok
    { scheme := u.scheme.map Char.toLower
      host := u.host.map Char.toLower
      path := if u.path = [] then ['/'] else u.path
      query := u.query.getD [] } := by
  rw [h.wellFormed.ofUrl_text, h.wellFormed.request_eq]

/-- A URL with delimiters in every part that may hold some. -/
def strewn : WrittenUrl where
  scheme := "H+2".toList
  userinfo := some "me@home:pass".toList
  host := "Example.COM".toList
  port := some "80:8".toList
  path := "//a:b@c//".toList
  query := some "x=/?y@:".toList
  fragment := some "#?/@".toList

theorem strewn_hasPlainParts : strewn.HasPlainParts where
  scheme := rfl
  authority_ascii := by simp [Text.IsAscii, strewn, authorityParts]
  authority_plain := by simp [strewn, authorityParts]
  host := by simp [strewn]
  port := by simp [strewn]
  path_opens := by simp [strewn]
  path_plain := by simp [strewn]
  query := by simp [strewn]
  clean := by simp [strewn, authorityParts, partsBehind]

theorem ofUrl_recovers_parts_strewn :
    strewn.text = "H+2://me@home:pass@Example.COM:80:8//a:b@c//?x=/?y@:##?/@".toList ∧
      strewn.HasPlainParts ∧
      Request.ofUrl "H+2://me@home:pass@Example.COM:80:8//a:b@c//?x=/?y@:##?/@".toList =
        .ok ⟨"h+2".toList, "example.com".toList, "//a:b@c//".toList, "x=/?y@:".toList⟩ := by
  have htext : strewn.text =
      "H+2://me@home:pass@Example.COM:80:8//a:b@c//?x=/?y@:##?/@".toList := by decide
  refine ⟨htext, strewn_hasPlainParts, ?_⟩
  rw [← htext, ofUrl_recovers_parts strewn_hasPlainParts]
  rfl

end WrittenUrl

end UrlRouting
