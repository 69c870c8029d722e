import UrlRouting.Proofs.Except
import UrlRouting.Proofs.Text.Lowercase
import UrlRouting.Request

/-!
# How a URL is read

A URL is cut first and checked afterwards: `Url.parse_eq_ok_iff` says that reading it gives the
parts of `Url.split` or nothing, and that the authority alone decides which.
`Request.newlineFree_of_ofUrl` is what the cleaning in front means for a request.
-/

namespace UrlRouting

namespace Url

/-- The parts of a URL before anything is checked. -/
def split (t : Text) : Url :=
  let (scheme, rest) := schemeAndRest (cleaned t)
  let (authority, rest) := authorityAndRest rest
  let rest := Text.upTo '#' rest
  { scheme, authority, path := Text.upTo '?' rest, query := Text.beyond '?' rest }

theorem parse_eq (t : Text) :
    parse t = checkBrackets (split t).authority >>= fun _ =>
      checkCharacters (split t).authority >>= fun _ => .ok (split t) := rfl

/-- A URL is read as its parts if its authority passes the checks, and not at all otherwise. -/
theorem parse_eq_ok_iff {t : Text} {url : Url} :
    parse t = .ok url ↔ checkBrackets (split t).authority = .ok () ∧
      checkCharacters (split t).authority = .ok () ∧ url = split t := by
  rw [parse_eq, bind_eq_ok_iff]
  constructor
  · rintro ⟨_, hbrackets, h⟩
    obtain ⟨_, hcharacters, h⟩ := bind_eq_ok_iff.1 h
    exact ⟨hbrackets, hcharacters, (Except.ok.inj h).symm⟩
  · rintro ⟨hbrackets, hcharacters, rfl⟩
    exact ⟨(), hbrackets, bind_eq_ok_iff.2 ⟨(), hcharacters, rfl⟩⟩

end Url

namespace Request

/-- The request for the parts of a URL. -/
def ofParts (url : Url) : Request where
  scheme := url.scheme
  host := normalizedHost (Url.hostOf url.authority)
  path := if url.path = [] then ['/'] else url.path
  query := url.query

/-- A URL asks for what its parts ask for, if it can be read. -/
theorem ofUrl_eq_ok_iff {t : Text} {request : Request} :
    ofUrl t = .ok request ↔ Url.checkBrackets (Url.split t).authority = .ok () ∧
      Url.checkCharacters (Url.split t).authority = .ok () ∧ request = ofParts (Url.split t) := by
  have hof : ofUrl t = Url.parse t >>= fun url => .ok (ofParts url) := rfl
  rw [hof, bind_eq_ok_iff]
  constructor
  · rintro ⟨url, hurl, h⟩
    obtain ⟨hbrackets, hcharacters, rfl⟩ := Url.parse_eq_ok_iff.1 hurl
    exact ⟨hbrackets, hcharacters, (Except.ok.inj h).symm⟩
  · rintro ⟨hbrackets, hcharacters, rfl⟩
    exact ⟨_, Url.parse_eq_ok_iff.2 ⟨hbrackets, hcharacters, rfl⟩, rfl⟩

end Request

/-! ## Line ends -/

namespace Url

theorem newline_not_mem_cleaned (t : Text) : '\n' ∉ cleaned t := by
  intro h
  have hkept := (List.mem_filter.1 h).2
  simp at hkept

/-- No capital letter goes to a line end. -/
theorem newline_not_mem_map_toLower {t : Text} (h : '\n' ∉ t) : '\n' ∉ t.map Char.toLower := by
  intro hmem
  obtain ⟨c, hc, hlower⟩ := List.mem_map.1 hmem
  have hcode : c.toLower.toNat = 10 := congrArg Char.toNat hlower
  rw [toNat_toLower] at hcode
  have hten : c.toNat = '\n'.toNat := by
    split at hcode
    · omega
    · exact hcode
  exact h (Char.toNat_inj.1 hten ▸ hc)

theorem newline_not_mem_schemeAndRest {t : Text} (h : '\n' ∉ t) :
    '\n' ∉ (schemeAndRest t).1 ∧ '\n' ∉ (schemeAndRest t).2 := by
  unfold schemeAndRest
  simp only
  split
  · exact ⟨newline_not_mem_map_toLower fun hc => h (Text.mem_of_mem_upTo hc),
      fun hc => h (Text.mem_of_mem_beyond hc)⟩
  · exact ⟨List.not_mem_nil, h⟩

theorem newline_not_mem_authorityAndRest {t : Text} (h : '\n' ∉ t) :
    '\n' ∉ (authorityAndRest t).1 ∧ '\n' ∉ (authorityAndRest t).2 := by
  unfold authorityAndRest
  split
  · next rest =>
    have hrest : '\n' ∉ rest := fun hc =>
      h (List.mem_cons_of_mem _ (List.mem_cons_of_mem _ hc))
    exact ⟨fun hc => hrest ((List.takeWhile_prefix _).subset hc),
      fun hc => hrest ((List.dropWhile_suffix _).subset hc)⟩
  · exact ⟨List.not_mem_nil, h⟩

/-- The host is cut out of the authority. -/
theorem mem_of_mem_hostOf {authority : Text} {c : Char} (h : c ∈ hostOf authority) :
    c ∈ authority := by
  have hpart : ∀ d ∈ hostAndPort authority, d ∈ authority := fun d hd =>
    List.mem_reverse.1 ((List.takeWhile_prefix _).subset (List.mem_reverse.1 hd))
  unfold hostOf at h
  simp only at h
  split at h
  · exact hpart c (Text.mem_of_mem_beyond (Text.mem_of_mem_upTo h))
  · exact hpart c (Text.mem_of_mem_upTo h)

end Url

namespace Request

theorem newline_not_mem_normalizedHost {host : Text} (h : '\n' ∉ host) :
    '\n' ∉ normalizedHost host := by
  rw [normalizedHost, List.mem_append, not_or]
  exact ⟨Text.newline_not_mem_lowercase fun hc => h (Text.mem_of_mem_upTo hc),
    fun hc => h ((List.dropWhile_suffix _).subset hc)⟩

/-- What a table says of a request stands in a single line. -/
structure NewlineFree (request : Request) : Prop where
  scheme : '\n' ∉ request.scheme
  host : '\n' ∉ request.host
  path : '\n' ∉ request.path

/-- The request for a URL is free of line ends, whatever the URL holds. -/
theorem newlineFree_of_ofUrl {t : Text} {request : Request} (h : ofUrl t = .ok request) :
    request.NewlineFree := by
  obtain ⟨-, -, rfl⟩ := ofUrl_eq_ok_iff.1 h
  obtain ⟨hscheme, hbehind⟩ :=
    Url.newline_not_mem_schemeAndRest (Url.newline_not_mem_cleaned t)
  obtain ⟨hauthority, hrest⟩ := Url.newline_not_mem_authorityAndRest hbehind
  refine ⟨hscheme, ?_, ?_⟩
  · exact newline_not_mem_normalizedHost fun hc => hauthority (Url.mem_of_mem_hostOf hc)
  · have hpath : '\n' ∉ (Url.split t).path := fun hc =>
      hrest (Text.mem_of_mem_upTo (Text.mem_of_mem_upTo hc))
    unfold ofParts
    simp only
    split
    · decide
    · exact hpath

end Request

end UrlRouting
