import UrlRouting.Proofs.Pattern.Tokens
import UrlRouting.Proofs.Session.Effect
import UrlRouting.Proofs.Url.Written

/-!
# What of a URL can influence routing

A table looks at the tokens of the host and of the path and at nothing else: `Table.match?_congr`.
Two URLs whose hosts differ in the case of letters only, and whose paths differ in a closing slash
at most, are therefore routed alike, whatever stands in their other parts:
`Session.routing_ignores_all_but_host_and_path`.
-/

namespace UrlRouting

/-! ## Closing slashes -/

/-- The second path is the first one and a slash, where the first one does not close with a slash. -/
def AddsSlash (path other : Text) : Prop := path.getLast? ≠ some '/' ∧ other = path ++ ['/']

/-- Two paths are the same, or one of them is the other one and a closing slash. -/
def SamePath (path other : Text) : Prop :=
  path = other ∨ AddsSlash path other ∨ AddsSlash other path

/-- A closing slash does not count. -/
theorem pathTokens_addsSlash {path other : Text} (h : AddsSlash path other)
    (hopens : path = [] ∨ path.head? = some '/') : pathTokens other = pathTokens path := by
  obtain ⟨hlast, rfl⟩ := h
  rcases hopens with rfl | hhead
  · rfl
  · obtain ⟨rest, rfl⟩ := List.head?_eq_some_iff.1 hhead
    have hrest : rest.getLast? ≠ some '/' := by
      cases rest with
      | nil => simp
      | cons c cs => rwa [List.getLast?_cons_cons] at hlast
    have hinner : withoutClosingSlash (rest ++ ['/']) = withoutClosingSlash rest := by
      rw [withoutClosingSlash_concat, withoutClosingSlash_of_ne hrest]
    have hopen : withoutOpeningSlash ('/' :: rest ++ ['/']) = rest ++ ['/'] := rfl
    unfold pathTokens
    rw [hopen, hinner]
    rfl

/-- The same path has the same tokens. -/
theorem SamePath.pathTokens_eq {path other : Text} (h : SamePath path other)
    (hopens : path = [] ∨ path.head? = some '/') (hopens' : other = [] ∨ other.head? = some '/') :
    pathTokens path = pathTokens other := by
  rcases h with rfl | hadds | hadds
  · rfl
  · exact (pathTokens_addsSlash hadds hopens).symm
  · exact pathTokens_addsSlash hadds hopens'

/-! ## Tables -/

section

variable {r r' : Request} (hhost : hostTokens r.host = hostTokens r'.host)
  (hpath : pathTokens r.path = pathTokens r'.path)

include hhost hpath

/-- A route looks at the tokens of the host and of the path. -/
theorem Route.match?_congr (route : Route) : route.match? r = route.match? r' := by
  have hbind : route.bind? r = route.bind? r' := by
    unfold Route.bind?
    rw [hhost, hpath]
  unfold Route.match?
  rw [hbind]

/-- So does a table. -/
theorem Table.match?_congr (t : Table) (store : RouteStore) :
    t.match? store r = t.match? store r' := by
  unfold Table.match?
  simp only [Route.match?_congr hhost hpath]

end

/-! ## Written URLs -/

namespace WrittenUrl.WellFormed

variable {u : WrittenUrl}

/-- The text of a written URL asks for its request. -/
theorem request?_text (h : u.WellFormed) : (Query.url u.text).request? = .ok u.request := by
  rw [Query.request?, h.ofUrl_text]

end WrittenUrl.WellFormed

namespace Session

/-- What a table answers to a written URL. -/
theorem matchTable_text {u : WrittenUrl} (h : u.WellFormed) (t : Table) (p : Progress) :
    matchTable t (.url u.text) p = .ok (t.match? p.session.store u.request)
      { p with
        log := p.log ++ p.session.loggers.record t.name
          (Table.matchMessage u.request (t.match? p.session.store u.request)) } :=
  matchTable_eq_ok_iff.2 ⟨u.request, h.request?_text, rfl, rfl⟩

/-- **Host and path decide.**  Two URLs whose hosts are the same but for the case of letters, and whose
paths are the same but for a closing slash, get the same answer from every table: the same route
with the same values and data tokens, or none.  Neither scheme, user information, port, query nor
fragment has a say, whatever delimiters they hold. -/
theorem routing_ignores_all_but_host_and_path {u₁ u₂ : WrittenUrl} (h₁ : u₁.WellFormed)
    (h₂ : u₂.WellFormed) (hhost : u₁.host.map Char.toLower = u₂.host.map Char.toLower)
    (hpath : SamePath u₁.path u₂.path) (p : Progress) (t : Table) :
    ∃ found log₁ log₂, matchTable t (.url u₁.text) p = .ok found { p with log := log₁ } ∧
      matchTable t (.url u₂.text) p = .ok found { p with log := log₂ } := by
  have hhosts : hostTokens u₁.request.host = hostTokens u₂.request.host := by
    rw [h₁.request_host, h₂.request_host, hhost]
  have hpaths : pathTokens u₁.request.path = pathTokens u₂.request.path := by
    rw [h₁.pathTokens_request, h₂.pathTokens_request]
    exact hpath.pathTokens_eq h₁.path_opens h₂.path_opens
  have hfound := Table.match?_congr hhosts hpaths t p.session.store
  have hsecond := matchTable_text h₂ t p
  rw [← hfound] at hsecond
  exact ⟨_, _, _, matchTable_text h₁ t p, hsecond⟩

/-- A table with one route for everything under a host. -/
def hosting : List Step :=
  [.makeTable "t".toList "app".toList false false,
    .add "t".toList
      { description := ⟨some "http://shop.example/\x7bitem\x7d".toList, none, none, none, .absent⟩
        name := none
        unexpected := [] } none]

/-- A URL with delimiters in all places where they may stand. -/
def crowded : WrittenUrl where
  scheme := "HTTP".toList
  userinfo := some "other.example:1@evil.example:2".toList
  host := "Shop.Example".toList
  port := some "80".toList
  path := "/1/".toList
  query := some "://x@y/?z".toList
  fragment := some "#/2?//z".toList

/-- A URL with the same host and the same path, but for letter case and a closing slash. -/
def spare : WrittenUrl where
  scheme := "ftp+x".toList
  userinfo := none
  host := "shop.example".toList
  port := none
  path := "/1".toList
  query := none
  fragment := none

section

open WrittenUrl

theorem crowded_wellFormed : crowded.WellFormed where
  scheme := rfl
  authority_ascii := by simp [crowded, authority, portPart, Text.IsAscii]
  authority_plain := by simp [crowded, authority, portPart]
  host := by simp [crowded]
  port := by simp [crowded, portPart]
  path_opens := by simp [crowded]
  path_plain := by simp [crowded]
  query := by simp [crowded, queryPart]
  clean := by simp [crowded, text, authority, portPart, behind, queryPart, fragmentPart]

theorem spare_wellFormed : spare.WellFormed where
  scheme := rfl
  authority_ascii := by simp [spare, authority, portPart, Text.IsAscii]
  authority_plain := by simp [spare, authority, portPart]
  host := by simp [spare]
  port := by simp [spare, portPart]
  path_opens := by simp [spare]
  path_plain := by simp [spare]
  query := by simp [spare, queryPart]
  clean := by simp [spare, text, authority, portPart, behind, queryPart, fragmentPart]

end

theorem routing_ignores_all_but_host_and_path_crowded :
    let s := (Session.empty.run hosting).2
    ∃ t found log, s.table? "t".toList = .ok (0, t) ∧
      matchTable t (.url crowded.text) ⟨s, []⟩ = .ok (some found) ⟨s, log⟩ ∧
      found.2.2.values.entries.map Prod.fst = ["item".toList] := by
  intro s
  obtain ⟨t, answer, p, htable, hspare, hkeys⟩ : ∃ t answer p, s.table? "t".toList = .ok (0, t) ∧
      matchTable t (.url spare.text) ⟨s, []⟩ = .ok (some answer) p ∧
      answer.2.2.values.entries.map Prod.fst = ["item".toList] := ⟨_, _, _, rfl, rfl, rfl⟩
  obtain ⟨found, log, _, hfirst, hsecond⟩ := routing_ignores_all_but_host_and_path
    crowded_wellFormed spare_wellFormed (by decide) (.inr (.inr ⟨by decide, by decide⟩)) ⟨s, []⟩ t
  rw [hspare] at hsecond
  cases hsecond
  exact ⟨t, answer, log, htable, hfirst, hkeys⟩

end Session

end UrlRouting
