import UrlRouting.Proofs.Pattern.Anchors
import UrlRouting.Proofs.Pattern.Canonical
import UrlRouting.Proofs.Route.Coherence
import UrlRouting.Proofs.Route.RoundTrip
import UrlRouting.Proofs.Url.Relative

/-!
# What a local route generates

A route without a host writes a path, which is meant to be relative to the host that is being talked
to.  Tokens are written as they are, so that a path with empty tokens in front may be read as a host.
`local_url_names_no_host_iff` says just when that happens, for values whose texts hold none of the
delimiters of a URL.
-/

namespace UrlRouting

/-- The text of a value holds none of the delimiters of a URL. -/
def Value.IsPlain (v : Value) : Prop := ∀ c ∈ ['/', ':', '?', '#', '[', ']'], c ∉ v.urlText

instance (v : Value) : Decidable v.IsPlain :=
  List.decidableBAll (fun c => c ∉ v.urlText) ['/', ':', '?', '#', '[', ']']

/-- The texts of all values are plain. -/
def Bindings.ArePlain (b : Bindings Value) : Prop := ∀ e ∈ b.entries, e.2.IsPlain

instance (b : Bindings Value) : Decidable b.ArePlain :=
  inferInstanceAs (Decidable (∀ e ∈ b.entries, e.2.IsPlain))

theorem Bindings.ArePlain.get? {b : Bindings Value} (h : b.ArePlain) {name : Text} {value : Value}
    (hvalue : b.get? name = some value) : value.IsPlain := by
  obtain ⟨before, behind, hentries, -⟩ := List.lookup_eq_some_iff.1 hvalue
  exact h (name, value) (by rw [hentries]; simp)

/-- What a brief filling writes are texts of segments. -/
theorem exists_text?_of_mem_fillBriefly {segments : List Segment} {values defaults : Bindings Value}
    {token : Text} (h : token ∈ fillBriefly segments values defaults) :
    ∃ segment ∈ segments, segment.text? values defaults = some token := by
  rw [fillBriefly, settle_nil_eq] at h
  have hwritten := (List.rdropWhile_prefix Piece.isHeld
    (segments.filterMap (·.piece? values defaults))).map Piece.token
  rw [map_token_filterMap_piece?] at hwritten
  exact List.mem_filterMap.1 (hwritten.subset h)

namespace Route

variable {r : Route} {context : Bindings Value} {token : Text}

/-- A written token is a literal of the path or plain. -/
theorem literal_or_plain_of_mem_pathFor (hcontext : context.ArePlain)
    (hdefaults : r.defaults.ArePlain) (h : token ∈ r.pathFor context) :
    Segment.literal token ∈ r.pattern.path ∨ (Value.text token).IsPlain := by
  obtain ⟨segment, hsegment, htext⟩ := exists_text?_of_mem_fillBriefly h
  cases segment with
  | literal own =>
    obtain rfl : own = token := Option.some.inj htext
    exact .inl hsegment
  | named written name =>
    rw [Segment.text?] at htext
    cases hvalue : context.get? name with
    | some value =>
      rw [hvalue] at htext
      obtain rfl : value.urlText = token := Option.some.inj htext
      have hplain : value.IsPlain := hcontext.get? hvalue
      exact .inr hplain
    | none =>
      rw [hvalue] at htext
      obtain ⟨default, hdefault, rfl⟩ := Option.map_eq_some_iff.1 htext
      have hplain : default.IsPlain := hdefaults.get? hdefault
      exact .inr hplain

/-- A literal of a path that was read holds neither a slash nor a question mark. -/
theorem Coherent.literal_free (hr : r.Coherent) (h : Segment.literal token ∈ r.pattern.path) :
    '/' ∉ token ∧ '?' ∉ token := by
  have hfree := (Pattern.wellFormed_spelling r.urlPattern).path_free
  rw [← hr.pattern_eq] at hfree
  exact hfree token (List.mem_map.2 ⟨_, h, rfl⟩)

/-- **When a local URL names no host.**  A route without a host, given values and defaults whose texts
hold none of the delimiters of a URL, generates a URL that is read and names no host if and only if no
written token is taken for an authority, or the one that is could be one and holds no host.  A token
is taken for one only behind two that are empty, but for blanks, tabs and line ends, or behind a scheme
with its colon and an empty one; and a written token with a colon is a literal of the pattern. -/
theorem local_url_names_no_host_iff (hr : r.Coherent) (hlocal : r.pattern.host = [])
    {d : UrlDemand} (hcontext : d.context.ArePlain) (hdefaults : r.defaults.ArePlain)
    {path : VirtualPath} (hgenerated : r.generate? d = some path) :
    ((∃ request, Request.ofUrl path.text = .ok request ∧ request.host = []) ↔
      ∀ authority, Url.TakenForAuthority (r.pathFor d.context) authority →
        Url.Acceptable authority ∧ Url.hostOf authority = []) ∧
    ∀ token ∈ r.pathFor d.context, ':' ∈ token → Segment.literal token ∈ r.pattern.path := by
  obtain ⟨-, rfl⟩ := (r.generate?_eq_some_iff _ _).1 hgenerated
  have hwritten : ∀ token ∈ r.pathFor d.context,
      Segment.literal token ∈ r.pattern.path ∨ (Value.text token).IsPlain :=
    fun token => literal_or_plain_of_mem_pathFor hcontext hdefaults
  refine ⟨?_, fun token htoken hcolon => ?_⟩
  · dsimp only
    rw [urlText, if_pos hlocal]
    refine Request.ofUrl_join_iff fun token htoken => ?_
    rcases hwritten token htoken with hliteral | hplain
    · exact hr.literal_free hliteral
    · exact ⟨hplain '/' (by simp), hplain '?' (by simp)⟩
  · exact (hwritten token htoken).resolve_right fun hplain => hplain ':' (by simp) hcolon

/-- A path of three variables. -/
def threefoldDescription : RouteDescription where
  urlPattern := some "\x7blang\x7d/\x7barea\x7d/\x7bpage\x7d".toList
  defaults := some (.ofList [("lang".toList, .text "en".toList)])
  constraints := none
  dataTokens := none
  handler := .absent

/-- The route of that description. -/
def threefoldRoute : Route := (Route.make? threefoldDescription).toOption.get rfl

/-- What is asked of it: the URL of a page in an area, in no language. -/
def threefoldDemand (area page : String) : UrlDemand where
  values := some (.ofList [("lang".toList, .null), ("area".toList, .text area.toList),
    ("page".toList, .text page.toList)])
  currentValues := none
  scheme := none

/-- A slash in front makes no host, two do. -/
theorem local_url_names_no_host_iff_threefold :
    (∃ path, threefoldRoute.generate? (threefoldDemand "sales" "orders") = some path ∧
      path.text = "/sales/orders".toList ∧
      ∃ request, Request.ofUrl path.text = .ok request ∧ request.host = []) ∧
    ∃ path, threefoldRoute.generate? (threefoldDemand "" "orders.org") = some path ∧
      path.text = "//orders.org".toList ∧
      ¬ ∃ request, Request.ofUrl path.text = .ok request ∧ request.host = [] := by
  have hr : threefoldRoute.Coherent := coherent_of_make? (d := threefoldDescription) rfl
  have hdefaults : threefoldRoute.defaults.ArePlain := by decide +kernel
  refine ⟨?_, ?_⟩
  · have hpath : threefoldRoute.pathFor (threefoldDemand "sales" "orders").context =
        [[], "sales".toList, "orders".toList] := by decide +kernel
    have hgenerated := (threefoldRoute.generate?_eq_some_iff (threefoldDemand "sales" "orders") _).2
      ⟨by decide +kernel, rfl⟩
    refine ⟨_, hgenerated, by decide +kernel, ?_⟩
    refine (local_url_names_no_host_iff hr rfl (by decide +kernel) hdefaults hgenerated).1.2 ?_
    rw [hpath]
    rintro authority ⟨first, second, third, rest, htokens, -, hsecond, -⟩
    cases htokens
    exact absurd hsecond (by decide)
  · have hpath : threefoldRoute.pathFor (threefoldDemand "" "orders.org").context =
        [[], [], "orders.org".toList] := by decide +kernel
    have hgenerated := (threefoldRoute.generate?_eq_some_iff (threefoldDemand "" "orders.org") _).2
      ⟨by decide +kernel, rfl⟩
    refine ⟨_, hgenerated, by decide +kernel, fun hnone => ?_⟩
    have htaken := (local_url_names_no_host_iff hr rfl (by decide +kernel) hdefaults
      hgenerated).1.1 hnone "orders.org".toList
    rw [hpath] at htaken
    exact absurd (htaken ⟨_, _, _, _, rfl, .inl rfl, rfl, rfl⟩).2 (by decide)

/-- A local route may generate a URL that names a host, though no value holds a delimiter: the values
in front are empty. -/
theorem local_url_may_name_host :
    ¬ ∀ (description : RouteDescription) (r : Route) (d : UrlDemand) (path : VirtualPath),
      make? description = .ok r → r.pattern.host = [] → d.context.ArePlain → r.defaults.ArePlain →
        r.generate? d = some path →
          ∃ request, Request.ofUrl path.text = .ok request ∧ request.host = [] := by
  intro h
  have hfound : (threefoldRoute.generate? (threefoldDemand "" "orders.org")).map VirtualPath.text =
      some "//orders.org".toList := by decide +kernel
  obtain ⟨path, hpath, htext⟩ := Option.map_eq_some_iff.1 hfound
  obtain ⟨request, hrequest, hhost⟩ := h threefoldDescription threefoldRoute
    (threefoldDemand "" "orders.org") path rfl rfl (by decide +kernel) (by decide +kernel) hpath
  have hread : Request.ofUrl "//orders.org".toList =
      .ok ⟨[], "orders.org".toList, "/".toList, []⟩ := by decide +kernel
  rw [htext, hread] at hrequest
  cases hrequest
  cases hhost

end Route

end UrlRouting
