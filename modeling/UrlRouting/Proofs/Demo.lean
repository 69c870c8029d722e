import UrlRouting.Demo
import UrlRouting.Proofs.Regex.Words
import UrlRouting.Proofs.Route.RulesOnUrls
import UrlRouting.Proofs.Session.Dispatch

/-!
# The pages of the demonstration

Which page the demonstration shows for a URL, told by the tokens of its host and of its path alone
(`pageText`).  The main statement is `result_dispatch_table`: every URL that can be read is answered with
its page.  The three routes overlap: a request that the rule of one of them refuses goes on to those
behind it.
-/

namespace UrlRouting

open Regex

namespace Demo

/-! ## The pages -/

/-- A text names one of the two companies, in letters of any case. -/
def IsCompany (t : Text) : Prop :=
  List.Forall₂ EqualIgnoringCase "acme".toList t ∨ List.Forall₂ EqualIgnoringCase "contoso".toList t

instance (t : Text) : Decidable (IsCompany t) :=
  inferInstanceAs (Decidable (List.Forall₂ EqualIgnoringCase "acme".toList t ∨
    List.Forall₂ EqualIgnoringCase "contoso".toList t))

/-- A text is a number: it is not empty and has decimal digits only. -/
def IsNumber (t : Text) : Prop := t ≠ [] ∧ ∀ c ∈ t, Text.isDigit c.toNat = true

instance (t : Text) : Decidable (IsNumber t) :=
  have : Decidable (∀ c ∈ t, Text.isDigit c.toNat = true) := List.decidableBAll _ t
  inferInstanceAs (Decidable (t ≠ [] ∧ ∀ c ∈ t, Text.isDigit c.toNat = true))

/-- The page of a company, for the tokens of a host and of a path. -/
def companyText? : (host path : List Text) → Option Text
  | [company, domain], [area, controller] =>
      if domain = "com".toList ∧ IsCompany company then
        some (company ++ ": ".toList ++ area ++ "/".toList ++ controller)
      else none
  | _, _ => none

/-- The page of an item, for the tokens of a path. -/
def itemText? : (path : List Text) → Option Text
  | [id] => if IsNumber id then some ("item ".toList ++ id) else none
  | _ => none

/-- The page of an action, for the tokens of a path. -/
def actionText? : (path : List Text) → Option Text
  | [controller, action] => some (controller ++ ".".toList ++ action)
  | _ => none

/-- The page for the tokens of a host and of a path. -/
def pageText (host path : List Text) : Text :=
  ((companyText? host path).or ((itemText? path).or (actionText? path))).getD "Not found".toList

/-! ## The rules -/

/-- What the rule for companies is made of. -/
def companies : List (List Node) := [wordNodes "acme".toList, wordNodes "contoso".toList]

theorem spells_companies : Spells (.choice companies) "acme|contoso".toList [] :=
  .bar (spells_wordNodes "acme".toList (by decide) _)
    (.single (spells_wordNodes "contoso".toList (by decide) _))

theorem mem_language_companies_iff (t : Text) : t ∈ languageOfChoice companies ↔ IsCompany t := by
  rw [companies, languageOfChoice, languageOfChoice, languageOfChoice, add_zero, Language.mem_add,
    mem_languageOfSequence_wordNodes_iff, mem_languageOfSequence_wordNodes_iff, IsCompany]

/-- What the rule for items is made of. -/
def numbers : List (List Node) :=
  [[.repeated false ⟨1, none, nofun⟩ (.set false [.category false .digit])]]

theorem spells_numbers : Spells (.choice numbers) "\\d+".toList [] :=
  .single (.cons (t := "\\d+".toList) (u := [])
    (.greedy (t := "\\d".toList) (.category (by decide)) .plus (by simp)) .nil)

theorem mem_language_numbers_iff (t : Text) : t ∈ languageOfChoice numbers ↔ IsNumber t := by
  have htest : setTest false [.category false .digit] =
      .oneOf false .unicode [.category false .digit] := by decide
  have hdigit : ∀ c : Char,
      Cursor.passes (setTest false [.category false .digit]) c = Text.isDigit c.toNat := by
    intro c
    rw [htest]
    simp [Cursor.passes, CharTest.accepts, Member.holds, Category.holds]
  have hlength : 1 ≤ t.length ↔ t ≠ [] := by
    rw [← List.length_pos_iff]
    exact Iff.rfl
  rw [numbers, languageOfChoice, languageOfChoice, add_zero, languageOfSequence, languageOfSequence,
    mul_one, Node.language, Node.language, mem_repeated_language_iff, hlength, IsNumber]
  simp [hdigit]

/-! ## The routes -/

variable {r : Route} {request : Request}

/-- The route of companies shows their pages. -/
theorem shown?_company (hmake : Route.make? registrations[0].description = .ok r)
    (hline : request.NewlineFree) :
    r.shown? request = companyText? (hostTokens request.host) (pathTokens request.path) := by
  obtain ⟨hparsed, hdefaults, hrules, hhandler⟩ := Route.fields_of_make? hmake
  have hpattern : r.pattern = ⟨some "http".toList,
      [.named "\x7bcompany\x7d".toList "company".toList, .literal "com".toList],
      [.named "\x7barea\x7d".toList "area".toList,
        .named "\x7bcontroller\x7d".toList "controller".toList]⟩ :=
    hparsed.trans (by decide +kernel)
  have hfits : r.Accommodates request ↔ ∃ company area controller,
      hostTokens request.host = [company, "com".toList] ∧
        pathTokens request.path = [area, controller] := by
    simp [Route.Accommodates, Fits, hpattern, List.forall₂_cons_left_iff, Segment.Admits]
  by_cases hfit : r.Accommodates request
  · obtain ⟨company, area, controller, hhost, hpath⟩ := hfits.1 hfit
    have hvalues : r.valuesFor request =
        .overlay (.ofList [("company".toList, .text "acme".toList),
            ("controller".toList, .text "Home".toList)])
          (.ofList [("company".toList, .text company), ("area".toList, .text area),
            ("controller".toList, .text controller)]) := by
      rw [Route.valuesFor, Route.entriesFor, hpattern, hdefaults, hhost, hpath]
      rfl
    have hcompanyLine : '\n' ∉ company := hline.not_mem_token.1 company (by rw [hhost]; simp)
    have hrule : r.constraints.elim [] Bindings.entries =
        [("company".toList, .text "acme|contoso".toList)] := by
      rw [hrules]
      rfl
    have hobeys : r.accepts (r.valuesFor request) = true ↔ IsCompany company := by
      rw [← mem_language_companies_iff, hvalues]
      exact (Route.coherent_of_make? hmake).accepts_iff_of_single_rule hrule spells_companies
        (by decide +kernel) rfl hcompanyLine
    have htext : r.handler.text (r.valuesFor request) =
        [company, ": ".toList, area, "/".toList, controller].flatten := by
      rw [hhandler, hvalues]
      rfl
    rw [Route.shown?_eq_ite hfit, htext, hhost, hpath, companyText?]
    simp only [hobeys, true_and, List.flatten_cons, List.flatten_nil, List.append_nil,
      List.append_assoc]
  · rw [Route.shown?_eq_none hfit]
    unfold companyText?
    split
    · next company domain area controller hhost hpath =>
      rw [if_neg]
      rintro ⟨rfl, -⟩
      exact hfit (hfits.2 ⟨company, area, controller, hhost, hpath⟩)
    · rfl

/-- The route of items shows their pages, whatever the host is. -/
theorem shown?_item (hmake : Route.make? registrations[1].description = .ok r)
    (hline : request.NewlineFree) : r.shown? request = itemText? (pathTokens request.path) := by
  obtain ⟨hparsed, hdefaults, hrules, hhandler⟩ := Route.fields_of_make? hmake
  have hpattern : r.pattern = ⟨none, [], [.named "\x7bid\x7d".toList "id".toList]⟩ :=
    hparsed.trans (by decide +kernel)
  have hfits : r.Accommodates request ↔ ∃ id, pathTokens request.path = [id] := by
    simp [Route.Accommodates, Fits, hpattern, List.forall₂_cons_left_iff, Segment.Admits]
  by_cases hfit : r.Accommodates request
  · obtain ⟨id, hpath⟩ := hfits.1 hfit
    have hvalues : r.valuesFor request =
        .overlay .empty (.ofList [("id".toList, .text id)]) := by
      rw [Route.valuesFor, Route.entriesFor, hpattern, hdefaults, hpath]
      rfl
    have hidLine : '\n' ∉ id := hline.not_mem_token.2 id (by rw [hpath]; simp)
    have hrule : r.constraints.elim [] Bindings.entries =
        [("id".toList, .text "\\d+".toList)] := by
      rw [hrules]
      rfl
    have hobeys : r.accepts (r.valuesFor request) = true ↔ IsNumber id := by
      rw [← mem_language_numbers_iff, hvalues]
      exact (Route.coherent_of_make? hmake).accepts_iff_of_single_rule hrule spells_numbers
        (by decide +kernel) rfl hidLine
    have htext : r.handler.text (r.valuesFor request) = ["item ".toList, id].flatten := by
      rw [hhandler, hvalues]
      rfl
    rw [Route.shown?_eq_ite hfit, htext, hpath, itemText?]
    simp only [hobeys, List.flatten_cons, List.flatten_nil, List.append_nil]
  · rw [Route.shown?_eq_none hfit]
    unfold itemText?
    split
    · next id hpath => exact absurd (hfits.2 ⟨id, hpath⟩) hfit
    · rfl

/-- The route of actions shows their pages, whatever the host is. -/
theorem shown?_action (hmake : Route.make? registrations[2].description = .ok r)
    (request : Request) : r.shown? request = actionText? (pathTokens request.path) := by
  obtain ⟨hparsed, hdefaults, hrules, hhandler⟩ := Route.fields_of_make? hmake
  have hpattern : r.pattern = ⟨none, [],
      [.named "\x7bcontroller\x7d".toList "controller".toList,
        .named "\x7baction\x7d".toList "action".toList]⟩ :=
    hparsed.trans (by decide +kernel)
  have hfits : r.Accommodates request ↔
      ∃ controller action, pathTokens request.path = [controller, action] := by
    simp [Route.Accommodates, Fits, hpattern, List.forall₂_cons_left_iff, Segment.Admits]
  by_cases hfit : r.Accommodates request
  · obtain ⟨controller, action, hpath⟩ := hfits.1 hfit
    have hvalues : r.valuesFor request =
        .overlay (.ofList [("controller".toList, .text "Home".toList),
            ("action".toList, .text "Index".toList)])
          (.ofList [("controller".toList, .text controller), ("action".toList, .text action)]) := by
      rw [Route.valuesFor, Route.entriesFor, hpattern, hdefaults, hpath]
      rfl
    have hobeys : r.accepts (r.valuesFor request) = true := by
      refine (Route.coherent_of_make? hmake).accepts_of_no_rules ?_ _
      rw [hrules]
      rfl
    have htext : r.handler.text (r.valuesFor request) =
        [controller, ".".toList, action].flatten := by
      rw [hhandler, hvalues]
      rfl
    rw [Route.shown?_eq_ite hfit, if_pos hobeys, htext, hpath, actionText?]
    simp only [List.flatten_cons, List.flatten_nil, List.append_nil, List.append_assoc]
  · rw [Route.shown?_eq_none hfit]
    unfold actionText?
    split
    · next controller action hpath => exact absurd (hfits.2 ⟨controller, action, hpath⟩) hfit
    · rfl

/-! ## The table -/

/-- The table of the demonstration holds the three routes, and nothing else is in the store. -/
theorem exists_table_session : ∃ (t : Table) (company item action : Route),
    session.tables[table]? = some t ∧
      t.candidates session.store = [(0, company), (1, item), (2, action)] ∧
      Route.make? registrations[0].description = .ok company ∧
      Route.make? registrations[1].description = .ok item ∧
      Route.make? registrations[2].description = .ok action := by
  have hok : ∀ registration ∈ registrations, registration.unexpected = [] ∧
      (Route.make? registration.description).isOk = true := by decide +kernel
  obtain ⟨routes, hmade⟩ := exists_forall₂_makes hok
  obtain ⟨hstore, t, htable, hroutes⟩ := Session.exists_table_run_makeTable tableName
    tableName true true hmade (by decide)
  rw [← setup, ← session] at hstore htable
  obtain ⟨company, behind, ⟨-, hcompany⟩, hbehind, rfl⟩ := List.forall₂_cons_left_iff.1 hmade
  obtain ⟨item, last, ⟨-, hitem⟩, hlast, rfl⟩ := List.forall₂_cons_left_iff.1 hbehind
  obtain ⟨action, none, ⟨-, haction⟩, hnone, rfl⟩ := List.forall₂_cons_left_iff.1 hlast
  obtain rfl := List.forall₂_nil_left_iff.1 hnone
  refine ⟨t, company, item, action, (Session.table?_eq_ok_iff.1 htable).2, ?_, hcompany, hitem,
    haction⟩
  rw [Table.candidates, hroutes, hstore]
  rfl

section Candidates

variable {t : Table} {store : RouteStore} {company item action : Route}
  (hcandidates : t.candidates store = [(0, company), (1, item), (2, action)])
  (hcompany : Route.make? registrations[0].description = .ok company)
  (hitem : Route.make? registrations[1].description = .ok item)
  (haction : Route.make? registrations[2].description = .ok action)

include hcandidates hcompany hitem haction

/-- The three routes serve their views. -/
theorem allServe_of_candidates : t.AllServe store := by
  have hsuit : ∀ registration ∈ registrations, registration.description.suitsView = true := by
    decide +kernel
  rw [Table.AllServe, hcandidates]
  simp only [List.forall_mem_cons]
  exact ⟨Route.exists_serves_of_make? (hsuit _ (List.getElem_mem _)) hcompany,
    Route.exists_serves_of_make? (hsuit _ (List.getElem_mem _)) hitem,
    Route.exists_serves_of_make? (hsuit _ (List.getElem_mem _)) haction, nofun⟩

/-- A table of the three routes shows the pages in their order. -/
theorem shown?_of_candidates (hline : request.NewlineFree) :
    t.shown? store request =
      (companyText? (hostTokens request.host) (pathTokens request.path)).or
        ((itemText? (pathTokens request.path)).or (actionText? (pathTokens request.path))) := by
  rw [Table.shown?, hcandidates, ← shown?_company hcompany hline, ← shown?_item hitem hline,
    ← shown?_action haction request]
  simp only [List.findSome?_cons, List.findSome?_nil]
  cases company.shown? request with
  | some text => rfl
  | none =>
    cases item.shown? request with
    | some text => rfl
    | none => cases action.shown? request <;> rfl

end Candidates

/-- **The demonstration answers every URL.**  Every URL that can be read is answered with its page, and
the session stays as it is; so nothing that was dispatched before has a part in it.  Whatever route
matches, it leads to a view, and the names of the values of the match are the parameters of the
view. -/
theorem result_dispatch_table {url : Text} {request : Request}
    (hurl : Request.ofUrl url = .ok request) :
    (session.step (.dispatch table url)).result =
        .ok (.rendered (pageText (hostTokens request.host) (pathTokens request.path))) ∧
      (session.step (.dispatch table url)).session = session ∧
      ∃ t, session.tables[table]? = some t ∧
        ∀ ref r data, t.match? session.store request = some (ref, r, data) →
          ∃ view, data.handler = .view view ∧ data.values.keys.Perm view.parameters := by
  obtain ⟨t, company, item, action, htable, hcandidates, hcompany, hitem, haction⟩ :=
    exists_table_session
  have hserve := allServe_of_candidates hcandidates hcompany hitem haction
  have hshown := shown?_of_candidates hcandidates hcompany hitem haction
    (Request.newlineFree_of_ofUrl hurl)
  refine ⟨?_, ?_, t, htable, fun ref r data hfound => ?_⟩
  · rw [Session.result_dispatch htable hserve hurl, hshown, pageText]
  · rw [Session.step_dispatch htable hurl]
  · obtain ⟨hmem, hmatch⟩ := Table.mem_candidates_of_match? hfound
    obtain ⟨view, hview⟩ := hserve _ hmem
    exact ⟨view, hview.of_match? hmatch⟩

/-- A company is told in letters of any case, and by a long s as well; the path falls to the route of
actions if the host is none of a company. -/
theorem result_dispatch_table_longS :
    (∃ request, Request.ofUrl ("HTTP://conto\u017fO.com/a/b/").toList = .ok request ∧
      (session.step (.dispatch table ("HTTP://conto\u017fO.com/a/b/").toList)).result =
        .ok (.rendered "conto\u017fo: a/b".toList)) ∧
    ∃ request, Request.ofUrl "http://acme.org/a/b".toList = .ok request ∧
      (session.step (.dispatch table "http://acme.org/a/b".toList)).result =
        .ok (.rendered "a.b".toList) := by
  have hcompany : Request.ofUrl ("HTTP://conto\u017fO.com/a/b/").toList =
      .ok ⟨"http".toList, "conto\u017fo.com".toList, "/a/b/".toList, []⟩ := by decide +kernel
  have haction : Request.ofUrl "http://acme.org/a/b".toList =
      .ok ⟨"http".toList, "acme.org".toList, "/a/b".toList, []⟩ := by decide +kernel
  have hcompanyPage : pageText (hostTokens "conto\u017fo.com".toList) (pathTokens "/a/b/".toList) =
      "conto\u017fo: a/b".toList := by decide +kernel
  have hactionPage : pageText (hostTokens "acme.org".toList) (pathTokens "/a/b".toList) =
      "a.b".toList := by decide +kernel
  refine ⟨⟨_, hcompany, ?_⟩, _, haction, ?_⟩
  · rw [(result_dispatch_table hcompany).1, hcompanyPage]
  · rw [(result_dispatch_table haction).1, hactionPage]

end Demo

end UrlRouting
