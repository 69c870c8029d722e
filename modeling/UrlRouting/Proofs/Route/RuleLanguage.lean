import UrlRouting.Proofs.Bindings
import UrlRouting.Proofs.Regex.Rule
import UrlRouting.Proofs.Route.Coherence
import UrlRouting.Route.Generate

/-!
# The language of a rule

A route with a single variable and a regular rule for it generates a URL for the texts that the rule
stands for, and for those with a line feed behind them.  The rule stands for its usual language,
with one exception.  Alternatives that are single characters or sets, apart from what all of them
begin with, are compared as one set, and in a set a capital letter beyond the basic plane equals no
character, although by itself it does.
-/

namespace UrlRouting.Route

open Regex

/-- A route of a single variable with a rule for it. -/
def ruled (rule : Text) : RouteDescription where
  urlPattern := some "\x7bv\x7d".toList
  defaults := none
  constraints := some (.ofList [("v".toList, .text rule)])
  dataTokens := none
  handler := .absent

/-- What is asked of such a route: the URL for one text. -/
def demandFor (t : Text) : UrlDemand where
  values := some (.ofList [("v".toList, .text t)])
  currentValues := none
  scheme := none

/-- A route that has been made for a rule keeps the rule as it was read. -/
theorem checks_of_make?_ruled {rule : Text} {r : Route} (h : make? (ruled rule) = .ok r) :
    ∃ regex, compile rule = .ok regex ∧ r.checks = [⟨"v".toList, regex⟩] := by
  refine (coherent_of_make? h).checks_of_single_rule ?_
  rw [(fields_of_make? h).2.2.1]
  rfl

/-- Such a route generates a URL for the texts that its rule accepts. -/
theorem isSome_generate?_demandFor {regex : Regex} {r : Route}
    (hchecks : r.checks = [⟨"v".toList, regex⟩]) (t : Text) :
    (r.generate? (demandFor t)).isSome = regex.accepts t := by
  have hcontext : (demandFor t).context = .ofList [("v".toList, .text t)] := by
    rw [UrlDemand.context]
    exact Bindings.empty_overlay _
  have haccepts : r.accepts (demandFor t).context = regex.accepts t := by
    rw [Route.accepts, hchecks, hcontext, List.all_cons, List.all_nil, Bool.and_true]
    rfl
  rw [generate?]
  dsimp only
  rw [haccepts]
  cases regex.accepts t <;> rfl

/-- The texts for which such a route generates a URL are those of the language that its rule is read
as, and those with a line feed behind them.  That language is a part of the usual one, and all of it
if no capital letter beyond the basic plane becomes a member of a set. -/
theorem isSome_generate?_iff_of_spells {alternatives : List (List Node)} {rule : Text} {r : Route}
    (hrule : Spells (.choice alternatives) rule []) (hmake : make? (ruled rule) = .ok r) :
    (∀ t, (r.generate? (demandFor t)).isSome = true ↔
        t ∈ readLanguage alternatives ∨ ∃ w ∈ readLanguage alternatives, t = w ++ ['\n']) ∧
      (∀ w ∈ readLanguage alternatives, w ∈ languageOfChoice alternatives) ∧
      (ruleKeepsCapitals alternatives = true →
        readLanguage alternatives = languageOfChoice alternatives) := by
  obtain ⟨regex, hcompile, hchecks⟩ := checks_of_make?_ruled hmake
  obtain ⟨hle, heq⟩ := readLanguage_isPartOf hrule
  refine ⟨fun t => ?_, fun w hw => hle hw, heq⟩
  rw [isSome_generate?_demandFor hchecks]
  exact accepts_iff hrule hcompile t

/-- A pair of letters in a group. -/
def pair : Node := .group true [[.char ('a').toNat, .char ('b').toNat]]

/-- A rule that repeats a pair of letters. -/
def pairs : List (List Node) := [[.repeated false ⟨0, none, nofun⟩ pair]]

theorem mem_language_pair {c d : Char}
    (hc : Cursor.passes (.ofCode true .unicode false ('a').toNat) c = true)
    (hd : Cursor.passes (.ofCode true .unicode false ('b').toNat) d = true) :
    [c, d] ∈ pair.language := by
  rw [pair, Node.language, languageOfChoice, languageOfChoice, languageOfSequence,
    languageOfSequence, languageOfSequence, mul_one, add_zero]
  refine Language.append_mem_mul (a := [c]) (b := [d]) ?_ ?_
  · exact ⟨c, hc, rfl⟩
  · exact ⟨d, hd, rfl⟩

theorem spells_pairs : Spells (.choice pairs) "(ab)*".toList [] := by
  have hpair : Spells (.node pair) "(ab)".toList "*".toList := by
    refine .capturing (t := "ab".toList) (.single ?_)
    exact spells_cons_literal (by decide) (spells_cons_literal (by decide) .nil)
  exact .single (.cons (u := []) (.greedy hpair .star (by simp)) .nil)

theorem mem_language_pairs : "ABab".toList ∈ languageOfChoice pairs := by
  rw [pairs, languageOfChoice, languageOfChoice, languageOfSequence, languageOfSequence, mul_one,
    add_zero]
  refine ⟨2, Nat.zero_le 2, by simp, ?_⟩
  rw [pow_two]
  exact Language.append_mem_mul
    (mem_language_pair (c := 'A') (d := 'B') (by decide +kernel) (by decide +kernel))
    (mem_language_pair (c := 'a') (d := 'b') (by decide +kernel) (by decide +kernel))

theorem isSome_generate?_iff_of_spells_pairs :
    ∃ r, make? (ruled "(ab)*".toList) = .ok r ∧
      (r.generate? (demandFor "ABab\n".toList)).isSome = true := by
  have hmade : (make? (ruled "(ab)*".toList)).isOk = true := by decide +kernel
  cases hmake : make? (ruled "(ab)*".toList) with
  | error fault =>
    rw [hmake] at hmade
    cases hmade
  | ok r =>
    obtain ⟨hgenerate, -, hread⟩ := isSome_generate?_iff_of_spells spells_pairs hmake
    refine ⟨r, rfl, (hgenerate _).2 (.inr ⟨"ABab".toList, ?_, rfl⟩)⟩
    rw [hread (by decide +kernel)]
    exact mem_language_pairs

/-- A choice between two capital letters beyond the basic plane. -/
def deseret : List (List Node) :=
  [[.char (Char.ofNat 0x10400).toNat], [.char (Char.ofNat 0x10401).toNat]]

/-- The rule that spells it. -/
def deseretRule : Text := [Char.ofNat 0x10400, '|', Char.ofNat 0x10401]

theorem spells_deseret : Spells (.choice deseret) deseretRule [] :=
  .bar (t := [Char.ofNat 0x10400]) (spells_cons_literal (by decide) .nil)
    (.single (spells_cons_literal (by decide) .nil))

/-- By itself the first of the letters equals itself. -/
theorem mem_language_deseret : [Char.ofNat 0x10400] ∈ languageOfChoice deseret := by
  rw [deseret, languageOfChoice, languageOfSequence, languageOfSequence, mul_one]
  exact .inl ⟨Char.ofNat 0x10400, by decide +kernel, rfl⟩

/-- A rule need not accept a text of its usual language: in a choice between two capital letters
beyond the basic plane neither accepts itself. -/
theorem not_forall_isSome_generate?_iff :
    ¬ ∀ (alternatives : List (List Node)) (rule : Text) (r : Route),
      Spells (.choice alternatives) rule [] → make? (ruled rule) = .ok r →
        ∀ t, (r.generate? (demandFor t)).isSome = true ↔
          t ∈ languageOfChoice alternatives ∨
            ∃ w ∈ languageOfChoice alternatives, t = w ++ ['\n'] := by
  intro h
  have hrejected : (make? (ruled deseretRule)).toOption.map
      (fun r => (r.generate? (demandFor [Char.ofNat 0x10400])).isSome) = some false := by
    decide +kernel
  cases hmake : make? (ruled deseretRule) with
  | error fault =>
    rw [hmake] at hrejected
    cases hrejected
  | ok r =>
    have hfound := (h _ _ r spells_deseret hmake _).2 (.inl mem_language_deseret)
    rw [hmake] at hrejected
    replace hrejected : some (r.generate? (demandFor [Char.ofNat 0x10400])).isSome = some false :=
      hrejected
    rw [hfound] at hrejected
    cases hrejected

end UrlRouting.Route
