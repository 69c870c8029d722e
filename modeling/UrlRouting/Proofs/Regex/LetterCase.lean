import UrlRouting.Proofs.Regex.Alike
import UrlRouting.Proofs.Regex.CharTest
import UrlRouting.Proofs.Route.Coherence
import UrlRouting.Proofs.Text.Lowercase

/-!
# Rules do not regard the case of letters

What a rule demands of a character is decided by lower forms, or speaks of characters without
another case, unless a group of the rule turns the regard for case on.  So the demands of a rule
without such a group do not tell a letter of ASCII from the same letter in another case, and the rule
accepts two texts that differ in nothing else, or neither: `rules_ignore_letter_case`.
-/

namespace UrlRouting.Regex

open Text

/-! ## Characters with the same lower form -/

namespace Alphabet

/-- A code point without another case is the lower form of itself only. -/
theorem lower_eq_iff_of_not_cased {alphabet : Alphabet} {c x : Nat}
    (h : alphabet.isCased c = false) : alphabet.lower x = c ↔ x = c := by
  cases alphabet with
  | unicode => exact lowerCode_eq_iff_of_not_cased h
  | ascii =>
    simp only [isCased, Bool.or_eq_false_iff, Bool.and_eq_false_iff, decide_eq_false_iff_not] at h
    simp only [lower, asciiLowerCode, Bool.and_eq_true, decide_eq_true_eq]
    split <;> omega

/-- In a range without code points that have another case there is none. -/
theorem isCased_of_isCasedRange {alphabet : Alphabet} {low high c : Nat}
    (h : alphabet.isCasedRange low high = false) (hlow : low ≤ c) (hhigh : c ≤ high) :
    alphabet.isCased c = false := by
  cases alphabet with
  | unicode => exact isCasedCode_of_anyCasedCode h hlow hhigh
  | ascii =>
    simp only [isCasedRange, Bool.or_eq_false_iff, Bool.and_eq_false_iff,
      decide_eq_false_iff_not] at h
    simp only [isCased, Bool.or_eq_false_iff, Bool.and_eq_false_iff, decide_eq_false_iff_not]
    omega

end Alphabet

/-- A character is in the same classes as its lower form. -/
theorem Category.holds_lower (named : Category) (alphabet : Alphabet) (c : Nat) :
    named.holds alphabet (alphabet.lower c) = named.holds alphabet c := by
  cases alphabet with
  | unicode => exact named.holds_lowerCode c
  | ascii =>
    rw [Bool.eq_iff_iff]
    cases named <;>
    · simp only [holds, Alphabet.lower, asciiLowerCode, isAsciiBlank, isWordCode,
        Bool.and_eq_true, Bool.or_eq_true, decide_eq_true_eq, beq_iff_eq]
      split <;> omega

/-- Letters that are the same but for case have the same lower form in both alphabets. -/
theorem Alphabet.lower_eq_of_toLower_eq {c d : Char} (h : c.toLower = d.toLower)
    (alphabet : Alphabet) : alphabet.lower c.toNat = alphabet.lower d.toNat := by
  have hascii : asciiLowerCode c.toNat = asciiLowerCode d.toNat := by
    rw [asciiLowerCode_toNat, asciiLowerCode_toNat, h]
  cases alphabet with
  | ascii => exact hascii
  | unicode =>
    show lowerCode c.toNat = lowerCode d.toNat
    by_cases hc : c.toNat < 128
    · have hd : d.toNat < 128 := by
        simp only [asciiLowerCode, Bool.and_eq_true, decide_eq_true_eq] at hascii
        split at hascii <;> split at hascii <;> omega
      rw [lowerCode_of_lt hc, lowerCode_of_lt hd, hascii]
    · have heq : c.toNat = d.toNat := by
        simp only [asciiLowerCode, Bool.and_eq_true, decide_eq_true_eq] at hascii
        split at hascii <;> split at hascii <;> omega
      rw [heq]

/-! ## Demands that do not regard case -/

section

variable {alphabet : Alphabet} {x y : Nat} (h : alphabet.lower x = alphabet.lower y)

include h

theorem Category.holds_congr (named : Category) :
    named.holds alphabet x = named.holds alphabet y := by
  rw [← named.holds_lower alphabet x, h, named.holds_lower]

theorem beq_eq_of_not_cased {c : Nat} (hc : alphabet.isCased c = false) : (x == c) = (y == c) := by
  rw [Bool.eq_iff_iff, beq_iff_eq, beq_iff_eq, ← Alphabet.lower_eq_iff_of_not_cased hc, h,
    Alphabet.lower_eq_iff_of_not_cased hc]

/-- A range without letters that have two cases holds both characters or none. -/
theorem mem_range_of_not_cased {low high : Nat} (hrange : alphabet.isCasedRange low high = false)
    (hx : low ≤ x ∧ x ≤ high) : low ≤ y ∧ y ≤ high := by
  have hcased := Alphabet.isCased_of_isCasedRange hrange hx.1 hx.2
  have hself := (Alphabet.lower_eq_iff_of_not_cased hcased).2 rfl
  rw [h] at hself
  rwa [(Alphabet.lower_eq_iff_of_not_cased hcased).1 hself]

/-- So does a member that says nothing about such letters. -/
theorem Member.holds_congr {m : Member} (hm : m.isCased alphabet = false) :
    m.holds alphabet x = m.holds alphabet y := by
  cases m with
  | code c =>
    simp only [isCased, Bool.or_eq_false_iff] at hm
    exact beq_eq_of_not_cased h hm.1
  | range low high =>
    simp only [isCased, Bool.or_eq_false_iff] at hm
    rw [Bool.eq_iff_iff]
    simp only [holds, Bool.and_eq_true, decide_eq_true_eq]
    exact ⟨mem_range_of_not_cased h hm.1, mem_range_of_not_cased h.symm hm.1⟩
  | category negated named => simp only [holds, named.holds_congr h]

namespace CharTest

/-- A single character that is compared without regard to case. -/
theorem accepts_ofCode_congr (negated : Bool) (code : Nat) :
    (ofCode true alphabet negated code).accepts x =
      (ofCode true alphabet negated code).accepts y := by
  unfold ofCode
  split
  · next hcased =>
    have hcased : alphabet.isCased code = false := by simpa using hcased
    simp only [accepts, beq_eq_of_not_cased h hcased]
  · dsimp only
    split
    · simp only [accepts, h]
    · simp only [accepts, h]

/-- A set that is compared without regard to case. -/
theorem accepts_ofMembers_congr (negated : Bool) (members : List Member) :
    (ofMembers true alphabet negated members).accepts x =
      (ofMembers true alphabet negated members).accepts y := by
  unfold ofMembers
  split
  · simp only [accepts, h]
  · next hcased =>
    have hmembers : ∀ m ∈ members, m.isCased alphabet = false := by simpa using hcased
    have hany : members.any (·.holds alphabet x) = members.any (·.holds alphabet y) := by
      rw [Bool.eq_iff_iff, List.any_eq_true, List.any_eq_true]
      refine exists_congr fun m => and_congr_right fun hm => ?_
      rw [m.holds_congr h (hmembers m hm)]
    simp only [accepts, hany]

end CharTest

end

/-- Two characters are the same but for the case of letters of ASCII. -/
def SameButCase (c d : Char) : Prop := c.toLower = d.toLower

theorem SameButCase.lineFeed {c d : Char} (h : SameButCase c d) : (c == '\n') = (d == '\n') := by
  have hfeed := beq_eq_of_not_cased (Alphabet.lower_eq_of_toLower_eq h .ascii)
    (show Alphabet.ascii.isCased ('\n').toNat = false from rfl)
  rw [Bool.eq_iff_iff, beq_iff_eq, beq_iff_eq, Char.toNat_inj, Char.toNat_inj] at hfeed
  rw [Bool.eq_iff_iff, beq_iff_eq, beq_iff_eq, hfeed]

theorem isLikeness_sameButCase : IsLikeness SameButCase where
  lineFeed _ _ h := h.lineFeed
  word alphabet _ _ h := Category.word.holds_congr (Alphabet.lower_eq_of_toLower_eq h alphabet)

/-! ## Rules that do not regard case -/

mutual

/-- Whether no group of an item turns the regard for case on. -/
def Item.ignoresCase : Item → Bool
  | .group _ flags body => .ignoreCase ∉ flags.off && ignoreCase body
  | .atomic body => ignoreCase body
  | .look _ _ body => ignoreCase body
  | .branch alternatives => allIgnoreCase alternatives
  | .repeated _ _ _ body => ignoreCase body
  | .conditional _ yes no => ignoreCase yes && ignoreCase no
  | _ => true

/-- Whether no group of items in a row does. -/
def ignoreCase : List Item → Bool
  | [] => true
  | item :: items => item.ignoresCase && ignoreCase items

/-- Whether no group of alternatives does. -/
def allIgnoreCase : List (List Item) → Bool
  | [] => true
  | items :: alternatives => ignoreCase items && allIgnoreCase alternatives

end

theorem demandsOf_append (ops ops' : List Op) :
    demandsOf (ops ++ ops') = demandsOf ops ++ demandsOf ops' := by
  induction ops with
  | nil => rfl
  | cons op ops ih => rw [List.cons_append, demandsOf, demandsOf, ih, List.append_assoc]

/-- A repetition demands what the repeated items do. -/
theorem demandsOf_repeated (m : Modes) (kind : Repetition) (least : Nat) (most : Option Nat)
    (body : List Item) :
    demandsOf (Op.ofItem m (.repeated kind least most body)) = demandsOf (Op.ofItems m body) := by
  rw [Op.ofItem]
  split
  · next test hbody =>
    rw [hbody]
    rfl
  · rw [demandsOf, demandsOf, Op.demands, List.append_nil]

theorem isBlind_of_accepts_congr {test : CharTest} (alphabet : Alphabet)
    (h : ∀ x y, alphabet.lower x = alphabet.lower y → test.accepts x = test.accepts y) :
    (Demand.pass test).IsBlind SameButCase := by
  intro c d hcd
  exact h _ _ (Alphabet.lower_eq_of_toLower_eq hcd alphabet)

/-- Case is still ignored behind a change of flags that does not turn the regard for it on. -/
theorem Modes.ignoreCase_after {m : Modes} {flags : FlagChange} (hm : m.ignoreCase = true)
    (h : Flag.ignoreCase ∉ flags.off) : (m.after flags).ignoreCase = true := by
  simp [after, flagAfter, hm, h]

mutual

/-- What an item demands without regard to case is blind for it. -/
theorem isBlind_ofItem {m : Modes} (hm : m.ignoreCase = true) :
    (item : Item) → item.ignoresCase = true →
      ∀ demand ∈ demandsOf (Op.ofItem m item), demand.IsBlind SameButCase
  | .code code, _ => by
    rw [Op.ofItem, hm]
    refine List.forall_mem_singleton.2 (isBlind_of_accepts_congr m.alphabet ?_)
    exact fun x y h => CharTest.accepts_ofCode_congr h false code
  | .notCode code, _ => by
    rw [Op.ofItem, hm]
    refine List.forall_mem_singleton.2 (isBlind_of_accepts_congr m.alphabet ?_)
    exact fun x y h => CharTest.accepts_ofCode_congr h true code
  | .any, _ => by
    refine List.forall_mem_singleton.2 (isBlind_of_accepts_congr .ascii ?_)
    intro x y h
    split
    · rfl
    · have hfeed := beq_eq_of_not_cased h (show Alphabet.ascii.isCased 0xa = false from rfl)
      simp only [CharTest.accepts, bne, hfeed]
  | .set negated members, _ => by
    rw [Op.ofItem, hm]
    refine List.forall_mem_singleton.2 (isBlind_of_accepts_congr m.alphabet ?_)
    exact fun x y h => CharTest.accepts_ofMembers_congr h negated members
  | .anchor place, _ => List.forall_mem_nil _
  | .group none flags body, h => by
    rw [Item.ignoresCase, Bool.and_eq_true, decide_eq_true_eq] at h
    exact isBlind_ofItems (Modes.ignoreCase_after hm h.1) body h.2
  | .group (some index) flags body, h => by
    rw [Item.ignoresCase, Bool.and_eq_true, decide_eq_true_eq] at h
    have hbody : demandsOf (Op.ofItem m (.group (some index) flags body)) =
        demandsOf (Op.ofItems (m.after flags) body) ++ [] := demandsOf_append _ _
    rw [hbody, List.append_nil]
    exact isBlind_ofItems (Modes.ignoreCase_after hm h.1) body h.2
  | .atomic body, h => by
    rw [Op.ofItem, demandsOf, demandsOf, List.append_nil]
    exact isBlind_ofItems hm body h
  | .look behind negated body, h => by
    rw [Op.ofItem, demandsOf, demandsOf, List.append_nil]
    exact isBlind_ofItems hm body h
  | .branch alternatives, h => by
    rw [Op.ofItem, demandsOf, demandsOf, List.append_nil]
    exact isBlind_ofAlternatives hm alternatives h
  | .repeated kind least most body, h => by
    rw [demandsOf_repeated]
    exact isBlind_ofItems hm body h
  | .reference index width, _ => by
    rw [Op.ofItem, if_pos hm]
    refine List.forall_mem_singleton.2 fun c d x y hcd hxy => ?_
    simp only [Matcher.sameChar, Alphabet.lower_eq_of_toLower_eq hcd,
      Alphabet.lower_eq_of_toLower_eq hxy]
  | .conditional index yes no, h => by
    rw [Item.ignoresCase, Bool.and_eq_true] at h
    rw [Op.ofItem, demandsOf, demandsOf, List.append_nil, Op.demands, List.forall_mem_append]
    exact ⟨isBlind_ofItems hm yes h.1, isBlind_ofItems hm no h.2⟩

/-- So is what items in a row demand. -/
theorem isBlind_ofItems {m : Modes} (hm : m.ignoreCase = true) :
    (items : List Item) → ignoreCase items = true →
      ∀ demand ∈ demandsOf (Op.ofItems m items), demand.IsBlind SameButCase
  | [], _ => List.forall_mem_nil _
  | item :: items, h => by
    rw [ignoreCase, Bool.and_eq_true] at h
    rw [Op.ofItems, demandsOf_append, List.forall_mem_append]
    exact ⟨isBlind_ofItem hm item h.1, isBlind_ofItems hm items h.2⟩

/-- So is what alternatives demand. -/
theorem isBlind_ofAlternatives {m : Modes} (hm : m.ignoreCase = true) :
    (alternatives : List (List Item)) → allIgnoreCase alternatives = true →
      ∀ demand ∈ demandsOfAny (Op.ofAlternatives m alternatives), demand.IsBlind SameButCase
  | [], _ => List.forall_mem_nil _
  | items :: alternatives, h => by
    rw [allIgnoreCase, Bool.and_eq_true] at h
    rw [Op.ofAlternatives, demandsOfAny, List.forall_mem_append]
    exact ⟨isBlind_ofItems hm items h.1, isBlind_ofAlternatives hm alternatives h.2⟩

end

/-- Whether no group of a rule turns the regard for case on. -/
def IgnoresCase (rule : Text) : Prop :=
  ∀ items, readItems (anchored rule) = .ok items → ignoreCase items = true

/-- Such a rule accepts both of two texts that are the same but for case, or neither. -/
theorem accepts_congr_of_sameButCase {rule : Text} {regex : Regex}
    (hcompile : compile rule = .ok regex) (hrule : IgnoresCase rule) {t t' : Text}
    (h : List.Forall₂ SameButCase t t') : regex.accepts t = regex.accepts t' := by
  rw [compile] at hcompile
  split at hcompile
  · cases hcompile
  · next items hitems =>
    split at hcompile
    · cases hcompile
      have hblind := isBlind_ofItems (m := .rule) rfl items (hrule items hitems)
      exact (Matcher.agree_alone (keeps_matcherOf isLikeness_sameButCase _ hblind) _ _
        (SearchState.alike_start h)).isFound_eq
    · cases hcompile

end UrlRouting.Regex

namespace UrlRouting

/-- **Rules ignore case.**  A rule no group of which turns the regard for case on accepts both of two
values or neither, if their texts differ in the case of letters of ASCII only, whatever the rule is
made of: sets, repetitions, references to groups, looks ahead and behind. -/
theorem rules_ignore_letter_case {urlPattern name rule : Text} {check : Check}
    (hread : readCheck urlPattern name (.text rule) = .ok check)
    (hrule : Regex.IgnoresCase rule) {values values' : Bindings Value} {t t' : Text}
    (hvalue : values.get? name = some (.text t)) (hvalue' : values'.get? name = some (.text t'))
    (h : t.map Char.toLower = t'.map Char.toLower) :
    check.accepts values = check.accepts values' := by
  obtain ⟨hname, rule', hrule', hcompile⟩ := (readCheck_eq_ok_iff _ _ _ _).1 hread
  cases hrule'
  have halike : List.Forall₂ Regex.SameButCase t t' := by
    rw [← List.forall₂_eq_eq_eq, List.forall₂_map_left_iff, List.forall₂_map_right_iff] at h
    exact h
  rw [Check.accepts, Check.accepts, hname, hvalue, hvalue']
  exact Regex.accepts_congr_of_sameButCase hcompile hrule halike

/-- A rule that repeats the text of a group, with a negated set, a part for the letters of ASCII and a
look behind. -/
def echo : Text := "(?P<w>[^k-m]+?)-(?a:(?P=w))(?<=B)\\b".toList

theorem rules_ignore_letter_case_echo :
    ∃ check, readCheck [] "v".toList (.text echo) = .ok check ∧
      check.accepts (.ofList [("v".toList, .text "ab-AB".toList)]) = true ∧
      check.accepts (.ofList [("v".toList, .text "AB-ab".toList)]) = true := by
  have hread : (readCheck [] "v".toList (.text echo)).isOk = true := by decide +kernel
  have haccepts : (readCheck [] "v".toList (.text echo)).toOption.map
      (·.accepts (.ofList [("v".toList, .text "ab-AB".toList)])) = some true := by decide +kernel
  have hitems : (Regex.readItems (Regex.anchored echo)).toOption.map Regex.ignoreCase = some true := by
    decide +kernel
  have hrule : Regex.IgnoresCase echo := by
    intro items h
    rw [h] at hitems
    exact Option.some.inj hitems
  cases hcheck : readCheck [] "v".toList (.text echo) with
  | error fault =>
    rw [hcheck] at hread
    cases hread
  | ok check =>
    rw [hcheck] at haccepts
    replace haccepts := Option.some.inj haccepts
    refine ⟨check, rfl, haccepts, ?_⟩
    rw [← haccepts]
    exact (rules_ignore_letter_case hcheck hrule rfl rfl (by decide)).symm

end UrlRouting
