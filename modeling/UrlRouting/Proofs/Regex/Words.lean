import Mathlib.Data.List.Forall2
import UrlRouting.Proofs.Regex.CharTest
import UrlRouting.Proofs.Regex.Search
import UrlRouting.Proofs.Regex.Syntax

/-!
# Words and runs

Two kinds of rules whose languages can be told at a glance.  A word without metacharacters stands for
the texts that equal it, character by character, when case is ignored
(`mem_languageOfSequence_wordNodes_iff`), and a repeated character test for the texts of so many
characters that all pass it (`mem_repeated_language_iff`).
-/

namespace UrlRouting.Regex

open Text

/-! ## Words -/

/-- Two characters are equal when case is ignored: their lower forms are the same or kindred. -/
def EqualIgnoringCase (own c : Char) : Prop :=
  lowerCode c.toNat = lowerCode own.toNat ∨
    lowerCode c.toNat ∈ kin (lowerCode own.toNat)

instance : DecidableRel EqualIgnoringCase := fun own c =>
  inferInstanceAs (Decidable (lowerCode c.toNat = lowerCode own.toNat ∨
    lowerCode c.toNat ∈ kin (lowerCode own.toNat)))

/-- A rule that is a character accepts the characters that equal it when case is ignored. -/
theorem passes_ofCode_iff (own c : Char) :
    Cursor.passes (.ofCode true .unicode false own.toNat) c = true ↔ EqualIgnoringCase own c := by
  rw [Cursor.passes, EqualIgnoringCase]
  rcases CharTest.ofCode_cases false own.toNat with
    ⟨hcased, htest⟩ | ⟨hkin, htest⟩ | ⟨hkin, htest⟩
  · rw [htest, lowerCode_of_not_cased hcased, kin_of_not_cased hcased,
      lowerCode_eq_iff_of_not_cased hcased]
    simp [CharTest.accepts]
  · rw [htest, hkin]
    simp [CharTest.accepts, Alphabet.lower]
  · obtain ⟨hlower, hle⟩ := lowerCode_of_kin hkin
    rw [htest]
    simp [CharTest.accepts, Alphabet.lower, CharTest.holdsFolded_basic (Nat.not_lt.2 hle), hlower]

/-- What a word is made of as a rule. -/
def wordNodes (word : Text) : List Node := word.map fun c => .char c.toNat

/-- A word without metacharacters is spelled by itself. -/
theorem spells_wordNodes (word : Text) (h : word.all (fun c => c ∉ metacharacters) = true)
    (rest : Text) : Spells (.sequence (wordNodes word)) word rest := by
  induction word with
  | nil => exact .nil
  | cons c word ih =>
    rw [List.all_cons, Bool.and_eq_true, decide_eq_true_eq] at h
    exact spells_cons_literal h.1 (ih h.2)

/-- A word stands for the texts that equal it when case is ignored. -/
theorem mem_languageOfSequence_wordNodes_iff (word t : Text) :
    t ∈ languageOfSequence (wordNodes word) ↔ List.Forall₂ EqualIgnoringCase word t := by
  induction word generalizing t with
  | nil =>
    rw [wordNodes, List.map_nil, languageOfSequence, Language.mem_one, List.forall₂_nil_left_iff]
  | cons own word ih =>
    rw [wordNodes, List.map_cons, languageOfSequence, Node.language]
    cases t with
    | nil => simp [nil_notMem_charLanguage_mul]
    | cons c t =>
      rw [cons_mem_charLanguage_mul, passes_ofCode_iff, List.forall₂_cons]
      exact and_congr_right fun _ => ih t

/-! ## Runs -/

variable {test : CharTest}

/-- The texts of so many characters that all pass a test. -/
theorem mem_charLanguage_pow_iff (n : Nat) (t : Text) :
    t ∈ test.language ^ n ↔ t.length = n ∧ ∀ c ∈ t, Cursor.passes test c = true := by
  induction n generalizing t with
  | zero =>
    rw [pow_zero, Language.mem_one, List.length_eq_zero_iff]
    exact ⟨fun h => ⟨h, by simp [h]⟩, And.left⟩
  | succ n ih =>
    rw [pow_succ']
    cases t with
    | nil => simp [nil_notMem_charLanguage_mul]
    | cons c t =>
      rw [cons_mem_charLanguage_mul, ih, List.length_cons, List.forall_mem_cons,
        Nat.add_right_cancel_iff, and_left_comm]

/-- A repeated character stands for runs of the characters that pass. -/
theorem mem_repeated_language_iff (least : Nat) (most : Option Nat) (t : Text) :
    t ∈ repeated least most test.language ↔
      least ≤ t.length ∧ (∀ m ∈ most, t.length ≤ m) ∧
        ∀ c ∈ t, Cursor.passes test c = true := by
  constructor
  · rintro ⟨n, hleast, hmost, ht⟩
    obtain ⟨rfl, hall⟩ := (mem_charLanguage_pow_iff n t).1 ht
    exact ⟨hleast, hmost, hall⟩
  · rintro ⟨hleast, hmost, hall⟩
    exact ⟨t.length, hleast, hmost, (mem_charLanguage_pow_iff _ t).2 ⟨rfl, hall⟩⟩

end UrlRouting.Regex
