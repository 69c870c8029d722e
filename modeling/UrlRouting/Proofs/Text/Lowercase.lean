import UrlRouting.Proofs.Pattern.Scheme
import UrlRouting.Proofs.Text.Case
import UrlRouting.Text.Lowercase

/-!
# What becomes of a text in small letters

The rules for whole texts only concern two characters beyond ASCII.  `newline_not_mem_lowercase`
says that a single line stays one, `lowercase_of_isAscii` that a text of ASCII goes to small
letters character by character.
-/

namespace UrlRouting.Text

/-- Whether a text is one of ASCII. -/
def IsAscii (t : Text) : Prop := ∀ c ∈ t, c.toNat < 128

instance (t : Text) : Decidable (IsAscii t) :=
  inferInstanceAs (Decidable (∀ c ∈ t, c.toNat < 128))

/-- The characters that the lowercase form puts for one: its lower form, or a small sigma, or the
two characters for a capital dotted I. -/
theorem mem_lowercaseChar {before behind : Text} {c d : Char}
    (h : d ∈ lowercaseChar before c behind) :
    d = Char.ofNat (lowerCode c.toNat) ∨ d ∈ ['\u03c2', '\u03c3', 'i', '\u0307'] := by
  unfold lowercaseChar at h
  by_cases hsigma : c = '\u03a3'
  · rw [if_pos hsigma] at h
    split at h
    · exact .inr (by simp_all)
    · exact .inr (by simp_all)
  · rw [if_neg hsigma] at h
    by_cases hdotted : c = '\u0130'
    · rw [if_pos hdotted] at h
      exact .inr (by simp_all)
    · rw [if_neg hdotted] at h
      exact .inl (List.mem_singleton.1 h)

/-- Every character of the lowercase form comes from one of the text. -/
theorem exists_mem_of_mem_lowercaseFrom {before t : Text} {d : Char}
    (h : d ∈ lowercaseFrom before t) :
    ∃ before' c behind, c ∈ t ∧ d ∈ lowercaseChar before' c behind := by
  induction t generalizing before with
  | nil => cases h
  | cons c cs ih =>
    rw [lowercaseFrom, List.mem_append] at h
    rcases h with h | h
    · exact ⟨before, c, cs, List.mem_cons_self, h⟩
    · obtain ⟨before', c', behind, hc', hd⟩ := ih h
      exact ⟨before', c', behind, List.mem_cons_of_mem _ hc', hd⟩

/-! ## Line ends -/

/-- The code of the character for a number is that number, or zero if it is no code. -/
theorem toNat_ofNat_or (code : Nat) :
    (Char.ofNat code).toNat = code ∨ (Char.ofNat code).toNat = 0 := by
  by_cases hvalid : code.isValidChar
  · have hchar : Char.ofNat code = Char.ofNatAux code hvalid := dif_pos hvalid
    exact .inl (congrArg Char.toNat hchar)
  · have hzero : Char.ofNat code = '\x00' := dif_neg hvalid
    exact .inr (congrArg Char.toNat hzero)

/-- No other character than the line end has that as its lower form. -/
theorem eq_newline_of_lowerCode {c : Char} (h : '\n' = Char.ofNat (lowerCode c.toNat)) :
    c = '\n' := by
  have hcode : 10 = (Char.ofNat (lowerCode c.toNat)).toNat := congrArg Char.toNat h
  have huncased : isCasedCode 10 = false := rfl
  rcases toNat_ofNat_or (lowerCode c.toNat) with hsame | hzero
  · rw [hsame] at hcode
    exact Char.toNat_inj.1 ((lowerCode_eq_iff_of_not_cased huncased).1 hcode.symm)
  · omega

/-- A text without line ends has none in small letters either. -/
theorem newline_not_mem_lowercase {t : Text} (h : '\n' ∉ t) : '\n' ∉ lowercase t := by
  intro hmem
  obtain ⟨before, c, behind, hc, hline⟩ := exists_mem_of_mem_lowercaseFrom hmem
  rcases mem_lowercaseChar hline with hcode | hspecial
  · exact h (eq_newline_of_lowerCode hcode ▸ hc)
  · simp at hspecial

/-! ## Texts of ASCII -/

/-- The table of lower forms begins with the letters of ASCII, and nothing else in it is one. -/
theorem lowerRuns_eq : lowerRuns = ⟨0x41, 0x5a, 1, 32⟩ :: lowerRuns.tail ∧
    ∀ r ∈ lowerRuns.tail, 128 ≤ r.first := by
  refine ⟨rfl, ?_⟩
  decide +kernel

theorem lowerCode_of_lt {code : Nat} (h : code < 128) : lowerCode code = asciiLowerCode code := by
  have hnone : lowerRuns.tail.find? (·.covers code) = none := by
    rw [List.find?_eq_none]
    intro r hr hcovers
    have hfirst := lowerRuns_eq.2 r hr
    simp only [CaseRun.covers, Bool.and_eq_true, decide_eq_true_eq] at hcovers
    omega
  rw [lowerCode, shifted, lowerRuns_eq.1, List.find?_cons, hnone, asciiLowerCode]
  by_cases hcapital : 0x41 ≤ code ∧ code ≤ 0x5a
  · have hcovers : CaseRun.covers ⟨0x41, 0x5a, 1, 32⟩ code = true := by
      simp [CaseRun.covers, hcapital, Nat.mod_one]
    have hmoved : ((code : Int) + 32).toNat = code + 32 := by omega
    simp [hcovers, hcapital, hmoved]
  · have hcovers : CaseRun.covers ⟨0x41, 0x5a, 1, 32⟩ code = false := by
      rw [CaseRun.covers]
      simpa using fun hlow hhigh => absurd ⟨hlow, hhigh⟩ hcapital
    simp [hcovers, hcapital]

theorem asciiLowerCode_toNat (c : Char) : asciiLowerCode c.toNat = c.toLower.toNat := by
  rw [toNat_toLower, asciiLowerCode]
  simp only [Bool.and_eq_true, decide_eq_true_eq]

/-- A character of ASCII goes to its small form wherever it stands. -/
theorem lowercaseChar_of_lt {c : Char} (h : c.toNat < 128) (before behind : Text) :
    lowercaseChar before c behind = [c.toLower] := by
  have hsigma : c ≠ '\u03a3' := by
    rintro rfl
    exact absurd h (by decide)
  have hdotted : c ≠ '\u0130' := by
    rintro rfl
    exact absurd h (by decide)
  rw [lowercaseChar, if_neg hsigma, if_neg hdotted, lowerCode_of_lt h, asciiLowerCode_toNat,
    Char.ofNat_toNat]

theorem lowercaseFrom_of_isAscii {t : Text} (h : IsAscii t) (before : Text) :
    lowercaseFrom before t = t.map Char.toLower := by
  induction t generalizing before with
  | nil => rfl
  | cons c cs ih =>
    have hcs : IsAscii cs := fun d hd => h d (List.mem_cons_of_mem _ hd)
    rw [lowercaseFrom, lowercaseChar_of_lt (h c List.mem_cons_self), ih hcs]
    rfl

/-- A text of ASCII goes to small letters character by character. -/
theorem lowercase_of_isAscii {t : Text} (h : IsAscii t) : lowercase t = t.map Char.toLower :=
  lowercaseFrom_of_isAscii h []

end UrlRouting.Text
