import UrlRouting.Pattern.Scheme
import UrlRouting.Text.Pieces

/-!
# Schemes as they are read

A scheme is kept in small letters.  The main statements are `schemeAndRest?_eq_some_iff`, which
says what stands in front of the colon and the two slashes, `isSmallScheme_map_toLower` and
`isScheme_of_isSmallScheme`: what is kept is a scheme in small letters, and every such scheme is
kept as it is.
-/

namespace UrlRouting

/-! ## Letters of ASCII by their codes -/

theorem isAsciiLetter_iff (c : Char) : Text.isAsciiLetter c = true ↔
    (97 ≤ c.toNat ∧ c.toNat ≤ 122) ∨ (65 ≤ c.toNat ∧ c.toNat ≤ 90) := by
  simp only [Text.isAsciiLetter, Bool.or_eq_true, Bool.and_eq_true, decide_eq_true_eq, Char.le_def,
    UInt32.le_iff_toNat_le]
  rfl

theorem isAsciiDigit_iff (c : Char) :
    Text.isAsciiDigit c = true ↔ 48 ≤ c.toNat ∧ c.toNat ≤ 57 := by
  simp only [Text.isAsciiDigit, Bool.and_eq_true, decide_eq_true_eq, Char.le_def,
    UInt32.le_iff_toNat_le]
  rfl

/-- The small form of a character: 32 is added to the code of a capital. -/
theorem toNat_toLower (c : Char) :
    c.toLower.toNat = if 65 ≤ c.toNat ∧ c.toNat ≤ 90 then c.toNat + 32 else c.toNat := by
  by_cases h : c.val ≥ 'A'.val ∧ c.val ≤ 'Z'.val
  · have hn : 65 ≤ c.toNat ∧ c.toNat ≤ 90 := by
      rwa [ge_iff_le, UInt32.le_iff_toNat_le, UInt32.le_iff_toNat_le] at h
    have hlower : c.toLower.val = c.val + ('a'.val - 'A'.val) := congrArg Char.val (dif_pos h)
    rw [if_pos hn]
    calc c.toLower.toNat = (c.val + ('a'.val - 'A'.val)).toNat := congrArg UInt32.toNat hlower
      _ = (c.toNat + 32) % 2 ^ 32 := UInt32.toNat_add ..
      _ = c.toNat + 32 := Nat.mod_eq_of_lt (by omega)
  · have hn : ¬ (65 ≤ c.toNat ∧ c.toNat ≤ 90) := by
      rwa [ge_iff_le, UInt32.le_iff_toNat_le, UInt32.le_iff_toNat_le] at h
    have hlower : c.toLower = c := dif_neg h
    rw [hlower, if_neg hn]

/-- A character that is no capital is its own small form. -/
theorem toLower_of_not_capital {c : Char} (h : ¬ (65 ≤ c.toNat ∧ c.toNat ≤ 90)) :
    c.toLower = c := by
  have hcode := toNat_toLower c
  rw [if_neg h] at hcode
  exact Char.toNat_inj.1 hcode

/-! ## Schemes in small letters -/

/-- Whether the character is one of `a` to `z`. -/
def isSmallLetter (c : Char) : Bool := 'a' ≤ c && c ≤ 'z'

/-- Whether the character may stand in a scheme in small letters. -/
def isSmallSchemeChar (c : Char) : Bool :=
  isSmallLetter c || Text.isAsciiDigit c || c == '+' || c == '.' || c == '-'

/-- Whether the text is a scheme in small letters. -/
def isSmallScheme : Text → Bool
  | [] => false
  | c :: cs => isSmallLetter c && cs.all isSmallSchemeChar

theorem isSmallLetter_iff (c : Char) : isSmallLetter c = true ↔ 97 ≤ c.toNat ∧ c.toNat ≤ 122 := by
  simp only [isSmallLetter, Bool.and_eq_true, decide_eq_true_eq, Char.le_def,
    UInt32.le_iff_toNat_le]
  rfl

theorem isSmallLetter_toLower {c : Char} (h : Text.isAsciiLetter c = true) :
    isSmallLetter c.toLower = true := by
  rw [isAsciiLetter_iff] at h
  rw [isSmallLetter_iff, toNat_toLower]
  split <;> omega

theorem isAsciiLetter_of_isSmallLetter {c : Char} (h : isSmallLetter c = true) :
    Text.isAsciiLetter c = true ∧ c.toLower = c := by
  rw [isSmallLetter_iff] at h
  exact ⟨(isAsciiLetter_iff c).2 (.inl h), toLower_of_not_capital (by omega)⟩

theorem isSmallSchemeChar_toLower {c : Char} (h : isSchemeChar c = true) :
    isSmallSchemeChar c.toLower = true := by
  simp only [isSchemeChar, Bool.or_eq_true, beq_iff_eq] at h
  simp only [isSmallSchemeChar, Bool.or_eq_true, beq_iff_eq]
  rcases h with (((hletter | hdigit) | rfl) | rfl) | rfl
  · exact .inl (.inl (.inl (.inl (isSmallLetter_toLower hletter))))
  · have hcode := (isAsciiDigit_iff c).1 hdigit
    rw [toLower_of_not_capital (by omega)]
    exact .inl (.inl (.inl (.inr hdigit)))
  · exact .inl (.inl (.inr rfl))
  · exact .inl (.inr rfl)
  · exact .inr rfl

theorem isSchemeChar_of_isSmallSchemeChar {c : Char} (h : isSmallSchemeChar c = true) :
    isSchemeChar c = true ∧ c.toLower = c := by
  simp only [isSmallSchemeChar, Bool.or_eq_true, beq_iff_eq] at h
  simp only [isSchemeChar, Bool.or_eq_true, beq_iff_eq]
  rcases h with (((hletter | hdigit) | rfl) | rfl) | rfl
  · obtain ⟨hascii, hlower⟩ := isAsciiLetter_of_isSmallLetter hletter
    exact ⟨.inl (.inl (.inl (.inl hascii))), hlower⟩
  · have hcode := (isAsciiDigit_iff c).1 hdigit
    exact ⟨.inl (.inl (.inl (.inr hdigit))), toLower_of_not_capital (by omega)⟩
  · exact ⟨.inl (.inl (.inr rfl)), rfl⟩
  · exact ⟨.inl (.inr rfl), rfl⟩
  · exact ⟨.inr rfl, rfl⟩

/-- The small form of a scheme is a scheme in small letters. -/
theorem isSmallScheme_map_toLower {scheme : Text} (h : isScheme scheme = true) :
    isSmallScheme (scheme.map Char.toLower) = true := by
  cases scheme with
  | nil => cases h
  | cons c cs =>
    rw [isScheme, Bool.and_eq_true, List.all_eq_true] at h
    rw [List.map_cons, isSmallScheme, Bool.and_eq_true, List.all_eq_true]
    refine ⟨isSmallLetter_toLower h.1, fun d hd => ?_⟩
    obtain ⟨e, he, rfl⟩ := List.mem_map.1 hd
    exact isSmallSchemeChar_toLower (h.2 e he)

/-- A scheme in small letters is a scheme, and its own small form. -/
theorem isScheme_of_isSmallScheme {scheme : Text} (h : isSmallScheme scheme = true) :
    isScheme scheme = true ∧ scheme.map Char.toLower = scheme := by
  cases scheme with
  | nil => cases h
  | cons c cs =>
    rw [isSmallScheme, Bool.and_eq_true, List.all_eq_true] at h
    obtain ⟨hfirst, hlower⟩ := isAsciiLetter_of_isSmallLetter h.1
    refine ⟨?_, ?_⟩
    · rw [isScheme, Bool.and_eq_true, List.all_eq_true]
      exact ⟨hfirst, fun d hd => (isSchemeChar_of_isSmallSchemeChar (h.2 d hd)).1⟩
    · rw [List.map_cons, hlower,
        List.map_congr_left fun d hd => (isSchemeChar_of_isSmallSchemeChar (h.2 d hd)).2,
        List.map_id']

/-! ## What stands in front of a host -/

/-- All characters of a scheme may stand in a scheme. -/
theorem isSchemeChar_of_mem {scheme : Text} (h : isScheme scheme = true) {c : Char}
    (hc : c ∈ scheme) : isSchemeChar c = true := by
  cases scheme with
  | nil => cases hc
  | cons d ds =>
    rw [isScheme, Bool.and_eq_true, List.all_eq_true] at h
    rcases List.mem_cons.1 hc with rfl | hc
    · simp [isSchemeChar, h.1]
    · exact h.2 c hc

/-- A scheme holds no delimiter. -/
theorem not_mem_of_isScheme {scheme : Text} (h : isScheme scheme = true) {c : Char}
    (hc : isSchemeChar c = false) : c ∉ scheme := by
  intro hmem
  rw [isSchemeChar_of_mem h hmem] at hc
  cases hc

/-- A scheme is read, in small letters, if it is what a colon and two slashes follow. -/
theorem schemeAndRest?_eq_some_iff (t scheme rest : Text) :
    schemeAndRest? t = some (scheme, rest) ↔
      ∃ written, isScheme written = true ∧ scheme = written.map Char.toLower ∧
        t = written ++ ':' :: '/' :: '/' :: rest := by
  constructor
  · intro h
    have hsplit : t.takeWhile isSchemeChar ++ t.drop (t.takeWhile isSchemeChar).length = t :=
      (List.prefix_iff_eq_append.1 (List.takeWhile_prefix _))
    unfold schemeAndRest? at h
    dsimp only at h
    split at h
    · next found =>
      split at h
      · next hscheme =>
        cases h
        rw [found] at hsplit
        exact ⟨_, hscheme, rfl, hsplit.symm⟩
      · cases h
    · cases h
  · rintro ⟨written, hscheme, rfl, rfl⟩
    have htake : (written ++ ':' :: '/' :: '/' :: rest).takeWhile isSchemeChar = written := by
      rw [List.takeWhile_append_of_pos fun c hc => isSchemeChar_of_mem hscheme hc,
        List.takeWhile_cons_of_neg (by decide), List.append_nil]
    unfold schemeAndRest?
    simp only [htake, List.drop_left, if_pos hscheme]

/-- A text without a slash has no scheme in front. -/
theorem schemeAndRest?_of_not_mem {t : Text} (h : '/' ∉ t) : schemeAndRest? t = none := by
  rw [Option.eq_none_iff_forall_ne_some]
  rintro ⟨scheme, rest⟩ hsome
  obtain ⟨written, -, -, rfl⟩ := (schemeAndRest?_eq_some_iff _ _ _).1 hsome
  exact h (by simp)

end UrlRouting
