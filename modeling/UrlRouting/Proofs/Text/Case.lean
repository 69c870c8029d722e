import Mathlib.Data.List.Basic
import UrlRouting.Regex.CharTest

/-!
# Letters with two cases

What the tables of letter case and of character classes have to do with each other: a lower form has
an upper form again, and a character and its lower form are in the same classes.  The first says
that nothing but a character without another case has that as its lower form.

The tables are compared code point by code point.  `sweep` goes through ascending code points and
ascending ranges side by side, so that the comparison takes one pass.
-/

namespace UrlRouting.Text

variable {c x low high : Nat}

/-! ## Runs -/

namespace CaseRun

/-- The code points of a run. -/
def codes (r : CaseRun) : List Nat :=
  (List.range ((r.last - r.first) / r.step + 1)).map fun k => r.first + k * r.step

/-- The code point that a run sends one to. -/
def image (r : CaseRun) (code : Nat) : Nat := (code + r.shift).toNat

/-- A run moves its code points: it makes steps, begins behind zero and shifts by something, though
not below zero. -/
def isProper (r : CaseRun) : Bool :=
  0 < r.step && 0 < r.first && r.shift != 0 && 0 ≤ r.first + r.shift

theorem mem_codes_of_covers {r : CaseRun} (h : r.covers c = true) :
    c ∈ r.codes := by
  simp only [covers, Bool.and_eq_true, decide_eq_true_eq, beq_iff_eq] at h
  obtain ⟨⟨hfirst, hlast⟩, hmod⟩ := h
  refine List.mem_map.2 ⟨(c - r.first) / r.step, List.mem_range.2 ?_, ?_⟩
  · exact Nat.lt_succ_of_le (Nat.div_le_div_right (by omega))
  · rw [Nat.div_mul_cancel (Nat.dvd_of_mod_eq_zero hmod)]
    omega

theorem image_ne {r : CaseRun} (hr : r.isProper = true) (h : r.covers c = true) :
    r.image c ≠ c := by
  simp only [isProper, covers, image, Bool.and_eq_true, decide_eq_true_eq, bne_iff_ne] at hr h ⊢
  omega

/-- A run meets every stretch in which it covers something. -/
theorem meets_of_covers {r : CaseRun} (hstep : 0 < r.step) (h : r.covers c = true)
    (hlow : low ≤ c) (hhigh : c ≤ high) : r.meets low high = true := by
  obtain ⟨k, -, rfl⟩ := List.mem_map.1 (mem_codes_of_covers h)
  simp only [covers, Bool.and_eq_true, decide_eq_true_eq] at h
  have hle : (low - r.first + r.step - 1) / r.step ≤ k := by
    rw [← Nat.lt_succ_iff, Nat.div_lt_iff_lt_mul hstep, Nat.succ_mul]
    omega
  have hmul := Nat.mul_le_mul_right r.step hle
  simp only [meets, Bool.and_eq_true, decide_eq_true_eq]
  omega

end CaseRun

/-- A code point that a table moves is covered by one of its runs, and moved by it. -/
theorem exists_covers_of_shifted_ne {runs : List CaseRun} (h : shifted runs c ≠ c) :
    ∃ r ∈ runs, r.covers c = true ∧ shifted runs c = r.image c := by
  unfold shifted at h ⊢
  split
  · next r hr =>
    have hcovers := List.find?_some hr
    exact ⟨r, List.mem_of_find?_eq_some hr, hcovers, rfl⟩
  · next hnone =>
    rw [hnone] at h
    exact absurd rfl h

/-- A table of proper runs moves every code point that one of them covers. -/
theorem shifted_ne_of_covers {runs : List CaseRun} (hruns : ∀ r ∈ runs, r.isProper = true)
    {r : CaseRun} (hr : r ∈ runs) (h : r.covers c = true) : shifted runs c ≠ c := by
  unfold shifted
  split
  · next s hs =>
    have hcovers := List.find?_some hs
    exact s.image_ne (hruns s (List.mem_of_find?_eq_some hs)) hcovers
  · next hnone => exact absurd h (List.find?_eq_none.1 hnone r hr)

theorem CaseRun.step_pos {r : CaseRun} (h : r.isProper = true) : 0 < r.step := by
  simp only [isProper, Bool.and_eq_true, decide_eq_true_eq] at h
  exact h.1.1.1

theorem isProper_of_mem : ∀ runs ∈ [lowerRuns, upperRuns], ∀ r ∈ runs, r.isProper = true := by
  decide +kernel

theorem isProper_of_mem_lower {r : CaseRun} (h : r ∈ lowerRuns) : r.isProper = true :=
  isProper_of_mem lowerRuns (by simp) r h

theorem isProper_of_mem_upper {r : CaseRun} (h : r ∈ upperRuns) : r.isProper = true :=
  isProper_of_mem upperRuns (by simp) r h

theorem isCasedCode_of_covers_upper {r : CaseRun} (hr : r ∈ upperRuns) (h : r.covers c = true) :
    isCasedCode c = true := by
  have hne := shifted_ne_of_covers (fun _ => isProper_of_mem_upper) hr h
  simp [isCasedCode, upperCode, hne]

/-! ## Lower forms have upper forms -/

/-- Whether a run sends all its code points into another one. -/
def CaseRun.landsIn (r u : CaseRun) : Bool :=
  r.image r.last ≤ u.last && u.first ≤ r.image r.first &&
    (r.image r.first - u.first) % u.step == 0 && r.step % u.step == 0

/-- A run keeps the order of its code points. -/
theorem CaseRun.image_bounds {r : CaseRun} (h : r.covers c = true) :
    r.image r.first ≤ r.image c ∧ r.image c ≤ r.image r.last := by
  simp only [covers, image, Bool.and_eq_true, decide_eq_true_eq] at *
  omega

theorem CaseRun.covers_image {r u : CaseRun} (hr : r.isProper = true) (hu : r.landsIn u = true)
    (h : r.covers c = true) : u.covers (r.image c) = true := by
  obtain ⟨-, hmono⟩ := r.image_bounds h
  obtain ⟨k, -, rfl⟩ := List.mem_map.1 (mem_codes_of_covers h)
  simp only [isProper, covers, landsIn, Bool.and_eq_true, decide_eq_true_eq, beq_iff_eq] at *
  obtain ⟨⟨⟨hlast, hfirst⟩, hmod⟩, hstep⟩ := hu
  have himage : r.image (r.first + k * r.step) = r.image r.first + k * r.step := by
    simp only [image]
    omega
  refine ⟨⟨by omega, by omega⟩, ?_⟩
  rw [himage, Nat.sub_add_comm hfirst]
  exact Nat.mod_eq_zero_of_dvd (Nat.dvd_add (Nat.dvd_of_mod_eq_zero hmod)
    (Nat.dvd_mul_left_of_dvd (Nat.dvd_of_mod_eq_zero hstep) k))

/-- Whether a run sends no code point of its own to a capital letter beyond the basic plane. -/
def CaseRun.leavesCapitals (r : CaseRun) : Bool :=
  r.image r.last ≤ 0xffff ||
    lowerRuns.all fun s => s.last < r.image r.first || r.image r.last < s.first

/-- Most runs of capital letters go into a run of small ones as a whole; the others do so code point
by code point.  None goes to capital letters beyond the basic plane. -/
theorem lowerRuns_land : ∀ r ∈ lowerRuns,
    (upperRuns.any r.landsIn = true ∨ ∀ c ∈ r.codes, isCasedCode (r.image c) = true) ∧
      r.leavesCapitals = true := by
  decide +kernel

/-- A lower form other than the character itself has another case. -/
theorem isCasedCode_lowerCode (h : lowerCode c ≠ c) : isCasedCode (lowerCode c) = true := by
  obtain ⟨r, hr, hcovers, himage⟩ := exists_covers_of_shifted_ne h
  rw [lowerCode, himage]
  rcases (lowerRuns_land r hr).1 with hland | hland
  · obtain ⟨u, hu, hru⟩ := List.any_eq_true.1 hland
    exact isCasedCode_of_covers_upper hu (r.covers_image (isProper_of_mem_lower hr) hru hcovers)
  · exact hland c (r.mem_codes_of_covers hcovers)

/-- A lower form beyond the basic plane is its own lower form. -/
theorem lowerCode_lowerCode (h : 0xffff < lowerCode c) :
    lowerCode (lowerCode c) = lowerCode c := by
  by_cases hc : lowerCode c = c
  · rw [hc, hc]
  · by_contra hne
    obtain ⟨r, hr, hcovers, himage⟩ := exists_covers_of_shifted_ne hc
    obtain ⟨s, hs, hcovers', -⟩ := exists_covers_of_shifted_ne hne
    rw [lowerCode, himage] at h hcovers'
    have hbounds := r.image_bounds hcovers
    have hmem : s.first ≤ r.image c ∧ r.image c ≤ s.last := by
      simp only [CaseRun.covers, Bool.and_eq_true, decide_eq_true_eq] at hcovers'
      exact hcovers'.1
    have hleaves := (lowerRuns_land r hr).2
    simp only [CaseRun.leavesCapitals, Bool.or_eq_true, decide_eq_true_eq, List.all_eq_true]
      at hleaves
    rcases hleaves with hle | hapart
    · omega
    · have := hapart s hs
      omega

/-- A run moves code points within the basic plane, or beyond it. -/
theorem lowerRuns_keep_plane : ∀ r ∈ lowerRuns,
    (r.last ≤ 0xffff ∧ r.image r.last ≤ 0xffff) ∨ (0xffff < r.first ∧ 0xffff < r.image r.first) := by
  decide +kernel

/-- A lower form is in the basic plane if and only if the character is. -/
theorem lowerCode_le_iff : lowerCode c ≤ 0xffff ↔ c ≤ 0xffff := by
  by_cases hc : lowerCode c = c
  · rw [hc]
  · obtain ⟨r, hr, hcovers, himage⟩ := exists_covers_of_shifted_ne hc
    have hbounds := r.image_bounds hcovers
    simp only [CaseRun.covers, Bool.and_eq_true, decide_eq_true_eq] at hcovers
    rw [lowerCode, himage]
    rcases lowerRuns_keep_plane r hr with h | h
    · omega
    · omega

theorem lowerCode_of_not_cased (h : isCasedCode c = false) : lowerCode c = c := by
  simp only [isCasedCode, Bool.or_eq_false_iff, bne_eq_false_iff_eq] at h
  exact h.1

/-- A code point without another case is the lower form of itself only. -/
theorem lowerCode_eq_iff_of_not_cased (h : isCasedCode c = false) : lowerCode x = c ↔ x = c := by
  constructor
  · rintro rfl
    by_contra hne
    rw [isCasedCode_lowerCode (Ne.symm hne)] at h
    cases h
  · rintro rfl
    exact lowerCode_of_not_cased h

/-- In a stretch without letters that have two cases there is no such letter. -/
theorem isCasedCode_of_anyCasedCode (h : anyCasedCode low high = false) (hlow : low ≤ c)
    (hhigh : c ≤ high) : isCasedCode c = false := by
  simp only [anyCasedCode, Bool.or_eq_false_iff, List.any_eq_false] at h
  by_contra hcased
  simp only [isCasedCode, Bool.not_eq_false, Bool.or_eq_true, bne_iff_ne] at hcased
  rcases hcased with hne | hne
  · obtain ⟨r, hr, hcovers, -⟩ := exists_covers_of_shifted_ne hne
    exact h.1 r hr (r.meets_of_covers (r.step_pos (isProper_of_mem_lower hr)) hcovers hlow hhigh)
  · obtain ⟨r, hr, hcovers, -⟩ := exists_covers_of_shifted_ne hne
    exact h.2 r hr (r.meets_of_covers (r.step_pos (isProper_of_mem_upper hr)) hcovers hlow hhigh)

/-- The code points that are listed for a lower form have it. -/
theorem lowerCode_of_mem_lowerSources (h : x ∈ lowerSources c) : lowerCode x = c := by
  have hshifted : ∀ y ∈ lowerRuns.filterMap fun r =>
      let source := ((c : Int) - r.shift).toNat
      if r.covers source && lowerCode source == c then some source else none,
      lowerCode y = c := by
    intro y hy
    obtain ⟨r, -, hr⟩ := List.mem_filterMap.1 hy
    dsimp only at hr
    split at hr
    · next hsource =>
      cases hr
      simp only [Bool.and_eq_true, beq_iff_eq] at hsource
      exact hsource.2
    · cases hr
  unfold lowerSources at h
  dsimp only at h
  split at h
  · next hc =>
    rcases List.mem_cons.1 h with rfl | h
    · exact beq_iff_eq.1 hc
    · exact hshifted x h
  · exact hshifted x h

theorem mem_lowerSources_self (h : lowerCode c = c) : c ∈ lowerSources c := by
  simp [lowerSources, h]

/-! ## Classes of characters -/

/-- Whether the answers that ranges give to code points are all right, and the code points ascend from
`floor` on.  Ranges that end in front of a code point are not looked at again. -/
def sweep (ok : Nat → Bool → Bool) : (floor : Nat) → List Nat → List (Nat × Nat) → Bool
  | _, [], _ => true
  | floor, c :: cs, ranges =>
      let ahead := ranges.dropWhile fun r => r.1 ≤ c && r.2 < c
      floor ≤ c && ok c (inRanges ahead c) && sweep ok c cs ahead

theorem inRanges_dropWhile (ranges : List (Nat × Nat)) (h : c ≤ x) :
    inRanges (ranges.dropWhile fun r => r.1 ≤ c && r.2 < c) x = inRanges ranges x := by
  induction ranges with
  | nil => rfl
  | cons r ranges ih =>
    rw [List.dropWhile_cons]
    split
    · next hr =>
      simp only [Bool.and_eq_true, decide_eq_true_eq] at hr
      rw [ih, inRanges, if_neg (by omega), if_neg (by omega)]
    · rfl

theorem of_sweep {ok : Nat → Bool → Bool} {floor : Nat} {codes : List Nat}
    {ranges : List (Nat × Nat)} (h : sweep ok floor codes ranges = true) :
    ∀ c ∈ codes, floor ≤ c ∧ ok c (inRanges ranges c) = true := by
  induction codes generalizing floor ranges with
  | nil =>
    intro c hc
    cases hc
  | cons d codes ih =>
    simp only [sweep, Bool.and_eq_true, decide_eq_true_eq] at h
    obtain ⟨⟨hfloor, hd⟩, hcodes⟩ := h
    intro c hc
    rcases List.mem_cons.1 hc with rfl | hc
    · rw [inRanges_dropWhile ranges (Nat.le_refl c)] at hd
      exact ⟨hfloor, hd⟩
    · obtain ⟨hle, hok⟩ := ih hcodes c hc
      rw [inRanges_dropWhile ranges hle] at hok
      exact ⟨Nat.le_trans hfloor hle, hok⟩

/-- The code points that runs cover. -/
def coveredBy (runs : List CaseRun) : List Nat := runs.flatMap CaseRun.codes

theorem mem_coveredBy_of_shifted_ne {runs : List CaseRun} (h : shifted runs c ≠ c) :
    c ∈ coveredBy runs := by
  obtain ⟨r, hr, hcovers, -⟩ := exists_covers_of_shifted_ne h
  exact List.mem_flatMap.2 ⟨r, hr, r.mem_codes_of_covers hcovers⟩

theorem exists_coveredBy_of_cased (h : isCasedCode c = true) :
    ∃ runs ∈ [lowerRuns, upperRuns], c ∈ coveredBy runs := by
  simp only [isCasedCode, Bool.or_eq_true, bne_iff_ne] at h
  rcases h with h | h
  · exact ⟨lowerRuns, by simp, mem_coveredBy_of_shifted_ne h⟩
  · exact ⟨upperRuns, by simp, mem_coveredBy_of_shifted_ne h⟩

/-- The code points with another case that are no word characters: letters in circles and the iota
that is written below others. -/
def isOddCase (code : Nat) : Bool := (0x24b6 ≤ code && code ≤ 0x24e9) || code == 0x345

/-- A code point with another case is a letter or a numeral, if it is no odd one. -/
def isWordAnswer (code : Nat) (isLetter : Bool) : Bool :=
  (isLetter || isNumeral code) == !isOddCase code && code != 0x5f

/-- What the tables of classes answer for the code points with another case, and that an odd one and
its lower form are both odd. -/
theorem sweep_classes :
    (∀ runs ∈ [lowerRuns, upperRuns],
      sweep isWordAnswer 0 (coveredBy runs) letterRanges = true ∧
        sweep (fun _ b => !b) 0 (coveredBy runs) digitRanges = true ∧
        sweep (fun _ b => !b) 0 (coveredBy runs) blankRanges = true) ∧
      ∀ r ∈ lowerRuns, ∀ c ∈ r.codes, isOddCase (r.image c) = isOddCase c := by
  decide +kernel

theorem isDigit_of_cased (h : isCasedCode c = true) : isDigit c = false := by
  obtain ⟨runs, hruns, hc⟩ := exists_coveredBy_of_cased h
  rw [← Bool.not_eq_true']
  exact (of_sweep (sweep_classes.1 runs hruns).2.1 c hc).2

theorem isBlank_of_cased (h : isCasedCode c = true) : isBlank c = false := by
  obtain ⟨runs, hruns, hc⟩ := exists_coveredBy_of_cased h
  rw [← Bool.not_eq_true']
  exact (of_sweep (sweep_classes.1 runs hruns).2.2 c hc).2

theorem isWordAnswer_of_cased (h : isCasedCode c = true) :
    isWordAnswer c (isLetter c) = true := by
  obtain ⟨runs, hruns, hc⟩ := exists_coveredBy_of_cased h
  exact (of_sweep (sweep_classes.1 runs hruns).1 c hc).2

theorem isOddCase_lowerCode (h : lowerCode c ≠ c) : isOddCase (lowerCode c) = isOddCase c := by
  obtain ⟨r, hr, hcovers, himage⟩ := exists_covers_of_shifted_ne h
  rw [lowerCode, himage]
  exact sweep_classes.2 r hr c (r.mem_codes_of_covers hcovers)

end UrlRouting.Text

namespace UrlRouting.Regex

open Text

theorem isWordCode_of_cased {c : Nat} (h : isCasedCode c = true) :
    isWordCode .unicode c = !isOddCase c := by
  have hanswer := isWordAnswer_of_cased h
  simp only [isWordAnswer, Bool.and_eq_true, beq_iff_eq, bne_iff_ne] at hanswer
  simp [isWordCode, isDigit_of_cased h, hanswer]

/-- A character is in the same classes as its lower form. -/
theorem Category.holds_lowerCode (named : Category) (c : Nat) :
    named.holds .unicode (lowerCode c) = named.holds .unicode c := by
  by_cases h : lowerCode c = c
  · rw [h]
  · have hcased : isCasedCode c = true := by simp [isCasedCode, h]
    have hlower := isCasedCode_lowerCode h
    cases named with
    | digit => simp [holds, isDigit_of_cased hcased, isDigit_of_cased hlower]
    | blank => simp [holds, isBlank_of_cased hcased, isBlank_of_cased hlower]
    | word =>
      simp only [holds]
      rw [isWordCode_of_cased hcased, isWordCode_of_cased hlower, isOddCase_lowerCode h]

end UrlRouting.Regex
