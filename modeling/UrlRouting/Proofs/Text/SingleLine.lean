import Mathlib.Data.List.Basic
import UrlRouting.Proofs.Text.Lowercase
import UrlRouting.Value

/-!
# What is written in a single line

Quoted texts and values are written without line ends, whatever they hold: `newline_not_mem_quoted`
and `newline_not_mem_display`.
-/

namespace UrlRouting

namespace Text

/-! ## Quoted texts -/

theorem hexDigit_ne_newline {value : Nat} : hexDigit value ≠ '\n' := by
  intro h
  have hcode := congrArg Char.toNat h
  have hten : '\n'.toNat = 10 := rfl
  unfold hexDigit at hcode
  split at hcode
  · rcases toNat_ofNat_or (0x30 + value) with hsame | hzero <;> omega
  · rcases toNat_ofNat_or (0x57 + value) with hsame | hzero <;> omega

theorem newline_not_mem_hexDigits (width value : Nat) : '\n' ∉ hexDigits width value := by
  induction width generalizing value with
  | zero => exact List.not_mem_nil
  | succ width ih =>
    rw [hexDigits, List.mem_append, List.mem_singleton]
    rintro (h | h)
    · exact ih _ h
    · exact hexDigit_ne_newline h.symm

/-- A line end is escaped, and no escape holds one. -/
theorem newline_not_mem_escaped {quote : Char} (hquote : quote ≠ '\n') (c : Char) :
    '\n' ∉ escaped quote c := by
  have hdigits : ∀ width, '\n' ∉ hexDigits width c.toNat := fun width =>
    newline_not_mem_hexDigits width c.toNat
  unfold escaped
  split_ifs with hspecial hline
  · have hc : '\n' ≠ c := by
      rintro rfl
      simp [hquote.symm] at hspecial
    simp [hc]
  · decide
  · decide
  · decide
  · simpa using Ne.symm hline
  · simp [hdigits]
  · simp [hdigits]
  · simp [hdigits]

/-- A quoted text stands in a single line. -/
theorem newline_not_mem_quoted (t : Text) : '\n' ∉ quoted t := by
  have hquote : quoteFor t ≠ '\n' := by
    unfold quoteFor
    split <;> decide
  rw [quoted, List.mem_cons, List.mem_append, List.mem_flatMap, List.mem_singleton]
  rintro (h | ⟨c, -, h⟩ | h)
  · exact hquote h.symm
  · exact newline_not_mem_escaped hquote c h
  · exact hquote h.symm

end Text

/-! ## Numbers -/

theorem newline_not_mem_toDigits (n : Nat) : '\n' ∉ Nat.toDigits 10 n := by
  intro h
  have hdigit := Nat.isDigit_of_mem_toDigits (by decide) (Nat.le_refl 10) h
  exact absurd hdigit (by decide)

theorem Value.newline_not_mem_intText (n : Int) : '\n' ∉ Value.intText n := by
  have hdigits := newline_not_mem_toDigits n.natAbs
  unfold Value.intText
  split
  · simp [hdigits]
  · exact hdigits

namespace Double

theorem newline_not_mem_decimalText (d : Decimal) : '\n' ∉ decimalText d := by
  have hdigits := newline_not_mem_toDigits d.digits
  have htake : ∀ n, '\n' ∉ (Nat.toDigits 10 d.digits).take n := fun n h =>
    hdigits (List.mem_of_mem_take h)
  have hdrop : ∀ n, '\n' ∉ (Nat.toDigits 10 d.digits).drop n := fun n h =>
    hdigits (List.mem_of_mem_drop h)
  have hzeros : ∀ n, '\n' ∉ List.replicate n '0' := fun n h =>
    absurd (List.eq_of_mem_replicate h) (by decide)
  have hpower : ∀ power : Int, '\n' ∉ Nat.toDigits 10 power.natAbs := fun power =>
    newline_not_mem_toDigits power.natAbs
  have hplaces : ∀ n (none some : Text), '\n' ∉ none → '\n' ∉ some →
      '\n' ∉ (if (Nat.toDigits 10 d.digits).drop n = [] then none else some) := by
    intro n none some hnone hsome
    split
    · exact hnone
    · exact hsome
  unfold decimalText
  simp only
  split
  · split
    · simp only [List.mem_append, not_or]
      exact ⟨⟨by decide, hzeros _⟩, hdigits⟩
    · simp only [List.mem_append, List.mem_cons, not_or]
      exact ⟨⟨htake _, hzeros _⟩, by decide, hplaces _ _ _ (by decide) (hdrop _)⟩
  · simp only [List.mem_append, List.mem_cons, not_or]
    refine ⟨⟨htake _, hplaces _ _ _ List.not_mem_nil ?_⟩, by decide, ?_, hzeros _, hpower _⟩
    · simpa using hdrop 1
    · split <;> decide

theorem newline_not_mem_text (x : Double) : '\n' ∉ x.text := by
  cases x with
  | nan => decide
  | infinite negative => cases negative <;> decide
  | finite negative mantissa exponent =>
    have hmagnitude : '\n' ∉ (if mantissa = 0 then ("0.0" : Text)
        else decimalText (shortest mantissa exponent)) := by
      split
      · decide
      · exact newline_not_mem_decimalText _
    cases negative with
    | false => exact hmagnitude
    | true =>
      rw [text, if_pos rfl, List.mem_cons, not_or]
      exact ⟨by decide, hmagnitude⟩

end Double

/-! ## Values -/

/-- Pieces in single lines are joined to a single line by a comma and a blank. -/
theorem newline_not_mem_join {ps : List Text} (h : ∀ p ∈ ps, '\n' ∉ p) :
    '\n' ∉ Text.join (", " : Text) ps := by
  intro hmem
  rcases Text.mem_of_mem_join hmem with hsep | ⟨p, hp, hline⟩
  · exact absurd hsep (by decide)
  · exact h p hp hline

namespace Value

mutual

/-- A value is written in a single line. -/
theorem newline_not_mem_display : (v : Value) → '\n' ∉ v.display
  | null => by decide
  | bool b => by cases b <;> decide
  | int n => newline_not_mem_intText n
  | double x => x.newline_not_mem_text
  | text t => Text.newline_not_mem_quoted t
  | list items => by
    have hitems := newline_not_mem_join (newline_not_mem_displayItems items)
    rw [display, List.mem_cons, List.mem_append, not_or, not_or]
    exact ⟨by decide, hitems, by decide⟩
  | record entries => by
    have hentries := newline_not_mem_join (newline_not_mem_displayEntries entries)
    rw [display, List.mem_cons, List.mem_append, not_or, not_or]
    exact ⟨by decide, hentries, by decide⟩

theorem newline_not_mem_displayItems : (vs : List Value) → ∀ p ∈ displayItems vs, '\n' ∉ p
  | [] => fun _ hp => absurd hp List.not_mem_nil
  | v :: vs => by
    intro p hp
    rcases List.mem_cons.1 hp with rfl | hp
    · exact newline_not_mem_display v
    · exact newline_not_mem_displayItems vs p hp

theorem newline_not_mem_displayEntries :
    (es : List (Text × Value)) → ∀ p ∈ displayEntries es, '\n' ∉ p
  | [] => fun _ hp => absurd hp List.not_mem_nil
  | (name, v) :: es => by
    intro p hp
    rcases List.mem_cons.1 hp with rfl | hp
    · simp only [List.mem_append, not_or]
      exact ⟨⟨Text.newline_not_mem_quoted name, by decide⟩, newline_not_mem_display v⟩
    · exact newline_not_mem_displayEntries es p hp

end

end Value

end UrlRouting
