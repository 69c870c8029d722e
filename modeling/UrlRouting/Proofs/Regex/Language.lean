import Mathlib.Computability.Language
import Mathlib.Order.CompletePartialOrder
import UrlRouting.Regex.Cursor

/-!
# Languages of programs

The texts that a regular program stands for: tests of characters in a row, choices and repetitions
that count up or down.  Anchors, references, looks and final choices are not regular, and neither is
a repetition that must be made more often than it may.

A repetition is read from its front one time after the other, so its language is unrolled by
`repeated_zero_eq_add` and `repeated_succ_eq`; `pow_mul_repeated` splits off the times that it has to
be made.
-/

namespace UrlRouting.Regex

/-- The characters that pass a test. -/
def CharTest.language (test : CharTest) : Language Char :=
  {t | ∃ c, Cursor.passes test c = true ∧ t = [c]}

/-- The texts made of so many texts of a language, within bounds; without a maximum there is no
upper one. -/
def repeated (least : Nat) (most : Option Nat) (l : Language Char) : Language Char :=
  {t | ∃ n, least ≤ n ∧ (∀ m ∈ most, n ≤ m) ∧ t ∈ l ^ n}

/-! ## Repetitions -/

variable {least : Nat} {most : Option Nat}

/-- A maximum that is not zero allows one more than the maximum that is less by one. -/
theorem forall_mem_succ_le_iff {n : Nat} :
    (∀ m ∈ most, n + 1 ≤ m) ↔ most ≠ some 0 ∧ ∀ m ∈ most.map (· - 1), n ≤ m := by
  cases most with
  | none => simp
  | some m =>
    simp only [Option.mem_def, Option.some.injEq, Option.map_some, forall_eq', ne_eq]
    omega

/-- Something repeated at least once more begins with it, if it may be repeated at all. -/
theorem repeated_succ_eq (least : Nat) (most : Option Nat) (l : Language Char) :
    repeated (least + 1) most l =
      if most = some 0 then 0 else l * repeated least (most.map (· - 1)) l := by
  ext t
  split
  · next h =>
    subst h
    refine ⟨fun ⟨n, hleast, hmost, _⟩ => ?_, fun ht => absurd ht (Language.notMem_zero t)⟩
    have hn : n ≤ 0 := hmost 0 rfl
    omega
  · next h =>
    rw [Language.mem_mul]
    constructor
    · rintro ⟨n, hleast, hmost, ht⟩
      obtain ⟨n, rfl⟩ : ∃ k, n = k + 1 := ⟨n - 1, by omega⟩
      rw [pow_succ', Language.mem_mul] at ht
      obtain ⟨u, hu, v, hv, rfl⟩ := ht
      exact ⟨u, hu, v, ⟨n, by omega, (forall_mem_succ_le_iff.1 hmost).2, hv⟩, rfl⟩
    · rintro ⟨u, hu, v, ⟨n, hleast, hmost, hv⟩, rfl⟩
      refine ⟨n + 1, by omega, forall_mem_succ_le_iff.2 ⟨h, hmost⟩, ?_⟩
      rw [pow_succ']
      exact Language.append_mem_mul hu hv

/-- Something repeated any number of times is either left out or repeated at least once. -/
theorem repeated_zero_eq_add (most : Option Nat) (l : Language Char) :
    repeated 0 most l = 1 + repeated 1 most l := by
  ext t
  rw [Language.mem_add, Language.mem_one]
  constructor
  · rintro ⟨n, -, hmost, ht⟩
    cases n with
    | zero => exact .inl ((Language.mem_one t).1 ht)
    | succ n => exact .inr ⟨n + 1, by omega, hmost, ht⟩
  · rintro (rfl | ⟨n, -, hmost, ht⟩)
    · exact ⟨0, le_refl 0, fun m _ => Nat.zero_le m, Language.nil_mem_one⟩
    · exact ⟨n, Nat.zero_le n, hmost, ht⟩

/-- The times that a repetition has to be made, and those that it may be made beyond them. -/
theorem pow_mul_repeated (h : ∀ m ∈ most, least ≤ m) (l : Language Char) :
    l ^ least * repeated 0 (most.map (· - least)) l = repeated least most l := by
  ext t
  rw [Language.mem_mul]
  constructor
  · rintro ⟨u, hu, v, ⟨n, -, hmost, hv⟩, rfl⟩
    refine ⟨least + n, by omega, fun m hm => ?_, ?_⟩
    · have hle : n ≤ m - least := hmost _ (Option.mem_map_of_mem _ hm)
      have := h m hm
      omega
    · rw [pow_add]
      exact Language.append_mem_mul hu hv
  · rintro ⟨n, hleast, hmost, ht⟩
    obtain ⟨k, rfl⟩ : ∃ k, n = least + k := ⟨n - least, by omega⟩
    rw [pow_add, Language.mem_mul] at ht
    obtain ⟨u, hu, v, hv, rfl⟩ := ht
    refine ⟨u, hu, v, ⟨k, Nat.zero_le k, fun m hm => ?_, hv⟩, rfl⟩
    obtain ⟨m', hm', rfl⟩ := Option.mem_map.1 hm
    have := hmost m' hm'
    omega

/-! ## Programs -/

mutual

/-- The texts that an operation stands for. -/
def Op.language : Op → Language Char
  | .char test => test.language
  | .openGroup _ => 1
  | .closeGroup _ => 1
  | .branch alternatives => languageOfAny alternatives
  | .run _ least most test => repeated least most test.language
  | .loop _ least most body => repeated least most (languageOf body)
  | _ => 0

/-- The texts that operations in a row stand for. -/
def languageOf : List Op → Language Char
  | [] => 1
  | op :: ops => op.language * languageOf ops

/-- The texts that one of several sequences of operations stands for. -/
def languageOfAny : List (List Op) → Language Char
  | [] => 0
  | ops :: alternatives => languageOf ops + languageOfAny alternatives

end

/-- Whether a repetition keeps its choices and can be made as often as it must. -/
def isCounted (kind : Repetition) (least : Nat) (most : Option Nat) : Bool :=
  kind != .possessive && most.all (least ≤ ·)

mutual

/-- Whether an operation is regular. -/
def Op.isRegular : Op → Bool
  | .char _ => true
  | .openGroup _ => true
  | .closeGroup _ => true
  | .branch alternatives => areAllRegular alternatives
  | .run kind least most _ => isCounted kind least most
  | .loop kind least most body => isCounted kind least most && areRegular body
  | _ => false

/-- Whether all operations of a sequence are regular. -/
def areRegular : List Op → Bool
  | [] => true
  | op :: ops => op.isRegular && areRegular ops

/-- Whether all operations of all sequences are regular. -/
def areAllRegular : List (List Op) → Bool
  | [] => true
  | ops :: alternatives => areRegular ops && areAllRegular alternatives

end

@[simp] theorem languageOf_append (ops ops' : List Op) :
    languageOf (ops ++ ops') = languageOf ops * languageOf ops' := by
  induction ops with
  | nil => rw [languageOf, one_mul, List.nil_append]
  | cons op ops ih => rw [List.cons_append, languageOf, languageOf, ih, mul_assoc]

@[simp] theorem areRegular_append (ops ops' : List Op) :
    areRegular (ops ++ ops') = (areRegular ops && areRegular ops') := by
  induction ops with
  | nil => rw [areRegular, Bool.true_and, List.nil_append]
  | cons op ops ih => rw [List.cons_append, areRegular, areRegular, ih, Bool.and_assoc]

/-- A repetition of a single character stands for the same texts as one of a sequence. -/
theorem languageOf_char (test : CharTest) : languageOf [.char test] = test.language := by
  rw [languageOf, languageOf, Op.language, mul_one]

end UrlRouting.Regex
