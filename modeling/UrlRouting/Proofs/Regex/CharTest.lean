import UrlRouting.Proofs.Text.Case

/-!
# Tests of single characters without regard to case

A set is compared by lower forms only if one of its members has two cases.  That makes no
difference for the other members (`Member.holdsFolded_lowerCode`), so that a set holds what its
members hold one by one, whatever stands beside them (`CharTest.accepts_ofMembers`).  A single
character is compared like a set of it, unless it is a capital letter beyond the basic plane
(`CharTest.accepts_ofCode`): a set takes such a letter as it stands, and no lower form equals it.
-/

namespace UrlRouting.Regex

open Text

variable {c x : Nat}

/-! ## Kindred letters -/

theorem mem_kinGroups_of_mem_kin (h : x ∈ kin c) :
    ∃ group ∈ kinGroups, c ∈ group ∧ x ∈ group := by
  have hx := (List.mem_filter.1 h).1
  cases hfind : kinGroups.find? (c ∈ ·) with
  | none =>
    rw [hfind] at hx
    cases hx
  | some group =>
    rw [hfind] at hx
    have hc := List.find?_some hfind
    exact ⟨group, List.mem_of_find?_eq_some hfind, of_decide_eq_true hc, hx⟩

/-- Kindred letters are lower forms in the basic plane that have another case. -/
theorem kinGroups_lower : ∀ group ∈ kinGroups, ∀ c ∈ group,
    isCasedCode c = true ∧ lowerCode c = c ∧ c ≤ basicPlaneEnd := by
  decide +kernel

theorem kin_of_not_cased (h : isCasedCode c = false) : kin c = [] := by
  refine List.eq_nil_iff_forall_not_mem.2 fun x hx => ?_
  obtain ⟨group, hgroup, hc, -⟩ := mem_kinGroups_of_mem_kin hx
  rw [(kinGroups_lower group hgroup c hc).1] at h
  cases h

theorem lowerCode_of_kin (h : kin c ≠ []) : lowerCode c = c ∧ c ≤ basicPlaneEnd := by
  obtain ⟨x, hx⟩ := List.exists_mem_of_ne_nil _ h
  obtain ⟨group, hgroup, hc, -⟩ := mem_kinGroups_of_mem_kin hx
  exact (kinGroups_lower group hgroup c hc).2

/-! ## Members without two cases -/

/-- A range that holds no letter with two cases holds a character if and only if it holds a code
point with the same lower form or a kindred one. -/
theorem exists_source_iff {low high : Nat} (h : anyCasedCode low high = false)
    (hhigh : high ≤ basicPlaneEnd) :
    (∃ form ∈ lowerCode x :: kin (lowerCode x), ∃ code ∈ lowerSources form,
        low ≤ code ∧ code ≤ high ∧ code ≤ basicPlaneEnd) ↔
      low ≤ x ∧ x ≤ high := by
  constructor
  · rintro ⟨form, hform, code, hcode, hlow, hle, -⟩
    have hcased := isCasedCode_of_anyCasedCode h hlow hle
    have hcodeform := lowerCode_of_mem_lowerSources hcode
    rw [lowerCode_of_not_cased hcased] at hcodeform
    subst hcodeform
    rcases List.mem_cons.1 hform with hx | hkin
    · rw [(lowerCode_eq_iff_of_not_cased hcased).1 hx.symm]
      exact ⟨hlow, hle⟩
    · obtain ⟨group, hgroup, -, hmem⟩ := mem_kinGroups_of_mem_kin hkin
      rw [(kinGroups_lower group hgroup code hmem).1] at hcased
      cases hcased
  · rintro ⟨hlow, hle⟩
    have hx := lowerCode_of_not_cased (isCasedCode_of_anyCasedCode h hlow hle)
    refine ⟨lowerCode x, List.mem_cons_self, x, ?_, hlow, hle, by omega⟩
    rw [hx]
    exact mem_lowerSources_self hx

/-- A member that says nothing about letters with two cases holds the same characters by their lower
forms as it does as they stand. -/
theorem Member.holdsFolded_lowerCode {m : Member} (h : m.isCased .unicode = false) (x : Nat) :
    m.holdsFolded .unicode (lowerCode x) = m.holds .unicode x := by
  cases m with
  | code c =>
    simp only [isCased, Alphabet.isCased, Bool.or_eq_false_iff, decide_eq_false_iff_not] at h
    simp only [holdsFolded, holds, Alphabet.lower, Alphabet.kindred, if_neg h.2,
      lowerCode_of_not_cased h.1, kin_of_not_cased h.1, List.not_mem_nil, decide_false,
      Bool.or_false]
    rw [Bool.eq_iff_iff, beq_iff_eq, beq_iff_eq, lowerCode_eq_iff_of_not_cased h.1]
  | range low high =>
    simp only [isCased, Alphabet.isCasedRange, Bool.or_eq_false_iff, decide_eq_false_iff_not] at h
    rw [Bool.eq_iff_iff]
    simpa [holdsFolded, holds, Alphabet.kindred, Alphabet.sources, h.2, and_assoc]
      using exists_source_iff (x := x) h.1 (by omega)
  | category negated named =>
    simp only [holdsFolded, holds, named.holds_lowerCode]

namespace CharTest

/-- A set holds what its members hold by lower forms, whether or not it is compared by them. -/
theorem accepts_ofMembers (negated : Bool) (members : List Member) (x : Nat) :
    (ofMembers true .unicode negated members).accepts x =
      (members.any (·.holdsFolded .unicode (lowerCode x)) != negated) := by
  rw [ofMembers, Bool.true_and]
  split
  · rfl
  · next h =>
    have hmembers : ∀ m ∈ members, m.isCased .unicode = false := by simpa using h
    have hany : members.any (·.holds .unicode x) =
        members.any (·.holdsFolded .unicode (lowerCode x)) := by
      rw [Bool.eq_iff_iff, List.any_eq_true, List.any_eq_true]
      refine exists_congr fun m => and_congr_right fun hm => ?_
      rw [Member.holdsFolded_lowerCode (hmembers m hm)]
    rw [accepts, hany]

/-- A single character is compared as it stands, by its lower form, or with its kindred. -/
theorem ofCode_cases (negated : Bool) (c : Nat) :
    (isCasedCode c = false ∧ ofCode true .unicode negated c = .exactly negated c) ∨
      (kin (lowerCode c) = [] ∧
        ofCode true .unicode negated c = .lowerForm negated .unicode (lowerCode c)) ∨
      (kin (lowerCode c) ≠ [] ∧
        ofCode true .unicode negated c = .foldedOneOf negated .unicode [.code (lowerCode c)]) := by
  by_cases hcased : isCasedCode c = false
  · exact .inl ⟨hcased, by simp [ofCode, Alphabet.isCased, hcased]⟩
  · by_cases hkin : kin (lowerCode c) = []
    · refine .inr (.inl ⟨hkin, ?_⟩)
      simp [ofCode, Alphabet.isCased, Alphabet.lower, Alphabet.kindred, hcased, hkin]
    · refine .inr (.inr ⟨hkin, ?_⟩)
      simp [ofCode, Alphabet.isCased, Alphabet.lower, Alphabet.kindred, hcased, hkin]

/-- A code point beyond the basic plane is in a set as it stands. -/
theorem holdsFolded_beyond (h : c > basicPlaneEnd) (lower : Nat) :
    (Member.code c).holdsFolded .unicode lower = (lower == c) :=
  if_pos h

/-- A code point of the basic plane is in a set with its lower form and the kindred of that. -/
theorem holdsFolded_basic (h : ¬ c > basicPlaneEnd) (lower : Nat) :
    (Member.code c).holdsFolded .unicode lower =
      (lower == lowerCode c || decide (lower ∈ kin (lowerCode c))) :=
  if_neg h

/-- A single character is compared like a set of it, unless it is a capital letter beyond the basic
plane. -/
theorem accepts_ofCode (h : c ≤ basicPlaneEnd ∨ lowerCode c = c) (negated : Bool) (x : Nat) :
    (ofCode true .unicode negated c).accepts x =
      ((Member.code c).holdsFolded .unicode (lowerCode x) != negated) := by
  by_cases hbeyond : c > basicPlaneEnd
  · have hlower : lowerCode c = c := h.resolve_left (by omega)
    rw [holdsFolded_beyond hbeyond]
    rcases ofCode_cases negated c with ⟨hcased, htest⟩ | ⟨-, htest⟩ | ⟨hkin, -⟩
    · have heq : (x == c) = (lowerCode x == c) := by
        rw [Bool.eq_iff_iff, beq_iff_eq, beq_iff_eq, lowerCode_eq_iff_of_not_cased hcased]
      rw [htest, accepts, heq]
    · rw [htest, hlower]
      rfl
    · rw [hlower] at hkin
      exact absurd (lowerCode_of_kin hkin).2 (by omega)
  · rcases ofCode_cases negated c with ⟨hcased, htest⟩ | ⟨hkin, htest⟩ | ⟨hkin, htest⟩
    · have hmember : (Member.code c).isCased .unicode = false := by
        simp [Member.isCased, Alphabet.isCased, hcased, hbeyond]
      rw [htest, Member.holdsFolded_lowerCode hmember]
      rfl
    · rw [htest, holdsFolded_basic hbeyond, hkin]
      simp [accepts, Alphabet.lower]
    · obtain ⟨hlower, hle⟩ := lowerCode_of_kin hkin
      have hset : (CharTest.foldedOneOf negated .unicode [.code (lowerCode c)]).accepts x =
          ((Member.code (lowerCode c)).holdsFolded .unicode (lowerCode x) != negated) := by
        simp [accepts, Alphabet.lower]
      rw [htest, hset, holdsFolded_basic hbeyond, holdsFolded_basic (by omega), hlower]

/-- A single character that is none of the letters with two cases beyond the basic plane is compared
like a set too, whatever it is compared with. -/
theorem accepts_ofCode_of_not_high (h : x ≤ basicPlaneEnd ∨ isCasedCode x = false)
    (negated : Bool) (c : Nat) :
    (ofCode true .unicode negated c).accepts x =
      ((Member.code c).holdsFolded .unicode (lowerCode x) != negated) := by
  by_cases hc : c ≤ basicPlaneEnd ∨ lowerCode c = c
  · exact accepts_ofCode hc negated x
  · -- a capital letter beyond the basic plane equals only letters like it
    rw [not_or, Nat.not_le] at hc
    obtain ⟨hbeyond, hcapital⟩ := hc
    have hlower : ¬ lowerCode c ≤ 0xffff := mt lowerCode_le_iff.1 (Nat.not_le.2 hbeyond)
    have hne : (lowerCode x == lowerCode c) = false := by
      rw [beq_eq_false_iff_ne]
      intro heq
      have hx : ¬ x ≤ basicPlaneEnd := fun hle => hlower (heq ▸ lowerCode_le_iff.2 hle)
      have hcased := h.resolve_left hx
      rw [lowerCode_of_not_cased hcased] at heq
      rw [heq, isCasedCode_lowerCode hcapital] at hcased
      cases hcased
    have hset : (lowerCode x == c) = false := by
      rw [beq_eq_false_iff_ne]
      rintro rfl
      exact hcapital (lowerCode_lowerCode hbeyond)
    rw [holdsFolded_beyond hbeyond, hset]
    rcases ofCode_cases negated c with ⟨hcased, -⟩ | ⟨-, htest⟩ | ⟨hkin, -⟩
    · exact absurd (lowerCode_of_not_cased hcased) hcapital
    · rw [htest, accepts, Alphabet.lower, hne]
    · exact absurd (lowerCode_of_kin hkin).2 hlower

end CharTest

end UrlRouting.Regex
