import Mathlib.Data.List.Basic
import UrlRouting.Url.Address

/-!
# Addresses by their first characters

The versions of addresses exclude each other: `isFuture_or_isVersion6_iff` says that a text is
accepted between brackets by the tests for version 6 and for future versions, in whatever order
they are made.
-/

namespace UrlRouting.Address

/-- An address of version 4 has no colon. -/
theorem colon_not_mem_of_isVersion4 {t : Text} (h : isVersion4 t = true) : ':' ∉ t := by
  simp only [isVersion4, Bool.and_eq_true, List.all_eq_true] at h
  intro hcolon
  rw [← Text.join_splitAt '.' t] at hcolon
  rcases Text.mem_of_mem_join hcolon with hdot | ⟨octet, hoctet, hmem⟩
  · exact absurd hdot (by decide)
  · have hvalid := h.2 octet hoctet
    simp only [isOctet, Bool.and_eq_true, List.all_eq_true] at hvalid
    exact absurd (hvalid.1.1.1.2 ':' hmem) (by decide)

/-- The parts of an address of version 6, with the groups that they stand for. -/
theorem exists_groups_of_isVersion6 {t : Text} (h : isVersion6 t = true) :
    3 ≤ (Text.splitAt ':' (Text.upTo '%' t)).length ∧
      ∃ groups, groups? (Text.upTo '%' t) = some groups ∧ areGroups groups = true := by
  simp only [isVersion6, Bool.and_eq_true, decide_eq_true_eq, Option.any_eq_true] at h
  exact ⟨h.1.2, h.2⟩

/-- An address of version 6 has a colon. -/
theorem colon_mem_of_isVersion6 {t : Text} (h : isVersion6 t = true) : ':' ∈ t := by
  obtain ⟨hlength, -⟩ := exists_groups_of_isVersion6 h
  by_contra hcolon
  have hpart : ':' ∉ Text.upTo '%' t := fun hmem => hcolon (Text.mem_of_mem_upTo hmem)
  rw [Text.splitAt_of_not_mem hpart, List.length_singleton] at hlength
  omega

/-- The first part of an address is a group, unless it is empty. -/
theorem isGroup_of_areGroups {part : Text} {parts : List Text} (hne : part ≠ [])
    (h : areGroups (part :: parts) = true) : isGroup part = true := by
  simp only [areGroups] at h
  split at h
  · simp only [Bool.and_eq_true, List.all_eq_true] at h
    obtain ⟨⟨⟨-, hhigh⟩, -⟩, -⟩ := h
    refine hhigh part ?_
    rw [Nat.add_comm, List.take_succ_cons, groupsBefore, if_neg (by simp [hne])]
    exact List.mem_cons_self
  · rw [Bool.and_eq_true, List.all_eq_true] at h
    exact h.2 part List.mem_cons_self

/-- The groups of an address begin with its first part. -/
theorem groups?_eq_cons {t part : Text} {parts groups : List Text}
    (hparts : Text.splitAt ':' t = part :: parts) (hne : parts ≠ []) (h : groups? t = some groups) :
    ∃ rest, groups = part :: rest := by
  simp only [groups?, hparts] at h
  split at h
  · split at h
    · split at h
      · cases h
        obtain ⟨second, rest, rfl⟩ := List.exists_cons_of_ne_nil hne
        exact ⟨_, rfl⟩
      · cases h
    · cases h
      exact ⟨parts, rfl⟩
  · cases h

/-- An address of version 6 does not open with a `v`. -/
theorem head_ne_of_isVersion6 {t : Text} (h : isVersion6 t = true) : t.head? ≠ some 'v' := by
  intro hhead
  obtain ⟨rest, rfl⟩ := List.head?_eq_some_iff.1 hhead
  obtain ⟨hlength, groups, hgroups, hare⟩ := exists_groups_of_isVersion6 h
  have haddress : Text.upTo '%' ('v' :: rest) = 'v' :: Text.upTo '%' rest :=
    List.takeWhile_cons_of_pos rfl
  obtain ⟨part, parts, hsplit⟩ :=
    List.exists_cons_of_ne_nil (Text.splitAt_ne_nil ':' (Text.upTo '%' rest))
  have hparts : Text.splitAt ':' (Text.upTo '%' ('v' :: rest)) = ('v' :: part) :: parts := by
    rw [haddress]
    exact Text.splitAt_cons_of_ne (by decide) hsplit
  have hmore : parts ≠ [] := by
    rintro rfl
    rw [hparts, List.length_singleton] at hlength
    omega
  obtain ⟨others, rfl⟩ := groups?_eq_cons hparts hmore hgroups
  have hgroup := isGroup_of_areGroups (List.cons_ne_nil 'v' part) hare
  simp only [isGroup, Bool.and_eq_true, List.all_eq_true] at hgroup
  exact absurd (hgroup.2 'v' List.mem_cons_self) (by decide)

/-- An address of a future version opens with a `v`. -/
theorem head_of_isFuture {t : Text} (h : isFuture t = true) : t.head? = some 'v' := by
  unfold isFuture at h
  split at h
  · rfl
  · cases h

/-- The tests of an address one after the other: a `v` in front decides for a future version, and an
address of version 4 is refused before version 6 is tried. -/
theorem isFuture_or_isVersion6_iff (t : Text) : isFuture t = true ∨ isVersion6 t = true ↔
    if t.head? = some 'v' then isFuture t = true
    else isVersion4 t = false ∧ isVersion6 t = true := by
  split
  · next hhead => exact or_iff_left fun h6 => head_ne_of_isVersion6 h6 hhead
  · next hhead =>
    constructor
    · rintro (hfuture | h6)
      · exact absurd (head_of_isFuture hfuture) hhead
      · refine ⟨?_, h6⟩
        by_contra h4
        rw [Bool.not_eq_false] at h4
        exact colon_not_mem_of_isVersion4 h4 (colon_mem_of_isVersion6 h6)
    · exact fun h => .inr h.2

end UrlRouting.Address
