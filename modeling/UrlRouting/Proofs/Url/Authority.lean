import UrlRouting.Proofs.Url.Address
import UrlRouting.Proofs.Url.Split

/-!
# Which URLs are read

Whether a URL can be read depends on its authority alone.  `Url.Acceptable` says when, without the
order in which the checks are made, and `Request.ofUrl_isOk_iff` that it is just then.
-/

namespace UrlRouting

/-- No character of ASCII hides a delimiter. -/
theorem Text.hidesDelimiter_of_lt {c : Char} (h : c.toNat < 128) : hidesDelimiter c = false := by
  have hfirst : c.toNat < 0x2047 := by omega
  exact not_inRanges_of_lt hfirst

namespace Url

/-- What is taken for the address in a host and port, given an authority with brackets: what the
brackets surround, if the first one opens the host and nothing but a port follows the second one; all
that follows the first one, if there is no second one; what stands in front of the port, if there is
no first one. -/
inductive TakenForAddress (hostAndPort : Text) : Text → Prop
  | surrounded {host port : Text} (h : hostAndPort = '[' :: (host ++ ']' :: port))
      (hhost : ']' ∉ host) (hport : port = [] ∨ port.head? = some ':') :
      TakenForAddress hostAndPort host
  | unclosed {host : Text} (h : hostAndPort = '[' :: host) (hhost : ']' ∉ host) :
      TakenForAddress hostAndPort host
  | bare (h : '[' ∉ hostAndPort) : TakenForAddress hostAndPort (Text.upTo ':' hostAndPort)

/-- An authority that is not refused: no character hides a delimiter, and if there are brackets, there
are both, and what is taken for an address is one of version 6 or of a future version. -/
structure Acceptable (authority : Text) : Prop where
  plain : ∀ c ∈ authority, Text.hidesDelimiter c = false
  paired : '[' ∈ authority ↔ ']' ∈ authority
  address : '[' ∈ authority → ∃ host, TakenForAddress (hostAndPort authority) host ∧
    (Address.isFuture host = true ∨ Address.isVersion6 host = true)

variable {authority host : Text}

/-- An authority of ASCII without brackets is acceptable. -/
theorem Acceptable.of_isAscii (hascii : Text.IsAscii authority) (hopening : '[' ∉ authority)
    (hclosing : ']' ∉ authority) : Acceptable authority where
  plain := fun c hc => Text.hidesDelimiter_of_lt (hascii c hc)
  paired := iff_of_false hopening hclosing
  address := fun h => absurd h hopening

theorem takenForAddress_of_bracketed? (h : bracketed? authority = some host) :
    TakenForAddress (hostAndPort authority) host := by
  unfold bracketed? at h
  split at h
  · next inner hopens =>
    simp only at h
    split at h
    · next hport =>
      cases h
      by_cases hcloses : ']' ∈ inner
      · obtain ⟨front, port, rfl, hfront⟩ := List.eq_append_cons_of_mem hcloses
        rw [Text.beyond_append_cons hfront] at hport
        rw [Text.upTo_append_cons hfront]
        exact .surrounded hopens hfront hport
      · rw [Text.upTo_of_not_mem hcloses]
        exact .unclosed hopens hcloses
    · cases h
  · split at h
    · cases h
    · next hbare =>
      cases h
      exact .bare hbare

theorem TakenForAddress.bracketed?_eq (h : TakenForAddress (hostAndPort authority) host) :
    bracketed? authority = some host := by
  unfold bracketed?
  cases h with
  | surrounded hopens hhost hport =>
    rw [hopens]
    simp only [Text.upTo_append_cons hhost, Text.beyond_append_cons hhost, if_pos hport]
  | unclosed hopens hhost =>
    rw [hopens]
    simp only [Text.upTo_of_not_mem hhost, Text.beyond_of_not_mem hhost, true_or, if_pos]
  | bare hbare =>
    split
    · next hopens =>
      rw [hopens] at hbare
      exact absurd List.mem_cons_self hbare
    · exact if_neg hbare

/-- The brackets of an authority pass if they are a pair around an address, or if there are none. -/
theorem checkBrackets_eq_ok_iff : checkBrackets authority = .ok () ↔
    ('[' ∈ authority ↔ ']' ∈ authority) ∧ ('[' ∈ authority →
      ∃ host, TakenForAddress (hostAndPort authority) host ∧
        (Address.isFuture host = true ∨ Address.isVersion6 host = true)) := by
  unfold checkBrackets
  by_cases hopening : '[' ∈ authority
  · by_cases hclosing : ']' ∈ authority
    · rw [if_neg (by simp [hopening]), if_neg (by simp [hopening, hclosing])]
      simp only [hopening, hclosing, true_and, forall_true_left]
      cases hbracketed : bracketed? authority with
      | none =>
        refine iff_of_false (by simp) ?_
        rintro ⟨host, htaken, -⟩
        rw [htaken.bracketed?_eq] at hbracketed
        cases hbracketed
      | some host =>
        have hhost : ∀ other, TakenForAddress (hostAndPort authority) other ↔ other = host := by
          intro other
          constructor
          · intro htaken
            exact Option.some.inj (htaken.bracketed?_eq.symm.trans hbracketed)
          · rintro rfl
            exact takenForAddress_of_bracketed? hbracketed
        simp only [hhost, exists_eq_left, Address.isFuture_or_isVersion6_iff]
        by_cases hhead : host.head? = some 'v'
        · simp only [if_pos hhead]
          cases Address.isFuture host <;> simp
        · simp only [if_neg hhead]
          cases Address.isVersion4 host <;> cases Address.isVersion6 host <;> simp
    · rw [if_neg (by simp [hopening]), if_pos (by simp [hclosing])]
      simp [hopening, hclosing]
  · by_cases hclosing : ']' ∈ authority
    · rw [if_neg (by simp [hclosing]), if_pos (by simp [hopening])]
      simp [hopening, hclosing]
    · rw [if_pos ⟨hopening, hclosing⟩]
      simp [hopening, hclosing]

theorem checkCharacters_eq_ok_iff :
    checkCharacters authority = .ok () ↔ ∀ c ∈ authority, Text.hidesDelimiter c = false := by
  have hany : authority.any Text.hidesDelimiter = false ↔
      ∀ c ∈ authority, Text.hidesDelimiter c = false := by
    simp
  rw [← hany, checkCharacters]
  cases authority.any Text.hidesDelimiter <;> simp

/-- An authority passes both checks if and only if it is acceptable. -/
theorem checks_eq_ok_iff : checkBrackets authority = .ok () ∧ checkCharacters authority = .ok () ↔
    Acceptable authority := by
  rw [checkBrackets_eq_ok_iff, checkCharacters_eq_ok_iff]
  constructor
  · rintro ⟨⟨hpaired, haddress⟩, hplain⟩
    exact ⟨hplain, hpaired, haddress⟩
  · intro h
    exact ⟨⟨h.paired, h.address⟩, h.plain⟩

end Url

namespace Request

/-- A URL with an acceptable authority asks for what its parts ask for. -/
theorem ofUrl_of_acceptable {t : Text} (h : Url.Acceptable (Url.split t).authority) :
    ofUrl t = .ok (ofParts (Url.split t)) := by
  obtain ⟨hbrackets, hcharacters⟩ := Url.checks_eq_ok_iff.2 h
  exact ofUrl_eq_ok_iff.2 ⟨hbrackets, hcharacters, rfl⟩

end Request

end UrlRouting
