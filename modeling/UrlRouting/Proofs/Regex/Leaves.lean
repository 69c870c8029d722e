import UrlRouting.Proofs.Regex.Lexeme
import UrlRouting.Regex.Reader

/-!
# What readers leave

Every reader takes a part of the text and leaves the rest.  No reader of lexemes takes a dollar sign
last: names, sets, counts, flags and comments end with a character of their own, and digits are no
dollar signs.  So a dollar sign at the end of an expression is left to be read by itself, unless a
backslash stands in front of it.
-/

namespace UrlRouting.Regex

variable {t u rest : Text}

/-- A part of a text is taken that does not end with a dollar sign, and the rest is left. -/
def Leaves (t rest : Text) : Prop := ∃ u, t = u ++ rest ∧ u.getLast? ≠ some '$'

namespace Leaves

theorem refl (t : Text) : Leaves t t := ⟨[], rfl, nofun⟩

theorem trans (h : Leaves t u) (h' : Leaves u rest) : Leaves t rest := by
  obtain ⟨v, rfl, hv⟩ := h
  obtain ⟨w, rfl, hw⟩ := h'
  refine ⟨v ++ w, (List.append_assoc v w rest).symm, ?_⟩
  rw [List.getLast?_append]
  cases hlast : w.getLast? with
  | none => exact hv
  | some c => rwa [hlast] at hw

/-- What ends with another character is taken. -/
theorem of_append_cons (u : Text) {c : Char} (hc : c ≠ '$') (rest : Text) :
    Leaves (u ++ c :: rest) rest := by
  refine ⟨u ++ [c], by simp, ?_⟩
  rw [List.getLast?_concat]
  exact fun h => hc (Option.some.inj h)

theorem cons {c : Char} (hc : c ≠ '$') (h : Leaves t rest) : Leaves (c :: t) rest :=
  (of_append_cons [] hc t).trans h

end Leaves

/-! ## Tokens, names and digits -/

/-- A token stands in front of what it leaves. -/
theorem eq_of_token? {token : Token} (h : token? t = some (token, rest)) :
    t = token.text ++ rest := by
  unfold token? at h
  split at h
  · cases h
  · cases h
    rfl
  · cases h
    rfl

theorem eq_nil_of_token? (h : token? t = none) : t = [] := by
  unfold token? at h
  split at h
  · rfl
  · cases h
  · cases h

/-- A terminator stands behind the tokens in front of it. -/
theorem eq_of_upToToken? {terminator : Char} {name : Text}
    (h : upToToken? terminator t = some (name, rest)) : t = name ++ terminator :: rest := by
  fun_induction upToToken? terminator t generalizing name with
  | case1 => cases h
  | case2 c t ih =>
    obtain ⟨⟨name, rest⟩, hname, hcons⟩ := Option.map_eq_some_iff.1 h
    cases hcons
    rw [ih hname]
    rfl
  | case3 t =>
    cases h
    rfl
  | case4 c t hbackslash hc ih =>
    obtain ⟨⟨name, rest⟩, hname, hcons⟩ := Option.map_eq_some_iff.1 h
    cases hcons
    rw [ih hname]
    rfl

/-- A name is left behind its terminator. -/
theorem leaves_readName {terminator : Char} (hterminator : terminator ≠ '$') {what name : Text}
    (h : readName terminator what t = .ok (name, rest)) : Leaves t rest := by
  unfold readName at h
  split at h
  · cases h
  · next hname =>
    cases h
    rw [eq_of_upToToken? hname]
    exact .of_append_cons _ hterminator _
  · split at h <;> cases h

/-- Characters of a kind are left behind them, if a dollar sign is not of the kind. -/
theorem leaves_takeAtMost {isOfKind : Char → Bool} (hkind : isOfKind '$' = false) (count : Nat)
    (t : Text) : Leaves t (takeAtMost count isOfKind t).2 := by
  have htaken : (t.take count).takeWhile isOfKind <+: t :=
    (List.takeWhile_prefix _).trans (List.take_prefix count t)
  refine ⟨(takeAtMost count isOfKind t).1, ?_, fun hlast => ?_⟩
  · exact (List.prefix_iff_eq_append.1 htaken).symm
  · have hdollar := List.mem_takeWhile_imp (List.mem_of_getLast? hlast)
    rw [hkind] at hdollar
    cases hdollar

/-! ## Escapes -/

variable {start : Text} {c : Char} {code : Nat}

theorem leaves_readHexEscape {letter : Char} {width : Nat}
    (h : readHexEscape start letter width t = .ok (code, rest)) : Leaves t rest := by
  unfold readHexEscape at h
  dsimp only at h
  repeat' split at h
  all_goals cases h
  exact leaves_takeAtMost (by decide) width t

theorem leaves_readNamedEscape (h : readNamedEscape start t = .ok (code, rest)) :
    Leaves t rest := by
  unfold readNamedEscape at h
  split at h
  · obtain ⟨⟨name, rest'⟩, hname, h⟩ := bind_eq_ok_iff.1 h
    dsimp only at h
    split at h
    · cases h
      exact (leaves_readName (by decide) hname).cons (by decide)
    · cases h
  · cases h

theorem leaves_readCommonEscape (h : readCommonEscape start c t = .ok (code, rest)) :
    Leaves t rest := by
  unfold readCommonEscape at h
  split at h
  · exact leaves_readHexEscape h
  · split at h
    · exact leaves_readNamedEscape h
    · split at h
      · cases h
      · cases h
        exact .refl t

/-! ## Sets -/

theorem leaves_readMemberEscape {member : Member}
    (h : readMemberEscape start c t = .ok (member, rest)) : Leaves t rest := by
  unfold readMemberEscape at h
  split at h
  · cases h
    exact .refl t
  · cases h
    exact .refl t
  · split at h
    · obtain ⟨code, -, h⟩ := bind_eq_ok_iff.1 h
      cases h
      exact leaves_takeAtMost (by decide) 2 t
    · obtain ⟨⟨code, rest'⟩, hcode, h⟩ := bind_eq_ok_iff.1 h
      cases h
      exact leaves_readCommonEscape hcode

theorem leaves_readMember {token : Token} {member : Member}
    (h : readMember start token t = .ok (member, rest)) : Leaves t rest := by
  unfold readMember at h
  split at h
  · cases h
    exact .refl t
  · exact leaves_readMemberEscape h

/-- A set that ends behind a member ends with its bracket. -/
theorem eq_of_readBehind {opening : Text} {low : Token} {member : Member} {step : MemberStep}
    (h : readMembers.readBehind opening low member t = .ok step) (hended : step.ended = true) :
    ∃ u, t = u ++ ']' :: step.rest := by
  unfold readMembers.readBehind at h
  split at h
  · next behind =>
    split at h
    · cases h
    · next hbracket =>
      cases h
      exact ⟨['-'], by rw [eq_of_token? hbracket]; rfl⟩
    · obtain ⟨⟨last, after⟩, -, h⟩ := bind_eq_ok_iff.1 h
      dsimp only at h
      split at h
      · split at h
        · cases h
        · cases h
          cases hended
      · cases h
  · cases h
    cases hended

/-- A set that ends ends with its bracket. -/
theorem eq_of_readMembers {opening : Text} {isFirst : Bool} {step : MemberStep}
    (h : readMembers opening isFirst t = .ok step) (hended : step.ended = true) :
    ∃ u, t = u ++ ']' :: step.rest := by
  unfold readMembers at h
  split at h
  · cases h
  · next htoken =>
    split at h
    · obtain ⟨u, rfl⟩ := eq_of_readBehind h hended
      exact ⟨']' :: u, eq_of_token? htoken⟩
    · cases h
      exact ⟨[], eq_of_token? htoken⟩
  · next token behind _ htoken =>
    obtain ⟨⟨member, after⟩, hmember, h⟩ := bind_eq_ok_iff.1 h
    obtain ⟨u, rfl⟩ := eq_of_readBehind h hended
    obtain ⟨v, rfl, -⟩ := leaves_readMember hmember
    exact ⟨token.text ++ (v ++ u), by rw [eq_of_token? htoken]; simp⟩

/-- What a set leaves stands behind its bracket. -/
theorem eq_of_readSet {opening : Text} {skip : Nat} {members members' : List Member}
    (h : readSet opening skip members t = .ok (members', rest)) : ∃ u, t = u ++ ']' :: rest := by
  fun_induction readSet opening skip members t with
  | case1 => cases h
  | case2 skip members c t ih =>
    obtain ⟨u, rfl⟩ := ih h
    exact ⟨c :: u, rfl⟩
  | case3 members c t ih =>
    obtain ⟨step, hstep, h⟩ := bind_eq_ok_iff.1 h
    split at h
    · next hended =>
      cases h
      exact eq_of_readMembers hstep hended
    · obtain ⟨u, rfl⟩ := ih step h
      exact ⟨c :: u, rfl⟩

theorem leaves_readSetItem {opening : Text} {item : Item}
    (h : readSetItem opening t = .ok (item, rest)) : Leaves t rest := by
  unfold readSetItem at h
  dsimp only at h
  split at h
  · obtain ⟨⟨members, rest'⟩, hset, h⟩ := bind_eq_ok_iff.1 h
    cases h
    obtain ⟨u, rfl⟩ := eq_of_readSet hset
    exact .of_append_cons ('^' :: u) (by decide) _
  · obtain ⟨⟨members, rest'⟩, hset, h⟩ := bind_eq_ok_iff.1 h
    cases h
    obtain ⟨u, rfl⟩ := eq_of_readSet hset
    exact .of_append_cons u (by decide) _

/-! ## Flags and counts -/

theorem leaves_readOn {on on' : List Flag} {ended : FlagsEnd}
    (h : readOn on t = .ok (on', ended, rest)) : Leaves t rest := by
  fun_induction readOn on t with
  | case1 => cases h
  | case2 on t =>
    cases h
    exact (Leaves.refl rest).cons (by decide)
  | case3 on t =>
    cases h
    exact (Leaves.refl rest).cons (by decide)
  | case4 on t =>
    cases h
    exact (Leaves.refl rest).cons (by decide)
  | case5 => cases h
  | case6 => cases h
  | case7 on c t _ _ _ _ flag hflag ih =>
    obtain ⟨on'', -, h⟩ := bind_eq_ok_iff.1 h
    refine (ih on'' h).cons ?_
    rintro rfl
    cases hflag

theorem leaves_readOff {off off' : List Flag} (h : readOff off t = .ok (off', rest)) :
    Leaves t rest := by
  induction t generalizing off with
  | nil => cases h
  | cons c t ih =>
    rw [readOff] at h
    split at h
    · next hcolon =>
      cases h
      exact (Leaves.refl rest).cons (by rw [hcolon.1]; decide)
    · dsimp only [pure_bind] at h
      split at h
      · cases h
      · next flag hflag =>
        obtain ⟨off'', -, h⟩ := bind_eq_ok_iff.1 h
        refine (ih h).cons ?_
        rintro rfl
        cases hflag

theorem leaves_readFlags {opening : Text} {flags : FlagChange}
    (h : readFlags opening t = .ok (flags, rest)) : Leaves t rest := by
  unfold readFlags at h
  obtain ⟨⟨on, ended, behind⟩, hon, h⟩ := bind_eq_ok_iff.1 h
  have hbehind := leaves_readOn hon
  dsimp only at h
  split at h
  · cases h
  · split at h
    · cases h
    · split at h
      · cases h
        exact hbehind
      · obtain ⟨⟨off, behind'⟩, hoff, h⟩ := bind_eq_ok_iff.1 h
        have hbehind' := hbehind.trans (leaves_readOff hoff)
        dsimp only at h
        split at h
        · cases h
        · split at h
          · cases h
          · cases h
            exact hbehind'

/-- What a comment leaves stands behind its parenthesis. -/
theorem eq_of_afterComment? (h : Reading.afterComment? t = some rest) :
    ∃ u, t = u ++ ')' :: rest := by
  fun_induction Reading.afterComment? t with
  | case1 => cases h
  | case2 c t ih =>
    obtain ⟨u, rfl⟩ := ih h
    exact ⟨'\\' :: c :: u, rfl⟩
  | case3 t =>
    cases h
    exact ⟨[], rfl⟩
  | case4 c t _ _ ih =>
    obtain ⟨u, rfl⟩ := ih h
    exact ⟨c :: u, rfl⟩

/-- What a comment up to the end of a line leaves is a part of the text. -/
theorem afterLine_suffix (t : Text) : Reading.afterLine t <:+ t := by
  fun_induction Reading.afterLine t with
  | case1 => exact List.suffix_rfl
  | case2 c t ih => exact ih.trans ((List.suffix_cons c t).trans (List.suffix_cons _ _))
  | case3 t => exact List.suffix_cons _ t
  | case4 c t _ _ ih => exact ih.trans (List.suffix_cons c t)

theorem leaves_readBraces {counts : Nat × Option Nat}
    (h : readBraces t = .ok (some (counts, rest))) : Leaves t rest := by
  unfold readBraces at h
  split at h
  · cases h
  · next low high behind hbraced =>
    have hbehind : Leaves t behind := by
      rcases exists_spellsBounds hbraced with rfl | ⟨least, most, u, -, rfl⟩
      · exact .of_append_cons [] (by decide) behind
      · exact .of_append_cons u (by decide) behind
    split at h
    · cases h
    · obtain ⟨least, -, h⟩ := bind_eq_ok_iff.1 h
      obtain ⟨most, -, h⟩ := bind_eq_ok_iff.1 h
      dsimp only at h
      split at h
      · cases h
      · cases h
        exact hbehind

theorem leaves_repetitionAndRest (t : Text) : Leaves t (repetitionAndRest t).2 := by
  unfold repetitionAndRest
  split
  · exact (Leaves.refl _).cons (by decide)
  · exact (Leaves.refl _).cons (by decide)
  · exact .refl _

end UrlRouting.Regex
