import UrlRouting.Proofs.Regex.Leaves

/-!
# Lexemes in front of a bar or a parenthesis

A rule that is read by itself is read in the same way in front of a bar or a closing parenthesis.
Neither of them goes on with a lexeme that is complete: they are no digits, no marks of a repetition
and no hyphen.  So what every reader of lexemes takes from a text it takes in front of more text too,
and it leaves that text behind what it has left.

A backslash at the end of a text would go on with what follows it, but there the text cannot be read
by itself.
-/

namespace UrlRouting.Regex

variable {t u rest start start' : Text} {c : Char} {code : Nat}

/-- A text that begins with a bar or a closing parenthesis. -/
inductive IsBoundary : Text → Prop
  | bar (u : Text) : IsBoundary ('|' :: u)
  | parenthesis (u : Text) : IsBoundary (')' :: u)

/-! ## Tokens, names and digits -/

/-- A token is the same in front of more text, if it is no backslash at the end. -/
theorem token?_continued {token : Token} (h : token? t = some (token, rest))
    (hend : rest ≠ [] ∨ token ≠ .plain '\\') (u : Text) :
    token? (t ++ u) = some (token, rest ++ u) := by
  unfold token? at h
  split at h
  · cases h
  · cases h
    rfl
  · next c rest' hescape =>
    cases h
    refine token?_cons ?_ _
    rintro rfl
    cases rest with
    | nil => exact hend.elim (fun h => h rfl) fun h => h rfl
    | cons d rest => exact hescape d rest rfl rfl

/-- A plain character that is no backslash is a token in front of more text too. -/
theorem token?_plain_continued (h : token? t = some (.plain c, rest)) (hc : c ≠ '\\') (u : Text) :
    token? (t ++ u) = some (.plain c, rest ++ u) :=
  token?_continued h (.inr fun heq => hc (Token.plain.inj heq)) u

/-- A character that is no backslash ends the tokens up to a terminator, or is one of them. -/
theorem upToToken?_cons (hc : c ≠ '\\') (terminator : Char) (t : Text) :
    upToToken? terminator (c :: t) =
      if c = terminator then some ([], t)
      else (upToToken? terminator t).map fun r => (c :: r.1, r.2) := by
  conv_lhs => unfold upToToken?
  split
  · next heq => cases heq
  · next heq => exact absurd (List.cons.inj heq).1 hc
  · next heq =>
    obtain ⟨rfl, rfl⟩ := List.cons.inj heq
    rfl

theorem upToToken?_continued {terminator : Char} (hterminator : terminator ≠ '\\') {name : Text}
    (h : upToToken? terminator t = some (name, rest)) (u : Text) :
    upToToken? terminator (t ++ u) = some (name, rest ++ u) := by
  fun_induction upToToken? terminator t generalizing name with
  | case1 => cases h
  | case2 c t ih =>
    obtain ⟨⟨name, rest⟩, hname, hcons⟩ := Option.map_eq_some_iff.1 h
    cases hcons
    rw [List.cons_append, List.cons_append, upToToken?, ih hname]
    rfl
  | case3 t hescape =>
    cases h
    rw [List.cons_append, upToToken?_cons hterminator, if_pos rfl]
  | case4 c t hescape hc ih =>
    obtain ⟨⟨name, rest⟩, hname, hcons⟩ := Option.map_eq_some_iff.1 h
    cases hcons
    have hbackslash : c ≠ '\\' := by
      rintro rfl
      cases t with
      | nil => cases hname
      | cons d t => exact hescape d t rfl rfl
    rw [List.cons_append, upToToken?_cons hbackslash, if_neg hc, ih hname]
    rfl

theorem readName_continued {terminator : Char} (hterminator : terminator ≠ '\\')
    {what name : Text} (h : readName terminator what t = .ok (name, rest)) (u : Text) :
    readName terminator what (t ++ u) = .ok (name, rest ++ u) := by
  unfold readName at h
  split at h
  · cases h
  · next name' rest' hne hname =>
    cases h
    rw [readName, upToToken?_continued hterminator hname]
    split
    · next heq =>
      cases heq
      exact absurd rfl hne
    · next heq =>
      cases heq
      rfl
    · next heq => cases heq
  · split at h <;> cases h

/-- What does not begin with a character of a kind adds none to those at the start of a text. -/
theorem takeWhile_continued {p : Char → Bool} (h : ∀ c ∈ u.head?, p c = false) (t : Text) :
    (t ++ u).takeWhile p = t.takeWhile p := by
  induction t with
  | nil =>
    cases u with
    | nil => rfl
    | cons c u =>
      rw [List.nil_append, List.takeWhile_cons, h c rfl]
      rfl
  | cons c t ih => rw [List.cons_append, List.takeWhile_cons, List.takeWhile_cons, ih]

theorem takeAtMost_continued {isOfKind : Char → Bool} (h : ∀ c ∈ u.head?, isOfKind c = false)
    (count : Nat) (t : Text) :
    takeAtMost count isOfKind (t ++ u) =
      ((takeAtMost count isOfKind t).1, (takeAtMost count isOfKind t).2 ++ u) := by
  have htaken : ((t ++ u).take count).takeWhile isOfKind = (t.take count).takeWhile isOfKind := by
    rw [List.take_append]
    refine takeWhile_continued (fun c hc => h c ?_) _
    rw [List.head?_take] at hc
    split at hc
    · cases hc
    · exact hc
  have hle : ((t.take count).takeWhile isOfKind).length ≤ t.length :=
    ((List.takeWhile_prefix _).trans (List.take_prefix count t)).length_le
  dsimp only [takeAtMost]
  rw [htaken, List.drop_append_of_le_length hle]

theorem IsBoundary.not_octalDigit (hu : IsBoundary u) : ∀ c ∈ u.head?, isOctalDigit c = false := by
  cases hu <;> (rintro c ⟨⟩; rfl)

theorem IsBoundary.not_hexDigit (hu : IsBoundary u) :
    ∀ c ∈ u.head?, Text.isHexDigit c = false := by
  cases hu <;> (rintro c ⟨⟩; rfl)

theorem IsBoundary.not_asciiDigit (hu : IsBoundary u) :
    ∀ c ∈ u.head?, Text.isAsciiDigit c = false := by
  cases hu <;> (rintro c ⟨⟩; rfl)

/-! ## Escapes -/

theorem readHexEscape_continued (hu : IsBoundary u) {letter : Char} {width : Nat}
    (h : readHexEscape start letter width t = .ok (code, rest)) :
    readHexEscape start' letter width (t ++ u) = .ok (code, rest ++ u) := by
  unfold readHexEscape at h ⊢
  rw [takeAtMost_continued hu.not_hexDigit]
  dsimp only at h ⊢
  split at h
  · cases h
  · next hlength =>
    rw [if_neg hlength]
    split at h
    · cases h
    · next hlimit =>
      rw [if_neg hlimit]
      split at h
      · cases h
      · next hrange =>
        rw [if_neg hrange]
        cases h
        rfl

theorem readNamedEscape_continued (h : readNamedEscape start t = .ok (code, rest)) (u : Text) :
    readNamedEscape start' (t ++ u) = .ok (code, rest ++ u) := by
  unfold readNamedEscape at h
  split at h
  · next t =>
    obtain ⟨⟨name, rest'⟩, hname, h⟩ := bind_eq_ok_iff.1 h
    refine bind_eq_ok_iff.2 ⟨_, readName_continued (by decide) hname u, ?_⟩
    dsimp only at h ⊢
    split at h
    · cases h
      rfl
    · cases h
  · cases h

theorem readCommonEscape_continued (hu : IsBoundary u)
    (h : readCommonEscape start c t = .ok (code, rest)) :
    readCommonEscape start' c (t ++ u) = .ok (code, rest ++ u) := by
  unfold readCommonEscape at h ⊢
  split at h
  · exact readHexEscape_continued hu h
  · split at h
    · next hc =>
      rw [if_pos hc]
      exact readNamedEscape_continued h u
    · next hc =>
      rw [if_neg hc]
      split at h
      · cases h
      · next hletter =>
        rw [if_neg hletter]
        cases h
        rfl

theorem octalCode_congr {digits : Text} (h : octalCode start digits = .ok code) :
    octalCode start' digits = .ok code := by
  simp only [octalCode] at h ⊢
  split at h
  · cases h
  · next hrange =>
    rw [if_neg hrange]
    exact h

/-! ## Sets -/

theorem readMemberEscape_continued (hu : IsBoundary u) {member : Member}
    (h : readMemberEscape start c t = .ok (member, rest)) :
    readMemberEscape start' c (t ++ u) = .ok (member, rest ++ u) := by
  unfold readMemberEscape at h ⊢
  split at h
  · cases h
    rfl
  · cases h
    rfl
  · split at h
    · next hoctal =>
      obtain ⟨code, hcode, h⟩ := bind_eq_ok_iff.1 h
      cases h
      rw [if_pos hoctal, takeAtMost_continued hu.not_octalDigit]
      exact bind_eq_ok_iff.2 ⟨code, octalCode_congr hcode, rfl⟩
    · next hoctal =>
      obtain ⟨⟨code, rest'⟩, hcode, h⟩ := bind_eq_ok_iff.1 h
      cases h
      rw [if_neg hoctal]
      exact bind_eq_ok_iff.2 ⟨_, readCommonEscape_continued hu hcode, rfl⟩

theorem readMember_continued (hu : IsBoundary u) {token : Token} {member : Member}
    (h : readMember start token t = .ok (member, rest)) :
    readMember start' token (t ++ u) = .ok (member, rest ++ u) := by
  unfold readMember at h ⊢
  split at h
  · cases h
    rfl
  · exact readMemberEscape_continued hu h

variable {opening opening' : Text}

/-- A text that leaves something is not empty. -/
theorem Leaves.ne_nil (h : Leaves t rest) (hne : rest ≠ []) : t ≠ [] := by
  obtain ⟨u, rfl, -⟩ := h
  exact List.append_ne_nil_of_right_ne_nil u hne

theorem readBehind_continued (hu : IsBoundary u) {low : Token} {member : Member}
    {step : MemberStep} (h : readMembers.readBehind opening low member t = .ok step)
    (hend : step.ended = true ∨ step.rest ≠ []) :
    readMembers.readBehind opening' low member (t ++ u) =
      .ok { step with rest := step.rest ++ u } := by
  unfold readMembers.readBehind at h
  split at h
  · next behind =>
    rw [List.cons_append, readMembers.readBehind]
    split at h
    · cases h
    · next htoken =>
      cases h
      rw [token?_plain_continued htoken (by decide)]
      rfl
    · next high rest hbracket htoken =>
      obtain ⟨⟨last, after⟩, hlast, h⟩ := bind_eq_ok_iff.1 h
      dsimp only at h
      split at h
      · next a b =>
        split at h
        · cases h
        · next hle =>
          cases h
          have hrest : rest ≠ [] :=
            (leaves_readMember hlast).ne_nil (hend.resolve_left Bool.false_ne_true)
          rw [token?_continued htoken (.inl hrest)]
          split
          · next heq => cases heq
          · next heq =>
            cases heq
            exact absurd rfl hbracket
          · next heq =>
            cases heq
            refine bind_eq_ok_iff.2 ⟨_, readMember_continued hu hlast, ?_⟩
            dsimp only
            rw [if_neg hle]
            rfl
      · cases h
  · next hminus =>
    cases h
    have hne : t ≠ [] := hend.resolve_left Bool.false_ne_true
    unfold readMembers.readBehind
    split
    · next behind heq =>
      cases t with
      | nil => exact absurd rfl hne
      | cons c t =>
        cases heq
        exact absurd rfl (hminus t)
    · rfl

theorem readMembers_continued (hu : IsBoundary u) {isFirst : Bool} {step : MemberStep}
    (h : readMembers opening isFirst t = .ok step) (hend : step.ended = true ∨ step.rest ≠ []) :
    readMembers opening' isFirst (t ++ u) = .ok { step with rest := step.rest ++ u } := by
  unfold readMembers at h ⊢
  split at h
  · cases h
  · next htoken =>
    rw [token?_plain_continued htoken (by decide)]
    split at h
    · next hfirst => exact (if_pos hfirst).trans (readBehind_continued hu h hend)
    · next hfirst =>
      cases h
      exact if_neg hfirst
  · next token rest hbracket htoken =>
    obtain ⟨⟨member, after⟩, hmember, h⟩ := bind_eq_ok_iff.1 h
    have hrest : rest ≠ [] ∨ token ≠ .plain '\\' := by
      by_contra hcon
      rw [not_or, not_not, not_not] at hcon
      obtain ⟨rfl, rfl⟩ := hcon
      cases hmember
      cases h
      exact hend.elim Bool.false_ne_true fun h => h rfl
    rw [token?_continued htoken hrest]
    split
    · next heq => cases heq
    · next heq =>
      cases heq
      exact absurd rfl hbracket
    · next heq =>
      cases heq
      exact bind_eq_ok_iff.2
        ⟨_, readMember_continued hu hmember, readBehind_continued hu h hend⟩

theorem readSet_continued (hu : IsBoundary u) {skip : Nat} {members members' : List Member}
    (h : readSet opening skip members t = .ok (members', rest)) :
    readSet opening' skip members (t ++ u) = .ok (members', rest ++ u) := by
  fun_induction readSet opening skip members t with
  | case1 => cases h
  | case2 skip members c t ih => exact ih h
  | case3 members c t ih =>
    obtain ⟨step, hstep, h⟩ := bind_eq_ok_iff.1 h
    rw [List.cons_append, readSet]
    have hend : step.ended = true ∨ step.rest ≠ [] := by
      by_contra hcon
      rw [not_or, not_not] at hcon
      have hskip := readSet_skip opening (members ++ step.members) t []
      rw [if_neg hcon.1, hcon.2, List.length_nil, Nat.sub_zero] at h
      rw [List.append_nil, h] at hskip
      cases hskip
    refine bind_eq_ok_iff.2 ⟨_, readMembers_continued hu hstep hend, ?_⟩
    split at h
    · next hended =>
      cases h
      exact if_pos hended
    · next hended =>
      have hskip : (t ++ u).length - (step.rest ++ u).length = t.length - step.rest.length := by
        rw [List.length_append, List.length_append, Nat.add_sub_add_right]
      refine (if_neg hended).trans ?_
      rw [hskip]
      exact ih step h

theorem readSetItem_continued (hu : IsBoundary u) {item : Item}
    (h : readSetItem opening t = .ok (item, rest)) :
    readSetItem opening' (t ++ u) = .ok (item, rest ++ u) := by
  unfold readSetItem at h ⊢
  dsimp only at h ⊢
  split at h
  · next t =>
    obtain ⟨⟨members, rest'⟩, hset, h⟩ := bind_eq_ok_iff.1 h
    cases h
    exact bind_eq_ok_iff.2 ⟨_, readSet_continued hu hset, rfl⟩
  · next hcaret =>
    obtain ⟨⟨members, rest'⟩, hset, h⟩ := bind_eq_ok_iff.1 h
    cases h
    split
    · next heq =>
      cases t with
      | nil => cases hset
      | cons c t =>
        cases heq
        exact absurd rfl (hcaret t)
    · exact bind_eq_ok_iff.2 ⟨_, readSet_continued hu hset, rfl⟩

/-! ## Repetitions -/

theorem bracedCounts?_continued (hu : IsBoundary u) (t : Text) :
    bracedCounts? (t ++ u) = (bracedCounts? t).map fun r => (r.1, r.2.1, r.2.2 ++ u) := by
  have hdigits : ∀ t : Text, (t ++ u).takeWhile Text.isAsciiDigit = t.takeWhile Text.isAsciiDigit ∧
      (t ++ u).drop (t.takeWhile Text.isAsciiDigit).length =
        t.drop (t.takeWhile Text.isAsciiDigit).length ++ u := fun t =>
    ⟨takeWhile_continued hu.not_asciiDigit t,
      List.drop_append_of_le_length (List.takeWhile_prefix _).length_le⟩
  unfold bracedCounts?
  dsimp only
  rw [(hdigits t).1, (hdigits t).2]
  generalize t.drop (t.takeWhile Text.isAsciiDigit).length = behind
  cases behind with
  | nil => cases hu <;> rfl
  | cons c behind =>
    rw [List.cons_append]
    by_cases hc : c = ','
    · subst hc
      simp only [(hdigits behind).1, (hdigits behind).2]
      generalize behind.drop (behind.takeWhile Text.isAsciiDigit).length = last
      cases last with
      | nil => cases hu <;> rfl
      | cons d last =>
        rw [List.cons_append]
        by_cases hd : d = '\x7d'
        · subst hd
          rfl
        · simp [hd]
    · by_cases hend : c = '\x7d'
      · subst hend
        rfl
      · simp [hc, hend]

theorem readBraces_continued (hu : IsBoundary u) {counts : Option ((Nat × Option Nat) × Text)}
    (h : readBraces t = .ok counts) :
    readBraces (t ++ u) = .ok (counts.map fun r => (r.1, r.2 ++ u)) := by
  unfold readBraces at h ⊢
  rw [bracedCounts?_continued hu]
  split at h
  · next hbraced =>
    cases h
    rw [hbraced]
    rfl
  · next low high behind hbraced =>
    have hlength : ((behind ++ u).length + 1 = (t ++ u).length) = (behind.length + 1 = t.length) := by
      rw [List.length_append, List.length_append, eq_iff_iff]
      omega
    rw [hbraced]
    dsimp only [Option.map_some]
    simp only [hlength]
    split at h
    · next hempty =>
      cases h
      exact if_pos hempty
    · next hempty =>
      rw [if_neg hempty]
      obtain ⟨least, hleast, h⟩ := bind_eq_ok_iff.1 h
      obtain ⟨most, hmost, h⟩ := bind_eq_ok_iff.1 h
      refine bind_eq_ok_iff.2 ⟨least, hleast, bind_eq_ok_iff.2 ⟨most, hmost, ?_⟩⟩
      dsimp only at h ⊢
      split at h
      · cases h
      · next hbounds =>
        cases h
        exact if_neg hbounds

theorem repetitionAndRest_continued (hu : IsBoundary u) (t : Text) :
    repetitionAndRest (t ++ u) = ((repetitionAndRest t).1, (repetitionAndRest t).2 ++ u) := by
  cases t with
  | nil => cases hu <;> rfl
  | cons c t =>
    rw [List.cons_append]
    unfold repetitionAndRest
    split
    · next heq =>
      cases heq
      rfl
    · next heq =>
      cases heq
      rfl
    · next hlazy hpossessive =>
      split
      · next heq =>
        cases heq
        exact absurd rfl (hlazy _)
      · next heq =>
        cases heq
        exact absurd rfl (hpossessive _)
      · rfl

/-! ## Flags -/

theorem turnOn_congr {on on' : List Flag} {flag : Flag} (h : turnOn on flag t = .ok on')
    (t' : Text) : turnOn on flag t' = .ok on' := by
  unfold turnOn at h ⊢
  split at h
  · cases h
  · next hlocale =>
    rw [if_neg hlocale]
    split at h
    · cases h
    · next hother =>
      rw [if_neg hother]
      exact h

theorem turnOff_congr {off off' : List Flag} {flag : Flag} (h : turnOff off flag t = .ok off')
    (t' : Text) : turnOff off flag t' = .ok off' := by
  unfold turnOff at h ⊢
  split at h
  · cases h
  · next halphabet =>
    rw [if_neg halphabet]
    exact h

theorem readOn_continued {on on' : List Flag} {ended : FlagsEnd}
    (h : readOn on t = .ok (on', ended, rest)) (u : Text) :
    readOn on (t ++ u) = .ok (on', ended, rest ++ u) := by
  fun_induction readOn on t with
  | case1 => cases h
  | case2 on t =>
    cases h
    rfl
  | case3 on t =>
    cases h
    rfl
  | case4 on t =>
    cases h
    rfl
  | case5 => cases h
  | case6 => cases h
  | case7 on c t hparenthesis hminus hcolon hbackslash flag hflag ih =>
    obtain ⟨on'', hon, h⟩ := bind_eq_ok_iff.1 h
    rw [List.cons_append, readOn]
    · simp only [hflag]
      exact bind_eq_ok_iff.2 ⟨on'', turnOn_congr hon _, ih on'' h⟩
    all_goals assumption

theorem readOff_continued {off off' : List Flag} (h : readOff off t = .ok (off', rest)) (u : Text) :
    readOff off (t ++ u) = .ok (off', rest ++ u) := by
  induction t generalizing off with
  | nil => cases h
  | cons c t ih =>
    rw [readOff] at h
    rw [List.cons_append, readOff]
    split at h
    · next hcolon =>
      cases h
      rw [if_pos hcolon]
      rfl
    · next hcolon =>
      rw [if_neg hcolon]
      dsimp only [pure_bind] at h ⊢
      split at h
      · cases h
      · next flag hflag =>
        obtain ⟨off'', hoff, h⟩ := bind_eq_ok_iff.1 h
        exact bind_eq_ok_iff.2 ⟨off'', turnOff_congr hoff _, ih h⟩

theorem readFlags_continued {flags : FlagChange} (h : readFlags opening t = .ok (flags, rest))
    (u : Text) : readFlags opening' (t ++ u) = .ok (flags, rest ++ u) := by
  unfold readFlags at h ⊢
  obtain ⟨⟨on, ended, behind⟩, hon, h⟩ := bind_eq_ok_iff.1 h
  refine bind_eq_ok_iff.2 ⟨_, readOn_continued hon u, ?_⟩
  dsimp only at h ⊢
  split at h
  · cases h
  · next hparenthesis =>
    rw [if_neg hparenthesis]
    split at h
    · cases h
    · next htemplate =>
      rw [if_neg htemplate]
      split at h
      · next hcolon =>
        rw [if_pos hcolon]
        cases h
        rfl
      · next hcolon =>
        rw [if_neg hcolon]
        obtain ⟨⟨off, behind'⟩, hoff, h⟩ := bind_eq_ok_iff.1 h
        refine bind_eq_ok_iff.2 ⟨_, readOff_continued hoff u, ?_⟩
        dsimp only at h ⊢
        split at h
        · cases h
        · next htemplate' =>
          rw [if_neg htemplate']
          split at h
          · cases h
          · next hboth =>
            rw [if_neg hboth]
            cases h
            rfl

/-! ## Comments -/

theorem afterComment?_continued (h : Reading.afterComment? t = some rest) (u : Text) :
    Reading.afterComment? (t ++ u) = some (rest ++ u) := by
  fun_induction Reading.afterComment? t with
  | case1 => cases h
  | case2 c t ih => exact ih h
  | case3 t hescape =>
    cases h
    rfl
  | case4 c t hescape hc ih =>
    have hbackslash : ∀ d v, c = '\\' → t ++ u = d :: v → False := by
      rintro d v rfl -
      cases t with
      | nil => cases h
      | cons d t => exact hescape d t rfl rfl
    rw [List.cons_append, Reading.afterComment?, if_neg hc, ih h]
    exact hbackslash

/-- A comment up to the end of a line that ends in a text ends there in front of more text. -/
theorem afterLine_continued (h : Reading.afterLine t ≠ []) (u : Text) :
    Reading.afterLine (t ++ u) = Reading.afterLine t ++ u := by
  fun_induction Reading.afterLine t with
  | case1 => exact absurd rfl h
  | case2 c t ih => exact ih h
  | case3 t hescape => rfl
  | case4 c t hescape hc ih =>
    have hbackslash : ∀ d v, c = '\\' → t ++ u = d :: v → False := by
      rintro d v rfl -
      cases t with
      | nil => exact h rfl
      | cons d t => exact hescape d t rfl rfl
    rw [List.cons_append, Reading.afterLine, if_neg hc, ih h]
    exact hbackslash

end UrlRouting.Regex
