import UrlRouting.Proofs.Pattern.Scheme
import UrlRouting.Proofs.Regex.Leaves
import UrlRouting.Regex.Basic

/-!
# Oversized numbers

A rule may be refused because of a number that is not representable: a repetition count, or the code
of a character.  `Oversized` says that a text holds such a number.  Every reader that reaches a limit
does so over a number that stands in the text it reads: `LimitedBy`, one lemma for each reader.
From these comes `oversized_of_compile`: a rule that is refused because of a limit is oversized, and
all others are refused for what is wrong with them, if they are.
-/

namespace UrlRouting.Regex

/-! ## Numbers in a text -/

/-- One or two numbers in braces. -/
def braced (low : Text) (high : Option Text) : Text :=
  '\x7b' :: (low ++ high.elim [] (',' :: ·) ++ ['\x7d'])

/-- Digits in a text are a count: they stand in braces, by themselves or beside other digits. -/
inductive HoldsCount (t : Text) : Text → Prop
  | alone {digits : Text} (h : braced digits none <:+: t) : HoldsCount t digits
  | least {digits other : Text} (hother : ∀ c ∈ other, Text.isAsciiDigit c = true)
      (h : braced digits (some other) <:+: t) : HoldsCount t digits
  | most {digits other : Text} (hother : ∀ c ∈ other, Text.isAsciiDigit c = true)
      (h : braced other (some digits) <:+: t) : HoldsCount t digits

/-- A text holds a number that exceeds a limit. -/
inductive Oversized (t : Text) : Limit → Prop
  /-- A count in braces has too many digits. -/
  | digits {digits : Text} (hdigits : ∀ c ∈ digits, Text.isAsciiDigit c = true)
      (hholds : HoldsCount t digits) (hlong : 4300 < digits.length) :
      Oversized t (.digits digits.length)
  /-- A count in braces is too large. -/
  | repeatCount {digits : Text} (hdigits : ∀ c ∈ digits, Text.isAsciiDigit c = true)
      (hholds : HoldsCount t digits) (hlarge : countLimit ≤ Text.natInBase 10 digits) :
      Oversized t .repeatCount
  /-- An escape with eight hexadecimal digits writes a code that is too large. -/
  | codePoint {digits : Text} (hdigits : ∀ c ∈ digits, Text.isHexDigit c = true)
      (hlength : digits.length = 8) (hholds : '\\' :: 'U' :: digits <:+: t)
      (hlarge : 0x7fffffff < Text.natInBase 16 digits) : Oversized t .codePoint

/-- Digits write less than the power of the base by their number. -/
theorem natInBase_lt {base : Nat} {digits : Text} (h : ∀ c ∈ digits, Text.digitValue c < base) :
    Text.natInBase base digits < base ^ digits.length := by
  induction digits using List.reverseRecOn with
  | nil => exact Nat.one_pos
  | append_singleton digits c ih =>
    have hc : Text.digitValue c < base := h c (by simp)
    have hdigits := ih fun d hd => h d (List.mem_append_left _ hd)
    calc Text.natInBase base (digits ++ [c])
        < base * (Text.natInBase base digits + 1) := by
          rw [Text.natInBase_concat, Nat.mul_succ]
          omega
      _ ≤ base * base ^ digits.length := Nat.mul_le_mul_left _ hdigits
      _ = base ^ (digits ++ [c]).length := by
        rw [List.length_append, List.length_singleton, Nat.pow_succ, Nat.mul_comm]

theorem digitValue_lt_of_isHexDigit {c : Char} (h : Text.isHexDigit c = true) :
    Text.digitValue c < 16 := by
  have hcode : (48 ≤ c.toNat ∧ c.toNat ≤ 57) ∨ (97 ≤ c.toNat ∧ c.toNat ≤ 102) ∨
      65 ≤ c.toNat ∧ c.toNat ≤ 70 := by
    simp only [Text.isHexDigit, Bool.or_eq_true, isAsciiDigit_iff, Bool.and_eq_true,
      decide_eq_true_eq, Char.le_def, UInt32.le_iff_toNat_le, or_assoc] at h
    exact h
  unfold Text.digitValue
  split
  · next hdigit =>
    have hle := ((isAsciiDigit_iff c).1 hdigit).2
    have hzero : '0'.toNat = 48 := rfl
    omega
  · next hdigit =>
    rw [isAsciiDigit_iff] at hdigit
    have ha : 'a'.toNat = 97 := rfl
    rw [toNat_toLower]
    split <;> omega

theorem digitValue_lt_of_isAsciiDigit {c : Char} (h : Text.isAsciiDigit c = true) :
    Text.digitValue c < 10 := by
  obtain ⟨hle, hge⟩ := (isAsciiDigit_iff c).1 h
  have hzero : '0'.toNat = 48 := rfl
  rw [Text.digitValue, if_pos h]
  omega

/-- The digits of a count and the braces around it are part of the text. -/
theorem HoldsCount.length_le {t digits : Text} (h : HoldsCount t digits) :
    digits.length + 2 ≤ t.length := by
  rcases h with h | ⟨-, h⟩ | ⟨-, h⟩ <;>
  · have hle := h.length_le
    simp only [braced, Option.elim_none, Option.elim_some, List.length_cons, List.length_append,
      List.length_nil] at hle
    omega

/-- There is no room for an oversized number in a short text. -/
theorem not_oversized_of_length_lt {t : Text} (h : t.length < 10) (cause : Limit) :
    ¬ Oversized t cause := by
  rintro (⟨-, hholds, hlong⟩ | @⟨digits, hdigits, hholds, hlarge⟩ | ⟨-, hlength, hholds, -⟩)
  · have hle := hholds.length_le
    omega
  · have hle := hholds.length_le
    have hlt := natInBase_lt fun c hc => digitValue_lt_of_isAsciiDigit (hdigits c hc)
    have hpow : 10 ^ digits.length ≤ 10 ^ 8 := Nat.pow_le_pow_right (by decide) (by omega)
    have hlimit : countLimit = 4294967295 := rfl
    omega
  · have hle := hholds.length_le
    rw [List.length_cons, List.length_cons, hlength] at hle
    omega

/-! ## What readers fail by -/

/-- If a reader fails because of a limit, a text holds the number that exceeds it. -/
def LimitedBy {α : Type} (w : Text) (x : Except Flaw α) : Prop :=
  ∀ cause, x = .error (.limit cause) → Oversized w cause

section

variable {α β : Type} {w : Text}

theorem limitedBy_ok (a : α) : LimitedBy w (.ok a : Except Flaw α) := nofun

theorem limitedBy_malformed (cause : Cause) (remaining : Nat) :
    LimitedBy w (.error (.malformed cause remaining) : Except Flaw α) := nofun

/-- A reader goes on with what it has read. -/
theorem LimitedBy.bind {x : Except Flaw α} {f : α → Except Flaw β} (hx : LimitedBy w x)
    (hf : ∀ a, x = .ok a → LimitedBy w (f a)) : LimitedBy w (x >>= f) := by
  intro cause h
  rcases bind_eq_error_iff.1 h with h | ⟨a, ha, h⟩
  · exact hx cause h
  · exact hf a ha cause h

end

variable {w t start : Text} {c : Char}

/-! ### Names and escapes -/

theorem limitedBy_readName (terminator : Char) (what t : Text) :
    LimitedBy w (readName terminator what t) := by
  unfold readName
  split
  · exact limitedBy_malformed _ _
  · exact limitedBy_ok _
  · split <;> exact limitedBy_malformed _ _

/-- Only eight digits write a code that is too large. -/
theorem limitedBy_readHexEscape {width : Nat} (hwidth : hexEscapeWidth? c = some width)
    (ht : '\\' :: c :: t <:+ w) : LimitedBy w (readHexEscape start c width t) := by
  have htaken : (takeAtMost width Text.isHexDigit t).1 <+: t :=
    (List.takeWhile_prefix _).trans (List.take_prefix width t)
  have hdigits : ∀ d ∈ (takeAtMost width Text.isHexDigit t).1, Text.isHexDigit d = true :=
    fun d hd => List.mem_takeWhile_imp hd
  unfold readHexEscape
  generalize takeAtMost width Text.isHexDigit t = taken at htaken hdigits ⊢
  obtain ⟨digits, rest⟩ := taken
  dsimp only at htaken hdigits ⊢
  split
  · exact limitedBy_malformed _ _
  · next hlength =>
    replace hlength : digits.length = width := not_not.1 hlength
    split
    · next hlarge =>
      rintro cause h
      cases h
      have hlt := natInBase_lt fun d hd => digitValue_lt_of_isHexDigit (hdigits d hd)
      have hholds : '\\' :: c :: digits <:+: w := by
        have hprefix : '\\' :: c :: digits <+: '\\' :: c :: t :=
          List.cons_prefix_cons.2 ⟨rfl, List.cons_prefix_cons.2 ⟨rfl, htaken⟩⟩
        exact hprefix.isInfix.trans ht.isInfix
      unfold hexEscapeWidth? at hwidth
      split at hwidth
      · cases hwidth
        rw [hlength] at hlt
        omega
      · cases hwidth
        rw [hlength] at hlt
        omega
      · cases hwidth
        exact .codePoint hdigits hlength hholds hlarge
      · cases hwidth
    · split
      · exact limitedBy_malformed _ _
      · exact limitedBy_ok _

theorem limitedBy_readNamedEscape (start t : Text) : LimitedBy w (readNamedEscape start t) := by
  unfold readNamedEscape
  split
  · refine (limitedBy_readName _ _ _).bind fun ⟨name, rest⟩ _ => ?_
    dsimp only
    split
    · exact limitedBy_ok _
    · exact limitedBy_malformed _ _
  · exact limitedBy_malformed _ _

theorem limitedBy_readCommonEscape (ht : '\\' :: c :: t <:+ w) :
    LimitedBy w (readCommonEscape start c t) := by
  unfold readCommonEscape
  split
  · next hwidth => exact limitedBy_readHexEscape hwidth ht
  · split
    · exact limitedBy_readNamedEscape _ _
    · split
      · exact limitedBy_malformed _ _
      · exact limitedBy_ok _

theorem limitedBy_octalCode (start digits : Text) : LimitedBy w (octalCode start digits) := by
  unfold octalCode
  dsimp only
  split
  · exact limitedBy_malformed _ _
  · exact limitedBy_ok _

/-! ### Sets -/

theorem limitedBy_readMemberEscape (ht : '\\' :: c :: t <:+ w) :
    LimitedBy w (readMemberEscape start c t) := by
  unfold readMemberEscape
  split
  · exact limitedBy_ok _
  · exact limitedBy_ok _
  · split
    · exact (limitedBy_octalCode _ _).bind fun _ _ => limitedBy_ok _
    · exact (limitedBy_readCommonEscape ht).bind fun _ _ => limitedBy_ok _

theorem limitedBy_readMember {token : Token} (ht : token.text ++ t <:+ w) :
    LimitedBy w (readMember start token t) := by
  unfold readMember
  split
  · exact limitedBy_ok _
  · exact limitedBy_readMemberEscape ht

theorem limitedBy_readBehind {opening : Text} {low : Token} {member : Member} (ht : t <:+ w) :
    LimitedBy w (readMembers.readBehind opening low member t) := by
  unfold readMembers.readBehind
  split
  · next behind =>
    split
    · exact limitedBy_malformed _ _
    · exact limitedBy_ok _
    · next high rest _ htoken =>
      have hbehind : high.text ++ rest <:+ w := by
        rw [← eq_of_token? htoken]
        exact (List.suffix_cons _ _).trans ht
      refine (limitedBy_readMember hbehind).bind fun ⟨last, after⟩ _ => ?_
      dsimp only
      split
      · split
        · exact limitedBy_malformed _ _
        · exact limitedBy_ok _
      · exact limitedBy_malformed _ _
  · exact limitedBy_ok _

theorem limitedBy_readMembers {opening : Text} {isFirst : Bool} (ht : t <:+ w) :
    LimitedBy w (readMembers opening isFirst t) := by
  unfold readMembers
  split
  · exact limitedBy_malformed _ _
  · next rest htoken =>
    split
    · rw [eq_of_token? htoken] at ht
      exact limitedBy_readBehind ((List.suffix_cons _ _).trans ht)
    · exact limitedBy_ok _
  · next token rest _ htoken =>
    rw [eq_of_token? htoken] at ht
    refine (limitedBy_readMember ht).bind fun ⟨member, after⟩ hmember => ?_
    obtain ⟨u, rfl, -⟩ := leaves_readMember hmember
    exact limitedBy_readBehind
      ((List.suffix_append u after).trans ((List.suffix_append _ _).trans ht))

theorem limitedBy_readSet {opening : Text} {skip : Nat} {members : List Member} (ht : t <:+ w) :
    LimitedBy w (readSet opening skip members t) := by
  fun_induction readSet opening skip members t with
  | case1 => exact limitedBy_malformed _ _
  | case2 skip members c t ih => exact ih ((List.suffix_cons c t).trans ht)
  | case3 members c t ih =>
    refine (limitedBy_readMembers ht).bind fun step _ => ?_
    split
    · exact limitedBy_ok _
    · exact ih step ((List.suffix_cons c t).trans ht)

theorem limitedBy_readSetItem {opening : Text} (ht : t <:+ w) :
    LimitedBy w (readSetItem opening t) := by
  unfold readSetItem
  dsimp only
  split
  · next t =>
    exact (limitedBy_readSet ((List.suffix_cons '^' t).trans ht)).bind fun _ _ => limitedBy_ok _
  · exact (limitedBy_readSet ht).bind fun _ _ => limitedBy_ok _

/-! ### Counts -/

theorem limitedBy_countOf {digits : Text} {otherwise : Option Nat}
    (hdigits : ∀ c ∈ digits, Text.isAsciiDigit c = true) (hholds : HoldsCount w digits) :
    LimitedBy w (countOf digits otherwise) := by
  unfold countOf
  split
  · exact limitedBy_ok _
  · split
    · next hlong =>
      rintro cause h
      cases h
      exact .digits hdigits hholds hlong
    · split
      · next hlarge =>
        rintro cause h
        cases h
        exact .repeatCount hdigits hholds hlarge
      · exact limitedBy_ok _

/-- The counts that are read behind a brace are counts of the text. -/
theorem holdsCount_of_bracedCounts? {low high rest : Text}
    (h : bracedCounts? t = some (low, high, rest)) (ht : '\x7b' :: t <:+ w) :
    HoldsCount w low ∧ HoldsCount w high := by
  obtain ⟨hlow, hhigh, rfl | ⟨rfl, rfl⟩⟩ := eq_of_bracedCounts? h
  · have hbraced : braced low (some high) <:+: w := by
      refine (List.IsPrefix.isInfix ⟨rest, ?_⟩).trans ht.isInfix
      simp [braced]
    exact ⟨.least hhigh hbraced, .most hlow hbraced⟩
  · have hbraced : braced high none <:+: w := by
      refine (List.IsPrefix.isInfix ⟨rest, ?_⟩).trans ht.isInfix
      simp [braced]
    exact ⟨.alone hbraced, .alone hbraced⟩

theorem limitedBy_readBraces (ht : '\x7b' :: t <:+ w) : LimitedBy w (readBraces t) := by
  unfold readBraces
  split
  · exact limitedBy_ok _
  · next low high rest hbraced =>
    obtain ⟨hlow, hhigh, -⟩ := eq_of_bracedCounts? hbraced
    obtain ⟨hleast, hmost⟩ := holdsCount_of_bracedCounts? hbraced ht
    split
    · exact limitedBy_ok _
    · refine (limitedBy_countOf hlow hleast).bind fun _ _ => ?_
      refine (limitedBy_countOf hhigh hmost).bind fun _ _ => ?_
      dsimp only
      split
      · exact limitedBy_malformed _ _
      · exact limitedBy_ok _

/-! ### Flags -/

theorem limitedBy_readOn (on : List Flag) (t : Text) : LimitedBy w (readOn on t) := by
  fun_induction readOn on t with
  | case7 on c t _ _ _ _ flag hflag ih =>
    refine LimitedBy.bind ?_ fun on' _ => ih on'
    unfold turnOn
    split
    · exact limitedBy_malformed _ _
    · split
      · exact limitedBy_malformed _ _
      · exact limitedBy_ok _
  | _ => first | exact limitedBy_malformed _ _ | exact limitedBy_ok _

theorem limitedBy_readOff (off : List Flag) (t : Text) : LimitedBy w (readOff off t) := by
  induction t generalizing off with
  | nil => exact limitedBy_malformed _ _
  | cons c t ih =>
    rw [readOff]
    split
    · exact limitedBy_ok _
    · dsimp only [pure_bind]
      split
      · exact limitedBy_malformed _ _
      · refine LimitedBy.bind ?_ fun off' _ => ih off'
        unfold turnOff
        split
        · exact limitedBy_malformed _ _
        · exact limitedBy_ok _

theorem limitedBy_readFlags (opening t : Text) : LimitedBy w (readFlags opening t) := by
  unfold readFlags
  refine (limitedBy_readOn _ _).bind fun ⟨on, ended, rest⟩ _ => ?_
  dsimp only
  split
  · exact limitedBy_malformed _ _
  · split
    · exact limitedBy_malformed _ _
    · split
      · exact limitedBy_ok _
      · refine (limitedBy_readOff _ _).bind fun ⟨off, rest⟩ _ => ?_
        dsimp only
        split
        · exact limitedBy_malformed _ _
        · split
          · exact limitedBy_malformed _ _
          · exact limitedBy_ok _

namespace Reading

variable {r : Reading}

/-! ### References and groups -/

theorem limitedBy_checkLook (r : Reading) (index : Nat) (t : Text) :
    LimitedBy w (r.checkLook index t) := by
  unfold checkLook
  split
  · exact limitedBy_ok _
  · split
    · exact limitedBy_malformed _ _
    · split
      · exact limitedBy_malformed _ _
      · exact limitedBy_ok _

theorem limitedBy_pushReference (r : Reading) (index : Nat) (start t : Text) :
    LimitedBy w (r.pushReference index start t) := by
  unfold pushReference
  split
  · exact limitedBy_malformed _ _
  · exact (r.limitedBy_checkLook _ _).bind fun _ _ => limitedBy_ok _

theorem limitedBy_readNumberEscape (r : Reading) (start : Text) (c : Char) (t : Text) :
    LimitedBy w (r.readNumberEscape start c t) := by
  unfold readNumberEscape
  dsimp only
  split
  · exact (limitedBy_octalCode _ _).bind fun _ _ => limitedBy_ok _
  · split
    · exact r.limitedBy_pushReference _ _ _
    · exact limitedBy_malformed _ _

theorem limitedBy_readEscape (ht : '\\' :: c :: t <:+ w) :
    LimitedBy w (r.readEscape start c t) := by
  unfold readEscape
  split
  · exact limitedBy_ok _
  · exact limitedBy_ok _
  · exact limitedBy_ok _
  · split
    · exact limitedBy_ok _
    · split
      · exact r.limitedBy_readNumberEscape _ _ _
      · exact (limitedBy_readCommonEscape ht).bind fun _ _ => limitedBy_ok _

theorem limitedBy_openNamed (r : Reading) (opening t : Text) :
    LimitedBy w (r.openNamed opening t) := by
  unfold openNamed
  refine (limitedBy_readName _ _ _).bind fun ⟨name, rest⟩ _ => ?_
  dsimp only
  split
  · exact limitedBy_malformed _ _
  · split
    · exact limitedBy_malformed _ _
    · exact limitedBy_ok _

theorem limitedBy_readNamedReference (r : Reading) (t : Text) :
    LimitedBy w (r.readNamedReference t) := by
  unfold readNamedReference
  refine (limitedBy_readName _ _ _).bind fun ⟨name, rest⟩ _ => ?_
  dsimp only
  split
  · exact limitedBy_malformed _ _
  · split
    · exact limitedBy_malformed _ _
    · exact r.limitedBy_pushReference _ _ _

theorem limitedBy_conditionGroup (r : Reading) (name t : Text) :
    LimitedBy w (r.conditionGroup name t) := by
  unfold conditionGroup
  repeat' split
  all_goals first | exact limitedBy_malformed _ _ | exact limitedBy_ok _

theorem limitedBy_openConditional (r : Reading) (opening t : Text) :
    LimitedBy w (r.openConditional opening t) := by
  unfold openConditional
  refine (limitedBy_readName _ _ _).bind fun ⟨name, rest⟩ _ => ?_
  refine (r.limitedBy_conditionGroup _ _).bind fun index _ => ?_
  exact (r.limitedBy_checkLook _ _).bind fun _ _ => limitedBy_ok _

theorem limitedBy_openFlagged (r : Reading) (opening t : Text) :
    LimitedBy w (r.openFlagged opening t) :=
  (limitedBy_readFlags opening t).bind fun _ _ => limitedBy_ok _

theorem limitedBy_readNamedGroup (r : Reading) (opening mark t : Text) :
    LimitedBy w (r.readNamedGroup opening mark t) := by
  unfold readNamedGroup
  split
  · exact r.limitedBy_openNamed _ _
  · exact r.limitedBy_readNamedReference _
  · exact limitedBy_malformed _ _
  · exact limitedBy_malformed _ _

theorem limitedBy_readExtension (r : Reading) (opening mark t : Text) :
    LimitedBy w (r.readExtension opening mark t) := by
  unfold readExtension
  split
  · exact limitedBy_malformed _ _
  · exact r.limitedBy_readNamedGroup _ _ _
  · exact limitedBy_ok _
  · exact limitedBy_ok _
  · exact limitedBy_ok _
  · unfold readLookBehind
    split
    · exact limitedBy_ok _
    · exact limitedBy_ok _
    · exact limitedBy_malformed _ _
    · exact limitedBy_malformed _ _
  · exact limitedBy_ok _
  · exact r.limitedBy_openConditional _ _
  · split
    · exact limitedBy_ok _
    · exact limitedBy_malformed _ _
  · split
    · exact r.limitedBy_openFlagged _ _
    · exact limitedBy_malformed _ _

theorem limitedBy_readGroup (r : Reading) (opening t : Text) :
    LimitedBy w (r.readGroup opening t) := by
  unfold readGroup
  split
  · exact r.limitedBy_readExtension _ _ _
  · exact limitedBy_ok _

theorem limitedBy_closeGroup (r : Reading) (start t : Text) :
    LimitedBy w (r.closeGroup start t) := by
  unfold closeGroup
  split
  · exact limitedBy_malformed _ _
  · exact limitedBy_ok _

theorem limitedBy_endAlternative (r : Reading) (start t : Text) :
    LimitedBy w (r.endAlternative start t) := by
  unfold endAlternative
  dsimp only
  split
  · split
    · exact limitedBy_malformed _ _
    · exact limitedBy_ok _
  · exact limitedBy_ok _

/-! ### Steps -/

theorem limitedBy_repeatLast (r : Reading) (least : Nat) (most : Option Nat) (start t : Text) :
    LimitedBy w (r.repeatLast least most start t) := by
  unfold repeatLast
  split
  · exact limitedBy_malformed _ _
  · exact limitedBy_malformed _ _
  · exact limitedBy_malformed _ _
  · exact limitedBy_ok _

theorem limitedBy_readCounts (ht : '\x7b' :: t <:+ w) :
    LimitedBy w (r.readCounts start t) := by
  unfold readCounts
  refine (limitedBy_readBraces ht).bind fun counts _ => ?_
  split
  · exact limitedBy_ok _
  · exact r.limitedBy_repeatLast _ _ _ _

theorem limitedBy_readPlain (ht : c :: t <:+ w) : LimitedBy w (r.readPlain start c t) := by
  unfold readPlain
  split
  · exact r.limitedBy_endAlternative _ _
  · exact r.limitedBy_closeGroup _ _
  · exact limitedBy_malformed _ _
  · exact (limitedBy_readSetItem ((List.suffix_cons _ t).trans ht)).bind fun _ _ => limitedBy_ok _
  · exact r.limitedBy_repeatLast _ _ _ _
  · exact r.limitedBy_repeatLast _ _ _ _
  · exact r.limitedBy_repeatLast _ _ _ _
  · exact limitedBy_readCounts ht
  · exact limitedBy_ok _
  · exact r.limitedBy_readGroup _ _
  · exact limitedBy_ok _
  · exact limitedBy_ok _
  · exact limitedBy_ok _

/-- A step reaches a limit over a number that stands in the text only. -/
theorem limitedBy_step (ht : t <:+ w) : LimitedBy w (r.step t) := by
  unfold step
  split
  · exact limitedBy_ok _
  · next htoken =>
    rw [eq_of_token? htoken] at ht
    exact limitedBy_readEscape ht
  · next htoken =>
    rw [eq_of_token? htoken] at ht
    split
    · exact limitedBy_ok _
    · split
      · exact limitedBy_ok _
      · exact limitedBy_readPlain ht

/-- So does a whole reading. -/
theorem limitedBy_readFrom {skip : Nat} (ht : t <:+ w) : LimitedBy w (r.readFrom skip t) := by
  fun_induction readFrom r skip t with
  | case1 r _ =>
    unfold finish
    split
    · exact limitedBy_malformed _ _
    · split
      · exact limitedBy_malformed _ _
      · exact limitedBy_ok _
  | case2 r skip c t ih => exact ih ((List.suffix_cons c t).trans ht)
  | case3 r c t ih =>
    exact (limitedBy_step ht).bind fun ⟨r', rest⟩ _ => ih r' rest ((List.suffix_cons c t).trans ht)

end Reading

/-! ## Rules -/

/-- A part of a text with one more character in front is a part of the text, unless it begins with that
character. -/
theorem infix_of_infix_cons {u : Text} (h : u <:+: c :: t) (hne : u.head? ≠ some c) : u <:+: t := by
  rcases List.infix_cons_iff.1 h with h | h
  · rcases List.prefix_cons_iff.1 h with rfl | ⟨v, rfl, -⟩
    · exact List.nil_infix
    · exact absurd rfl hne
  · exact h

/-- A part of a text with one more character behind is a part of the text, unless it ends with that
character. -/
theorem infix_of_infix_concat {u : Text} (h : u <:+: t ++ [c]) (hne : u.getLast? ≠ some c) :
    u <:+: t := by
  rcases List.infix_concat_iff.1 h with h | h
  · rcases List.suffix_concat_iff.1 h with rfl | ⟨v, rfl, -⟩
    · exact List.nil_infix
    · exact absurd List.getLast?_concat hne
  · exact h

/-- What a rule is read between does not count. -/
theorem infix_of_infix_anchored {rule u : Text} (h : u <:+: anchored rule)
    (hfirst : ∀ c ∈ ['^', '('], u.head? ≠ some c) (hlast : ∀ c ∈ [')', '$'], u.getLast? ≠ some c) :
    u <:+: rule := by
  have htext : anchored rule = '^' :: '(' :: (rule ++ [')'] ++ ['$']) := by simp [anchored]
  rw [htext] at h
  have hbehind := infix_of_infix_cons (infix_of_infix_cons h (hfirst _ (by simp)))
    (hfirst _ (by simp))
  exact infix_of_infix_concat (infix_of_infix_concat hbehind (hlast _ (by simp)))
    (hlast _ (by simp))

theorem infix_of_braced_infix_anchored {rule low : Text} {high : Option Text}
    (h : braced low high <:+: anchored rule) : braced low high <:+: rule := by
  refine infix_of_infix_anchored h ?_ ?_
  · simp [braced]
  · have hlast : (braced low high).getLast? = some '\x7d' := by
      rw [braced, ← List.cons_append, List.getLast?_concat]
    simp [hlast]

/-- The oversized numbers in what a rule is read as are those of the rule. -/
theorem Oversized.of_anchored {rule : Text} {cause : Limit} (h : Oversized (anchored rule) cause) :
    Oversized rule cause := by
  have hcount : ∀ {digits}, HoldsCount (anchored rule) digits → HoldsCount rule digits := by
    rintro digits (h | ⟨hother, h⟩ | ⟨hother, h⟩)
    · exact .alone (infix_of_braced_infix_anchored h)
    · exact .least hother (infix_of_braced_infix_anchored h)
    · exact .most hother (infix_of_braced_infix_anchored h)
  cases h with
  | digits hdigits hholds hlong => exact .digits hdigits (hcount hholds) hlong
  | repeatCount hdigits hholds hlarge => exact .repeatCount hdigits (hcount hholds) hlarge
  | @codePoint digits hdigits hlength hholds hlarge =>
    refine .codePoint hdigits hlength (infix_of_infix_anchored hholds ?_ ?_) hlarge
    · simp
    · intro c hc hlast
      have hplain : ∀ c ∈ [')', '$'], Text.isHexDigit c = false := by
        simp [Text.isHexDigit, Text.isAsciiDigit]
      have hne : digits ≠ [] := by
        rintro rfl
        cases hlength
      rw [List.getLast?_cons_cons, List.getLast?_cons_of_ne_nil hne] at hlast
      have hhex := hdigits c (List.mem_of_getLast? hlast)
      rw [hplain c hc] at hhex
      cases hhex

/-- A rule that is refused because of a limit is oversized. -/
theorem oversized_of_compile {rule : Text} {cause : Limit}
    (h : compile rule = .error (.limit cause)) : Oversized rule cause := by
  have hread : readItems (anchored rule) = .error (.limit cause) := by
    unfold compile at h
    split at h
    · next flaw hflaw =>
      cases flaw with
      | malformed => cases h
      | limit own =>
        cases h
        exact hflaw
    · split at h <;> cases h
  exact .of_anchored (Reading.limitedBy_readFrom List.suffix_rfl cause hread)

end UrlRouting.Regex
