import Mathlib.Data.List.TakeWhile
import UrlRouting.Proofs.Except
import UrlRouting.Proofs.Regex.Syntax

/-!
# Reading lexemes

The small parts of a regular rule are read as what they spell: characters behind a backslash, sets
and counts.  Where a reader can refuse a part, because a code or a count is too large, the statement
is about what it returns if it does not.
-/

namespace UrlRouting.Regex

variable {code count : Nat} {digits name start rest t u v : Text}

/-! ## Digits and names -/

/-- A reader of digits takes those that are there if it may take as many, and no more. -/
theorem takeAtMost_append {isOfKind : Char → Bool} (hkind : ∀ c ∈ digits, isOfKind c = true)
    (hle : digits.length ≤ count)
    (hends : digits.length < count → ∀ c ∈ rest.head?, isOfKind c = false) :
    takeAtMost count isOfKind (digits ++ rest) = (digits, rest) := by
  have htake : ((digits ++ rest).take count).takeWhile isOfKind = digits := by
    rw [List.take_append, List.take_of_length_le hle, List.takeWhile_append_of_pos hkind]
    cases hk : count - digits.length with
    | zero => simp
    | succ k =>
      cases rest with
      | nil => simp
      | cons c rest => simp [hends (by omega) c rfl]
  rw [takeAtMost, htake, List.drop_left]

theorem OctalDigits.takeAtMost (h : OctalDigits count digits rest) :
    takeAtMost count isOctalDigit (digits ++ rest) = (digits, rest) :=
  takeAtMost_append h.areOctal h.length_le h.ends

/-- A name without backslashes is read up to the terminator. -/
theorem upToToken?_append {terminator : Char} (h : ∀ c ∈ name, c ≠ '\\' ∧ c ≠ terminator)
    (hterminator : terminator ≠ '\\') :
    upToToken? terminator (name ++ terminator :: rest) = some (name, rest) := by
  induction name with
  | nil =>
    rw [List.nil_append]
    unfold upToToken?
    split
    · next heq => cases heq
    · next heq => exact absurd (List.cons.inj heq).1 hterminator
    · next heq =>
      obtain ⟨rfl, rfl⟩ := List.cons.inj heq
      rw [if_pos rfl]
  | cons c name ih =>
    have hc := h c List.mem_cons_self
    rw [List.cons_append]
    unfold upToToken?
    split
    · next heq => cases heq
    · next heq => exact absurd (List.cons.inj heq).1 hc.1
    · next heq =>
      obtain ⟨rfl, rfl⟩ := List.cons.inj heq
      rw [if_neg hc.2, ih fun d hd => h d (List.mem_cons_of_mem _ hd)]
      rfl

theorem octalCode_eq_ok (h : octalCode start digits = .ok code) :
    code = Text.natInBase 8 digits := by
  simp only [octalCode] at h
  split at h
  · cases h
  · exact (Except.ok.inj h).symm

/-! ## Escapes -/

/-- The reader of hexadecimal digits returns the number that they write. -/
theorem readHexEscape_append {letter : Char} {width : Nat} {x : Nat × Text}
    (hlength : digits.length = width) (hdigits : ∀ c ∈ digits, Text.isHexDigit c = true)
    (h : readHexEscape start letter width (digits ++ rest) = .ok x) :
    x = (Text.natInBase 16 digits, rest) := by
  have htake : takeAtMost width Text.isHexDigit (digits ++ rest) = (digits, rest) :=
    takeAtMost_append hdigits (by omega) fun hlt => by omega
  simp only [readHexEscape, htake] at h
  rw [if_neg (by omega)] at h
  split at h
  · cases h
  · split at h
    · cases h
    · exact (Except.ok.inj h).symm

/-- The reader of names returns a name up to the terminator. -/
theorem readName_append {terminator : Char} (what : Text)
    (h : ∀ c ∈ name, c ≠ '\\' ∧ c ≠ terminator) (hterminator : terminator ≠ '\\')
    (hne : name ≠ []) :
    readName terminator what (name ++ terminator :: rest) = .ok (name, rest) := by
  rw [readName, upToToken?_append h hterminator]
  cases name with
  | nil => exact absurd rfl hne
  | cons c name => rfl

/-- The reader of characters by name returns the character that has the name. -/
theorem readNamedEscape_append {x : Nat × Text} (hnamed : Text.named? name = some code)
    (hname : ∀ c ∈ name, c ≠ '\\' ∧ c ≠ '\x7d') (hne : name ≠ [])
    (h : readNamedEscape start ('\x7b' :: (name ++ '\x7d' :: rest)) = .ok x) : x = (code, rest) := by
  rw [readNamedEscape] at h
  obtain ⟨r, hr, h⟩ := bind_eq_ok_iff.1 h
  rw [readName_append _ hname (by decide) hne] at hr
  cases hr
  dsimp only at h
  rw [hnamed] at h
  exact (Except.ok.inj h).symm

/-- What is written behind a backslash is no anchor, class or digit, and it is read as what it
spells, whether as a control character or otherwise. -/
theorem SpellsEscaped.read (h : SpellsEscaped code t) :
    ∃ c u, t = c :: u ∧ anchorEscape? c = none ∧ categoryEscape? c = none ∧
      Text.isAsciiDigit c = false ∧ (controlEscape? c = some code ∧ u = [] ∨
        controlEscape? c = none ∧ ∀ start rest x,
          readCommonEscape start c (u ++ rest) = .ok x → x = (code, rest)) := by
  cases h with
  | @hex letter width digits h hlength hdigits =>
    have hletter : anchorEscape? letter = none ∧ categoryEscape? letter = none ∧
        Text.isAsciiDigit letter = false ∧ controlEscape? letter = none ∧
        hexEscapeWidth? letter = some width := by
      simp only [hexWidths, List.mem_cons, Prod.mk.injEq, List.not_mem_nil, or_false] at h
      rcases h with ⟨rfl, rfl⟩ | ⟨rfl, rfl⟩ | ⟨rfl, rfl⟩ <;> decide
    obtain ⟨hanchor, hcategory, hdigit, hcontrol, hwidth⟩ := hletter
    refine ⟨letter, digits, rfl, hanchor, hcategory, hdigit, .inr ⟨hcontrol, ?_⟩⟩
    intro start rest x hx
    simp only [readCommonEscape, hwidth] at hx
    exact readHexEscape_append hlength hdigits hx
  | @named name code h hname hne =>
    refine ⟨'N', _, rfl, rfl, rfl, rfl, .inr ⟨rfl, ?_⟩⟩
    intro start rest x hx
    rw [List.cons_append, List.append_assoc] at hx
    exact readNamedEscape_append h hname hne hx
  | @itself c hletter hdigit =>
    have hanchor : anchorEscape? c = none := by
      unfold anchorEscape?
      split <;> first | rfl | exact absurd hletter (by decide)
    have hcategory : categoryEscape? c = none := by
      unfold categoryEscape?
      split <;> first | rfl | exact absurd hletter (by decide)
    refine ⟨c, [], rfl, hanchor, hcategory, hdigit, ?_⟩
    by_cases hbackslash : c = '\\'
    · subst hbackslash
      exact .inl ⟨rfl, rfl⟩
    · have hcontrol : controlEscape? c = none := by
        unfold controlEscape?
        split <;> first | rfl | exact absurd hletter (by decide) | exact absurd rfl hbackslash
      have hwidth : hexEscapeWidth? c = none := by
        unfold hexEscapeWidth?
        split <;> first | rfl | exact absurd hletter (by decide)
      have hname : c ≠ 'N' := by
        rintro rfl
        exact absurd hletter (by decide)
      refine .inr ⟨hcontrol, fun start rest x hx => ?_⟩
      simp only [readCommonEscape, hwidth, if_neg hname, hletter, hdigit] at hx
      exact (Except.ok.inj hx).symm

/-- A character other than a backslash is a token by itself. -/
theorem token?_cons {c : Char} (h : c ≠ '\\') (rest : Text) :
    token? (c :: rest) = some (.plain c, rest) := by
  unfold token?
  split
  · next heq => cases heq
  · next heq => exact absurd (List.cons.inj heq).1 h
  · next heq =>
    obtain ⟨rfl, rfl⟩ := List.cons.inj heq
    rfl

theorem isAsciiDigit_of_isOctalDigit {c : Char} (h : isOctalDigit c = true) :
    Text.isAsciiDigit c = true := by
  simp only [isOctalDigit, Text.isAsciiDigit, Bool.and_eq_true, decide_eq_true_eq] at h ⊢
  exact ⟨h.1, Char.le_trans h.2 (by decide)⟩

/-- An octal digit behind a backslash is no letter. -/
theorem escapes_of_isOctalDigit {c : Char} (h : isOctalDigit c = true) :
    anchorEscape? c = none ∧ categoryEscape? c = none ∧ controlEscape? c = none := by
  refine ⟨?_, ?_, ?_⟩
  · unfold anchorEscape?
    split <;> first | rfl | exact absurd h (by decide)
  · unfold categoryEscape?
    split <;> first | rfl | exact absurd h (by decide)
  · unfold controlEscape?
    split <;> first | rfl | exact absurd h (by decide)

/-! ## Sets -/

/-- A member is read as what it spells; only a bracket by itself is read like the end of a set. -/
theorem SpellsMember.read {member : Member} (h : SpellsMember member t rest) :
    ∃ token behind, token? (t ++ rest) = some (token, behind) ∧
      (token = .plain ']' → t = [']']) ∧
      ∀ start x, readMember start token behind = .ok x → x = (member, rest) := by
  cases h with
  | @literal c _ h =>
    refine ⟨.plain c, rest, ?_, ?_, fun start x hx => (Except.ok.inj hx).symm⟩
    · exact token?_cons h rest
    · intro heq
      cases heq
      rfl
  | @control c code _ h =>
    refine ⟨.escaped c, rest, rfl, nofun, fun start x hx => ?_⟩
    have hc : controlEscape? c = some code := by
      simp only [controls, List.mem_cons, Prod.mk.injEq, List.not_mem_nil, or_false] at h
      rcases h with ⟨rfl, rfl⟩ | ⟨rfl, rfl⟩ | ⟨rfl, rfl⟩ | ⟨rfl, rfl⟩ | ⟨rfl, rfl⟩ | ⟨rfl, rfl⟩ |
        ⟨rfl, rfl⟩ <;> rfl
    simp only [readMember, readMemberEscape, hc] at hx
    exact (Except.ok.inj hx).symm
  | @category c _ _ h =>
    refine ⟨.escaped c, rest, rfl, nofun, fun start x hx => ?_⟩
    have hc : controlEscape? c = none ∧ categoryEscape? c = some member := by
      simp only [categories, List.mem_cons, Prod.mk.injEq, List.not_mem_nil, or_false] at h
      rcases h with ⟨rfl, rfl⟩ | ⟨rfl, rfl⟩ | ⟨rfl, rfl⟩ | ⟨rfl, rfl⟩ | ⟨rfl, rfl⟩ | ⟨rfl, rfl⟩ <;>
        exact ⟨rfl, rfl⟩
    simp only [readMember, readMemberEscape, hc] at hx
    exact (Except.ok.inj hx).symm
  | @escaped code t _ h =>
    obtain ⟨c, u, rfl, -, hcategory, hdigit, hread⟩ := h.read
    refine ⟨.escaped c, u ++ rest, rfl, nofun, fun start x hx => ?_⟩
    rcases hread with ⟨hcontrol, rfl⟩ | ⟨hcontrol, hread⟩
    · simp only [readMember, readMemberEscape, hcontrol] at hx
      exact (Except.ok.inj hx).symm
    · have hoctal : ¬ isOctalDigit c = true := fun hc => by
        rw [isAsciiDigit_of_isOctalDigit hc] at hdigit
        cases hdigit
      simp only [readMember, readMemberEscape, hcontrol, hcategory, if_neg hoctal] at hx
      obtain ⟨y, hy, hx⟩ := bind_eq_ok_iff.1 hx
      cases hread start rest y hy
      exact (Except.ok.inj hx).symm
  | @octal c digits _ hc h =>
    refine ⟨.escaped c, digits ++ rest, rfl, nofun, fun start x hx => ?_⟩
    obtain ⟨-, hcategory, hcontrol⟩ := escapes_of_isOctalDigit hc
    simp only [readMember, readMemberEscape, hcontrol, hcategory, if_pos hc, h.takeAtMost] at hx
    obtain ⟨code, hcode, hx⟩ := bind_eq_ok_iff.1 hx
    cases octalCode_eq_ok hcode
    exact (Except.ok.inj hx).symm

/-- A member that is no bracket, or that comes first, is read before it is looked at what follows
it. -/
theorem readMembers_append {member : Member} {isFirst : Bool} {opening : Text} {step : MemberStep}
    (hmember : SpellsMember member t rest) (hfirst : isFirst = true ∨ t ≠ [']'])
    (h : readMembers opening isFirst (t ++ rest) = .ok step) :
    ∃ token, readMembers.readBehind opening token member rest = .ok step := by
  obtain ⟨token, behind, htoken, hbracket, hread⟩ := hmember.read
  rw [readMembers, htoken] at h
  split at h
  · next heq => cases heq
  · next heq =>
    cases heq
    have hisFirst : isFirst = true := hfirst.resolve_right (not_not_intro (hbracket rfl))
    rw [if_pos hisFirst] at h
    cases hread [] _ rfl
    exact ⟨_, h⟩
  · next heq =>
    cases heq
    obtain ⟨⟨m, r⟩, hm, h⟩ := bind_eq_ok_iff.1 h
    cases hread _ _ hm
    exact ⟨_, h⟩

/-- Without a minus behind it a member stands alone. -/
theorem readBehind_of_head?_ne {member : Member} {opening : Text} {token : Token}
    {step : MemberStep} (hminus : rest.head? ≠ some '-')
    (h : readMembers.readBehind opening token member rest = .ok step) :
    step = ⟨[member], false, rest⟩ := by
  unfold readMembers.readBehind at h
  split at h
  · exact absurd rfl hminus
  · exact (Except.ok.inj h).symm

/-- With a minus and another member behind it a member begins a range. -/
theorem readBehind_range {low high : Nat} {opening : Text} {token : Token} {step : MemberStep}
    (hhigh : SpellsMember (.code high) t rest) (hend : t ≠ [']']) (hle : low ≤ high)
    (h : readMembers.readBehind opening token (.code low) ('-' :: (t ++ rest)) = .ok step) :
    step = ⟨[.range low high], false, rest⟩ := by
  obtain ⟨token', behind, htoken, hbracket, hread⟩ := hhigh.read
  simp only [readMembers.readBehind, htoken] at h
  split at h
  · next heq => cases heq
  · next heq =>
    cases heq
    exact absurd (hbracket rfl) hend
  · next heq =>
    cases heq
    obtain ⟨⟨m, r⟩, hm, h⟩ := bind_eq_ok_iff.1 h
    cases hread _ _ hm
    dsimp only at h
    rw [if_neg (by omega)] at h
    exact (Except.ok.inj h).symm

theorem readSet_skip (opening : Text) (members : List Member) (u t : Text) :
    readSet opening u.length members (u ++ t) = readSet opening 0 members t := by
  induction u with
  | nil => rfl
  | cons c u ih => exact ih

/-- Members that have been read in one go are put behind those in front of them. -/
theorem readSet_append {opening : Text} {members : List Member} {x : List Member × Text}
    (hne : t ≠ []) (h : readSet opening 0 members (t ++ rest) = .ok x) :
    ∃ step, readMembers opening members.isEmpty (t ++ rest) = .ok step ∧
      (step.ended = true → x = (members ++ step.members, step.rest)) ∧
      (step.ended = false → step.rest = rest →
        readSet opening 0 (members ++ step.members) rest = .ok x) := by
  cases t with
  | nil => exact absurd rfl hne
  | cons c t =>
    rw [List.cons_append, readSet] at h
    obtain ⟨step, hstep, h⟩ := bind_eq_ok_iff.1 h
    refine ⟨step, hstep, fun hended => ?_, fun hended hrest => ?_⟩
    · rw [if_pos hended] at h
      exact (Except.ok.inj h).symm
    · have hskip : (t ++ rest).length - step.rest.length = t.length := by
        rw [hrest, List.length_append]
        omega
      rw [hended, if_neg Bool.false_ne_true, hskip, readSet_skip] at h
      exact h

theorem SpellsMember.ne_nil {member : Member} (h : SpellsMember member t rest) : t ≠ [] := by
  cases h <;> exact List.cons_ne_nil _ _

theorem SpellsMembers.head?_append {isFirst : Bool} {members : List Member}
    (h : SpellsMembers isFirst members t rest) (u : Text) : (t ++ u).head? = t.head? := by
  refine List.head?_append_of_ne_nil _ ?_
  cases h with
  | close => exact List.cons_ne_nil _ _
  | minus h => exact List.append_ne_nil_of_left_ne_nil h.ne_nil _
  | one h => exact List.append_ne_nil_of_left_ne_nil h.ne_nil _
  | range h => exact List.append_ne_nil_of_left_ne_nil h.ne_nil _

/-- The members of a set are read as what they spell, behind those that have been read. -/
theorem SpellsMembers.read {isFirst : Bool} {members : List Member}
    (h : SpellsMembers isFirst members t rest) {opening : Text} {before : List Member}
    {x : List Member × Text} (hbefore : before.isEmpty = isFirst)
    (hread : readSet opening 0 before (t ++ rest) = .ok x) : x = (before ++ members, rest) := by
  induction h generalizing before with
  | close =>
    obtain ⟨step, hstep, hended, -⟩ := readSet_append (List.cons_ne_nil _ _) hread
    rw [hbefore] at hstep
    cases hstep
    exact hended rfl
  | minus h hfirst =>
    rw [List.append_assoc] at hread
    obtain ⟨step, hstep, hended, -⟩ := readSet_append h.ne_nil hread
    rw [hbefore] at hstep
    obtain ⟨token, hstep⟩ := readMembers_append h hfirst hstep
    cases hstep
    exact hended rfl
  | one h hfirst hminus hmembers ih =>
    rw [List.append_assoc] at hread
    obtain ⟨step, hstep, -, hrest⟩ := readSet_append h.ne_nil hread
    rw [hbefore] at hstep
    obtain ⟨token, hstep⟩ := readMembers_append h hfirst hstep
    rw [← hmembers.head?_append] at hminus
    cases readBehind_of_head?_ne hminus hstep
    rw [ih (by simp) (hrest rfl rfl), List.append_assoc]
    rfl
  | @range _ low high members t u v rest hlow hfirst hhigh hend hle hmembers ih =>
    have hassoc : t ++ '-' :: (u ++ v) ++ rest = (t ++ '-' :: u) ++ (v ++ rest) := by simp
    rw [hassoc] at hread
    obtain ⟨step, hstep, -, hrest⟩ :=
      readSet_append (List.append_ne_nil_of_left_ne_nil hlow.ne_nil _) hread
    rw [hbefore, List.append_assoc, List.cons_append] at hstep
    obtain ⟨token, hstep⟩ := readMembers_append hlow hfirst hstep
    cases readBehind_range hhigh hend hle hstep
    rw [ih (by simp) (hrest rfl rfl), List.append_assoc]
    rfl

/-- A set that does not begin with a caret is read as what its members spell. -/
theorem SpellsMembers.readSetItem {members : List Member} {opening : Text} {x : Item × Text}
    (h : SpellsMembers true members t rest) (hcaret : t.head? ≠ some '^')
    (hread : readSetItem opening (t ++ rest) = .ok x) : x = (itemOfSet false members, rest) := by
  rw [← h.head?_append rest] at hcaret
  unfold Regex.readSetItem at hread
  split at hread
  next negated u heq =>
  split at heq
  · next hu =>
    rw [hu] at hcaret
    exact absurd rfl hcaret
  · cases heq
    obtain ⟨y, hy, hread⟩ := bind_eq_ok_iff.1 hread
    cases h.read rfl hy
    exact (Except.ok.inj hread).symm

/-- A set that begins with a caret is read as everything but what its members spell. -/
theorem SpellsMembers.readSetItem_negated {members : List Member} {opening : Text}
    {x : Item × Text} (h : SpellsMembers true members t rest)
    (hread : Regex.readSetItem opening ('^' :: t ++ rest) = .ok x) :
    x = (itemOfSet true members, rest) := by
  obtain ⟨y, hy, hread⟩ :=
    bind_eq_ok_iff.1 (show (readSet opening 0 [] (t ++ rest) >>= _) = .ok x from hread)
  cases h.read rfl hy
  exact (Except.ok.inj hread).symm

/-! ## Counts -/

/-- The digits in front of another character are all that are there. -/
theorem takeWhile_digits {c : Char} (h : ∀ d ∈ digits, Text.isAsciiDigit d = true)
    (hc : Text.isAsciiDigit c = false) (t : Text) :
    (digits ++ c :: t).takeWhile Text.isAsciiDigit = digits := by
  rw [List.takeWhile_append_of_pos h, List.takeWhile_cons, hc]
  simp

/-- What braces hold is read as the digits of one or two numbers. -/
theorem bracedCounts?_append {least : Nat} {most : Option Nat} (h : SpellsBounds least most t)
    (rest : Text) :
    ∃ low high, bracedCounts? (t ++ '\x7d' :: rest) = some (low, high, rest) ∧ t ≠ [] ∧
      least = Text.natInBase 10 low ∧
      most = if high = [] then none else some (Text.natInBase 10 high) := by
  cases h with
  | exactly h hne =>
    refine ⟨t, t, ?_, hne, rfl, (if_neg hne).symm⟩
    simp [bracedCounts?, takeWhile_digits h (show Text.isAsciiDigit '\x7d' = false by decide)]
  | @between low high hlow hhigh =>
    refine ⟨low, high, ?_, by simp, rfl, rfl⟩
    simp [bracedCounts?, takeWhile_digits hlow (show Text.isAsciiDigit ',' = false by decide),
      takeWhile_digits hhigh (show Text.isAsciiDigit '\x7d' = false by decide)]

/-- A text that is read as counts in braces begins with the digits of one or two numbers. -/
theorem eq_of_bracedCounts? {low high : Text} (h : bracedCounts? t = some (low, high, rest)) :
    (∀ c ∈ low, Text.isAsciiDigit c = true) ∧ (∀ c ∈ high, Text.isAsciiDigit c = true) ∧
      (t = low ++ ',' :: high ++ '\x7d' :: rest ∨ high = low ∧ t = low ++ '\x7d' :: rest) := by
  have hdigits : ∀ u : Text, ∀ c ∈ u.takeWhile Text.isAsciiDigit, Text.isAsciiDigit c = true :=
    fun u c hc => List.mem_takeWhile_imp hc
  have hsplit : ∀ u : Text, u = u.takeWhile Text.isAsciiDigit ++
      u.drop (u.takeWhile Text.isAsciiDigit).length :=
    fun u => (List.prefix_iff_eq_append.1 (List.takeWhile_prefix _)).symm
  unfold bracedCounts? at h
  dsimp only at h
  split at h
  · next behind heq =>
    cases h
    split at heq
    · next r hr =>
      refine ⟨hdigits t, hdigits r, .inl ?_⟩
      have hr' := hsplit r
      rw [show r.drop _ = '\x7d' :: rest from heq] at hr'
      rw [List.append_assoc, List.cons_append, ← hr', ← hr]
      exact hsplit t
    · have ht := hsplit t
      rw [show t.drop _ = '\x7d' :: rest from heq] at ht
      exact ⟨hdigits t, hdigits t, .inr ⟨rfl, ht⟩⟩
  · cases h

/-- A text that is read as counts in braces begins with what spells them. -/
theorem exists_spellsBounds {low high : Text} (h : bracedCounts? t = some (low, high, rest)) :
    t = '\x7d' :: rest ∨ ∃ least most u, SpellsBounds least most u ∧ t = u ++ '\x7d' :: rest := by
  obtain ⟨hlow, hhigh, rfl | ⟨rfl, rfl⟩⟩ := eq_of_bracedCounts? h
  · exact .inr ⟨_, _, _, .between hlow hhigh, rfl⟩
  · by_cases hnil : high = []
    · exact .inl (by rw [hnil]; rfl)
    · exact .inr ⟨_, _, _, .exactly hhigh hnil, rfl⟩

theorem countOf_eq_ok {otherwise x : Option Nat} (h : countOf digits otherwise = .ok x) :
    x = if digits = [] then otherwise else some (Text.natInBase 10 digits) := by
  unfold countOf at h
  split
  · next hnil => rw [if_pos hnil] at h; exact (Except.ok.inj h).symm
  · next hne =>
    rw [if_neg hne] at h
    split at h
    · cases h
    · split at h
      · cases h
      · exact (Except.ok.inj h).symm

/-- Counts are read as what they spell. -/
theorem readBraces_append {counts : Counts} {x : Option ((Nat × Option Nat) × Text)}
    (h : SpellsBounds counts.least counts.most t)
    (hread : readBraces (t ++ '\x7d' :: rest) = .ok x) :
    x = some ((counts.least, counts.most), rest) := by
  obtain ⟨low, high, hbraced, hne, hleast, hmost⟩ := bracedCounts?_append h rest
  simp only [readBraces, hbraced] at hread
  rw [if_neg (by simpa using hne)] at hread
  obtain ⟨a, ha, hread⟩ := bind_eq_ok_iff.1 hread
  obtain ⟨b, hb, hread⟩ := bind_eq_ok_iff.1 hread
  rw [countOf_eq_ok ha, countOf_eq_ok hb, ← hmost] at hread
  have hlow : (if low = [] then none else some (Text.natInBase 10 low)).getD 0 = counts.least := by
    rw [hleast]
    split
    · next hnil => rw [hnil]; rfl
    · rfl
  have hordered : ¬ counts.most.any (fun m => decide (m < counts.least)) = true := by
    cases hm : counts.most with
    | none => simp
    | some m => simpa using counts.ordered m hm
  rw [hlow, if_neg hordered] at hread
  exact (Except.ok.inj hread).symm

/-- A brace without counts behind it is read as none. -/
theorem readBraces_of_not_bounds {x : Option ((Nat × Option Nat) × Text)}
    (h : ∀ least most t behind, SpellsBounds least most t → rest ≠ t ++ '\x7d' :: behind)
    (hread : readBraces rest = .ok x) : x = none := by
  unfold readBraces at hread
  split at hread
  · exact (Except.ok.inj hread).symm
  · next low high behind hbraced =>
    rcases exists_spellsBounds hbraced with heq | ⟨least, most, u, hu, heq⟩
    · rw [heq, if_pos (by simp)] at hread
      exact (Except.ok.inj hread).symm
    · exact absurd heq (h least most u behind hu)

end UrlRouting.Regex
