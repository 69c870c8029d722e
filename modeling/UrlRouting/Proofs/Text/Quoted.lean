import Mathlib.Algebra.Group.Nat.Defs
import Mathlib.Tactic.SplitIfs
import UrlRouting.Text.Digit
import UrlRouting.Text.Quoted

/-!
# Quoted texts are read back

What is written between quotes can be read character by character, each escape as the character
that it stands for: `readWritten?_escaped`.  So a quoted text ends where its own closing quote is,
whatever the text holds and whatever follows, and no two texts are quoted alike:
`quoted_append_inj`.
-/

namespace UrlRouting.Text

/-! ## Hexadecimal digits -/

theorem digitValue_hexDigit {value : Nat} (h : value < 16) : digitValue (hexDigit value) = value := by
  decide +revert

/-- A number is read back from its digits, if they are enough for it. -/
theorem natInBase_hexDigits {width value : Nat} (h : value < 16 ^ width) :
    natInBase 16 (hexDigits width value) = value := by
  induction width generalizing value with
  | zero =>
    have hzero : value = 0 := by simpa using h
    subst hzero
    rfl
  | succ width ih =>
    have hfront : value / 16 < 16 ^ width := by
      rw [Nat.pow_succ] at h
      omega
    rw [hexDigits, natInBase_concat, ih hfront, digitValue_hexDigit (Nat.mod_lt value (by decide))]
    omega

/-! ## Reading what is written between quotes -/

/-- Reads a character that is written with hexadecimal digits, and what follows them. -/
def readHex (width : Nat) (t : Text) : Char × Text :=
  (Char.ofNat (natInBase 16 (t.take width)), t.drop width)

/-- Reads the rest of an escape behind its backslash: the character that it stands for, and what
follows it. -/
def readEscape? : Text → Option (Char × Text)
  | [] => none
  | 'n' :: rest => some ('\n', rest)
  | 'r' :: rest => some ('\r', rest)
  | 't' :: rest => some ('\t', rest)
  | 'x' :: rest => some (readHex 2 rest)
  | 'u' :: rest => some (readHex 4 rest)
  | 'U' :: rest => some (readHex 8 rest)
  | c :: rest => some (c, rest)

/-- Reads the first character of what is written between the given quotes, and what follows it.
There is none at the closing quote. -/
def readWritten? (quote : Char) : Text → Option (Char × Text)
  | [] => none
  | c :: rest =>
      if c = quote then none else if c = '\\' then readEscape? rest else some (c, rest)

/-- A character that texts are put between. -/
def IsQuote (c : Char) : Prop := c = '\'' ∨ c = '"'

theorem isQuote_quoteFor (t : Text) : IsQuote (quoteFor t) := by
  unfold quoteFor
  split
  · exact .inr rfl
  · exact .inl rfl

/-- A character that is written with enough digits is read back. -/
theorem readHex_hexDigits {c : Char} (width : Nat) (h : c.toNat < 16 ^ width) (rest : Text) :
    readHex width (hexDigits width c.toNat ++ rest) = (c, rest) := by
  have hlength := length_hexDigits width c.toNat
  rw [readHex, List.take_left' hlength, List.drop_left' hlength, natInBase_hexDigits h,
    Char.ofNat_toNat]

variable {quote : Char}

/-- A backslash begins an escape between either quotes. -/
theorem readWritten?_backslash (hquote : IsQuote quote) (rest : Text) :
    readWritten? quote ('\\' :: rest) = readEscape? rest := by
  rcases hquote with rfl | rfl <;> rfl

/-- The closing quote is no character of the text. -/
theorem readWritten?_quote (rest : Text) : readWritten? quote (quote :: rest) = none :=
  if_pos rfl

/-- Every character is read back from the way it is written, whatever follows. -/
theorem readWritten?_escaped (hquote : IsQuote quote) (c : Char) (rest : Text) :
    readWritten? quote (escaped quote c ++ rest) = some (c, rest) := by
  have hlarge : c.toNat < 16 ^ 8 := c.val.toNat_lt
  unfold escaped
  split_ifs with hspecial hline hreturn htab hprintable hbyte hbasic
  · -- the quote and the backslash stand for themselves behind a backslash
    have hself : readEscape? (c :: rest) = some (c, rest) := by
      simp only [Bool.or_eq_true, decide_eq_true_eq] at hspecial
      rcases hspecial with rfl | rfl
      · rcases hquote with rfl | rfl <;> rfl
      · rfl
    exact (readWritten?_backslash hquote _).trans hself
  · subst hline
    exact readWritten?_backslash hquote _
  · subst hreturn
    exact readWritten?_backslash hquote _
  · subst htab
    exact readWritten?_backslash hquote _
  · simp only [Bool.or_eq_true, decide_eq_true_eq, not_or] at hspecial
    rw [List.singleton_append, readWritten?, if_neg hspecial.1, if_neg hspecial.2]
  · have hread := readHex_hexDigits (c := c) 2 (by omega) rest
    exact (readWritten?_backslash hquote _).trans (congrArg some hread)
  · have hread := readHex_hexDigits (c := c) 4 (by omega) rest
    exact (readWritten?_backslash hquote _).trans (congrArg some hread)
  · have hread := readHex_hexDigits 8 hlarge rest
    exact (readWritten?_backslash hquote _).trans (congrArg some hread)

/-! ## Quoted texts are told apart -/

/-- What is written up to a closing quote tells the text and what follows the quote. -/
theorem flatMap_escaped_append_inj (hquote : IsQuote quote) {t u rest rest' : Text}
    (h : t.flatMap (escaped quote) ++ quote :: rest = u.flatMap (escaped quote) ++ quote :: rest') :
    t = u ∧ rest = rest' := by
  induction t generalizing u with
  | nil =>
    cases u with
    | nil => exact ⟨rfl, (List.cons.inj h).2⟩
    | cons d u =>
      -- one side reads a character where the other one closes
      have hread := congrArg (readWritten? quote) h
      rw [List.flatMap_cons, List.append_assoc, readWritten?_escaped hquote, List.flatMap_nil,
        List.nil_append, readWritten?_quote] at hread
      cases hread
  | cons c t ih =>
    have hread := congrArg (readWritten? quote) h
    rw [List.flatMap_cons, List.append_assoc, readWritten?_escaped hquote] at hread
    cases u with
    | nil =>
      rw [List.flatMap_nil, List.nil_append, readWritten?_quote] at hread
      cases hread
    | cons d u =>
      rw [List.flatMap_cons, List.append_assoc, readWritten?_escaped hquote, Option.some.injEq,
        Prod.mk.injEq] at hread
      obtain ⟨rfl, hbehind⟩ := hread
      obtain ⟨rfl, hrest⟩ := ih hbehind
      exact ⟨rfl, hrest⟩

/-- A quoted text tells the text and what follows it. -/
theorem quoted_append_inj {t u rest rest' : Text} (h : quoted t ++ rest = quoted u ++ rest') :
    t = u ∧ rest = rest' := by
  have hsplit : ∀ (w r : Text), quoted w ++ r =
      quoteFor w :: (w.flatMap (escaped (quoteFor w)) ++ quoteFor w :: r) := by
    intro w r
    simp [quoted]
  rw [hsplit, hsplit, List.cons.injEq] at h
  obtain ⟨hquote, hbehind⟩ := h
  rw [← hquote] at hbehind
  exact flatMap_escaped_append_inj (isQuote_quoteFor t) hbehind

/-- No two texts are quoted alike. -/
theorem quoted_inj {t u : Text} : quoted t = quoted u ↔ t = u :=
  ⟨fun h => (quoted_append_inj (congrArg (· ++ []) h)).1, congrArg quoted⟩

end UrlRouting.Text
