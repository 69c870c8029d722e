import UrlRouting.Proofs.Regex.Leaves
import UrlRouting.Proofs.Regex.Reading

/-!
# What a step of the reader does

A step opens a group, closes the innermost one, or keeps the groups that are open: `Reading.Turns`.
`Reading.step_cases` says that it does one of these and takes something that does not end with a dollar
sign, or else ends an alternative, reads a dollar sign, or passes over a comment.

Outside all groups a reading has ended no alternative and is not verbose, as long as it meets no bar
there: `Reading.IsWhole` is kept by every other step.
-/

namespace UrlRouting.Regex.Reading

variable {r r' : Reading} {t u start rest : Text}

/-- What a step does to the groups that are open, if it does not end an alternative. -/
inductive Turns (r r' : Reading) : Prop
  | stays (opened : r'.opened = r.opened) (verbose : r'.verbose = r.verbose)
      (alternatives : r'.level.alternatives = r.level.alternatives)
  | opens {group : OpenGroup} (opened : r'.opened = group :: r.opened)
      (level : group.level = r.level) (verbose : group.verbose = r.verbose)
  | closes {group : OpenGroup} (opened : r.opened = group :: r'.opened)
      (verbose : r'.verbose = group.verbose)
      (alternatives : r'.level.alternatives = group.level.alternatives)

theorem turns_push (r : Reading) (item : Item) : r.Turns (r.push item) := .stays rfl rfl rfl

/-- A reader does no more to the groups than a step may, and takes something that does not end with a
dollar sign. -/
structure Takes (r : Reading) (t : Text) (r' : Reading) (rest : Text) : Prop where
  turns : r.Turns r'
  leaves : Leaves t rest

/-- Nothing is taken where an item is read. -/
theorem takes_push (r : Reading) (item : Item) (t : Text) : r.Takes t (r.push item) t :=
  ⟨r.turns_push item, .refl t⟩

/-- A reader takes the token in front of what it reads too. -/
theorem Takes.of_token? {c : Char} (htoken : token? t = some (.plain c, u)) (hc : c ≠ '$')
    (h : r.Takes u r' rest) : r.Takes t r' rest := by
  refine ⟨h.turns, ?_⟩
  rw [eq_of_token? htoken]
  exact h.leaves.cons hc

/-! ## References and escapes -/

/-- A reference takes nothing. -/
theorem takes_pushReference {index : Nat} (h : r.pushReference index start t = .ok (r', rest)) :
    r.Takes t r' rest := by
  unfold pushReference at h
  split at h
  · cases h
  · obtain ⟨_, -, h⟩ := bind_eq_ok_iff.1 h
    cases h
    exact r.takes_push _ t

theorem takes_readNumberEscape {c : Char} (h : r.readNumberEscape start c t = .ok (r', rest)) :
    r.Takes t r' rest := by
  unfold readNumberEscape at h
  dsimp only at h
  split at h
  · next hoctal =>
    obtain ⟨code, -, h⟩ := bind_eq_ok_iff.1 h
    cases h
    have htwo : (takeAtMost 2 isOctalDigit t).2 = t.drop 2 := by
      have hlength : (takeAtMost 2 isOctalDigit t).1.length = 2 := by
        rw [Bool.and_eq_true, decide_eq_true_eq, List.length_cons] at hoctal
        exact Nat.succ.inj hoctal.1
      rw [takeAtMost] at hlength ⊢
      rw [hlength]
    exact ⟨r.turns_push _, htwo ▸ leaves_takeAtMost (by decide) 2 t⟩
  · split at h
    · obtain ⟨hturns, hleaves⟩ := takes_pushReference h
      exact ⟨hturns, (leaves_takeAtMost (by decide) 1 t).trans hleaves⟩
    · cases h

theorem takes_readEscape {c : Char} (h : r.readEscape start c t = .ok (r', rest)) :
    r.Takes t r' rest := by
  unfold readEscape at h
  split at h
  · cases h
    exact r.takes_push _ t
  · cases h
    exact r.takes_push _ t
  · cases h
    exact r.takes_push _ t
  · split at h
    · cases h
      exact ⟨r.turns_push _, leaves_takeAtMost (by decide) 2 t⟩
    · split at h
      · exact takes_readNumberEscape h
      · obtain ⟨⟨code, rest'⟩, hcode, h⟩ := bind_eq_ok_iff.1 h
        cases h
        exact ⟨r.turns_push _, leaves_readCommonEscape hcode⟩

/-! ## Groups -/

theorem takes_openGroup (r : Reading) (kind : GroupKind) (opening t : Text) :
    r.Takes t (r.openGroup kind opening) t :=
  ⟨.opens rfl rfl rfl, .refl t⟩

theorem takes_openNamed {opening : Text} (h : r.openNamed opening t = .ok (r', rest)) :
    r.Takes t r' rest := by
  unfold openNamed at h
  obtain ⟨⟨name, rest'⟩, hname, h⟩ := bind_eq_ok_iff.1 h
  dsimp only at h
  split at h
  · cases h
  · split at h
    · cases h
    · cases h
      exact ⟨.opens rfl rfl rfl, leaves_readName (by decide) hname⟩

theorem takes_readNamedReference (h : r.readNamedReference t = .ok (r', rest)) :
    r.Takes t r' rest := by
  unfold readNamedReference at h
  obtain ⟨⟨name, rest'⟩, hname, h⟩ := bind_eq_ok_iff.1 h
  dsimp only at h
  split at h
  · cases h
  · split at h
    · cases h
    · obtain ⟨hturns, hleaves⟩ := takes_pushReference h
      exact ⟨hturns, (leaves_readName (by decide) hname).trans hleaves⟩

theorem takes_openConditional {opening : Text} (h : r.openConditional opening t = .ok (r', rest)) :
    r.Takes t r' rest := by
  unfold openConditional at h
  obtain ⟨⟨name, rest'⟩, hname, h⟩ := bind_eq_ok_iff.1 h
  obtain ⟨index, -, h⟩ := bind_eq_ok_iff.1 h
  obtain ⟨_, -, h⟩ := bind_eq_ok_iff.1 h
  cases h
  exact ⟨.opens rfl rfl rfl, leaves_readName (by decide) hname⟩

theorem takes_openFlagged {opening : Text} (h : r.openFlagged opening t = .ok (r', rest)) :
    r.Takes t r' rest := by
  unfold openFlagged at h
  obtain ⟨⟨flags, rest'⟩, hflags, h⟩ := bind_eq_ok_iff.1 h
  cases h
  exact ⟨.opens rfl rfl rfl, leaves_readFlags hflags⟩

theorem takes_readNamedGroup {opening mark : Text}
    (h : r.readNamedGroup opening mark t = .ok (r', rest)) : r.Takes t r' rest := by
  unfold readNamedGroup at h
  split at h
  · next htoken => exact .of_token? htoken (by decide) (takes_openNamed h)
  · next htoken => exact .of_token? htoken (by decide) (takes_readNamedReference h)
  · cases h
  · cases h

theorem takes_readLookBehind {opening mark : Text}
    (h : r.readLookBehind opening mark t = .ok (r', rest)) : r.Takes t r' rest := by
  unfold readLookBehind at h
  split at h
  · next htoken =>
    cases h
    exact .of_token? htoken (by decide) ⟨.opens rfl rfl rfl, .refl rest⟩
  · next htoken =>
    cases h
    exact .of_token? htoken (by decide) ⟨.opens rfl rfl rfl, .refl rest⟩
  · cases h
  · cases h

theorem takes_readExtension {opening mark : Text}
    (h : r.readExtension opening mark t = .ok (r', rest)) : r.Takes t r' rest := by
  unfold readExtension at h
  split at h
  · cases h
  · next htoken => exact .of_token? htoken (by decide) (takes_readNamedGroup h)
  · next htoken =>
    cases h
    exact .of_token? htoken (by decide) (r.takes_openGroup _ opening rest)
  · next htoken =>
    cases h
    exact .of_token? htoken (by decide) (r.takes_openGroup _ opening rest)
  · next htoken =>
    cases h
    exact .of_token? htoken (by decide) (r.takes_openGroup _ opening rest)
  · next htoken => exact .of_token? htoken (by decide) (takes_readLookBehind h)
  · next htoken =>
    cases h
    exact .of_token? htoken (by decide) (r.takes_openGroup _ opening rest)
  · next htoken => exact .of_token? htoken (by decide) (takes_openConditional h)
  · next htoken =>
    split at h
    · next hcomment =>
      cases h
      obtain ⟨u, rfl⟩ := eq_of_afterComment? hcomment
      exact .of_token? htoken (by decide)
        ⟨.stays rfl rfl rfl, .of_append_cons u (by decide) rest⟩
    · cases h
  · split at h
    · exact takes_openFlagged h
    · cases h

theorem takes_readGroup {opening : Text} (h : r.readGroup opening t = .ok (r', rest)) :
    r.Takes t r' rest := by
  unfold readGroup at h
  split at h
  · obtain ⟨hturns, hleaves⟩ := takes_readExtension h
    exact ⟨hturns, hleaves.cons (by decide)⟩
  · cases h
    exact ⟨.opens rfl rfl rfl, .refl t⟩

theorem takes_closeGroup (h : r.closeGroup start t = .ok (r', rest)) : r.Takes t r' rest := by
  unfold closeGroup at h
  split at h
  · cases h
  · next hopened =>
    cases h
    exact ⟨.closes hopened rfl rfl, .refl t⟩

/-! ## Repetitions -/

theorem takes_repeatLast {least : Nat} {most : Option Nat}
    (h : r.repeatLast least most start t = .ok (r', rest)) : r.Takes t r' rest := by
  unfold repeatLast at h
  split at h
  · cases h
  · cases h
  · cases h
  · cases h
    exact ⟨.stays rfl rfl rfl, leaves_repetitionAndRest t⟩

theorem takes_readCounts (h : r.readCounts start t = .ok (r', rest)) : r.Takes t r' rest := by
  unfold readCounts at h
  obtain ⟨counts, hcounts, h⟩ := bind_eq_ok_iff.1 h
  split at h
  · cases h
    exact r.takes_push _ t
  · obtain ⟨hturns, hleaves⟩ := takes_repeatLast h
    exact ⟨hturns, (leaves_readBraces hcounts).trans hleaves⟩

/-! ## Steps -/

/-- What a step does, in front of a text. -/
inductive Stepped (r : Reading) : Text → Reading → Text → Prop
  /-- It takes something that does not end with a dollar sign. -/
  | takes {u : Text} {c : Char} {r' : Reading} (turns : r.Turns r') (last : c ≠ '$') (rest : Text) :
      Stepped r (u ++ c :: rest) r' rest
  /-- It ends an alternative. -/
  | bar {r' : Reading} (opened : r'.opened = r.opened) (verbose : r'.verbose = r.verbose)
      (rest : Text) : Stepped r ('|' :: rest) r' rest
  /-- It reads a dollar sign. -/
  | lineEnd (rest : Text) : Stepped r ('$' :: rest) (r.push (.anchor .lineEnd)) rest
  /-- It reads a dollar sign behind a backslash. -/
  | escaped {r' : Reading} (turns : r.Turns r') (rest : Text) :
      Stepped r ('\\' :: '$' :: rest) r' rest
  /-- It passes over a comment up to the end of a line. -/
  | comment (verbose : r.verbose = true) (t : Text) : Stepped r ('#' :: t) r (afterLine t)

/-- A reader takes the character in front of what it reads too, if it is no dollar sign. -/
theorem Stepped.of_takes {c : Char} (hc : c ≠ '$') (h : r.Takes t r' rest) :
    r.Stepped (c :: t) r' rest := by
  obtain ⟨hturns, u, rfl, hu⟩ := h
  cases hlast : u.getLast? with
  | none =>
    rw [List.getLast?_eq_none_iff.1 hlast]
    exact .takes (u := []) hturns hc rest
  | some d =>
    obtain ⟨v, rfl⟩ := List.getLast?_eq_some_iff.1 hlast
    have hd : d ≠ '$' := by
      rintro rfl
      exact hu hlast
    have hassoc : c :: (v ++ [d] ++ rest) = c :: v ++ d :: rest := by simp
    rw [hassoc]
    exact .takes hturns hd rest

theorem endAlternative_stepped (h : r.endAlternative start t = .ok (r', rest)) :
    r.Stepped ('|' :: t) r' rest := by
  unfold endAlternative at h
  dsimp only at h
  split at h
  · split at h
    · cases h
    · cases h
      refine .bar ?_ ?_ t
      · rfl
      · rfl
  · cases h
    refine .bar ?_ ?_ t
    · rfl
    · rfl

theorem readPlain_stepped {c : Char} (h : r.readPlain start c t = .ok (r', rest)) :
    r.Stepped (c :: t) r' rest := by
  unfold readPlain at h
  split at h
  · exact endAlternative_stepped h
  · exact .of_takes (by decide) (takes_closeGroup h)
  · cases h
  · obtain ⟨⟨item, rest'⟩, hitem, h⟩ := bind_eq_ok_iff.1 h
    cases h
    exact .of_takes (by decide) ⟨r.turns_push _, leaves_readSetItem hitem⟩
  · exact .of_takes (by decide) (takes_repeatLast h)
  · exact .of_takes (by decide) (takes_repeatLast h)
  · exact .of_takes (by decide) (takes_repeatLast h)
  · exact .of_takes (by decide) (takes_readCounts h)
  · cases h
    exact .of_takes (by decide) (r.takes_push _ t)
  · exact .of_takes (by decide) (takes_readGroup h)
  · cases h
    exact .of_takes (by decide) (r.takes_push _ t)
  · cases h
    exact .lineEnd t
  · next hdollar =>
    cases h
    exact .of_takes hdollar (r.takes_push _ t)

/-- **What a step does** in front of a text that is not empty. -/
theorem step_cases (h : r.step t = .ok (r', rest)) (hne : t ≠ []) : r.Stepped t r' rest := by
  unfold step at h
  split at h
  · next htoken => exact absurd (eq_nil_of_token? htoken) hne
  · next c behind htoken =>
    obtain rfl : t = '\\' :: c :: behind := eq_of_token? htoken
    by_cases hc : c = '$'
    · subst hc
      have hdollar : r.readEscape ('\\' :: '$' :: behind) '$' behind =
          .ok (r.push (.code ('$').toNat), behind) := rfl
      rw [hdollar] at h
      cases h
      exact .escaped (r.turns_push _) _
    · obtain ⟨hturns, hleaves⟩ := takes_readEscape h
      exact .of_takes (by decide) ⟨hturns, hleaves.cons hc⟩
  · next c behind htoken =>
    obtain rfl : t = c :: behind := eq_of_token? htoken
    split at h
    · next hblank =>
      cases h
      refine .of_takes ?_ ⟨.stays rfl rfl rfl, .refl _⟩
      rintro rfl
      rw [Bool.and_eq_true] at hblank
      exact Bool.false_ne_true hblank.2
    · split at h
      · next hcomment =>
        cases h
        rw [Bool.and_eq_true, decide_eq_true_eq] at hcomment
        rw [hcomment.2]
        exact .comment hcomment.1 _
      · exact readPlain_stepped h

/-! ## Outside all groups -/

/-- The alternatives that have ended outside all groups. -/
def outerAlternatives (r : Reading) : List (List Item) :=
  (r.opened.getLast?.elim r.level OpenGroup.level).alternatives

/-- Whether a reading is verbose outside all groups. -/
def outerVerbose (r : Reading) : Bool := r.opened.getLast?.elim r.verbose OpenGroup.verbose

/-- Outside all groups no alternative has ended, and blanks and comments count. -/
structure IsWhole (r : Reading) : Prop where
  alternatives : r.outerAlternatives = []
  verbose : r.outerVerbose = false

theorem isWhole_start : IsWhole .start := ⟨rfl, rfl⟩

/-- What opens, closes or keeps groups changes nothing outside all of them. -/
theorem Turns.outer_eq (h : r.Turns r') :
    r'.outerAlternatives = r.outerAlternatives ∧ r'.outerVerbose = r.outerVerbose := by
  unfold outerAlternatives outerVerbose
  cases h with
  | stays opened verbose alternatives =>
    rw [opened, verbose]
    cases r.opened.getLast? with
    | none => exact ⟨alternatives, rfl⟩
    | some group => exact ⟨rfl, rfl⟩
  | opens opened level verbose =>
    rw [opened, List.getLast?_cons]
    cases r.opened.getLast? with
    | none => exact ⟨congrArg Level.alternatives level, verbose⟩
    | some group => exact ⟨rfl, rfl⟩
  | closes opened verbose alternatives =>
    rw [opened, List.getLast?_cons]
    cases r'.opened.getLast? with
    | none => exact ⟨alternatives, verbose⟩
    | some group => exact ⟨rfl, rfl⟩

theorem IsWhole.turns (hr : r.IsWhole) (h : r.Turns r') : r'.IsWhole :=
  ⟨h.outer_eq.1.trans hr.alternatives, h.outer_eq.2.trans hr.verbose⟩

/-- A bar within a group ends no alternative outside all groups. -/
theorem IsWhole.bar (hr : r.IsWhole) (hgroup : r.opened ≠ []) (opened : r'.opened = r.opened) :
    r'.IsWhole := by
  obtain ⟨group, hlast⟩ : ∃ group, r.opened.getLast? = some group :=
    ⟨_, List.getLast?_eq_some_getLast hgroup⟩
  obtain ⟨halternatives, hverbose⟩ := hr
  rw [outerAlternatives, hlast] at halternatives
  rw [outerVerbose, hlast] at hverbose
  constructor
  · rw [outerAlternatives, opened, hlast]
    exact halternatives
  · rw [outerVerbose, opened, hlast]
    exact hverbose

/-- Whether a bar is read outside all groups. -/
def isDividedFrom (r : Reading) : (skip : Nat) → Text → Bool
  | _, [] => false
  | skip + 1, _ :: t => r.isDividedFrom skip t
  | 0, c :: t =>
      (c == '|' && r.opened.isEmpty) ||
        match r.step (c :: t) with
        | .ok (r', rest) => r'.isDividedFrom (t.length - rest.length) t
        | .error _ => false

theorem isDividedFrom_skip (r : Reading) (u t : Text) :
    r.isDividedFrom u.length (u ++ t) = r.isDividedFrom 0 t := by
  induction u with
  | nil => rfl
  | cons c u ih => exact ih

/-! ## The dollar sign at the end -/

/-- A text ends with a dollar sign that has no backslash in front of it: it stands alone, or behind a
parenthesis. -/
def EndsWithDollar (t : Text) : Prop := t = ['$'] ∨ [')', '$'] <:+ t

theorem EndsWithDollar.getLast?_eq (h : EndsWithDollar t) : t.getLast? = some '$' := by
  rcases h with rfl | ⟨u, rfl⟩
  · rfl
  · rw [List.getLast?_append]
    rfl

/-- So does all that is left of it. -/
theorem EndsWithDollar.of_suffix (h : EndsWithDollar t) (hrest : rest <:+ t) (hne : rest ≠ []) :
    EndsWithDollar rest := by
  rcases h with rfl | h
  · rcases List.suffix_cons_iff.1 hrest with rfl | hnil
    · exact .inl rfl
    · exact absurd (List.suffix_nil.1 hnil) hne
  · rcases List.suffix_or_suffix_of_suffix h hrest with h | h
    · exact .inr h
    · rcases List.suffix_cons_iff.1 h with rfl | h
      · exact .inr List.suffix_rfl
      · rcases List.suffix_cons_iff.1 h with rfl | h
        · exact .inl rfl
        · exact absurd (List.suffix_nil.1 h) hne

/-- A step takes something. -/
theorem Stepped.exists_cons_append (h : r.Stepped t r' rest) : ∃ c u, t = c :: u ++ rest := by
  cases h with
  | @takes u c _ _ _ rest =>
    cases u with
    | nil => exact ⟨c, [], rfl⟩
    | cons d u => exact ⟨d, u ++ [c], by simp⟩
  | bar _ _ rest => exact ⟨'|', [], rfl⟩
  | lineEnd rest => exact ⟨'$', [], rfl⟩
  | escaped _ rest => exact ⟨'\\', ['$'], rfl⟩
  | comment _ t =>
    obtain ⟨u, hu⟩ := afterLine_suffix t
    exact ⟨'#', u, by rw [List.cons_append, hu]⟩

/-- The reading of a text goes through a step. -/
theorem exists_stepped_of_readFrom {items : List Item} (h : r.readFrom 0 t = .ok items)
    (hne : t ≠ []) (hdivided : r.isDividedFrom 0 t = false) :
    ∃ r' rest, r.Stepped t r' rest ∧ (t.head? = some '|' → r.opened ≠ []) ∧
      r'.readFrom 0 rest = .ok items ∧ r'.isDividedFrom 0 rest = false := by
  cases t with
  | nil => exact absurd rfl hne
  | cons c t =>
    rw [readFrom] at h
    obtain ⟨⟨r', rest⟩, hstep, h⟩ := bind_eq_ok_iff.1 h
    have hstepped := step_cases hstep hne
    obtain ⟨d, u, htaken⟩ := hstepped.exists_cons_append
    rw [List.cons_append, List.cons.injEq] at htaken
    obtain ⟨-, rfl⟩ := htaken
    rw [isDividedFrom, hstep, Bool.or_eq_false_iff, Bool.and_eq_false_iff] at hdivided
    have hskip : (u ++ rest).length - rest.length = u.length := by
      rw [List.length_append]
      omega
    dsimp only at h hdivided
    rw [hskip, readFrom_skip] at h
    rw [hskip, isDividedFrom_skip] at hdivided
    refine ⟨r', rest, hstepped, ?_, h, hdivided.2⟩
    intro hbar hopened
    rw [List.head?_cons, Option.some.injEq] at hbar
    rw [hbar, hopened] at hdivided
    exact hdivided.1.elim Bool.false_ne_true.symm Bool.false_ne_true.symm

/-- What is left is empty only behind the dollar sign, or behind a comment. -/
theorem Stepped.of_rest_eq_nil (h : r.Stepped t r' rest) (ht : EndsWithDollar t)
    (hrest : rest = []) :
    (t = ['$'] ∧ r' = r.push (.anchor .lineEnd)) ∨ r' = r ∧ r.verbose = true := by
  have hlast := ht.getLast?_eq
  cases h with
  | takes _ hc _ =>
    rw [hrest, List.getLast?_concat] at hlast
    exact absurd (Option.some.inj hlast) hc
  | bar _ _ _ =>
    rw [hrest] at hlast
    cases hlast
  | lineEnd rest => exact .inl ⟨by rw [hrest], rfl⟩
  | escaped _ rest =>
    rw [hrest] at ht
    rcases ht with h | h
    · cases h
    · exact absurd h (by decide)
  | comment hverbose _ => exact .inr ⟨rfl, hverbose⟩

/-- Outside all groups a step ends no alternative, if it meets no bar there. -/
theorem Stepped.isWhole (h : r.Stepped t r' rest) (hr : r.IsWhole)
    (hbar : t.head? = some '|' → r.opened ≠ []) : r'.IsWhole := by
  cases h with
  | takes turns _ _ => exact hr.turns turns
  | bar opened _ _ => exact hr.bar (hbar rfl) opened
  | lineEnd _ => exact hr.turns (r.turns_push _)
  | escaped turns _ => exact hr.turns turns
  | comment _ _ => exact hr

theorem finish_eq_ok {items : List Item} (h : r.finish = .ok items) :
    r.opened = [] ∧ items = r.level.body := by
  unfold finish at h
  split at h
  · cases h
  · next hopened =>
    split at h
    · cases h
    · exact ⟨hopened, (Except.ok.inj h).symm⟩

/-- A reading that ends with a dollar sign comes to items that do so. -/
theorem IsWhole.exists_append_of_finish {items : List Item} (hr : r.IsWhole)
    (h : (r.push (.anchor .lineEnd)).finish = .ok items) :
    ∃ before, items = before ++ [.anchor .lineEnd] := by
  obtain ⟨hopened, rfl⟩ := finish_eq_ok h
  have halternatives : r.level.alternatives = [] := by
    have houter := hr.alternatives
    rwa [outerAlternatives, show r.opened = [] from hopened] at houter
  refine ⟨sequence r.level.items, ?_⟩
  rw [Level.body, Level.all, push, halternatives]
  simp [joined, sequence, Item.spliced]

/-- **The dollar sign is the last item.**  A text that ends with a dollar sign and is read without a
bar outside all groups comes to items that end with the end of the text. -/
theorem exists_append_of_readFrom {items : List Item} (hr : r.IsWhole) (ht : EndsWithDollar t)
    (hread : r.readFrom 0 t = .ok items) (hdivided : r.isDividedFrom 0 t = false) :
    ∃ before, items = before ++ [.anchor .lineEnd] := by
  induction hn : t.length using Nat.strongRecOn generalizing r t with
  | _ n ih =>
    subst hn
    have hne : t ≠ [] := by
      rintro rfl
      cases ht.getLast?_eq
    obtain ⟨r', rest, hstepped, hbar, hread', hdivided'⟩ :=
      exists_stepped_of_readFrom hread hne hdivided
    by_cases hrest : rest = []
    · rw [hrest] at hread'
      rcases hstepped.of_rest_eq_nil ht hrest with ⟨-, rfl⟩ | ⟨rfl, hverbose⟩
      · exact hr.exists_append_of_finish hread'
      · -- a comment that takes the end stands in a group, which is then not closed
        have houter := hr.verbose
        rw [outerVerbose, (finish_eq_ok hread').1] at houter
        rw [show r'.verbose = false from houter] at hverbose
        cases hverbose
    · obtain ⟨c, u, rfl⟩ := hstepped.exists_cons_append
      have hshorter : rest.length < (c :: u ++ rest).length := by
        simp only [List.length_append, List.length_cons]
        omega
      exact ih _ hshorter (hstepped.isWhole hr hbar)
        (ht.of_suffix (List.suffix_append _ rest) hrest) hread' hdivided' rfl

end UrlRouting.Regex.Reading
