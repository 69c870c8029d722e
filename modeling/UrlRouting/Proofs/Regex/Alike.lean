import Mathlib.Data.List.Forall2
import UrlRouting.Regex.Search

/-!
# Searches in texts that are alike

Let some characters be alike.  A program that demands nothing of a character that tells it from those
that are like it searches two texts that are alike, character by character, in the same way: every
choice that is tried in one text is tried in the other one, at the same place, whatever the captured
texts.

Two states are alike if all their places are, and a part keeps likeness if, in front of
continuations that come to outcomes that are alike, it comes to such outcomes itself.  The main
statement is `keeps_matcherOf`.  What is asked of the final states is left open, so that it serves
for parts that are searched on their own as well as for whole programs.
-/

namespace UrlRouting.Regex

/-! ## Demands on characters -/

/-- What a program demands of characters: that one passes a test, or that two are the same. -/
inductive Demand
  | pass (test : CharTest)
  | equal (comparison : Comparison)

/-- A demand does not tell characters apart that are alike. -/
def Demand.IsBlind (alike : Char → Char → Prop) : Demand → Prop
  | .pass test => ∀ c d, alike c d → Cursor.passes test c = Cursor.passes test d
  | .equal comparison => ∀ c d x y, alike c d → alike x y →
      Matcher.sameChar comparison c x = Matcher.sameChar comparison d y

mutual

/-- What an operation demands of characters. -/
def Op.demands : Op → List Demand
  | .char test => [.pass test]
  | .anchor _ => []
  | .openGroup _ => []
  | .closeGroup _ => []
  | .reference _ comparison => [.equal comparison]
  | .conditional _ yes no => demandsOf yes ++ demandsOf no
  | .branch alternatives => demandsOfAny alternatives
  | .run _ _ _ test => [.pass test]
  | .loop _ _ _ body => demandsOf body
  | .atomic body => demandsOf body
  | .look _ _ body => demandsOf body

/-- What operations in a row demand. -/
def demandsOf : List Op → List Demand
  | [] => []
  | op :: ops => op.demands ++ demandsOf ops

/-- What alternatives demand. -/
def demandsOfAny : List (List Op) → List Demand
  | [] => []
  | ops :: alternatives => demandsOf ops ++ demandsOfAny alternatives

end

/-- A likeness that anchors respect: a line feed is like no other character, and a word character
like no other ones. -/
structure IsLikeness (alike : Char → Char → Prop) : Prop where
  lineFeed : ∀ c d, alike c d → (c == '\n') = (d == '\n')
  word : ∀ alphabet c d, alike c d → Cursor.isWordChar alphabet c = Cursor.isWordChar alphabet d

variable {alike : Char → Char → Prop}

/-! ## Places -/

/-- Two places are alike if what stands before and behind them is. -/
structure Cursor.Alike (alike : Char → Char → Prop) (c c' : Cursor) : Prop where
  before : List.Forall₂ alike c.before c'.before
  rest : List.Forall₂ alike c.rest c'.rest

namespace Cursor.Alike

variable {c c' : Cursor} (h : c.Alike alike c')

include h

theorem length_eq : c.rest.length = c'.rest.length := h.rest.length_eq

/-- The places so many characters before are alike, if there are as many. -/
theorem back? (n : Nat) : Option.Rel (Cursor.Alike alike) (c.back? n) (c'.back? n) := by
  induction n generalizing c c' with
  | zero =>
    rw [Cursor.back?, Cursor.back?]
    exact .some h
  | succ n ih =>
    obtain ⟨before, rest⟩ := c
    obtain ⟨before', rest'⟩ := c'
    obtain ⟨hbefore, hrest⟩ := h
    cases hbefore with
    | nil => exact .none
    | cons hx hbefore => exact ih ⟨hbefore, .cons hx hrest⟩

/-- The texts between places that are alike are. -/
theorem textTo {later later' : Cursor} (hlater : later.Alike alike later') :
    List.Forall₂ alike (c.textTo later) (c'.textTo later') := by
  rw [Cursor.textTo, Cursor.textTo, h.length_eq, hlater.length_eq]
  exact List.forall₂_take _ h.rest

/-- A demand on the next character is met at both places or at none. -/
theorem over? {test : CharTest} (htest : (Demand.pass test).IsBlind alike) :
    Option.Rel (Cursor.Alike alike) (c.over? test) (c'.over? test) := by
  obtain ⟨before, rest⟩ := c
  obtain ⟨before', rest'⟩ := c'
  obtain ⟨hbefore, hrest⟩ := h
  cases hrest with
  | nil => exact .none
  | cons hx hrest =>
    rw [Cursor.over?, Cursor.over?, htest _ _ hx]
    split
    · exact .some ⟨.cons hx hbefore, hrest⟩
    · exact .none

theorem isNone_over? {test : CharTest} (htest : (Demand.pass test).IsBlind alike) :
    (c.over? test).isNone = (c'.over? test).isNone := by
  have hover := h.over? htest
  generalize c.over? test = o, c'.over? test = o' at hover
  cases hover <;> rfl

/-- A condition holds at both places or at none. -/
theorem holds_eq (halike : IsLikeness alike) (test : AnchorTest) :
    c.holds test = c'.holds test := by
  obtain ⟨before, rest⟩ := c
  obtain ⟨before', rest'⟩ := c'
  obtain ⟨hbefore, hrest⟩ := h
  have hempty : ∀ {t t' : Text}, List.Forall₂ alike t t' → t.isEmpty = t'.isEmpty := by
    intro t t' ht
    cases ht <;> rfl
  have hfeed : ∀ {t t' : Text}, List.Forall₂ alike t t' →
      (t.head? == some '\n') = (t'.head? == some '\n') := by
    intro t t' ht
    cases ht with
    | nil => rfl
    | cons hx _ => exact halike.lineFeed _ _ hx
  have hlast : ∀ {t t' : Text}, List.Forall₂ alike t t' → (t == ['\n']) = (t' == ['\n']) := by
    intro t t' ht
    cases ht with
    | nil => rfl
    | cons hx ht =>
      have hx := halike.lineFeed _ _ hx
      cases ht <;> simp [hx]
  have hword : ∀ (alphabet : Alphabet) {t t' : Text}, List.Forall₂ alike t t' →
      t.head?.any (isWordChar alphabet) = t'.head?.any (isWordChar alphabet) := by
    intro alphabet t t' ht
    cases ht with
    | nil => rfl
    | cons hx _ => exact halike.word alphabet _ _ hx
  cases test with
  | textStart => exact hempty hbefore
  | lineStart => simp only [Cursor.holds, hempty hbefore, hfeed hbefore]
  | closingEnd => simp only [Cursor.holds, hempty hrest, hlast hrest]
  | lineEnd => simp only [Cursor.holds, hempty hrest, hfeed hrest]
  | textEnd => exact hempty hrest
  | wordBoundary alphabet negated =>
    simp only [Cursor.holds, hempty hbefore, hempty hrest, hword alphabet hbefore,
      hword alphabet hrest]

end Cursor.Alike

/-- The places where a run may stop are alike. -/
theorem Cursor.alike_stops {test : CharTest} (htest : (Demand.pass test).IsBlind alike)
    {before before' rest rest' : Text} (hbefore : List.Forall₂ alike before before')
    (hrest : List.Forall₂ alike rest rest') (most : Option Nat) :
    List.Forall₂ (Cursor.Alike alike) (stops test before rest most)
      (stops test before' rest' most) := by
  induction hrest generalizing before before' most with
  | nil => exact .cons ⟨hbefore, .nil⟩ .nil
  | cons hx hrest ih =>
    rw [stops, stops, htest _ _ hx]
    refine .cons ⟨hbefore, .cons hx hrest⟩ ?_
    split
    · exact ih (.cons hx hbefore) _
    · exact .nil

/-! ## States and outcomes -/

/-- Groups are opened or closed at places that are alike. -/
def AlikeMarks (alike : Char → Char → Prop) : List (Nat × Cursor) → List (Nat × Cursor) → Prop :=
  List.Forall₂ fun e e' => e.1 = e'.1 ∧ e.2.Alike alike e'.2

theorem AlikeMarks.lookup {marks marks' : List (Nat × Cursor)} (h : AlikeMarks alike marks marks')
    (index : Nat) :
    Option.Rel (Cursor.Alike alike) (marks.lookup index) (marks'.lookup index) := by
  induction h with
  | nil => exact .none
  | @cons e e' marks marks' he _ ih =>
    obtain ⟨key, c⟩ := e
    obtain ⟨key', c'⟩ := e'
    obtain ⟨rfl, hc⟩ := he
    simp only [List.lookup_cons]
    split
    · exact .some hc
    · exact ih

/-- Two states of searches are alike if all their places are. -/
structure SearchState.Alike (alike : Char → Char → Prop) (s s' : SearchState) : Prop where
  cursor : s.cursor.Alike alike s'.cursor
  openings : AlikeMarks alike s.openings s'.openings
  closings : AlikeMarks alike s.closings s'.closings
  noted : s.noted.Alike alike s'.noted

namespace SearchState

/-- Searches in front of texts that are alike begin alike. -/
theorem alike_start {t t' : Text} (h : List.Forall₂ alike t t') :
    (start t).Alike alike (start t') :=
  ⟨⟨.nil, h⟩, .nil, .nil, ⟨.nil, h⟩⟩

namespace Alike

variable {s s' : SearchState} {c c' : Cursor} (h : s.Alike alike s')

include h

theorem moved (hc : c.Alike alike c') : (s.moved c).Alike alike (s'.moved c') :=
  ⟨hc, h.openings, h.closings, h.noted⟩

theorem notedHere : s.notedHere.Alike alike s'.notedHere :=
  ⟨h.cursor, h.openings, h.closings, h.cursor⟩

theorem movedNoted (hc : c.Alike alike c') : (s.movedNoted c).Alike alike (s'.movedNoted c') :=
  ⟨hc, h.openings, h.closings, hc⟩

/-- A group has matched in both searches or in none, and then texts that are alike. -/
theorem groupText? (index : Nat) :
    Option.Rel (List.Forall₂ alike) (s.groupText? index) (s'.groupText? index) := by
  have hfirst := h.openings.lookup index
  have hlast := h.closings.lookup index
  unfold SearchState.groupText?
  generalize s.openings.lookup index = first, s'.openings.lookup index = first' at hfirst
  generalize s.closings.lookup index = last, s'.closings.lookup index = last' at hlast
  cases hfirst with
  | none => exact .none
  | some hfirst =>
    cases hlast with
    | none => exact .none
    | some hlast =>
      dsimp only
      rw [hfirst.length_eq, hlast.length_eq]
      split
      · exact .some (hfirst.textTo hlast)
      · exact .none

end Alike

end SearchState

/-- Two outcomes are alike: both give up and have looked at places last that are alike, or both find
final states that are related. -/
inductive Outcome.Alike (alike : Char → Char → Prop) (related : SearchState → SearchState → Prop) :
    Outcome → Outcome → Prop
  | gaveUp {c c' : Cursor} (h : c.Alike alike c') : Alike alike related (.gaveUp c) (.gaveUp c')
  | found {s s' : SearchState} (h : related s s') : Alike alike related (.found s) (.found s')

variable {related : SearchState → SearchState → Prop}

namespace Outcome.Alike

variable {o o' : Outcome} (h : o.Alike alike related o')

include h

theorem isFound_eq : o.isFound = o'.isFound := by
  cases h <;> rfl

theorem orElse {attempt attempt' : Cursor → Outcome}
    (hattempt : ∀ c c', c.Alike alike c' → (attempt c).Alike alike related (attempt' c')) :
    (o.orElse attempt).Alike alike related (o'.orElse attempt') := by
  cases h with
  | gaveUp h => exact hattempt _ _ h
  | found h => exact .found h

theorem orNote {c c' : Cursor} (hc : c.Alike alike c') :
    (o.orNote c).Alike alike related (o'.orNote c') :=
  h.orElse fun _ _ _ => .gaveUp hc

end Outcome.Alike

/-- What remains comes to outcomes that are alike from states that are. -/
def Agree (alike : Char → Char → Prop) (related : SearchState → SearchState → Prop)
    (k k' : Continuation) : Prop :=
  ∀ s s', s.Alike alike s' → (k s).Alike alike related (k' s')

/-- In front of what comes to outcomes that are alike, a part does so. -/
def Matcher.Keeps (alike : Char → Char → Prop) (m : Matcher) : Prop :=
  ∀ related k k', Agree alike related k k' →
    Agree alike related (fun s => m s k) fun s => m s k'

namespace Matcher

variable {k k' : Continuation} {body : Matcher} {test : CharTest} {next : Option CharTest}

/-! ## Single operations -/

theorem keeps_char (htest : (Demand.pass test).IsBlind alike) : (char test).Keeps alike := by
  intro related k k' hk s s' h
  have hover := h.cursor.over? htest
  dsimp only [char]
  generalize s.cursor.over? test = o, s'.cursor.over? test = o' at hover
  cases hover with
  | none => exact .gaveUp h.noted
  | some hc => exact hk _ _ (h.moved hc)

theorem keeps_anchor (halike : IsLikeness alike) (test : AnchorTest) :
    (anchor test).Keeps alike := by
  intro related k k' hk s s' h
  dsimp only [anchor]
  rw [h.cursor.holds_eq halike]
  split
  · exact hk s s' h
  · exact .gaveUp h.noted

theorem keeps_openGroup (index : Nat) : (openGroup index).Keeps alike := by
  intro related k k' hk s s' h
  exact hk _ _ ⟨h.cursor, .cons ⟨rfl, h.cursor⟩ h.openings, h.closings, h.noted⟩

theorem keeps_closeGroup (index : Nat) : (closeGroup index).Keeps alike := by
  intro related k k' hk s s' h
  exact hk _ _ ⟨h.cursor, h.openings, .cons ⟨rfl, h.cursor⟩ h.closings, h.noted⟩

/-- Texts that are alike stand at both places or at none. -/
theorem alike_behind? {comparison : Comparison}
    (hcomparison : (Demand.equal comparison).IsBlind alike) {t t' : Text}
    (ht : List.Forall₂ alike t t') {c c' : Cursor} (h : c.Alike alike c') :
    Option.Rel (Cursor.Alike alike) (behind? comparison t c) (behind? comparison t' c') := by
  induction ht generalizing c c' with
  | nil =>
    rw [behind?, behind?]
    exact .some h
  | cons hx _ ih =>
    obtain ⟨before, rest⟩ := c
    obtain ⟨before', rest'⟩ := c'
    obtain ⟨hbefore, hrest⟩ := h
    cases hrest with
    | nil => exact .none
    | cons hy hrest =>
      rw [behind?, behind?, hcomparison _ _ _ _ hy hx]
      split
      · exact ih ⟨.cons hy hbefore, hrest⟩
      · exact .none

theorem keeps_reference {comparison : Comparison}
    (hcomparison : (Demand.equal comparison).IsBlind alike) (index : Nat) :
    (reference index comparison).Keeps alike := by
  intro related k k' hk s s' h
  have htext := h.groupText? index
  dsimp only [reference]
  generalize s.groupText? index = o, s'.groupText? index = o' at htext
  cases htext with
  | none => exact .gaveUp h.noted
  | @some t t' ht =>
    have hbehind := alike_behind? hcomparison ht h.cursor
    dsimp only [Option.bind_some]
    generalize behind? comparison t s.cursor = o, behind? comparison t' s'.cursor = o' at hbehind
    cases hbehind with
    | none => exact .gaveUp h.noted
    | some hc => exact hk _ _ (h.moved hc)

theorem keeps_conditional {yes no : Matcher} (hyes : yes.Keeps alike) (hno : no.Keeps alike)
    (index : Nat) : (conditional index yes no).Keeps alike := by
  intro related k k' hk s s' h
  dsimp only [conditional]
  have htext := h.groupText? index
  generalize s.groupText? index = o, s'.groupText? index = o' at htext
  cases htext with
  | none => exact hno _ _ _ hk s s' h
  | some _ => exact hyes _ _ _ hk s s' h

/-! ## Parts that are searched on their own -/

/-- A part on its own finds states that are alike. -/
theorem agree_alone (hbody : body.Keeps alike) :
    Agree alike (SearchState.Alike alike) body.alone body.alone :=
  hbody _ _ _ fun _ _ h => .found h

theorem keeps_atomic (hbody : body.Keeps alike) : (atomic body).Keeps alike := by
  intro related k k' hk s s' h
  have halone := agree_alone hbody _ _ h.notedHere
  dsimp only [atomic]
  generalize body.alone s.notedHere = o, body.alone s'.notedHere = o' at halone
  cases halone with
  | gaveUp _ => exact .gaveUp h.cursor
  | found hs => exact hk _ _ hs.notedHere

theorem keeps_ahead (hbody : body.Keeps alike) (back : Nat) : (ahead back body).Keeps alike := by
  intro related k k' hk s s' h
  have hback := h.cursor.back? back
  dsimp only [ahead]
  generalize s.cursor.back? back = o, s'.cursor.back? back = o' at hback
  cases hback with
  | none => exact .gaveUp h.noted
  | @some d d' hd =>
    have halone := agree_alone hbody _ _ (h.movedNoted hd)
    dsimp only
    generalize body.alone (s.movedNoted d) = o, body.alone (s'.movedNoted d') = o' at halone
    cases halone with
    | gaveUp hnoted => exact .gaveUp hnoted
    | found hs => exact hk _ _ ⟨h.cursor, hs.openings, hs.closings, hs.cursor⟩

theorem keeps_notAhead (hbody : body.Keeps alike) (back : Nat) :
    (notAhead back body).Keeps alike := by
  intro related k k' hk s s' h
  have hback := h.cursor.back? back
  dsimp only [notAhead]
  generalize s.cursor.back? back = o, s'.cursor.back? back = o' at hback
  cases hback with
  | none => exact hk s s' h
  | @some d d' hd =>
    have halone := agree_alone hbody _ _ (h.movedNoted hd)
    dsimp only
    generalize body.alone (s.movedNoted d) = o, body.alone (s'.movedNoted d') = o' at halone
    cases halone with
    | gaveUp hnoted => exact hk _ _ ⟨h.cursor, h.openings, h.closings, hnoted⟩
    | found hs => exact .gaveUp hs.cursor

/-! ## Runs of a single character -/

theorem alike_countedTo (test : CharTest) {c c' d d' : Cursor} (hc : c.Alike alike c')
    (hd : d.Alike alike d') : (countedTo test c d).Alike alike (countedTo test c' d') := by
  unfold countedTo
  split
  · exact hd
  · exact hc

/-- What remains refuses both places or none. -/
theorem isRefused_eq (hnext : ∀ test ∈ next, (Demand.pass test).IsBlind alike) {c c' : Cursor}
    (h : c.Alike alike c') : isRefused next c = isRefused next c' := by
  cases next with
  | none => rfl
  | some test => exact h.isNone_over? (hnext test rfl)

theorem alike_fromEach (hnext : ∀ test ∈ next, (Demand.pass test).IsBlind alike)
    (hk : Agree alike related k k') {s s' : SearchState} (h : s.Alike alike s')
    {cs cs' : List Cursor} (hcs : List.Forall₂ (Cursor.Alike alike) cs cs') {c c' : Cursor}
    (hc : c.Alike alike c') :
    (fromEach next s k cs c).Alike alike related (fromEach next s' k' cs' c') := by
  induction hcs generalizing c c' with
  | nil => exact .gaveUp hc
  | cons hd _ ih =>
    rw [fromEach, fromEach, isRefused_eq hnext hd]
    split
    · exact ih hc
    · exact (hk _ _ (h.movedNoted hd)).orElse fun _ _ hc => ih hc

theorem alike_fromEachLazily (htest : (Demand.pass test).IsBlind alike)
    (hk : Agree alike related k k') {s s' : SearchState} (h : s.Alike alike s')
    {cs cs' : List Cursor} (hcs : List.Forall₂ (Cursor.Alike alike) cs cs') {c c' : Cursor}
    (hc : c.Alike alike c') :
    (fromEachLazily test s k cs c).Alike alike related (fromEachLazily test s' k' cs' c') := by
  induction hcs generalizing c c' with
  | nil => exact .gaveUp hc
  | @cons d d' _ _ hd _ ih =>
    rw [fromEachLazily, fromEachLazily]
    refine (hk _ _ (h.movedNoted hd)).orElse fun _ _ _ => ih (alike_countedTo test hd ?_)
    have hover := hd.over? htest
    generalize d.over? test = o, d'.over? test = o' at hover
    cases hover with
    | none => exact hd
    | some ho => exact ho

/-- The last of several places, or else another one. -/
theorem alike_getLast {cs cs' : List Cursor} (hcs : List.Forall₂ (Cursor.Alike alike) cs cs')
    {c c' : Cursor} (hc : c.Alike alike c') :
    (cs.getLast?.getD c).Alike alike (cs'.getLast?.getD c') := by
  have hreverse := List.rel_reverse hcs
  rw [← List.head?_reverse, ← List.head?_reverse]
  generalize cs.reverse = ds, cs'.reverse = ds' at hreverse
  cases hreverse with
  | nil => exact hc
  | cons hd _ => exact hd

/-- The ends of a run: both searches have none and have looked at places last that are alike, or both
have ends that are alike. -/
inductive AlikeEnds (alike : Char → Char → Prop) :
    Except Cursor (List Cursor × Cursor) → Except Cursor (List Cursor × Cursor) → Prop
  | none {c c' : Cursor} (h : c.Alike alike c') : AlikeEnds alike (.error c) (.error c')
  | some {cs cs' : List Cursor} {c c' : Cursor} (h : c.Alike alike c')
      (hcs : List.Forall₂ (Cursor.Alike alike) cs cs') :
      AlikeEnds alike (.ok (cs, c)) (.ok (cs', c'))

theorem alike_runEnds (htest : (Demand.pass test).IsBlind alike) (least : Nat)
    (most : Option Nat) {s s' : SearchState} (h : s.Alike alike s') :
    AlikeEnds alike (runEnds least most test s) (runEnds least most test s') := by
  have hstops := Cursor.alike_stops htest h.cursor.before h.cursor.rest most
  have hnoted := alike_countedTo test h.cursor (alike_getLast hstops h.cursor)
  unfold runEnds
  rw [h.cursor.length_eq]
  split
  · exact .none h.noted
  · dsimp only
    rw [hstops.length_eq]
    split
    · exact .none hnoted
    · exact .some hnoted (List.forall₂_drop _ hstops)

theorem keeps_greedyRun (hnext : ∀ test ∈ next, (Demand.pass test).IsBlind alike)
    (htest : (Demand.pass test).IsBlind alike) (least : Nat) (most : Option Nat) :
    (greedyRun next least most test).Keeps alike := by
  intro related k k' hk s s' h
  have hends := alike_runEnds htest least most h
  dsimp only [greedyRun]
  generalize runEnds least most test s = ends, runEnds least most test s' = ends' at hends
  cases hends with
  | none hc => exact .gaveUp hc
  | some hc hcs => exact alike_fromEach hnext hk h (List.rel_reverse hcs) hc

theorem keeps_lazyRun (htest : (Demand.pass test).IsBlind alike) (least : Nat)
    (most : Option Nat) : (lazyRun least most test).Keeps alike := by
  intro related k k' hk s s' h
  have hends := alike_runEnds htest least (some least) h
  have hstops := Cursor.alike_stops htest h.cursor.before h.cursor.rest most
  dsimp only [lazyRun]
  generalize runEnds least (some least) test s = ends,
    runEnds least (some least) test s' = ends' at hends
  cases hends with
  | none hc => exact .gaveUp hc
  | some _ _ => exact alike_fromEachLazily htest hk h (List.forall₂_drop _ hstops) h.cursor

theorem keeps_possessiveRun (htest : (Demand.pass test).IsBlind alike) (least : Nat)
    (most : Option Nat) : (possessiveRun least most test).Keeps alike := by
  intro related k k' hk s s' h
  have hends := alike_runEnds htest least most h
  dsimp only [possessiveRun]
  generalize runEnds least most test s = ends, runEnds least most test s' = ends' at hends
  cases hends with
  | none hc => exact .gaveUp hc
  | some _ hcs => exact hk _ _ (h.movedNoted (alike_getLast hcs h.cursor))

/-! ## Loops over a sequence -/

theorem agree_leave (hk : Agree alike related k k') :
    Agree alike related (fun s => leave s k) fun s => leave s k' := by
  intro s s' h
  exact (hk _ _ h.notedHere).orNote h.cursor

theorem agree_times (hbody : body.Keeps alike) (hk : Agree alike related k k') (n : Nat) :
    Agree alike related (fun s => times body n s k) fun s => times body n s k' := by
  induction n with
  | zero =>
    simp only [times]
    exact hk
  | succ n ih =>
    intro s s' h
    dsimp only
    rw [times, times]
    exact (hbody _ _ _ ih _ _ h.notedHere).orNote h.cursor

theorem isBehind_iff {c c' d d' : Cursor} (hc : c.Alike alike c') (hd : d.Alike alike d') :
    isBehind c d ↔ isBehind c' d' := by
  rw [isBehind, isBehind, hc.length_eq, hd.length_eq]

/-- A round of a loop: a repetition, and behind it another round if it has made headway, or else what
remains. -/
theorem alike_round (hbody : body.Keeps alike) (hk : Agree alike related k k')
    {s s' : SearchState} (h : s.Alike alike s') {again again' : Continuation}
    (hagain : ∀ t t', t.Alike alike t' → t.cursor.rest.length < s.cursor.rest.length →
      (again t).Alike alike related (again' t')) :
    (body s.notedHere fun t =>
        if isBehind t.cursor s.cursor then again t else leave t k).Alike alike related
      (body s'.notedHere fun t =>
        if isBehind t.cursor s'.cursor then again' t else leave t k') := by
  refine hbody _ _ _ (fun t t' ht => ?_) _ _ h.notedHere
  simp only [isBehind_iff ht.cursor h.cursor]
  split
  · next hbehind => exact hagain t t' ht ((isBehind_iff ht.cursor h.cursor).2 hbehind)
  · exact agree_leave hk t t' ht

theorem agree_greedily (hbody : body.Keeps alike) (hk : Agree alike related k k')
    (left : Option Nat) :
    Agree alike related (fun s => greedily body left s k) fun s => greedily body left s k' := by
  intro s s' h
  -- every round has fewer characters before it
  induction hn : s.cursor.rest.length using Nat.strongRecOn generalizing left s s' with
  | _ n ih =>
    subst hn
    dsimp only
    rw [greedily, greedily]
    split
    · exact agree_leave hk s s' h
    · exact (alike_round hbody hk h fun t t' ht hlt => ih _ hlt _ t t' ht rfl).orElse
        fun _ _ _ => agree_leave hk s s' h

theorem agree_lazily (hbody : body.Keeps alike) (hk : Agree alike related k k')
    (left : Option Nat) :
    Agree alike related (fun s => lazily body left s k) fun s => lazily body left s k' := by
  intro s s' h
  induction hn : s.cursor.rest.length using Nat.strongRecOn generalizing left s s' with
  | _ n ih =>
    subst hn
    dsimp only
    rw [lazily, lazily]
    refine (agree_leave hk s s' h).orElse fun _ _ _ => ?_
    split
    · exact .gaveUp h.cursor
    · exact (alike_round hbody hk h fun t t' ht hlt => ih _ hlt _ t t' ht rfl).orNote h.cursor

theorem alike_timesAlone (hbody : body.Keeps alike) (n : Nat) {s s' : SearchState}
    (h : s.Alike alike s') :
    Option.Rel (SearchState.Alike alike) (timesAlone body n s) (timesAlone body n s') := by
  induction n generalizing s s' with
  | zero => exact .some h
  | succ n ih =>
    have halone := agree_alone hbody _ _ h
    rw [timesAlone, timesAlone]
    generalize body.alone s = o, body.alone s' = o' at halone
    cases halone with
    | gaveUp _ => exact .none
    | found ht => exact ih ht.notedHere

theorem alike_possessively (hbody : body.Keeps alike) (left : Option Nat) {s s' : SearchState}
    (h : s.Alike alike s') :
    (possessively body left s).Alike alike (possessively body left s') := by
  induction hn : s.cursor.rest.length using Nat.strongRecOn generalizing left s s' with
  | _ n ih =>
    subst hn
    have halone := agree_alone hbody _ _ h
    rw [possessively, possessively]
    split
    · exact h
    · generalize body.alone s = o, body.alone s' = o' at halone
      cases halone with
      | gaveUp hc => exact h.movedNoted hc
      | @found t t' ht =>
        dsimp only
        simp only [isBehind_iff ht.cursor h.cursor]
        split
        · next hbehind =>
          exact ih _ ((isBehind_iff ht.cursor h.cursor).2 hbehind) _ ht.notedHere rfl
        · exact ht.notedHere

theorem keeps_loop (hbody : body.Keeps alike) (kind : Repetition) (least : Nat)
    (most : Option Nat) : (loop kind least most body).Keeps alike := by
  intro related k k' hk s s' h
  cases kind with
  | greedy => exact (agree_times hbody (agree_greedily hbody hk _) least s s' h).orNote h.cursor
  | lazy => exact (agree_times hbody (agree_lazily hbody hk _) least s s' h).orNote h.cursor
  | possessive =>
    have htimes := alike_timesAlone hbody least h.notedHere
    dsimp only [loop]
    generalize timesAlone body least s.notedHere = o, timesAlone body least s'.notedHere = o'
      at htimes
    cases htimes with
    | none => exact .gaveUp h.cursor
    | some ht => exact hk _ _ (alike_possessively hbody _ ht)

end Matcher

/-! ## Programs -/

theorem isBlind_firstPlainCode {ops : List Op} (h : ∀ demand ∈ demandsOf ops, demand.IsBlind alike) :
    ∀ test ∈ firstPlainCode ops, (Demand.pass test).IsBlind alike := by
  intro test htest
  unfold firstPlainCode at htest
  split at htest
  · split at htest
    · cases htest
      exact h _ List.mem_cons_self
    · cases htest
  · cases htest

theorem isBlind_firstPlainTest {ops : List Op} (h : ∀ demand ∈ demandsOf ops, demand.IsBlind alike) :
    ∀ test ∈ firstPlainTest ops, (Demand.pass test).IsBlind alike := by
  intro test htest
  unfold firstPlainTest at htest
  split at htest
  · split at htest
    · cases htest
      exact h _ List.mem_cons_self
    · cases htest
  · cases htest

mutual

/-- An operation whose demands are blind keeps likeness. -/
theorem Op.keeps_matcher (halike : IsLikeness alike) {next : Option CharTest}
    (hnext : ∀ test ∈ next, (Demand.pass test).IsBlind alike) :
    (op : Op) → (∀ demand ∈ op.demands, demand.IsBlind alike) → (op.matcher next).Keeps alike
  | .char test, h => Matcher.keeps_char (h _ List.mem_cons_self)
  | .anchor test, _ => Matcher.keeps_anchor halike test
  | .openGroup index, _ => Matcher.keeps_openGroup index
  | .closeGroup index, _ => Matcher.keeps_closeGroup index
  | .reference index comparison, h => Matcher.keeps_reference (h _ List.mem_cons_self) index
  | .conditional index yes no, h => by
    rw [Op.demands, List.forall_mem_append] at h
    exact Matcher.keeps_conditional (keeps_matcherOf halike yes h.1) (keeps_matcherOf halike no h.2)
      index
  | .branch alternatives, h => by
    intro related k k' hk s s' hs
    exact alike_tryEach halike hk hs alternatives h _ _ hs.noted
  | .run .greedy least most test, h =>
    Matcher.keeps_greedyRun hnext (h _ List.mem_cons_self) least most
  | .run .lazy least most test, h => Matcher.keeps_lazyRun (h _ List.mem_cons_self) least most
  | .run .possessive least most test, h =>
    Matcher.keeps_possessiveRun (h _ List.mem_cons_self) least most
  | .loop kind least most body, h =>
    Matcher.keeps_loop (keeps_matcherOf halike body h) kind least most
  | .atomic body, h => Matcher.keeps_atomic (keeps_matcherOf halike body h)
  | .look back true body, h => Matcher.keeps_notAhead (keeps_matcherOf halike body h) back
  | .look back false body, h => Matcher.keeps_ahead (keeps_matcherOf halike body h) back

/-- Operations whose demands are blind keep likeness. -/
theorem keeps_matcherOf (halike : IsLikeness alike) :
    (ops : List Op) → (∀ demand ∈ demandsOf ops, demand.IsBlind alike) →
      Matcher.Keeps alike (matcherOf ops)
  | [], _ => fun _ _ _ hk => hk
  | op :: ops, h => by
    rw [demandsOf, List.forall_mem_append] at h
    intro related k k' hk
    exact op.keeps_matcher halike (isBlind_firstPlainCode h.2) h.1 _ _ _
      (keeps_matcherOf halike ops h.2 _ _ _ hk)

/-- Alternatives whose demands are blind come to outcomes that are alike. -/
theorem alike_tryEach (halike : IsLikeness alike)
    {related : SearchState → SearchState → Prop} {k k' : Continuation}
    (hk : Agree alike related k k') {s s' : SearchState} (hs : s.Alike alike s') :
    (alternatives : List (List Op)) →
      (∀ demand ∈ demandsOfAny alternatives, demand.IsBlind alike) →
      (c c' : Cursor) → c.Alike alike c' →
      (tryEach alternatives s k c).Alike alike related (tryEach alternatives s' k' c')
  | [], _, _, _, hc => .gaveUp hc
  | ops :: alternatives, h, c, c', hc => by
    rw [demandsOfAny, List.forall_mem_append] at h
    rw [tryEach, tryEach, Matcher.isRefused_eq (isBlind_firstPlainTest h.1) hs.cursor]
    split
    · exact alike_tryEach halike hk hs alternatives h.2 c c' hc
    · exact (keeps_matcherOf halike ops h.1 _ _ _ hk _ _ hs.notedHere).orElse
        (alike_tryEach halike hk hs alternatives h.2)

end

end UrlRouting.Regex
