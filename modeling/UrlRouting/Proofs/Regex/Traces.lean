import UrlRouting.Proofs.Regex.Numbering

/-!
# What a search does not look at

A program that refers to no group does not look at the places where groups were opened and closed: it
searches in the same way whatever their numbers are, and whatever has been marked before it
(`coincides_matcherOf`).  No program at all looks at the place that was noted before it, but for the
place that it tells itself when it gives up: whether it finds a match does not depend on it
(`forgets_matcherOf`).  So an alternative that was tried in vain leaves nothing behind that the next
one could see.
-/

namespace UrlRouting.Regex

/-! ## Marks of groups -/

/-- Two states are the same but for the marks of groups. -/
structure SearchState.Coincides (s s' : SearchState) : Prop where
  cursor : s.cursor = s'.cursor
  noted : s.noted = s'.noted

namespace SearchState.Coincides

variable {s s' : SearchState}

theorem moved (h : s.Coincides s') (c : Cursor) : (s.moved c).Coincides (s'.moved c) :=
  ⟨rfl, h.noted⟩

theorem notedHere (h : s.Coincides s') : s.notedHere.Coincides s'.notedHere :=
  ⟨h.cursor, h.cursor⟩

theorem movedNoted (s s' : SearchState) (c : Cursor) :
    (s.movedNoted c).Coincides (s'.movedNoted c) :=
  ⟨rfl, rfl⟩

end SearchState.Coincides

/-- Two outcomes are the same but for the marks of groups. -/
inductive Outcome.Coincides : Outcome → Outcome → Prop
  | gaveUp (noted : Cursor) : Coincides (.gaveUp noted) (.gaveUp noted)
  | found {s s' : SearchState} (h : s.Coincides s') : Coincides (.found s) (.found s')

/-- What remains comes to the same outcome from the same state, but for the marks. -/
def Continuation.Coincides (k k' : Continuation) : Prop :=
  ∀ s s', s.Coincides s' → (k s).Coincides (k' s')

/-- In front of what comes to the same outcomes, two parts do so. -/
def Matcher.Coincides (m m' : Matcher) : Prop :=
  ∀ k k' : Continuation, k.Coincides k' →
    Continuation.Coincides (fun s => m s k) fun s => m' s k'

namespace Outcome.Coincides

variable {o o' : Outcome} (h : o.Coincides o')

include h

theorem isFound_eq : o.isFound = o'.isFound := by
  cases h <;> rfl

theorem orElse {attempt attempt' : Cursor → Outcome}
    (hattempt : ∀ c, (attempt c).Coincides (attempt' c)) :
    (o.orElse attempt).Coincides (o'.orElse attempt') := by
  cases h with
  | gaveUp noted => exact hattempt noted
  | found h => exact .found h

theorem orNote (c : Cursor) : (o.orNote c).Coincides (o'.orNote c) :=
  h.orElse fun _ => .gaveUp c

end Outcome.Coincides

namespace Matcher

variable {k k' : Continuation} {body body' : Matcher} {s s' : SearchState}

/-! ### Single operations -/

theorem coincides_char (test : CharTest) : (char test).Coincides (char test) := by
  intro k k' hk s s' h
  dsimp only [char]
  rw [h.cursor, h.noted]
  split
  · exact hk _ _ (h.moved _)
  · exact .gaveUp _

theorem coincides_anchor (test : AnchorTest) : (anchor test).Coincides (anchor test) := by
  intro k k' hk s s' h
  dsimp only [anchor]
  rw [h.cursor, h.noted]
  split
  · exact hk _ _ h
  · exact .gaveUp _

/-- The number of a group that is opened makes no difference. -/
theorem coincides_openGroup (index index' : Nat) :
    (openGroup index).Coincides (openGroup index') :=
  fun _ _ hk _ _ h => hk _ _ ⟨h.cursor, h.noted⟩

theorem coincides_closeGroup (index index' : Nat) :
    (closeGroup index).Coincides (closeGroup index') :=
  fun _ _ hk _ _ h => hk _ _ ⟨h.cursor, h.noted⟩

/-! ### Parts that are searched on their own -/

theorem coincides_alone (hbody : body.Coincides body') (h : s.Coincides s') :
    (body.alone s).Coincides (body'.alone s') :=
  hbody _ _ (fun _ _ h => .found h) s s' h

theorem coincides_atomic (hbody : body.Coincides body') :
    (atomic body).Coincides (atomic body') := by
  intro k k' hk s s' h
  have halone := coincides_alone hbody h.notedHere
  dsimp only [atomic]
  generalize body.alone s.notedHere = o, body'.alone s'.notedHere = o' at halone
  cases halone with
  | gaveUp _ =>
    rw [h.cursor]
    exact .gaveUp _
  | found ht => exact hk _ _ ht.notedHere

theorem coincides_ahead (hbody : body.Coincides body') (back : Nat) :
    (ahead back body).Coincides (ahead back body') := by
  intro k k' hk s s' h
  dsimp only [ahead]
  rw [h.cursor, h.noted]
  split
  · exact .gaveUp _
  · next c _ =>
    have halone := coincides_alone hbody (.movedNoted s s' c)
    generalize body.alone (s.movedNoted c) = o, body'.alone (s'.movedNoted c) = o' at halone
    cases halone with
    | gaveUp noted => exact .gaveUp noted
    | found ht => exact hk _ _ ⟨rfl, ht.cursor⟩

theorem coincides_notAhead (hbody : body.Coincides body') (back : Nat) :
    (notAhead back body).Coincides (notAhead back body') := by
  intro k k' hk s s' h
  dsimp only [notAhead]
  rw [h.cursor]
  split
  · exact hk _ _ h
  · next c _ =>
    have halone := coincides_alone hbody (.movedNoted s s' c)
    generalize body.alone (s.movedNoted c) = o, body'.alone (s'.movedNoted c) = o' at halone
    cases halone with
    | gaveUp noted => exact hk _ _ ⟨rfl, rfl⟩
    | found ht =>
      dsimp only
      rw [ht.cursor]
      exact .gaveUp _

/-! ### Runs of a single character -/

theorem coincides_fromEach (next : Option CharTest) (hk : k.Coincides k') (s s' : SearchState)
    (cs : List Cursor) (noted : Cursor) :
    (fromEach next s k cs noted).Coincides (fromEach next s' k' cs noted) := by
  induction cs generalizing noted with
  | nil => exact .gaveUp noted
  | cons c cs ih =>
    rw [fromEach, fromEach]
    split
    · exact ih noted
    · exact (hk _ _ (.movedNoted s s' c)).orElse ih

theorem coincides_fromEachLazily (test : CharTest) (hk : k.Coincides k') (s s' : SearchState)
    (cs : List Cursor) (noted : Cursor) :
    (fromEachLazily test s k cs noted).Coincides (fromEachLazily test s' k' cs noted) := by
  induction cs generalizing noted with
  | nil => exact .gaveUp noted
  | cons c cs ih =>
    rw [fromEachLazily, fromEachLazily]
    exact (hk _ _ (.movedNoted s s' c)).orElse fun _ => ih _

theorem runEnds_congr (h : s.Coincides s') (least : Nat) (most : Option Nat) (test : CharTest) :
    runEnds least most test s = runEnds least most test s' := by
  unfold runEnds
  rw [h.cursor, h.noted]

theorem coincides_greedyRun (next : Option CharTest) (least : Nat) (most : Option Nat)
    (test : CharTest) :
    (greedyRun next least most test).Coincides (greedyRun next least most test) := by
  intro k k' hk s s' h
  dsimp only [greedyRun]
  rw [runEnds_congr h]
  split
  · exact .gaveUp _
  · exact coincides_fromEach next hk s s' _ _

theorem coincides_lazyRun (least : Nat) (most : Option Nat) (test : CharTest) :
    (lazyRun least most test).Coincides (lazyRun least most test) := by
  intro k k' hk s s' h
  dsimp only [lazyRun]
  rw [runEnds_congr h, h.cursor]
  split
  · exact .gaveUp _
  · exact coincides_fromEachLazily test hk s s' _ _

theorem coincides_possessiveRun (least : Nat) (most : Option Nat) (test : CharTest) :
    (possessiveRun least most test).Coincides (possessiveRun least most test) := by
  intro k k' hk s s' h
  dsimp only [possessiveRun]
  rw [runEnds_congr h, h.cursor]
  split
  · exact .gaveUp _
  · exact hk _ _ (.movedNoted s s' _)

/-! ### Loops over a sequence -/

theorem coincides_leave (hk : k.Coincides k') (h : s.Coincides s') :
    (leave s k).Coincides (leave s' k') := by
  rw [leave, leave, h.cursor]
  exact (hk _ _ h.notedHere).orNote s'.cursor

theorem coincides_times (hbody : body.Coincides body') (hk : k.Coincides k') (n : Nat) :
    Continuation.Coincides (fun s => times body n s k) fun s => times body' n s k' := by
  induction n with
  | zero =>
    simp only [times]
    exact hk
  | succ n ih =>
    intro s s' h
    dsimp only
    rw [times, times, h.cursor]
    exact (hbody _ _ ih _ _ h.notedHere).orNote s'.cursor

/-- A round of a loop: a repetition, and behind it another round if it has made headway, or else what
remains. -/
theorem coincides_round (hbody : body.Coincides body') (hk : k.Coincides k') (h : s.Coincides s')
    {again again' : Continuation}
    (hagain : ∀ t t', t.Coincides t' → t.cursor.rest.length < s.cursor.rest.length →
      (again t).Coincides (again' t')) :
    (body s.notedHere fun t =>
        if isBehind t.cursor s.cursor then again t else leave t k).Coincides
      (body' s'.notedHere fun t =>
        if isBehind t.cursor s'.cursor then again' t else leave t k') := by
  refine hbody _ _ (fun t t' ht => ?_) _ _ h.notedHere
  simp only [← ht.cursor, ← h.cursor]
  split
  · next hbehind => exact hagain t t' ht hbehind
  · exact coincides_leave hk ht

theorem coincides_greedily (hbody : body.Coincides body') (hk : k.Coincides k')
    (left : Option Nat) :
    Continuation.Coincides (fun s => greedily body left s k) fun s =>
      greedily body' left s k' := by
  intro s s' h
  -- every round has fewer characters before it
  induction hn : s.cursor.rest.length using Nat.strongRecOn generalizing left s s' with
  | _ n ih =>
    subst hn
    dsimp only
    rw [greedily, greedily]
    split
    · exact coincides_leave hk h
    · exact (coincides_round hbody hk h fun t t' ht hlt => ih _ hlt _ t t' ht rfl).orElse
        fun _ => coincides_leave hk h

theorem coincides_lazily (hbody : body.Coincides body') (hk : k.Coincides k')
    (left : Option Nat) :
    Continuation.Coincides (fun s => lazily body left s k) fun s => lazily body' left s k' := by
  intro s s' h
  induction hn : s.cursor.rest.length using Nat.strongRecOn generalizing left s s' with
  | _ n ih =>
    subst hn
    dsimp only
    rw [lazily, lazily]
    refine (coincides_leave hk h).orElse fun _ => ?_
    split
    · rw [h.cursor]
      exact .gaveUp _
    · have hround := coincides_round hbody hk h fun t t' ht hlt =>
        ih _ hlt (left.map (· - 1)) t t' ht rfl
      have hnote := hround.orNote s.cursor
      rwa [h.cursor] at hnote ⊢

theorem coincides_timesAlone (hbody : body.Coincides body') (n : Nat) (h : s.Coincides s') :
    Option.Rel SearchState.Coincides (timesAlone body n s) (timesAlone body' n s') := by
  induction n generalizing s s' with
  | zero => exact .some h
  | succ n ih =>
    have halone := coincides_alone hbody h
    rw [timesAlone, timesAlone]
    generalize body.alone s = o, body'.alone s' = o' at halone
    cases halone with
    | gaveUp _ => exact .none
    | found ht => exact ih ht.notedHere

theorem coincides_possessively (hbody : body.Coincides body') (left : Option Nat)
    (h : s.Coincides s') : (possessively body left s).Coincides (possessively body' left s') := by
  induction hn : s.cursor.rest.length using Nat.strongRecOn generalizing left s s' with
  | _ n ih =>
    subst hn
    have halone := coincides_alone hbody h
    rw [possessively, possessively]
    split
    · exact h
    · generalize body.alone s = o, body'.alone s' = o' at halone
      cases halone with
      | gaveUp noted => exact ⟨rfl, rfl⟩
      | @found t t' ht =>
        dsimp only
        simp only [← ht.cursor, ← h.cursor]
        split
        · next hbehind => exact ih _ hbehind _ ht.notedHere rfl
        · exact ht.notedHere

theorem coincides_loop (hbody : body.Coincides body') (kind : Repetition) (least : Nat)
    (most : Option Nat) : (loop kind least most body).Coincides (loop kind least most body') := by
  intro k k' hk s s' h
  cases kind with
  | greedy =>
    have htimes := coincides_times hbody (coincides_greedily hbody hk (extra least most)) least s s' h
    have hnote := htimes.orNote s.cursor
    dsimp only [loop]
    rwa [h.cursor] at hnote ⊢
  | lazy =>
    have htimes := coincides_times hbody (coincides_lazily hbody hk (extra least most)) least s s' h
    have hnote := htimes.orNote s.cursor
    dsimp only [loop]
    rwa [h.cursor] at hnote ⊢
  | possessive =>
    have htimes := coincides_timesAlone hbody least h.notedHere
    dsimp only [loop]
    generalize timesAlone body least s.notedHere = o, timesAlone body' least s'.notedHere = o'
      at htimes
    cases htimes with
    | none =>
      rw [h.cursor]
      exact .gaveUp _
    | some ht => exact hk _ _ (coincides_possessively hbody _ ht)

end Matcher

/-! ### Programs -/

theorem firstPlainCode_unnumberedOps (ops : List Op) :
    firstPlainCode (unnumberedOps ops) = firstPlainCode ops := by
  cases ops with
  | nil => rfl
  | cons op ops => cases op <;> rfl

theorem firstPlainTest_unnumberedOps (ops : List Op) :
    firstPlainTest (unnumberedOps ops) = firstPlainTest ops := by
  cases ops with
  | nil => rfl
  | cons op ops => cases op <;> rfl

mutual

/-- An operation that refers to no group does the same as it does without numbers. -/
theorem Op.coincides_matcher (next : Option CharTest) :
    (op : Op) → op.isFree = true → (op.matcher next).Coincides (op.unnumbered.matcher next)
  | .char test, _ => Matcher.coincides_char test
  | .anchor test, _ => Matcher.coincides_anchor test
  | .openGroup index, _ => Matcher.coincides_openGroup index 0
  | .closeGroup index, _ => Matcher.coincides_closeGroup index 0
  | .branch alternatives, h => by
    intro k k' hk s s' hs
    show (tryEach alternatives s k s.noted).Coincides
      (tryEach (unnumberedBranches alternatives) s' k' s'.noted)
    rw [hs.noted]
    exact coincides_tryEach hk hs alternatives h s'.noted
  | .run .greedy least most test, _ => Matcher.coincides_greedyRun next least most test
  | .run .lazy least most test, _ => Matcher.coincides_lazyRun least most test
  | .run .possessive least most test, _ => Matcher.coincides_possessiveRun least most test
  | .loop kind least most body, h =>
    Matcher.coincides_loop (coincides_matcherOf body h) kind least most
  | .atomic body, h => Matcher.coincides_atomic (coincides_matcherOf body h)
  | .look back true body, h => Matcher.coincides_notAhead (coincides_matcherOf body h) back
  | .look back false body, h => Matcher.coincides_ahead (coincides_matcherOf body h) back

/-- Operations that refer to no group do the same as they do without numbers. -/
theorem coincides_matcherOf : (ops : List Op) → opsAreFree ops = true →
    Matcher.Coincides (matcherOf ops) (matcherOf (unnumberedOps ops))
  | [], _ => fun _ _ hk => hk
  | op :: ops, h => by
    rw [opsAreFree, Bool.and_eq_true] at h
    intro k k' hk
    show Continuation.Coincides (fun s => op.matcher (firstPlainCode ops) s _)
      fun s => op.unnumbered.matcher (firstPlainCode (unnumberedOps ops)) s _
    rw [firstPlainCode_unnumberedOps]
    exact op.coincides_matcher _ h.1 _ _ (coincides_matcherOf ops h.2 _ _ hk)

/-- So do alternatives. -/
theorem coincides_tryEach {k k' : Continuation} (hk : k.Coincides k') {s s' : SearchState}
    (hs : s.Coincides s') : (alternatives : List (List Op)) →
      branchesAreFree alternatives = true → (noted : Cursor) →
      (tryEach alternatives s k noted).Coincides
        (tryEach (unnumberedBranches alternatives) s' k' noted)
  | [], _, noted => .gaveUp noted
  | ops :: alternatives, h, noted => by
    rw [branchesAreFree, Bool.and_eq_true] at h
    rw [unnumberedBranches, tryEach, tryEach, firstPlainTest_unnumberedOps, hs.cursor]
    split
    · exact coincides_tryEach hk hs alternatives h.2 noted
    · exact (coincides_matcherOf ops h.1 _ _ hk _ _ hs.notedHere).orElse
        (coincides_tryEach hk hs alternatives h.2)

end

/-- Two programs that refer to no group and differ in their numbers only find a match or none alike. -/
theorem isFound_alone_congr {ops ops' : List Op} (hfree : opsAreFree ops = true)
    (hfree' : opsAreFree ops' = true) (h : unnumberedOps ops = unnumberedOps ops')
    (s : SearchState) :
    (Matcher.alone (matcherOf ops) s).isFound = (Matcher.alone (matcherOf ops') s).isFound := by
  have hops := Matcher.coincides_alone (coincides_matcherOf ops hfree) (s := s) ⟨rfl, rfl⟩
  have hops' := Matcher.coincides_alone (coincides_matcherOf ops' hfree') (s := s) ⟨rfl, rfl⟩
  rw [hops.isFound_eq, h, ← hops'.isFound_eq]

/-! ## The place that was noted before -/

/-- Whether what remains finds a match does not depend on the place that was noted before. -/
def Forgets (k : Continuation) : Prop :=
  ∀ (s : SearchState) (c : Cursor), (k { s with noted := c }).isFound = (k s).isFound

variable {k : Continuation}

namespace Matcher

/-- The places that a run may end at do not depend on it. -/
theorem runEnds_noted (least : Nat) (most : Option Nat) (test : CharTest) (s : SearchState)
    (c : Cursor) :
    (∃ noted noted', runEnds least most test { s with noted := c } = .error noted ∧
      runEnds least most test s = .error noted') ∨
    ∃ ends, runEnds least most test { s with noted := c } = .ok ends ∧
      runEnds least most test s = .ok ends := by
  dsimp only [runEnds]
  split
  · exact .inl ⟨_, _, rfl, rfl⟩
  · split
    · exact .inl ⟨_, _, rfl, rfl⟩
    · exact .inr ⟨_, rfl, rfl⟩

theorem fromEach_noted (next : Option CharTest) (s : SearchState) (c : Cursor) (k : Continuation)
    (cs : List Cursor) (noted : Cursor) :
    fromEach next { s with noted := c } k cs noted = fromEach next s k cs noted := by
  induction cs generalizing noted with
  | nil => rfl
  | cons d cs ih =>
    rw [fromEach, fromEach, ih]
    simp only [ih]
    rfl

theorem fromEachLazily_noted (test : CharTest) (s : SearchState) (c : Cursor) (k : Continuation)
    (cs : List Cursor) (noted : Cursor) :
    fromEachLazily test { s with noted := c } k cs noted = fromEachLazily test s k cs noted := by
  induction cs generalizing noted with
  | nil => rfl
  | cons d cs ih =>
    rw [fromEachLazily, fromEachLazily]
    simp only [ih]
    rfl

/-- A loop begins by noting where it is. -/
theorem loop_noted (kind : Repetition) (least : Nat) (most : Option Nat) (body : Matcher)
    (s : SearchState) (c : Cursor) (k : Continuation) :
    loop kind least most body { s with noted := c } k = loop kind least most body s k := by
  cases kind with
  | greedy =>
    cases least with
    | zero =>
      dsimp only [loop, times]
      rw [greedily, greedily]
      rfl
    | succ least => rfl
  | lazy =>
    cases least with
    | zero =>
      dsimp only [loop, times]
      rw [lazily, lazily]
      rfl
    | succ least => rfl
  | possessive => rfl

end Matcher

theorem isFound_tryEach_noted (k : Continuation) (s : SearchState) (c : Cursor)
    (alternatives : List (List Op)) (noted noted' : Cursor) :
    (tryEach alternatives { s with noted := c } k noted).isFound =
      (tryEach alternatives s k noted').isFound := by
  induction alternatives generalizing noted noted' with
  | nil => rfl
  | cons ops alternatives ih =>
    rw [tryEach, tryEach]
    split
    · exact ih noted noted'
    · show ((matcherOf ops s.notedHere k).orElse _).isFound =
        ((matcherOf ops s.notedHere k).orElse _).isFound
      cases matcherOf ops s.notedHere k with
      | gaveUp noted => exact ih noted noted
      | found s => rfl

mutual

/-- Whether an operation and what remains find a match does not depend on the place noted before. -/
theorem Op.forgets_matcher (next : Option CharTest) :
    (op : Op) → (k : Continuation) → Forgets k → Forgets fun s => op.matcher next s k
  | .char test, k, hk => by
    intro s c
    dsimp only [Op.matcher, Matcher.char]
    split
    · exact hk (s.moved _) c
    · rfl
  | .anchor test, k, hk => by
    intro s c
    dsimp only [Op.matcher, Matcher.anchor]
    split
    · exact hk s c
    · rfl
  | .openGroup index, k, hk => fun s c => hk { s with openings := (index, s.cursor) :: s.openings } c
  | .closeGroup index, k, hk => fun s c => hk { s with closings := (index, s.cursor) :: s.closings } c
  | .reference index comparison, k, hk => by
    intro s c
    show (match (s.groupText? index).bind fun t => Matcher.behind? comparison t s.cursor with
      | some d => k { s.moved d with noted := c }
      | none => .gaveUp c).isFound = (Matcher.reference index comparison s k).isFound
    rw [Matcher.reference]
    cases (s.groupText? index).bind fun t => Matcher.behind? comparison t s.cursor with
    | none => rfl
    | some d => exact hk (s.moved d) c
  | .conditional index yes no, k, hk => by
    intro s c
    show (if (s.groupText? index).isSome then matcherOf yes { s with noted := c } k
      else matcherOf no { s with noted := c } k).isFound =
        (Matcher.conditional index (matcherOf yes) (matcherOf no) s k).isFound
    rw [Matcher.conditional]
    split
    · exact forgets_matcherOf yes k hk s c
    · exact forgets_matcherOf no k hk s c
  | .branch alternatives, k, hk => fun s c => isFound_tryEach_noted k s c alternatives c s.noted
  | .run .greedy least most test, k, hk => by
    intro s c
    dsimp only [Op.matcher, Matcher.greedyRun]
    rcases Matcher.runEnds_noted least most test s c with ⟨_, _, h, h'⟩ | ⟨ends, h, h'⟩
    · rw [h, h']
      rfl
    · rw [h, h']
      exact congrArg Outcome.isFound (Matcher.fromEach_noted next s c k _ _)
  | .run .lazy least most test, k, hk => by
    intro s c
    dsimp only [Op.matcher, Matcher.lazyRun]
    rcases Matcher.runEnds_noted least (some least) test s c with ⟨_, _, h, h'⟩ | ⟨ends, h, h'⟩
    · rw [h, h']
      rfl
    · rw [h, h']
      exact congrArg Outcome.isFound (Matcher.fromEachLazily_noted test s c k _ _)
  | .run .possessive least most test, k, hk => by
    intro s c
    dsimp only [Op.matcher, Matcher.possessiveRun]
    rcases Matcher.runEnds_noted least most test s c with ⟨_, _, h, h'⟩ | ⟨ends, h, h'⟩
    · rw [h, h']
      rfl
    · rw [h, h']
      rfl
  | .loop kind least most body, k, hk => fun s c =>
    congrArg Outcome.isFound (Matcher.loop_noted kind least most (matcherOf body) s c k)
  | .atomic body, _, _ => fun _ _ => rfl
  | .look back true body, k, hk => by
    intro s c
    show (Matcher.notAhead back (matcherOf body) { s with noted := c } k).isFound =
      (Matcher.notAhead back (matcherOf body) s k).isFound
    dsimp only [Matcher.notAhead]
    split
    · exact hk s c
    · rfl
  | .look back false body, k, hk => by
    intro s c
    show (Matcher.ahead back (matcherOf body) { s with noted := c } k).isFound =
      (Matcher.ahead back (matcherOf body) s k).isFound
    dsimp only [Matcher.ahead]
    split
    · rfl
    · rfl

/-- Whether operations and what remains find a match does not depend on the place noted before. -/
theorem forgets_matcherOf :
    (ops : List Op) → (k : Continuation) → Forgets k → Forgets fun s => matcherOf ops s k
  | [], _, hk => hk
  | op :: ops, k, hk =>
    op.forgets_matcher (firstPlainCode ops) _ (forgets_matcherOf ops k hk)

end

/-! ## Parts in a row -/

theorem firstPlainCode_append {behind : List Op} (h : firstPlainCode behind = none)
    (ops : List Op) : firstPlainCode (ops ++ behind) = firstPlainCode ops := by
  cases ops with
  | nil => exact h
  | cons op ops => cases op <;> rfl

/-- What stands behind a program is what remains when that is done, unless it begins with a plain
character that the last repetition looks out for. -/
theorem matcherOf_append {behind : List Op} (h : firstPlainCode behind = none) (ops : List Op)
    (s : SearchState) (k : Continuation) :
    matcherOf (ops ++ behind) s k = matcherOf ops s fun s => matcherOf behind s k := by
  induction ops generalizing s with
  | nil => rfl
  | cons op ops ih =>
    show op.matcher (firstPlainCode (ops ++ behind)) s (fun s => matcherOf (ops ++ behind) s k) = _
    rw [firstPlainCode_append h]
    simp only [ih]
    rfl

end UrlRouting.Regex
