import UrlRouting.Proofs.Regex.Language
import UrlRouting.Regex.Search

/-!
# The search finds what the language holds

What remains to be done behind a part stands for the language of the rests of the text in front of
which it finds a match, and a part reads a language `l` if `l * p` stands in front of it whenever `p`
stands behind it.  So parts in a row multiply, choices add up, and a loop unrolls like the
repetition that it is.

Three devices of the search must not lose a match: a run skips the places where the next character
is refused, an alternative is skipped where its first character is refused, and a loop is left when a
repetition makes no headway.  The main statement is `decides_matcherOf`: in front of anything, a
regular program reads its language.
-/

namespace UrlRouting.Regex

/-- What remains finds a match exactly in front of the texts of a language. -/
def Decides (k : Continuation) (p : Language Char) : Prop :=
  ∀ s, (k s).isFound = true ↔ s.cursor.rest ∈ p

/-- What remains finds no match where the next character is refused. -/
def Respects (next : Option CharTest) (k : Continuation) : Prop :=
  ∀ s, Matcher.isRefused next s.cursor = true → (k s).isFound = false

/-- A part reads a language in front of everything that finds no match where the next character is
refused. -/
def Matcher.Reads (next : Option CharTest) (m : Matcher) (l : Language Char) : Prop :=
  ∀ k p, Decides k p → Respects next k → Decides (fun s => m s k) (l * p)

variable {k : Continuation} {l p : Language Char} {next : Option CharTest} {body : Matcher}

theorem respects_none (k : Continuation) : Respects none k := by
  intro s h
  cases h

namespace Outcome

/-- Another attempt finds a match where the first one did not. -/
theorem isFound_orElse_iff {o : Outcome} {attempt : Cursor → Outcome} {q : Prop}
    (h : ∀ noted, (attempt noted).isFound = true ↔ q) :
    (o.orElse attempt).isFound = true ↔ o.isFound = true ∨ q := by
  cases o with
  | gaveUp noted =>
    rw [orElse, h, isFound]
    simp
  | found s => simp [orElse, isFound]

@[simp] theorem isFound_orNote (o : Outcome) (c : Cursor) : (o.orNote c).isFound = o.isFound := by
  cases o <;> rfl

end Outcome

/-! ## Single characters -/

theorem cons_mem_charLanguage_mul {test : CharTest} {c : Char} {t : Text} :
    c :: t ∈ test.language * p ↔ Cursor.passes test c = true ∧ t ∈ p := by
  rw [Language.mem_mul]
  constructor
  · rintro ⟨u, ⟨d, hd, rfl⟩, v, hv, h⟩
    obtain ⟨rfl, rfl⟩ := List.cons.inj h
    exact ⟨hd, hv⟩
  · rintro ⟨hc, ht⟩
    exact ⟨[c], ⟨c, hc, rfl⟩, t, ht, rfl⟩

theorem nil_notMem_charLanguage_mul {test : CharTest} : [] ∉ test.language * p := by
  rw [Language.mem_mul]
  rintro ⟨u, ⟨d, -, rfl⟩, v, -, h⟩
  cases h

/-- Where the next character is refused, no text begins that begins with it. -/
theorem not_mem_of_isRefused {test : CharTest} {c : Cursor}
    (h : Matcher.isRefused (some test) c = true) : c.rest ∉ test.language * p := by
  obtain ⟨before, rest⟩ := c
  cases rest with
  | nil => exact nil_notMem_charLanguage_mul
  | cons c rest =>
    intro hmem
    have hc := (cons_mem_charLanguage_mul.1 hmem).1
    simp [Matcher.isRefused, Cursor.over?, hc] at h

theorem reads_char (next : Option CharTest) (test : CharTest) :
    Matcher.Reads next (.char test) test.language := by
  intro k p hk _ s
  obtain ⟨⟨before, rest⟩, openings, closings, noted⟩ := s
  cases rest with
  | nil => simp [Matcher.char, Cursor.over?, Outcome.isFound, nil_notMem_charLanguage_mul]
  | cons c rest =>
    show _ ↔ c :: rest ∈ test.language * p
    rw [cons_mem_charLanguage_mul]
    simp only [Matcher.char, Cursor.over?]
    split
    · next c' hc' =>
      split at hc'
      · next hc =>
        cases hc'
        rw [hk]
        exact ⟨fun h => ⟨hc, h⟩, fun h => h.2⟩
      · cases hc'
    · next hc' =>
      split at hc'
      · cases hc'
      · next hc => simp [Outcome.isFound, hc]

/-! ## Runs of a single character -/

theorem nil_notMem_repeated_succ_mul {least : Nat} {most : Option Nat} {test : CharTest} :
    [] ∉ repeated (least + 1) most test.language * p := by
  rw [repeated_succ_eq]
  split
  · rw [zero_mul]
    exact Language.notMem_zero _
  · rw [mul_assoc]
    exact nil_notMem_charLanguage_mul

theorem cons_mem_repeated_succ_mul {least : Nat} {most : Option Nat} {test : CharTest} {c : Char}
    {t : Text} :
    c :: t ∈ repeated (least + 1) most test.language * p ↔
      (most ≠ some 0 ∧ Cursor.passes test c = true) ∧
        t ∈ repeated least (most.map (· - 1)) test.language * p := by
  rw [repeated_succ_eq]
  split
  · next h => simp [h]
  · next h =>
    rw [mul_assoc, cons_mem_charLanguage_mul]
    simp [h]

/-- A text begins with any number of texts if what remains begins there, or if it begins with at
least one of them. -/
theorem mem_repeated_zero_mul {most : Option Nat} {t : Text} :
    t ∈ repeated 0 most l * p ↔ t ∈ p ∨ t ∈ repeated 1 most l * p := by
  rw [repeated_zero_eq_add, add_mul, one_mul, Language.mem_add]

/-- The places where a run may end are those in front of which what remains can stand. -/
theorem exists_mem_stops_iff (test : CharTest) (before t : Text) (least : Nat)
    (most : Option Nat) :
    (∃ c ∈ (Cursor.stops test before t most).drop least, c.rest ∈ p) ↔
      t ∈ repeated least most test.language * p := by
  induction t generalizing before least most with
  | nil =>
    cases least with
    | zero =>
      rw [mem_repeated_zero_mul, or_iff_left nil_notMem_repeated_succ_mul]
      simp [Cursor.stops]
    | succ least => simp [Cursor.stops, nil_notMem_repeated_succ_mul]
  | cons c t ih =>
    have hbehind : ∀ least,
        (∃ d ∈ (if most ≠ some 0 && Cursor.passes test c then
            Cursor.stops test (c :: before) t (most.map (· - 1)) else []).drop least, d.rest ∈ p) ↔
          c :: t ∈ repeated (least + 1) most test.language * p := by
      intro least
      rw [cons_mem_repeated_succ_mul, ← ih (c :: before) least]
      split
      · next h => simp only [Bool.and_eq_true, decide_eq_true_eq] at h; simp [h]
      · next h => simp only [Bool.and_eq_true, decide_eq_true_eq] at h; simp [h]
    cases least with
    | zero =>
      rw [mem_repeated_zero_mul, ← hbehind 0, Cursor.stops, List.drop_zero, List.drop_zero,
        List.exists_mem_cons_iff]
    | succ least => rw [← hbehind least, Cursor.stops, List.drop_succ_cons]

theorem isFound_fromEach_iff (hk : Decides k p) (hnext : Respects next k) (s : SearchState)
    (cs : List Cursor) (noted : Cursor) :
    (Matcher.fromEach next s k cs noted).isFound = true ↔ ∃ c ∈ cs, c.rest ∈ p := by
  induction cs generalizing noted with
  | nil => simp [Matcher.fromEach, Outcome.isFound]
  | cons c cs ih =>
    rw [Matcher.fromEach, List.exists_mem_cons_iff]
    split
    · next h =>
      -- a place that is skipped is one where what remains finds nothing
      have hc : c.rest ∉ p := by
        intro hc
        have hfound := (hk (s.movedNoted c)).2 hc
        rw [hnext (s.movedNoted c) h] at hfound
        exact Bool.false_ne_true hfound
      rw [ih, or_iff_right hc]
    · rw [Outcome.isFound_orElse_iff ih, hk]
      rfl

theorem isFound_fromEachLazily_iff (hk : Decides k p) (test : CharTest) (s : SearchState)
    (cs : List Cursor) (noted : Cursor) :
    (Matcher.fromEachLazily test s k cs noted).isFound = true ↔ ∃ c ∈ cs, c.rest ∈ p := by
  induction cs generalizing noted with
  | nil => simp [Matcher.fromEachLazily, Outcome.isFound]
  | cons c cs ih =>
    rw [Matcher.fromEachLazily, List.exists_mem_cons_iff,
      Outcome.isFound_orElse_iff fun _ => ih _, hk]
    rfl

theorem length_stops_le (test : CharTest) (before t : Text) (most : Option Nat) :
    (Cursor.stops test before t most).length ≤ t.length + 1 := by
  induction t generalizing before most with
  | nil => simp [Cursor.stops]
  | cons c t ih =>
    rw [Cursor.stops]
    split
    · simpa using ih _ _
    · simp

/-- The places where a run may end are those behind at least as many characters as it must have;
without one the run is given up. -/
theorem runEnds_cases (least : Nat) (most : Option Nat) (test : CharTest) (s : SearchState) :
    let ends := (Cursor.stops test s.cursor.before s.cursor.rest most).drop least
    (ends = [] ∧ ∃ noted, Matcher.runEnds least most test s = .error noted) ∨
      ∃ noted, Matcher.runEnds least most test s = .ok (ends, noted) := by
  intro ends
  have hlength := length_stops_le test s.cursor.before s.cursor.rest most
  rw [Matcher.runEnds]
  split
  · next h => exact .inl ⟨List.drop_eq_nil_of_le (by omega), _, rfl⟩
  · dsimp only
    split
    · next h => exact .inl ⟨List.drop_eq_nil_of_le h, _, rfl⟩
    · exact .inr ⟨_, rfl⟩

theorem reads_greedyRun (next : Option CharTest) (least : Nat) (most : Option Nat)
    (test : CharTest) :
    Matcher.Reads next (.greedyRun next least most test) (repeated least most test.language) := by
  intro k p hk hnext s
  rw [← exists_mem_stops_iff test s.cursor.before]
  simp only [Matcher.greedyRun]
  rcases runEnds_cases least most test s with ⟨hnil, noted, h⟩ | ⟨noted, h⟩
  · rw [h, hnil]
    simp [Outcome.isFound]
  · rw [h]
    show (Matcher.fromEach next s k _ noted).isFound = true ↔ _
    rw [isFound_fromEach_iff hk hnext]
    simp only [List.mem_reverse]

theorem reads_lazyRun (next : Option CharTest) {least : Nat} {most : Option Nat}
    (hcount : ∀ m ∈ most, least ≤ m) (test : CharTest) :
    Matcher.Reads next (.lazyRun least most test) (repeated least most test.language) := by
  intro k p hk _ s
  simp only [Matcher.lazyRun]
  rcases runEnds_cases least (some least) test s with ⟨hnil, noted, h⟩ | ⟨noted, h⟩
  · -- too few characters pass for the least count, so no count is reached
    have hnone : s.cursor.rest ∉ repeated least (some least) test.language * ⊤ := by
      rw [← exists_mem_stops_iff test s.cursor.before, hnil]
      simp
    rw [h]
    refine iff_of_false Bool.false_ne_true fun hmem => hnone ?_
    rw [← pow_mul_repeated hcount, mul_assoc, Language.mem_mul] at hmem
    obtain ⟨u, hu, v, -, huv⟩ := hmem
    rw [Language.mem_mul]
    exact ⟨u, ⟨least, le_refl least, fun m hm => by cases hm; exact le_refl least, hu⟩, v,
      trivial, huv⟩
  · rw [h]
    show (Matcher.fromEachLazily test s k _ s.cursor).isFound = true ↔ _
    rw [isFound_fromEachLazily_iff hk, exists_mem_stops_iff]

/-! ## Loops over a sequence -/

/-- What a loop has to find behind its next repetition, begun in front of a text: with headway
another round of the loop, else what remains. -/
def behindRound (most : Option Nat) (l p : Language Char) (t : Text) : Language Char :=
  {r | if r.length < t.length then r ∈ repeated 0 (most.map (· - 1)) l * p else r ∈ p}

/-- A repetition that makes no headway can be left out, so that every text of a repetition is read
by rounds that make some. -/
theorem mem_repeated_mul_iff {most : Option Nat} (hmost : most ≠ some 0) (t : Text) :
    t ∈ repeated 0 most l * p ↔ t ∈ l * behindRound most l p t ∨ t ∈ p := by
  constructor
  · intro h
    rw [Language.mem_mul] at h
    obtain ⟨u, ⟨n, -, hn, hu⟩, v, hv, rfl⟩ := h
    induction n generalizing u with
    | zero =>
      rw [pow_zero, Language.mem_one] at hu
      subst hu
      exact .inr hv
    | succ n ih =>
      obtain ⟨-, hn'⟩ := forall_mem_succ_le_iff.1 hn
      rw [pow_succ', Language.mem_mul] at hu
      obtain ⟨a, ha, b, hb, rfl⟩ := hu
      cases a with
      | nil => exact ih b (fun m hm => le_of_lt (hn m hm)) hb
      | cons c a =>
        have hlength : (b ++ v).length < (c :: a ++ b ++ v).length := by
          simp only [List.length_append, List.length_cons]
          omega
        rw [List.append_assoc]
        refine .inl (Language.append_mem_mul ha ?_)
        show ite _ _ _
        rw [← List.append_assoc, if_pos hlength]
        exact Language.append_mem_mul ⟨n, Nat.zero_le n, hn', hb⟩ hv
  · rw [Language.mem_mul, Language.mem_mul]
    rintro (⟨a, ha, r, hr, rfl⟩ | ht)
    · replace hr : ite _ _ _ := hr
      split at hr
      · obtain ⟨b, ⟨n, -, hn, hb⟩, v, hv, rfl⟩ := Language.mem_mul.1 hr
        refine ⟨a ++ b, ⟨n + 1, Nat.zero_le _, forall_mem_succ_le_iff.2 ⟨hmost, hn⟩, ?_⟩, v, hv,
          List.append_assoc a b v⟩
        rw [pow_succ']
        exact Language.append_mem_mul ha hb
      · next hlength =>
        have hnil : a = [] := by
          rw [List.length_append] at hlength
          exact List.eq_nil_of_length_eq_zero (by omega)
        exact ⟨[], ⟨0, le_refl 0, fun m _ => Nat.zero_le m, Language.nil_mem_one⟩, r, hr,
          by rw [hnil]⟩
    · exact ⟨[], ⟨0, le_refl 0, fun m _ => Nat.zero_le m, Language.nil_mem_one⟩, t, ht, rfl⟩

theorem repeated_some_zero (l : Language Char) : repeated 0 (some 0) l = 1 := by
  rw [repeated_zero_eq_add, repeated_succ_eq, if_pos rfl, add_zero]

theorem isFound_leave (k : Continuation) (s : SearchState) :
    (Matcher.leave s k).isFound = (k s.notedHere).isFound :=
  Outcome.isFound_orNote _ _

theorem decides_times (hbody : body.Reads none l) (hk : Decides k p) (n : Nat) :
    Decides (fun s => Matcher.times body n s k) (l ^ n * p) := by
  induction n with
  | zero =>
    rw [pow_zero, one_mul]
    exact hk
  | succ n ih =>
    intro s
    show (Matcher.times body (n + 1) s k).isFound = true ↔ _
    rw [Matcher.times, Outcome.isFound_orNote, pow_succ', mul_assoc]
    exact hbody _ _ ih (respects_none _) s.notedHere

/-- A round of a loop: a repetition, and behind it another round or what remains. -/
theorem decides_round (hbody : body.Reads none l) (hk : Decides k p) {most : Option Nat}
    {s : SearchState} {again : Continuation}
    (hagain : ∀ s', s'.cursor.rest.length < s.cursor.rest.length →
      ((again s').isFound = true ↔ s'.cursor.rest ∈ repeated 0 (most.map (· - 1)) l * p)) :
    (body s.notedHere fun s' =>
        if Matcher.isBehind s'.cursor s.cursor then again s'
        else Matcher.leave s' k).isFound = true ↔
      s.cursor.rest ∈ l * behindRound most l p s.cursor.rest := by
  refine hbody _ _ (fun s' => ?_) (respects_none _) s.notedHere
  show _ ↔ ite _ _ _
  split
  · next h => rw [hagain s' h, if_pos (show s'.cursor.rest.length < s.cursor.rest.length from h)]
  · next h =>
    rw [isFound_leave, hk, if_neg (show ¬ s'.cursor.rest.length < s.cursor.rest.length from h)]
    rfl

theorem decides_greedily (hbody : body.Reads none l) (hk : Decides k p) (most : Option Nat) :
    Decides (fun s => Matcher.greedily body most s k) (repeated 0 most l * p) := by
  intro s
  induction hn : s.cursor.rest.length using Nat.strong_induction_on generalizing most s with
  | _ n ih =>
    subst hn
    show (Matcher.greedily body most s k).isFound = true ↔ _
    rw [Matcher.greedily]
    split
    · next h =>
      rw [h, repeated_some_zero, one_mul, isFound_leave, hk]
      rfl
    · next h =>
      rw [Outcome.isFound_orElse_iff fun _ => by rw [isFound_leave, hk], mem_repeated_mul_iff h]
      refine or_congr (decides_round hbody hk fun s' hs' => ?_) Iff.rfl
      exact ih _ hs' _ s' rfl

theorem decides_lazily (hbody : body.Reads none l) (hk : Decides k p) (most : Option Nat) :
    Decides (fun s => Matcher.lazily body most s k) (repeated 0 most l * p) := by
  intro s
  induction hn : s.cursor.rest.length using Nat.strong_induction_on generalizing most s with
  | _ n ih =>
    subst hn
    show (Matcher.lazily body most s k).isFound = true ↔ _
    rw [Matcher.lazily]
    by_cases h : most = some 0
    · rw [h, repeated_some_zero, one_mul, Outcome.isFound_orElse_iff fun _ => Iff.rfl,
        isFound_leave, hk]
      simp only [if_pos, Outcome.isFound, Bool.false_eq_true, or_false]
      rfl
    · have hround := decides_round hbody hk fun s' hs' => ih _ hs' (most.map (· - 1)) s' rfl
      rw [mem_repeated_mul_iff h, or_comm, ← hround, Outcome.isFound_orElse_iff fun _ => by
        rw [if_neg h, Outcome.isFound_orNote], isFound_leave, hk]
      rfl

theorem forall_le_of_isCounted {kind : Repetition} {least : Nat} {most : Option Nat}
    (h : isCounted kind least most = true) : ∀ m ∈ most, least ≤ m := by
  rw [isCounted, Bool.and_eq_true] at h
  simpa [Option.all_eq_true] using h.2

theorem reads_loop (next : Option CharTest) {kind : Repetition} {least : Nat}
    {most : Option Nat} (hcounted : isCounted kind least most = true)
    (hbody : body.Reads none l) :
    Matcher.Reads next (.loop kind least most body) (repeated least most l) := by
  intro k p hk _ s
  rw [← pow_mul_repeated (forall_le_of_isCounted hcounted), mul_assoc]
  cases kind with
  | greedy =>
    show (Outcome.orNote _ _).isFound = true ↔ _
    rw [Outcome.isFound_orNote]
    exact decides_times hbody (decides_greedily hbody hk _) least s
  | lazy =>
    show (Outcome.orNote _ _).isFound = true ↔ _
    rw [Outcome.isFound_orNote]
    exact decides_times hbody (decides_lazily hbody hk _) least s
  | possessive => cases hcounted

/-! ## Programs -/

/-- A program that begins with a plain character finds no match where that is refused. -/
theorem respects_firstPlainCode (ops : List Op) (k : Continuation) :
    Respects (firstPlainCode ops) fun s => matcherOf ops s k := by
  unfold firstPlainCode
  split
  · next test ops =>
    split
    · intro s h
      have hnone : s.cursor.over? test = none := by simpa [Matcher.isRefused] using h
      show (Matcher.char test s fun s => matcherOf ops s k).isFound = false
      simp [Matcher.char, hnone, Outcome.isFound]
    · exact respects_none _
  · exact respects_none _

/-- A program that begins with a plain test stands for no text that begins where that is
refused. -/
theorem not_mem_of_refused_first {ops : List Op} {c : Cursor}
    (h : Matcher.isRefused (firstPlainTest ops) c = true) : c.rest ∉ languageOf ops * p := by
  unfold firstPlainTest at h
  split at h
  · next test ops =>
    split at h
    · rw [languageOf, Op.language, mul_assoc]
      exact not_mem_of_isRefused h
    · cases h
  · cases h

mutual

/-- A regular operation reads its language. -/
theorem Op.reads_matcher (next : Option CharTest) :
    (op : Op) → op.isRegular = true → (op.matcher next).Reads next op.language
  | .char test, _ => reads_char next test
  | .openGroup index, _ => by
    intro k p hk _ s
    rw [Op.language, one_mul]
    exact hk _
  | .closeGroup index, _ => by
    intro k p hk _ s
    rw [Op.language, one_mul]
    exact hk _
  | .branch alternatives, h => by
    intro k p hk _ s
    exact isFound_tryEach_iff alternatives h hk s s.noted
  | .run .greedy least most test, _ => reads_greedyRun next least most test
  | .run .lazy least most test, h =>
    reads_lazyRun next (forall_le_of_isCounted h) test
  | .loop kind least most body, h => by
    rw [Op.isRegular, Bool.and_eq_true] at h
    exact reads_loop next h.1 fun k p hk _ => by simpa using decides_matcherOf body h.2 [] hk

/-- In front of anything, a regular program reads its language. -/
theorem decides_matcherOf {k : Continuation} {p : Language Char} :
    (ops : List Op) → areRegular ops = true → (behind : List Op) →
      Decides (fun s => matcherOf behind s k) p →
      Decides (fun s => matcherOf (ops ++ behind) s k) (languageOf ops * p)
  | [], _, behind, hk => by
    rw [languageOf, one_mul]
    exact hk
  | op :: ops, h, behind, hk => by
    rw [areRegular, Bool.and_eq_true] at h
    rw [languageOf, mul_assoc]
    exact op.reads_matcher _ h.1 _ _ (decides_matcherOf ops h.2 behind hk)
      (respects_firstPlainCode _ k)

/-- Regular alternatives read the texts of each of them. -/
theorem isFound_tryEach_iff {k : Continuation} {p : Language Char} :
    (alternatives : List (List Op)) → areAllRegular alternatives = true → Decides k p →
      (s : SearchState) → (noted : Cursor) →
      ((tryEach alternatives s k noted).isFound = true ↔
        s.cursor.rest ∈ languageOfAny alternatives * p)
  | [], _, _, s, noted => by
    rw [languageOfAny, zero_mul]
    simp [tryEach, Outcome.isFound]
  | ops :: alternatives, h, hk, s, noted => by
    rw [areAllRegular, Bool.and_eq_true] at h
    have ih := isFound_tryEach_iff alternatives h.2 hk s
    have hops : Decides (fun s => matcherOf ops s k) (languageOf ops * p) := by
      simpa using decides_matcherOf ops h.1 [] hk
    rw [tryEach, languageOfAny, add_mul, Language.mem_add]
    split
    · next hrefused => rw [ih, or_iff_right (not_mem_of_refused_first hrefused)]
    · rw [Outcome.isFound_orElse_iff ih, hops]
      rfl

end

end UrlRouting.Regex
