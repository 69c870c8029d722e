import UrlRouting.Proofs.Regex.Rule
import UrlRouting.Proofs.Regex.Traces

/-!
# Alternatives that are joined

What alternatives are joined to finds a match if and only if one of those that are kept does
(`finds_joined_iff`): the items that all begin with lead to one place or none, an alternative that is
not tried would find nothing, and one that was tried in vain leaves no trace.  This holds in front of
everything that forgets the place noted before, and for alternatives of every kind.

All alternatives are kept but those that a set makes of a capital letter beyond the basic plane.  They
find something only in front of a letter with two cases from there.
-/

namespace UrlRouting.Regex

variable {items others shared : List Item} {alternatives rest : List (List Item)}

/-! ## What the joined alternatives hold -/

variable {s : SearchState} {k : Continuation} {item : Item}

/-- Whether items find a match in front of what remains. -/
def Finds (items : List Item) (s : SearchState) (k : Continuation) : Prop :=
  (matcherOf (Op.ofItems .rule items) s k).isFound = true

theorem finds_char_iff {test : CharTest} (h : Op.ofItem .rule item = [.char test]) :
    Finds (item :: items) s k ↔
      ∃ c, s.cursor.over? test = some c ∧ Finds items (s.moved c) k := by
  have hops : matcherOf (Op.ofItems .rule (item :: items)) s k =
      Matcher.char test s fun s => matcherOf (Op.ofItems .rule items) s k := by
    rw [ofItems_cons, h]
    rfl
  rw [Finds, hops, Matcher.char]
  cases s.cursor.over? test with
  | none => simp [Outcome.isFound]
  | some c => simp [Finds]

theorem finds_anchor_iff {test : AnchorTest} (h : Op.ofItem .rule item = [.anchor test]) :
    Finds (item :: items) s k ↔ s.cursor.holds test = true ∧ Finds items s k := by
  have hops : matcherOf (Op.ofItems .rule (item :: items)) s k =
      Matcher.anchor test s fun s => matcherOf (Op.ofItems .rule items) s k := by
    rw [ofItems_cons, h]
    rfl
  rw [Finds, hops, Matcher.anchor]
  split
  · next hholds => simp [hholds, Finds]
  · next hholds => simp [hholds, Outcome.isFound]

/-- A leaf is a test of a character or an anchor. -/
theorem ofItem_of_isLeaf (h : item.isLeaf = true) :
    (∃ test, Op.ofItem .rule item = [.char test]) ∨
      ∃ test, Op.ofItem .rule item = [.anchor test] := by
  cases item with
  | anchor place => exact .inr ⟨_, rfl⟩
  | code => exact .inl ⟨_, rfl⟩
  | notCode => exact .inl ⟨_, rfl⟩
  | any => exact .inl ⟨_, rfl⟩
  | set => exact .inl ⟨_, rfl⟩
  | _ => cases h

/-- The place behind a character is in front of what stood behind that. -/
theorem rest_suffix_of_over? {test : CharTest} {c d : Cursor} (h : c.over? test = some d) :
    d.rest <:+ c.rest := by
  obtain ⟨before, rest⟩ := c
  cases rest with
  | nil => cases h
  | cons x rest =>
    rw [Cursor.over?] at h
    split at h
    · cases h
      exact List.suffix_cons x rest
    · cases h

/-- Leaves lead to one place or none, so that a choice behind them is one between all that they stand
in front of. -/
theorem finds_leaves_append_iff (hleaves : ∀ item ∈ shared, item.isLeaf = true)
    (h : ∀ s' : SearchState, s'.cursor.rest <:+ s.cursor.rest →
      (Finds others s' k ↔ ∃ left ∈ rest, Finds left s' k)) :
    Finds (shared ++ others) s k ↔ ∃ left ∈ rest, Finds (shared ++ left) s k := by
  induction shared generalizing s with
  | nil => exact h s List.suffix_rfl
  | cons item shared ih =>
    rw [List.forall_mem_cons] at hleaves
    simp only [List.cons_append]
    rcases ofItem_of_isLeaf hleaves.1 with ⟨test, hop⟩ | ⟨test, hop⟩
    · simp only [finds_char_iff hop]
      cases hover : s.cursor.over? test with
      | none => simp
      | some c =>
        have hbehind := ih hleaves.2 (s := s.moved c) fun s' hs' =>
          h s' (hs'.trans (rest_suffix_of_over? hover))
        simpa using hbehind
    · simp only [finds_anchor_iff hop]
      rw [ih hleaves.2 h]
      by_cases hholds : s.cursor.holds test = true
      · simp [hholds]
      · simp [hholds]

/-! ## Choices -/

/-- An alternative that is not tried would find nothing. -/
theorem isFound_of_isRefused {ops : List Op}
    (h : Matcher.isRefused (firstPlainTest ops) s.cursor = true) :
    (matcherOf ops s k).isFound = false := by
  unfold firstPlainTest at h
  split at h
  · next test ops =>
    split at h
    · have hnone : s.cursor.over? test = none := by simpa [Matcher.isRefused] using h
      show (Matcher.char test s fun s => matcherOf ops s k).isFound = false
      simp [Matcher.char, hnone, Outcome.isFound]
    · cases h
  · cases h

/-- Alternatives that are tried in order find a match if and only if one of them does. -/
theorem isFound_tryEach_iff_exists (hk : Forgets k) (s : SearchState)
    (alternatives : List (List Op)) (noted : Cursor) :
    (tryEach alternatives s k noted).isFound = true ↔
      ∃ ops ∈ alternatives, (matcherOf ops s k).isFound = true := by
  induction alternatives generalizing noted with
  | nil => simp [tryEach, Outcome.isFound]
  | cons ops alternatives ih =>
    rw [tryEach, List.exists_mem_cons_iff]
    split
    · next hrefused =>
      rw [ih, isFound_of_isRefused hrefused]
      simp
    · have hnoted : (matcherOf ops s.notedHere k).isFound = (matcherOf ops s k).isFound :=
        forgets_matcherOf ops k hk s s.cursor
      rw [Outcome.isFound_orElse_iff ih, hnoted]

theorem ofAlternatives_eq_map (m : Modes) (alternatives : List (List Item)) :
    Op.ofAlternatives m alternatives = alternatives.map (Op.ofItems m) := by
  induction alternatives with
  | nil => rfl
  | cons items alternatives ih => rw [Op.ofAlternatives, ih, List.map_cons]

theorem finds_branch_iff (hk : Forgets k) (s : SearchState) (alternatives : List (List Item)) :
    Finds [.branch alternatives] s k ↔ ∃ items ∈ alternatives, Finds items s k := by
  show (tryEach (Op.ofAlternatives .rule alternatives) s k s.noted).isFound = true ↔ _
  rw [isFound_tryEach_iff_exists hk, ofAlternatives_eq_map]
  simp [Finds]

/-! ## Sets of what alternatives hold -/

/-- Whether a character is a letter with two cases beyond the basic plane. -/
def isHighLetter (c : Char) : Bool := c.toNat > basicPlaneEnd && Text.isCasedCode c.toNat

theorem isHighLetter_eq_false_iff {c : Char} :
    isHighLetter c = false ↔ c.toNat ≤ basicPlaneEnd ∨ Text.isCasedCode c.toNat = false := by
  rw [isHighLetter, Bool.and_eq_false_iff, decide_eq_false_iff_not, Nat.not_lt]

/-- Whether one of the members holds a character by its lower form. -/
def membersHold (members : List Member) (c : Char) : Bool :=
  members.any (·.holdsFolded .unicode (Text.lowerCode c.toNat))

/-- A single character or a set is a test for what its members hold, unless it is a capital letter
beyond the basic plane and the character is such a letter. -/
theorem exists_test_of_members? {members : List Member} (h : members? items = some members) :
    ∃ item test, items = [item] ∧ Op.ofItem .rule item = [.char test] ∧
      ∀ c : Char, isHighCapital items = false ∨ isHighLetter c = false →
        Cursor.passes test c = membersHold members c := by
  unfold members? at h
  split at h
  · next code =>
    cases h
    refine ⟨_, _, rfl, ofItem_code code, fun c hc => ?_⟩
    have haccepts : (CharTest.ofCode true .unicode false code).accepts c.toNat =
        ((Member.code code).holdsFolded .unicode (Text.lowerCode c.toNat) != false) :=
      hc.elim (fun h => CharTest.accepts_ofCode (isHighCapital_code_eq_false_iff.1 h) _ _)
        fun h => CharTest.accepts_ofCode_of_not_high (isHighLetter_eq_false_iff.1 h) _ _
    rw [Cursor.passes, haccepts, Bool.bne_false, membersHold, List.any_cons, List.any_nil,
      Bool.or_false]
  · cases h
    refine ⟨_, _, rfl, ofItem_set false _, fun c _ => ?_⟩
    rw [Cursor.passes, CharTest.accepts_ofMembers, Bool.bne_false, membersHold]
  · cases h

/-- The next character is one for which a test holds, and a match is found behind it. -/
def FindsBehind (holds : Char → Bool) (s : SearchState) (k : Continuation) : Prop :=
  ∃ c u, s.cursor.rest = c :: u ∧ holds c = true ∧
    Finds [] (s.moved ⟨c :: s.cursor.before, u⟩) k

/-- A single character or a set finds a match behind what its members hold. -/
theorem finds_iff_of_members? {members : List Member} (h : members? items = some members)
    (hhigh : isHighCapital items = false ∨ ∀ c ∈ s.cursor.rest, isHighLetter c = false) :
    Finds items s k ↔ FindsBehind (membersHold members) s k := by
  obtain ⟨item, test, rfl, hop, htest⟩ := exists_test_of_members? h
  rw [finds_char_iff hop, FindsBehind]
  obtain ⟨⟨before, text⟩, openings, closings, noted⟩ := s
  cases text with
  | nil => simp [Cursor.over?]
  | cons c u =>
    rw [Cursor.over?, htest c (hhigh.imp_right fun h => h c List.mem_cons_self)]
    split
    · next hholds => simp [hholds]
    · next hholds => simp [hholds]

/-- As a member a capital letter beyond the basic plane equals no character. -/
theorem membersHold_of_isHighCapital {members : List Member} (h : members? items = some members)
    (hcapital : isHighCapital items = true) (c : Char) : membersHold members c = false := by
  unfold isHighCapital at hcapital
  split at hcapital
  · next code =>
    cases h
    rw [Bool.and_eq_true, decide_eq_true_eq, bne_iff_ne] at hcapital
    rw [membersHold, List.any_cons, List.any_nil, Bool.or_false,
      CharTest.holdsFolded_beyond hcapital.1, beq_eq_false_iff_ne]
    rintro rfl
    exact hcapital.2 (Text.lowerCode_lowerCode hcapital.1)
  · cases hcapital

theorem not_findsBehind_of_isHighCapital {members : List Member}
    (h : members? items = some members) (hcapital : isHighCapital items = true) :
    ¬ FindsBehind (membersHold members) s k := by
  rintro ⟨c, u, -, hholds, -⟩
  rw [membersHold_of_isHighCapital h hcapital] at hholds
  exact Bool.false_ne_true hholds

/-- The set of the members of alternatives finds a match if and only if one of these does that is no
capital letter beyond the basic plane. -/
theorem finds_set_iff {members : List (List Member)} (h : rest.mapM members? = some members) :
    Finds [.set false members.flatten.eraseDups] s k ↔
      ∃ left ∈ rest.filter (!isHighCapital ·), Finds left s k := by
  have hset : Finds [.set false members.flatten.eraseDups] s k ↔
      FindsBehind (membersHold members.flatten) s k := by
    rw [finds_iff_of_members? rfl (.inl rfl)]
    have hdups : membersHold members.flatten.eraseDups = membersHold members.flatten := by
      funext c
      rw [Bool.eq_iff_iff, membersHold, membersHold, List.any_eq_true, List.any_eq_true]
      simp only [List.mem_eraseDups]
    rw [hdups]
  rw [hset]
  clear hset
  induction rest generalizing members with
  | nil =>
    rw [List.mapM_nil] at h
    cases h
    simp [FindsBehind, membersHold]
  | cons items rest ih =>
    rw [List.mapM_cons] at h
    obtain ⟨ms, hms, h⟩ := Option.bind_eq_some_iff.1 h
    obtain ⟨mss, hmss, h⟩ := Option.bind_eq_some_iff.1 h
    cases h
    have hflatten : FindsBehind (membersHold (ms :: mss).flatten) s k ↔
        FindsBehind (membersHold ms) s k ∨ FindsBehind (membersHold mss.flatten) s k := by
      simp only [FindsBehind, membersHold, List.flatten_cons, List.any_append, Bool.or_eq_true,
        or_and_right, and_or_left, exists_or]
    have hothers : FindsBehind (membersHold mss.flatten) s k ↔
        ∃ left ∈ rest.filter (!isHighCapital ·), Finds left s k := ih hmss
    rw [hflatten, hothers]
    cases hcapital : isHighCapital items with
    | false =>
      rw [List.filter_cons_of_pos (by simp [hcapital]), List.exists_mem_cons_iff,
        finds_iff_of_members? hms (.inl hcapital)]
    | true =>
      rw [List.filter_cons_of_neg (by simp [hcapital])]
      exact or_iff_right (not_findsBehind_of_isHighCapital hms hcapital)

/-! ## Joined alternatives -/

/-- The alternatives that still find something when they are joined: where a set is made of them, those
that end in a capital letter beyond the basic plane are lost. -/
def keptAlternatives : List (List Item) → List (List Item)
  | items :: other :: others =>
      let (shared, rest) := sharedStart items (other :: others)
      if (rest.mapM members?).isSome then (rest.filter (!isHighCapital ·)).map (shared ++ ·)
      else items :: other :: others
  | alternatives => alternatives

/-- **Joined alternatives find a match if and only if one of those that are kept does.** -/
theorem finds_joined_iff (hk : Forgets k) (hne : alternatives ≠ [])
    (hfree : areAllFree alternatives = true) :
    Finds (joined alternatives) s k ↔ ∃ items ∈ keptAlternatives alternatives, Finds items s k := by
  match alternatives with
  | [] => exact absurd rfl hne
  | [items] => simp [joined, keptAlternatives]
  | items :: other :: others =>
    have hitems := areAllFree_iff.1 hfree items List.mem_cons_self
    obtain ⟨shared, rest, hstart, hleaves, heq, h⟩ :=
      joined_cases items other others (isReference_of_areFree hitems)
    rw [keptAlternatives, hstart]
    dsimp only
    rcases h with ⟨members, hmembers, hjoined⟩ | ⟨hmembers, hjoined⟩
    · rw [if_pos (by rw [hmembers]; rfl), hjoined]
      simp only [List.mem_map, exists_exists_and_eq_and]
      exact finds_leaves_append_iff hleaves fun s' _ => finds_set_iff hmembers
    · rw [if_neg (by rw [hmembers]; exact Bool.false_ne_true), hjoined, heq]
      simp only [List.mem_map, exists_exists_and_eq_and]
      exact finds_leaves_append_iff hleaves fun s' _ => finds_branch_iff hk s' rest

end UrlRouting.Regex
