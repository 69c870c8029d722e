import UrlRouting.Proofs.Regex.CharTest
import UrlRouting.Proofs.Regex.Reading

/-!
# Languages of what is read

A rule is read as items that differ from its nodes: a plain group goes up in its sequence,
alternatives share what all of them begin with, and alternatives that are single characters or sets
become one set.  Each of these keeps the language, with one exception: in a set a capital letter
beyond the basic plane equals no character (`itemsLanguage_joined`).
-/

namespace UrlRouting.Regex

/-- The texts that items in a row stand for, without regard to case. -/
def itemsLanguage (items : List Item) : Language Char := languageOf (Op.ofItems .rule items)

/-- The texts that one of several sequences of items stands for. -/
def choiceLanguage (alternatives : List (List Item)) : Language Char :=
  languageOfAny (Op.ofAlternatives .rule alternatives)

/-- Whether the operations of items are regular. -/
def areRegularItems (items : List Item) : Bool := areRegular (Op.ofItems .rule items)

/-- Whether the operations of all alternatives are regular. -/
def areRegularAlternatives (alternatives : List (List Item)) : Bool :=
  areAllRegular (Op.ofAlternatives .rule alternatives)

variable {items others shared : List Item} {alternatives rest : List (List Item)} {a b : Item}

/-! ## Sequences and alternatives -/

theorem ofItems_cons (m : Modes) (item : Item) (items : List Item) :
    Op.ofItems m (item :: items) = Op.ofItem m item ++ Op.ofItems m items := rfl

theorem ofItems_singleton (m : Modes) (item : Item) : Op.ofItems m [item] = Op.ofItem m item :=
  List.append_nil _

theorem ofItems_append (m : Modes) (items others : List Item) :
    Op.ofItems m (items ++ others) = Op.ofItems m items ++ Op.ofItems m others := by
  induction items with
  | nil => rfl
  | cons item items ih => rw [List.cons_append, ofItems_cons, ih, ofItems_cons, List.append_assoc]

@[simp] theorem itemsLanguage_nil : itemsLanguage [] = 1 := rfl

@[simp] theorem itemsLanguage_append (items others : List Item) :
    itemsLanguage (items ++ others) = itemsLanguage items * itemsLanguage others := by
  rw [itemsLanguage, ofItems_append, languageOf_append]
  rfl

@[simp] theorem areRegularItems_append (items others : List Item) :
    areRegularItems (items ++ others) = (areRegularItems items && areRegularItems others) := by
  rw [areRegularItems, ofItems_append, areRegular_append]
  rfl

theorem areRegularItems_cons (item : Item) (items : List Item) :
    areRegularItems (item :: items) = (areRegularItems [item] && areRegularItems items) :=
  areRegularItems_append [item] items

theorem choiceLanguage_nil : choiceLanguage [] = 0 := rfl

theorem choiceLanguage_cons (items : List Item) (alternatives : List (List Item)) :
    choiceLanguage (items :: alternatives) =
      itemsLanguage items + choiceLanguage alternatives := rfl

theorem areRegularAlternatives_cons (items : List Item) (alternatives : List (List Item)) :
    areRegularAlternatives (items :: alternatives) =
      (areRegularItems items && areRegularAlternatives alternatives) := rfl

/-- What all alternatives begin with can be written in front of them. -/
theorem choiceLanguage_map_append (shared : List Item) (rest : List (List Item)) :
    choiceLanguage (rest.map (shared ++ ·)) = itemsLanguage shared * choiceLanguage rest := by
  induction rest with
  | nil => rw [List.map_nil, choiceLanguage_nil, mul_zero]
  | cons items rest ih =>
    rw [List.map_cons, choiceLanguage_cons, choiceLanguage_cons, ih, itemsLanguage_append, mul_add]

/-! ## Single items -/

/-- An item that is one test stands for the characters that pass it. -/
theorem itemsLanguage_of_ofItem {item : Item} {test : CharTest}
    (h : Op.ofItem .rule item = [.char test]) : itemsLanguage [item] = test.language := by
  rw [itemsLanguage, ofItems_singleton, h]
  exact languageOf_char test

theorem areRegularItems_of_ofItem {item : Item} {test : CharTest}
    (h : Op.ofItem .rule item = [.char test]) : areRegularItems [item] = true := by
  rw [areRegularItems, ofItems_singleton, h]
  rfl

theorem ofItem_code (code : Nat) :
    Op.ofItem .rule (.code code) = [.char (.ofCode true .unicode false code)] := rfl

theorem ofItem_any : Op.ofItem .rule .any = [.char .noLineFeed] := rfl

theorem ofItem_set (negated : Bool) (members : List Member) :
    Op.ofItem .rule (.set negated members) =
      [.char (.ofMembers true .unicode negated members)] := rfl

/-- A set becomes its test, also if it is a single character. -/
theorem ofItem_itemOfSet (negated : Bool) (members : List Member) :
    Op.ofItem .rule (itemOfSet negated members) = [.char (setTest negated members)] := by
  unfold itemOfSet setTest
  rcases members.eraseDups with _ | ⟨_ | _ | _, _ | ⟨_, _⟩⟩
  case cons.code.nil code =>
    cases negated with
    | false => exact ofItem_code code
    | true => rfl
  all_goals exact ofItem_set negated _

theorem ofItem_group (index : Option Nat) (body : List Item) :
    languageOf (Op.ofItem .rule (.group index .none body)) = itemsLanguage body ∧
      areRegular (Op.ofItem .rule (.group index .none body)) = areRegularItems body := by
  cases index with
  | none => exact ⟨rfl, rfl⟩
  | some index =>
    have hops : Op.ofItem .rule (.group (some index) .none body) =
        .openGroup index :: (Op.ofItems .rule body ++ [.closeGroup index]) := rfl
    rw [hops, languageOf, languageOf_append, areRegular, areRegular_append]
    simp [languageOf, Op.language, areRegular, Op.isRegular, itemsLanguage, areRegularItems]

theorem itemsLanguage_group (index : Option Nat) (body : List Item) :
    itemsLanguage [.group index .none body] = itemsLanguage body := by
  rw [itemsLanguage, ofItems_singleton, (ofItem_group index body).1]

theorem areRegularItems_group (index : Option Nat) (body : List Item) :
    areRegularItems [.group index .none body] = areRegularItems body := by
  rw [areRegularItems, ofItems_singleton, (ofItem_group index body).2]

theorem itemsLanguage_branch (alternatives : List (List Item)) :
    itemsLanguage [.branch alternatives] = choiceLanguage alternatives :=
  mul_one _

theorem areRegularItems_branch (alternatives : List (List Item)) :
    areRegularItems [.branch alternatives] = areRegularAlternatives alternatives :=
  Bool.and_true _

/-- A repetition of a single character is a run and any other one a loop; both stand for the repeated
texts. -/
theorem ofItem_repeated (kind : Repetition) (least : Nat) (most : Option Nat)
    (body : List Item) :
    languageOf (Op.ofItem .rule (.repeated kind least most body)) =
        Regex.repeated least most (itemsLanguage body) ∧
      areRegular (Op.ofItem .rule (.repeated kind least most body)) =
        (isCounted kind least most && areRegularItems body) := by
  rw [Op.ofItem, itemsLanguage, areRegularItems]
  split
  · next test h =>
    rw [h, languageOf_char]
    simp [languageOf, Op.language, areRegular, Op.isRegular]
  · simp [languageOf, Op.language, areRegular, Op.isRegular]

theorem itemsLanguage_repeated (kind : Repetition) (least : Nat) (most : Option Nat)
    (body : List Item) :
    itemsLanguage [.repeated kind least most body] =
      Regex.repeated least most (itemsLanguage body) := by
  rw [itemsLanguage, ofItems_singleton, (ofItem_repeated _ _ _ _).1]

theorem areRegularItems_repeated (kind : Repetition) (least : Nat) (most : Option Nat)
    (body : List Item) :
    areRegularItems [.repeated kind least most body] =
      (isCounted kind least most && areRegularItems body) := by
  rw [areRegularItems, ofItems_singleton, (ofItem_repeated _ _ _ _).2]

/-- A plain group that goes up in its sequence stands for the same texts. -/
theorem itemsLanguage_spliced (item : Item) : itemsLanguage item.spliced = itemsLanguage [item] := by
  unfold Item.spliced
  split
  · next flags body =>
    split
    · next h =>
      rw [h, itemsLanguage_group]
    · rfl
  · rfl

theorem areRegularItems_spliced (item : Item) :
    areRegularItems item.spliced = areRegularItems [item] := by
  unfold Item.spliced
  split
  · next flags body =>
    split
    · next h =>
      rw [h, areRegularItems_group]
    · rfl
  · rfl

/-! ## Sets of what alternatives hold -/

/-- The characters that one of the members holds by its lower form. -/
def setLanguage (members : List Member) : Language Char :=
  {t | ∃ c : Char, members.any (·.holdsFolded .unicode (Text.lowerCode c.toNat)) = true ∧ t = [c]}

theorem setLanguage_append (ms ms' : List Member) :
    setLanguage (ms ++ ms') = setLanguage ms + setLanguage ms' := by
  ext t
  rw [Language.mem_add]
  constructor
  · rintro ⟨c, hc, rfl⟩
    rw [List.any_append, Bool.or_eq_true] at hc
    exact hc.imp (fun h => ⟨c, h, rfl⟩) fun h => ⟨c, h, rfl⟩
  · rintro (⟨c, hc, rfl⟩ | ⟨c, hc, rfl⟩)
    · exact ⟨c, by rw [List.any_append, hc, Bool.true_or], rfl⟩
    · exact ⟨c, by rw [List.any_append, hc, Bool.or_true], rfl⟩

theorem setLanguage_eraseDups (ms : List Member) : setLanguage ms.eraseDups = setLanguage ms := by
  ext t
  refine exists_congr fun c => and_congr_left fun _ => ?_
  rw [List.any_eq_true, List.any_eq_true]
  simp only [List.mem_eraseDups]

theorem language_ofMembers (members : List Member) :
    (CharTest.ofMembers true .unicode false members).language = setLanguage members := by
  ext t
  refine exists_congr fun c => and_congr_left fun _ => ?_
  rw [Cursor.passes, CharTest.accepts_ofMembers, Bool.bne_false]

/-- Whether a sequence is a capital letter beyond the basic plane. -/
def isHighCapital : List Item → Bool
  | [.code code] => code > basicPlaneEnd && Text.lowerCode code != code
  | _ => false

theorem isHighCapital_code_eq_false_iff {code : Nat} :
    isHighCapital [.code code] = false ↔
      code ≤ basicPlaneEnd ∨ Text.lowerCode code = code := by
  rw [isHighCapital, Bool.and_eq_false_iff, decide_eq_false_iff_not, bne_eq_false_iff_eq, not_lt]

/-- A single character or a set stands for what its members hold, if it is no capital letter beyond
the basic plane. -/
theorem itemsLanguage_of_members? {members : List Member} (h : members? items = some members)
    (hcapital : isHighCapital items = false) : itemsLanguage items = setLanguage members := by
  unfold members? at h
  split at h
  · next code =>
    cases h
    rw [itemsLanguage_of_ofItem (ofItem_code code)]
    ext t
    refine exists_congr fun c => and_congr_left fun _ => ?_
    rw [Cursor.passes, CharTest.accepts_ofCode (isHighCapital_code_eq_false_iff.1 hcapital),
      Bool.bne_false, List.any_cons, List.any_nil, Bool.or_false]
  · cases h
    rw [itemsLanguage_of_ofItem (ofItem_set false _), language_ofMembers]
  · cases h

/-- In a set a capital letter beyond the basic plane equals no character. -/
theorem setLanguage_of_isHighCapital {members : List Member} (h : members? items = some members)
    (hcapital : isHighCapital items = true) : setLanguage members = 0 := by
  unfold isHighCapital at hcapital
  split at hcapital
  · next code =>
    cases h
    simp only [Bool.and_eq_true, decide_eq_true_eq, bne_iff_ne] at hcapital
    ext t
    refine iff_of_false ?_ (Language.notMem_zero t)
    rintro ⟨c, hc, -⟩
    rw [List.any_cons, List.any_nil, Bool.or_false, CharTest.holdsFolded_beyond hcapital.1,
      beq_iff_eq] at hc
    subst hc
    exact hcapital.2 (Text.lowerCode_lowerCode hcapital.1)
  · cases hcapital

/-- Members hold no characters that the alternative which they come from does not stand for. -/
theorem setLanguage_le {members : List Member} (h : members? items = some members) :
    setLanguage members ≤ itemsLanguage items := by
  cases hcapital : isHighCapital items with
  | false => exact le_of_eq (itemsLanguage_of_members? h hcapital).symm
  | true =>
    rw [setLanguage_of_isHighCapital h hcapital]
    exact zero_le

theorem setLanguage_nil : setLanguage [] = 0 := by
  ext t
  refine iff_of_false ?_ (Language.notMem_zero t)
  rintro ⟨c, hc, -⟩
  cases hc

/-- The members of the alternatives hold no characters that none of these stands for, and all others
unless there are capital letters beyond the basic plane among them. -/
theorem setLanguage_flatten {members : List (List Member)}
    (h : rest.mapM members? = some members) :
    setLanguage members.flatten ≤ choiceLanguage rest ∧
      ((∀ items ∈ rest, isHighCapital items = false) →
        setLanguage members.flatten = choiceLanguage rest) := by
  induction rest generalizing members with
  | nil =>
    rw [List.mapM_nil] at h
    cases h
    rw [choiceLanguage_nil, List.flatten_nil, setLanguage_nil]
    exact ⟨le_refl 0, fun _ => rfl⟩
  | cons items rest ih =>
    rw [List.mapM_cons] at h
    obtain ⟨ms, hms, h⟩ := Option.bind_eq_some_iff.1 h
    obtain ⟨mss, hmss, h⟩ := Option.bind_eq_some_iff.1 h
    cases h
    obtain ⟨hle, heq⟩ := ih hmss
    rw [choiceLanguage_cons, List.flatten_cons, setLanguage_append]
    refine ⟨add_le_add (setLanguage_le hms) hle, fun hcapital => ?_⟩
    rw [itemsLanguage_of_members? hms (hcapital items List.mem_cons_self),
      heq fun others hothers => hcapital others (List.mem_cons_of_mem _ hothers)]

/-! ## Alternatives that are joined -/

/-- Whether an item is a reference to a group. -/
def Item.isReference : Item → Bool
  | .reference _ _ => true
  | _ => false

/-- Whether an item is a single character, a set or an anchor. -/
def Item.isLeaf : Item → Bool
  | .code _ => true
  | .notCode _ => true
  | .any => true
  | .set _ _ => true
  | .anchor _ => true
  | _ => false

/-- There are no references among regular items. -/
theorem isReference_of_areRegularItems (h : areRegularItems items = true) :
    ∀ item ∈ items, item.isReference = false := by
  induction items with
  | nil => nofun
  | cons item items ih =>
    rw [areRegularItems_cons, Bool.and_eq_true] at h
    refine List.forall_mem_cons.2 ⟨?_, ih h.2⟩
    cases item with
    | reference index width => cases h.1
    | _ => rfl

/-- Items that the reader takes to be the same are the same, references apart. -/
theorem eq_of_sameLeaf (ha : a.isReference = false) (h : a.sameLeaf b = true) :
    a = b ∧ a.isLeaf = true := by
  unfold Item.sameLeaf at h
  split at h
  · exact ⟨by rw [eq_of_beq h], rfl⟩
  · exact ⟨by rw [eq_of_beq h], rfl⟩
  · exact ⟨rfl, rfl⟩
  · rw [Bool.and_eq_true] at h
    exact ⟨by rw [eq_of_beq h.1, eq_of_beq h.2], rfl⟩
  · exact ⟨by rw [eq_of_beq h], rfl⟩
  · cases ha
  · cases h

/-- Alternatives that all begin with an item are that item in front of their rests. -/
theorem eq_map_cons_of_sameLeaf (ha : a.isReference = false)
    (h : (alternatives.all fun items => items.head?.any a.sameLeaf) = true) :
    alternatives = (alternatives.map List.tail).map (a :: ·) := by
  induction alternatives with
  | nil => rfl
  | cons items alternatives ih =>
    rw [List.all_cons, Bool.and_eq_true] at h
    rw [List.map_cons, List.map_cons, ← ih h.2]
    cases items with
    | nil => cases h.1
    | cons b items =>
      rw [(eq_of_sameLeaf ha h.1).1]
      rfl

/-- What several alternatives begin with stands in front of what is left of each of them, and has no
items of its own. -/
theorem sharedStart_eq (hne : alternatives ≠ [])
    (hitems : ∀ item ∈ items, item.isReference = false)
    (h : sharedStart items alternatives = (shared, rest)) :
    items :: alternatives = rest.map (shared ++ ·) ∧ ∀ item ∈ shared, item.isLeaf = true := by
  induction items generalizing alternatives shared rest with
  | nil =>
    cases h
    simp
  | cons item items ih =>
    rw [List.forall_mem_cons] at hitems
    rw [sharedStart] at h
    split at h
    · next hall =>
      obtain ⟨s, r, hs⟩ : ∃ s r, sharedStart items (alternatives.map List.tail) = (s, r) :=
        ⟨_, _, rfl⟩
      rw [hs] at h
      cases h
      obtain ⟨heq, hleaves⟩ := ih (by simpa using hne) hitems.2 hs
      refine ⟨?_, List.forall_mem_cons.2 ⟨?_, hleaves⟩⟩
      · calc (item :: items) :: alternatives
            = (items :: alternatives.map List.tail).map (item :: ·) := by
              rw [List.map_cons, ← eq_map_cons_of_sameLeaf hitems.1 hall]
          _ = rest.map (item :: s ++ ·) := by
              rw [heq, List.map_map]
              rfl
      · obtain ⟨other, hother⟩ := List.exists_mem_of_ne_nil _ hne
        obtain ⟨b, -, hb⟩ := (Option.any_eq_true _ _).1 (List.all_eq_true.1 hall other hother)
        exact (eq_of_sameLeaf hitems.1 hb).2
    · cases h
      simp

/-- Whether no capital letter beyond the basic plane is among the alternatives that are joined to a
set. -/
def keepCapitals : List (List Item) → Bool
  | items :: other :: others =>
      let rest := (sharedStart items (other :: others)).2
      (rest.mapM members?).isNone || rest.all fun items => !isHighCapital items
  | _ => true

/-- Several alternatives are joined to what they share and a set or a choice of what is left. -/
theorem joined_cases (items other : List Item) (others : List (List Item))
    (hitems : ∀ item ∈ items, item.isReference = false) :
    ∃ shared rest, sharedStart items (other :: others) = (shared, rest) ∧
      (∀ item ∈ shared, item.isLeaf = true) ∧
      items :: other :: others = rest.map (shared ++ ·) ∧
      ((∃ members, rest.mapM members? = some members ∧
          joined (items :: other :: others) = shared ++ [.set false members.flatten.eraseDups]) ∨
        rest.mapM members? = none ∧
          joined (items :: other :: others) = shared ++ [.branch rest]) := by
  obtain ⟨shared, rest, hstart⟩ : ∃ shared rest, sharedStart items (other :: others) =
      (shared, rest) := ⟨_, _, rfl⟩
  obtain ⟨heq, hleaves⟩ := sharedStart_eq (List.cons_ne_nil other others) hitems hstart
  refine ⟨shared, rest, hstart, hleaves, heq, ?_⟩
  rw [joined]
  · rw [hstart]
    dsimp only
    split
    · next members h => exact .inl ⟨members, h, rfl⟩
    · next h => exact .inr ⟨h, rfl⟩
  · exact fun h => List.cons_ne_nil _ _ h

/-- What regular alternatives share is regular, and so is what is left of them. -/
theorem areRegular_of_map_append (hne : rest ≠ [])
    (h : areRegularAlternatives (rest.map (shared ++ ·)) = true) :
    areRegularItems shared = true ∧ areRegularAlternatives rest = true := by
  induction rest with
  | nil => exact absurd rfl hne
  | cons items rest ih =>
    rw [List.map_cons, areRegularAlternatives_cons, areRegularItems_append, Bool.and_eq_true,
      Bool.and_eq_true] at h
    rw [areRegularAlternatives_cons, Bool.and_eq_true]
    cases rest with
    | nil => exact ⟨h.1.1, h.1.2, rfl⟩
    | cons other rest => exact ⟨h.1.1, h.1.2, (ih (List.cons_ne_nil _ _) h.2).2⟩

/-- Alternatives that are joined stand for no other texts, and for the same ones unless a set takes a
capital letter beyond the basic plane. -/
theorem itemsLanguage_joined (hne : alternatives ≠ [])
    (hregular : areRegularAlternatives alternatives = true) :
    itemsLanguage (joined alternatives) ≤ choiceLanguage alternatives ∧
      (keepCapitals alternatives = true →
        itemsLanguage (joined alternatives) = choiceLanguage alternatives) := by
  match alternatives with
  | [] => exact absurd rfl hne
  | [items] =>
    rw [joined, choiceLanguage_cons, choiceLanguage_nil, add_zero]
    exact ⟨le_refl _, fun _ => rfl⟩
  | items :: other :: others =>
    rw [areRegularAlternatives_cons, Bool.and_eq_true] at hregular
    obtain ⟨shared, rest, hstart, -, heq, h⟩ :=
      joined_cases items other others (isReference_of_areRegularItems hregular.1)
    have hchoice : choiceLanguage (items :: other :: others) =
        itemsLanguage shared * choiceLanguage rest := by
      rw [← choiceLanguage_map_append, ← heq]
    rcases h with ⟨members, hmembers, hjoined⟩ | ⟨-, hjoined⟩
    · obtain ⟨hle, hset⟩ := setLanguage_flatten hmembers
      rw [hjoined, itemsLanguage_append, itemsLanguage_of_ofItem (ofItem_set false _),
        language_ofMembers, setLanguage_eraseDups, hchoice]
      refine ⟨mul_le_mul_right hle _, fun hkeep => ?_⟩
      have hcapital : ∀ left ∈ rest, isHighCapital left = false := by
        simpa [keepCapitals, hstart, hmembers] using hkeep
      rw [hset hcapital]
    · rw [hjoined, itemsLanguage_append, itemsLanguage_branch, hchoice]
      exact ⟨le_refl _, fun _ => rfl⟩

theorem areRegularItems_joined (hregular : areRegularAlternatives alternatives = true) :
    areRegularItems (joined alternatives) = true := by
  match alternatives with
  | [] => rfl
  | [items] =>
    rw [areRegularAlternatives_cons, Bool.and_eq_true] at hregular
    exact hregular.1
  | items :: other :: others =>
    have hitems : areRegularItems items = true := by
      rw [areRegularAlternatives_cons, Bool.and_eq_true] at hregular
      exact hregular.1
    obtain ⟨shared, rest, -, -, heq, h⟩ :=
      joined_cases items other others (isReference_of_areRegularItems hitems)
    have hne : rest ≠ [] := by
      rintro rfl
      cases heq
    rw [heq] at hregular
    obtain ⟨hshared, hrest⟩ := areRegular_of_map_append hne hregular
    rcases h with ⟨members, -, hjoined⟩ | ⟨-, hjoined⟩
    · rw [hjoined, areRegularItems_append, hshared,
        areRegularItems_of_ofItem (ofItem_set false _)]
      rfl
    · rw [hjoined, areRegularItems_append, hshared, areRegularItems_branch, hrest]
      rfl

end UrlRouting.Regex
