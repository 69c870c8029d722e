import UrlRouting.Proofs.Regex.Merging

/-!
# Expressions up to the numbers of their groups

Where an expression stands within another one, its groups that capture have other numbers.  Only
references and conditionals look at them; an expression without these is *free*.  Here every group
that captures gets the number zero, and what is put together from such items, what they become in a
program and how wide they are is the same as before, but for the numbers.
-/

namespace UrlRouting.Regex

/-! ## Items -/

mutual

/-- The item with the number zero for all groups that capture. -/
def Item.unnumbered : Item → Item
  | .group index flags body => .group (index.map fun _ => 0) flags (unnumberedItems body)
  | .atomic body => .atomic (unnumberedItems body)
  | .look behind negated body => .look behind negated (unnumberedItems body)
  | .branch alternatives => .branch (unnumberedAlternatives alternatives)
  | .repeated kind least most body => .repeated kind least most (unnumberedItems body)
  | .conditional index yes no => .conditional index (unnumberedItems yes) (unnumberedItems no)
  | item => item

/-- The items of a sequence without their numbers. -/
def unnumberedItems : List Item → List Item
  | [] => []
  | item :: items => item.unnumbered :: unnumberedItems items

/-- The items of alternatives without their numbers. -/
def unnumberedAlternatives : List (List Item) → List (List Item)
  | [] => []
  | items :: alternatives => unnumberedItems items :: unnumberedAlternatives alternatives

end

mutual

/-- Whether an item refers to no group. -/
def Item.isFree : Item → Bool
  | .group _ _ body => areFree body
  | .atomic body => areFree body
  | .look _ _ body => areFree body
  | .branch alternatives => areAllFree alternatives
  | .repeated _ _ _ body => areFree body
  | .reference _ _ => false
  | .conditional _ _ _ => false
  | _ => true

/-- Whether the items of a sequence refer to no group. -/
def areFree : List Item → Bool
  | [] => true
  | item :: items => item.isFree && areFree items

/-- Whether the items of alternatives refer to no group. -/
def areAllFree : List (List Item) → Bool
  | [] => true
  | items :: alternatives => areFree items && areAllFree alternatives

end

variable {items others shared : List Item} {alternatives rest : List (List Item)}

theorem unnumberedItems_eq_map (items : List Item) :
    unnumberedItems items = items.map Item.unnumbered := by
  induction items with
  | nil => rfl
  | cons item items ih => rw [unnumberedItems, ih, List.map_cons]

theorem unnumberedAlternatives_eq_map (alternatives : List (List Item)) :
    unnumberedAlternatives alternatives = alternatives.map unnumberedItems := by
  induction alternatives with
  | nil => rfl
  | cons items alternatives ih => rw [unnumberedAlternatives, ih, List.map_cons]

@[simp] theorem unnumberedItems_append (items others : List Item) :
    unnumberedItems (items ++ others) = unnumberedItems items ++ unnumberedItems others := by
  simp [unnumberedItems_eq_map]

@[simp] theorem areFree_append (items others : List Item) :
    areFree (items ++ others) = (areFree items && areFree others) := by
  induction items with
  | nil => rfl
  | cons item items ih => rw [List.cons_append, areFree, areFree, ih, Bool.and_assoc]

theorem areFree_iff : areFree items = true ↔ ∀ item ∈ items, item.isFree = true := by
  induction items with
  | nil => simp [areFree]
  | cons item items ih => simp [areFree, ih]

theorem areAllFree_iff :
    areAllFree alternatives = true ↔ ∀ items ∈ alternatives, areFree items = true := by
  induction alternatives with
  | nil => simp [areAllFree]
  | cons items alternatives ih => simp [areAllFree, ih]

mutual

theorem Item.isFree_unnumbered : (item : Item) → item.unnumbered.isFree = item.isFree
  | .code _ | .notCode _ | .any | .set _ _ | .anchor _ | .reference _ _ | .conditional _ _ _ => rfl
  | .group _ _ body | .atomic body | .look _ _ body | .repeated _ _ _ body =>
    areFree_unnumbered body
  | .branch alternatives => areAllFree_unnumbered alternatives

theorem areFree_unnumbered : (items : List Item) → areFree (unnumberedItems items) = areFree items
  | [] => rfl
  | item :: items => by
    rw [unnumberedItems, areFree, areFree, item.isFree_unnumbered, areFree_unnumbered items]

theorem areAllFree_unnumbered : (alternatives : List (List Item)) →
    areAllFree (unnumberedAlternatives alternatives) = areAllFree alternatives
  | [] => rfl
  | items :: alternatives => by
    rw [unnumberedAlternatives, areAllFree, areAllFree, areFree_unnumbered items,
      areAllFree_unnumbered alternatives]

end

/-! ## Sequences and alternatives -/

theorem spliced_unnumbered (item : Item) :
    item.unnumbered.spliced = unnumberedItems item.spliced := by
  cases item with
  | group index flags body =>
    cases index with
    | none =>
      simp only [Item.unnumbered, Item.spliced, Option.map_none]
      split <;> rfl
    | some index => rfl
  | _ => rfl

theorem areFree_spliced (item : Item) : areFree item.spliced = item.isFree := by
  cases item with
  | group index flags body =>
    cases index with
    | none =>
      simp only [Item.spliced]
      split <;> simp [areFree, Item.isFree]
    | some index => simp [Item.spliced, areFree, Item.isFree]
  | _ => simp [Item.spliced, areFree, Item.isFree]

theorem sequence_unnumbered (items : List Item) :
    sequence (unnumberedItems items) = unnumberedItems (sequence items) := by
  induction items with
  | nil => rfl
  | cons item items ih =>
    simp only [sequence, unnumberedItems, List.reverse_cons, List.flatMap_append,
      List.flatMap_singleton, unnumberedItems_append, spliced_unnumbered] at ih ⊢
    rw [ih]

theorem areFree_sequence (items : List Item) : areFree (sequence items) = areFree items := by
  induction items with
  | nil => rfl
  | cons item items ih =>
    simp only [sequence, List.reverse_cons, List.flatMap_append, List.flatMap_singleton,
      areFree_append, areFree_spliced] at ih ⊢
    rw [ih, areFree, Bool.and_comm]

/-- Items that hold others are never the same leaf, whatever their numbers. -/
theorem sameLeaf_unnumbered (a b : Item) :
    a.unnumbered.sameLeaf b.unnumbered = a.sameLeaf b := by
  cases a <;> cases b <;> rfl

theorem sharedStart_unnumbered (items : List Item) (others : List (List Item)) :
    sharedStart (unnumberedItems items) (unnumberedAlternatives others) =
      (unnumberedItems (sharedStart items others).1,
        unnumberedAlternatives (sharedStart items others).2) := by
  induction items generalizing others with
  | nil => rfl
  | cons item items ih =>
    have hall : ((unnumberedAlternatives others).all fun other =>
        other.head?.any item.unnumbered.sameLeaf) =
          others.all fun other => other.head?.any item.sameLeaf := by
      rw [unnumberedAlternatives_eq_map, List.all_map]
      refine congrArg (List.all others) (funext fun other => ?_)
      cases other with
      | nil => rfl
      | cons b other => exact sameLeaf_unnumbered item b
    have htail : (unnumberedAlternatives others).map List.tail =
        unnumberedAlternatives (others.map List.tail) := by
      simp only [unnumberedAlternatives_eq_map, List.map_map]
      refine List.map_congr_left fun other _ => ?_
      cases other <;> rfl
    rw [unnumberedItems, sharedStart, sharedStart, hall, htail, ih]
    split
    · rfl
    · rfl

theorem members?_unnumbered (items : List Item) :
    members? (unnumberedItems items) = members? items := by
  cases items with
  | nil => rfl
  | cons item items =>
    cases items with
    | nil => cases item <;> rfl
    | cons other items =>
      cases item with
      | set negated members => cases negated <;> rfl
      | _ => rfl

theorem mapM_members?_unnumbered (alternatives : List (List Item)) :
    (unnumberedAlternatives alternatives).mapM members? = alternatives.mapM members? := by
  induction alternatives with
  | nil => rfl
  | cons items alternatives ih =>
    rw [unnumberedAlternatives, List.mapM_cons, List.mapM_cons, members?_unnumbered, ih]

theorem joined_unnumbered (alternatives : List (List Item)) :
    joined (unnumberedAlternatives alternatives) = unnumberedItems (joined alternatives) := by
  match alternatives with
  | [] => rfl
  | [items] => rfl
  | items :: other :: others =>
    have hshared := sharedStart_unnumbered items (other :: others)
    rw [unnumberedAlternatives] at hshared
    rw [unnumberedAlternatives, unnumberedAlternatives, joined, joined]
    · dsimp only
      rw [hshared, mapM_members?_unnumbered]
      split <;> simp [unnumberedItems, Item.unnumbered]
    · exact fun h => List.cons_ne_nil _ _ h
    · exact fun h => List.cons_ne_nil _ _ h

/-- Items that refer to no group are no references. -/
theorem isReference_of_areFree (h : areFree items = true) :
    ∀ item ∈ items, item.isReference = false := by
  intro item hitem
  have hfree := areFree_iff.1 h item hitem
  cases item with
  | reference => cases hfree
  | _ => rfl

/-- Joined alternatives refer to no group if none of them does. -/
theorem areFree_joined (hfree : areAllFree alternatives = true) :
    areFree (joined alternatives) = true := by
  match alternatives with
  | [] => rfl
  | [items] =>
    rw [areAllFree, Bool.and_eq_true] at hfree
    exact hfree.1
  | items :: other :: others =>
    have hitems := areAllFree_iff.1 hfree items List.mem_cons_self
    obtain ⟨shared, rest, -, hleaves, heq, h⟩ :=
      joined_cases items other others (isReference_of_areFree hitems)
    have hshared : areFree shared = true := by
      refine areFree_iff.2 fun item hitem => ?_
      have hleaf := hleaves item hitem
      cases item <;> first | rfl | cases hleaf
    have hrest : areAllFree rest = true := by
      rw [heq, areAllFree_iff, List.forall_mem_map] at hfree
      refine areAllFree_iff.2 fun left hleft => ?_
      have hleft := hfree left hleft
      rw [areFree_append, Bool.and_eq_true] at hleft
      exact hleft.2
    rcases h with ⟨members, -, hjoined⟩ | ⟨-, hjoined⟩
    · rw [hjoined, areFree_append, hshared]
      rfl
    · rw [hjoined, areFree_append, hshared, areFree, Item.isFree, hrest]
      rfl

/-! ## Widths -/

mutual

theorem Item.width_unnumbered : (item : Item) → item.unnumbered.width = item.width
  | .code _ | .notCode _ | .any | .set _ _ | .anchor _ | .look _ _ _ | .reference _ _ => rfl
  | .group _ _ body | .atomic body => by
    rw [Item.unnumbered, Item.width, Item.width, sumWidths_unnumbered body]
  | .branch alternatives => by
    rw [Item.unnumbered, Item.width, Item.width, widthOfAlternatives_unnumbered alternatives]
  | .repeated _ _ _ body => by
    rw [Item.unnumbered, Item.width, Item.width, sumWidths_unnumbered body]
  | .conditional _ yes no => by
    rw [Item.unnumbered, Item.width, Item.width, sumWidths_unnumbered yes,
      sumWidths_unnumbered no]

theorem sumWidths_unnumbered : (items : List Item) →
    sumWidths (unnumberedItems items) = sumWidths items
  | [] => rfl
  | item :: items => by
    rw [unnumberedItems, sumWidths, sumWidths, item.width_unnumbered, sumWidths_unnumbered items]

theorem widthOfAlternatives_unnumbered : (alternatives : List (List Item)) →
    widthOfAlternatives (unnumberedAlternatives alternatives) = widthOfAlternatives alternatives
  | [] => rfl
  | [items] => by
    simp only [unnumberedAlternatives, widthOfAlternatives, sumWidths_unnumbered items]
  | items :: other :: alternatives => by
    have ih := widthOfAlternatives_unnumbered (other :: alternatives)
    rw [unnumberedAlternatives] at ih
    simp only [unnumberedAlternatives, widthOfAlternatives, sumWidths_unnumbered items, ih]

end

mutual

theorem Item.hasFixedLooks_unnumbered : (item : Item) →
    item.unnumbered.hasFixedLooks = item.hasFixedLooks
  | .code _ | .notCode _ | .any | .set _ _ | .anchor _ | .reference _ _ => rfl
  | .group _ _ body | .atomic body | .repeated _ _ _ body => by
    rw [Item.unnumbered, Item.hasFixedLooks, Item.hasFixedLooks, haveFixedLooks_unnumbered body]
  | .look _ _ body => by
    rw [Item.unnumbered, Item.hasFixedLooks, Item.hasFixedLooks, sumWidths_unnumbered body,
      haveFixedLooks_unnumbered body]
  | .branch alternatives => by
    rw [Item.unnumbered, Item.hasFixedLooks, Item.hasFixedLooks,
      alternativesHaveFixedLooks_unnumbered alternatives]
  | .conditional _ yes no => by
    rw [Item.unnumbered, Item.hasFixedLooks, Item.hasFixedLooks, haveFixedLooks_unnumbered yes,
      haveFixedLooks_unnumbered no]

theorem haveFixedLooks_unnumbered : (items : List Item) →
    haveFixedLooks (unnumberedItems items) = haveFixedLooks items
  | [] => rfl
  | item :: items => by
    rw [unnumberedItems, haveFixedLooks, haveFixedLooks, item.hasFixedLooks_unnumbered,
      haveFixedLooks_unnumbered items]

theorem alternativesHaveFixedLooks_unnumbered : (alternatives : List (List Item)) →
    alternativesHaveFixedLooks (unnumberedAlternatives alternatives) =
      alternativesHaveFixedLooks alternatives
  | [] => rfl
  | items :: alternatives => by
    rw [unnumberedAlternatives, alternativesHaveFixedLooks, alternativesHaveFixedLooks,
      haveFixedLooks_unnumbered items, alternativesHaveFixedLooks_unnumbered alternatives]

end

/-! ## Programs -/

mutual

/-- The operation with the number zero for all groups. -/
def Op.unnumbered : Op → Op
  | .openGroup _ => .openGroup 0
  | .closeGroup _ => .closeGroup 0
  | .conditional index yes no => .conditional index (unnumberedOps yes) (unnumberedOps no)
  | .branch alternatives => .branch (unnumberedBranches alternatives)
  | .loop kind least most body => .loop kind least most (unnumberedOps body)
  | .atomic body => .atomic (unnumberedOps body)
  | .look back negated body => .look back negated (unnumberedOps body)
  | op => op

/-- The operations of a sequence without their numbers. -/
def unnumberedOps : List Op → List Op
  | [] => []
  | op :: ops => op.unnumbered :: unnumberedOps ops

/-- The operations of alternatives without their numbers. -/
def unnumberedBranches : List (List Op) → List (List Op)
  | [] => []
  | ops :: alternatives => unnumberedOps ops :: unnumberedBranches alternatives

end

mutual

/-- Whether an operation refers to no group. -/
def Op.isFree : Op → Bool
  | .reference _ _ => false
  | .conditional _ _ _ => false
  | .branch alternatives => branchesAreFree alternatives
  | .loop _ _ _ body => opsAreFree body
  | .atomic body => opsAreFree body
  | .look _ _ body => opsAreFree body
  | _ => true

/-- Whether the operations of a sequence refer to no group. -/
def opsAreFree : List Op → Bool
  | [] => true
  | op :: ops => op.isFree && opsAreFree ops

/-- Whether the operations of alternatives refer to no group. -/
def branchesAreFree : List (List Op) → Bool
  | [] => true
  | ops :: alternatives => opsAreFree ops && branchesAreFree alternatives

end

@[simp] theorem unnumberedOps_append (ops ops' : List Op) :
    unnumberedOps (ops ++ ops') = unnumberedOps ops ++ unnumberedOps ops' := by
  induction ops with
  | nil => rfl
  | cons op ops ih => rw [List.cons_append, unnumberedOps, ih, unnumberedOps, List.cons_append]

@[simp] theorem opsAreFree_append (ops ops' : List Op) :
    opsAreFree (ops ++ ops') = (opsAreFree ops && opsAreFree ops') := by
  induction ops with
  | nil => rfl
  | cons op ops ih => rw [List.cons_append, opsAreFree, opsAreFree, ih, Bool.and_assoc]

/-- A single character is all that a program comes to that is one without numbers. -/
theorem eq_char_of_unnumberedOps {ops : List Op} {test : CharTest}
    (h : unnumberedOps ops = [.char test]) : ops = [.char test] := by
  match ops with
  | [] => cases h
  | [op] =>
    rw [unnumberedOps, unnumberedOps, List.cons.injEq] at h
    cases op with
    | char test' =>
      rw [← h.1]
      rfl
    | _ => exact absurd h.1 (by simp [Op.unnumbered])
  | op :: other :: ops => simp [unnumberedOps] at h

mutual

theorem ofItem_unnumbered : (m : Modes) → (item : Item) →
    Op.ofItem m item.unnumbered = unnumberedOps (Op.ofItem m item)
  | _, .code _ | _, .notCode _ | _, .any | _, .set _ _ | _, .anchor _ | _, .reference _ _ => rfl
  | m, .group none flags body => ofItems_unnumbered (m.after flags) body
  | m, .group (some index) flags body => by
    simp [Item.unnumbered, Op.ofItem, unnumberedOps, Op.unnumbered,
      ofItems_unnumbered (m.after flags) body]
  | m, .atomic body => by
    simp [Item.unnumbered, Op.ofItem, unnumberedOps, Op.unnumbered, ofItems_unnumbered m body]
  | m, .look behind negated body => by
    simp [Item.unnumbered, Op.ofItem, unnumberedOps, Op.unnumbered, ofItems_unnumbered m body,
      widthOf, sumWidths_unnumbered body]
  | m, .branch alternatives => by
    simp [Item.unnumbered, Op.ofItem, unnumberedOps, Op.unnumbered,
      ofAlternatives_unnumbered m alternatives]
  | m, .repeated kind least most body => by
    rw [Item.unnumbered, Op.ofItem, Op.ofItem, ofItems_unnumbered m body]
    split
    · next test h => rw [eq_char_of_unnumberedOps h]; rfl
    · next h =>
      split
      · next test hops => exact absurd (by rw [hops]; rfl) (h test)
      · rfl
  | m, .conditional index yes no => by
    simp [Item.unnumbered, Op.ofItem, unnumberedOps, Op.unnumbered, ofItems_unnumbered m yes,
      ofItems_unnumbered m no]

theorem ofItems_unnumbered : (m : Modes) → (items : List Item) →
    Op.ofItems m (unnumberedItems items) = unnumberedOps (Op.ofItems m items)
  | _, [] => rfl
  | m, item :: items => by
    rw [unnumberedItems, Op.ofItems, Op.ofItems, ofItem_unnumbered m item,
      ofItems_unnumbered m items, unnumberedOps_append]

theorem ofAlternatives_unnumbered : (m : Modes) → (alternatives : List (List Item)) →
    Op.ofAlternatives m (unnumberedAlternatives alternatives) =
      unnumberedBranches (Op.ofAlternatives m alternatives)
  | _, [] => rfl
  | m, items :: alternatives => by
    rw [unnumberedAlternatives, Op.ofAlternatives, Op.ofAlternatives, ofItems_unnumbered m items,
      ofAlternatives_unnumbered m alternatives, unnumberedBranches]

end

mutual

theorem opsAreFree_ofItem : (m : Modes) → (item : Item) → item.isFree = true →
    opsAreFree (Op.ofItem m item) = true
  | _, .code _, _ | _, .notCode _, _ | _, .any, _ | _, .set _ _, _ | _, .anchor _, _ => rfl
  | m, .group none flags body, h => opsAreFree_ofItems (m.after flags) body h
  | m, .group (some index) flags body, h => by
    simp [Op.ofItem, opsAreFree, Op.isFree, opsAreFree_ofItems (m.after flags) body h]
  | m, .atomic body, h => by
    simp [Op.ofItem, opsAreFree, Op.isFree, opsAreFree_ofItems m body h]
  | m, .look behind negated body, h => by
    simp [Op.ofItem, opsAreFree, Op.isFree, opsAreFree_ofItems m body h]
  | m, .branch alternatives, h => by
    simp [Op.ofItem, opsAreFree, Op.isFree, branchesAreFree_ofAlternatives m alternatives h]
  | m, .repeated kind least most body, h => by
    rw [Op.ofItem]
    split
    · rfl
    · simp [opsAreFree, Op.isFree, opsAreFree_ofItems m body h]

theorem opsAreFree_ofItems : (m : Modes) → (items : List Item) → areFree items = true →
    opsAreFree (Op.ofItems m items) = true
  | _, [], _ => rfl
  | m, item :: items, h => by
    rw [areFree, Bool.and_eq_true] at h
    rw [Op.ofItems, opsAreFree_append, opsAreFree_ofItem m item h.1, opsAreFree_ofItems m items h.2,
      Bool.and_true]

theorem branchesAreFree_ofAlternatives : (m : Modes) → (alternatives : List (List Item)) →
    areAllFree alternatives = true →
    branchesAreFree (Op.ofAlternatives m alternatives) = true
  | _, [], _ => rfl
  | m, items :: alternatives, h => by
    rw [areAllFree, Bool.and_eq_true] at h
    rw [Op.ofAlternatives, branchesAreFree, opsAreFree_ofItems m items h.1,
      branchesAreFree_ofAlternatives m alternatives h.2, Bool.and_true]

end

end UrlRouting.Regex
