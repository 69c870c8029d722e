import Mathlib.Algebra.Order.Monoid.Unbundled.Pow
import UrlRouting.Proofs.Regex.Merging
import UrlRouting.Proofs.Regex.Search

/-!
# Regular rules accept their language

A regular rule accepts the texts of the language that it is read as, and those with a line feed
behind them (`accepts_iff`).  That language is a part of the usual one, and the same one if no
capital letter beyond the basic plane is among alternatives that become a set
(`readLanguage_isPartOf`).
-/

namespace UrlRouting.Regex

/-- The texts that a rule stands for as it is read: its alternatives are joined, and its groups count
from two. -/
def readLanguage (alternatives : List (List Node)) : Language Char :=
  itemsLanguage (joined (alternativesFrom 2 alternatives))

mutual

/-- Whether in a node no capital letter beyond the basic plane becomes a member of a set; `next` is
the number of the next group. -/
def Node.keepsCapitals (next : Nat) : Node → Bool
  | .group true alternatives =>
      keepCapitals (alternativesFrom (next + 1) alternatives) &&
        eachKeepsCapitals (next + 1) alternatives
  | .group false alternatives =>
      keepCapitals (alternativesFrom next alternatives) && eachKeepsCapitals next alternatives
  | .repeated _ _ body => body.keepsCapitals next
  | _ => true

/-- Whether the nodes of a sequence keep capital letters. -/
def sequenceKeepsCapitals (next : Nat) : List Node → Bool
  | [] => true
  | node :: nodes => node.keepsCapitals next && sequenceKeepsCapitals (next + node.groups) nodes

/-- Whether the nodes of alternatives keep capital letters. -/
def eachKeepsCapitals (next : Nat) : List (List Node) → Bool
  | [] => true
  | nodes :: alternatives =>
      sequenceKeepsCapitals next nodes &&
        eachKeepsCapitals (next + groupsOfSequence nodes) alternatives

end

/-- Whether in a rule no capital letter beyond the basic plane becomes a member of a set because
alternatives are joined. -/
def ruleKeepsCapitals (alternatives : List (List Node)) : Bool :=
  keepCapitals (alternativesFrom 2 alternatives) && eachKeepsCapitals 2 alternatives

/-! ## What is read denotes what is written -/

theorem repeated_mono (least : Nat) (most : Option Nat) {l l' : Language Char} (h : l ≤ l') :
    Regex.repeated least most l ≤ Regex.repeated least most l' := by
  rintro t ⟨n, hleast, hmost, ht⟩
  exact ⟨n, hleast, hmost, pow_le_pow_left' h n ht⟩

/-- One language is a part of another one, and the same one on a condition. -/
def IsPartOf (l l' : Language Char) (condition : Bool) : Prop :=
  l ≤ l' ∧ (condition = true → l = l')

theorem IsPartOf.refl (l : Language Char) (condition : Bool) : IsPartOf l l condition :=
  ⟨le_refl l, fun _ => rfl⟩

theorem IsPartOf.trans {l l' l'' : Language Char} {p q : Bool} (h : IsPartOf l l' p)
    (h' : IsPartOf l' l'' q) : IsPartOf l l'' (p && q) := by
  refine ⟨le_trans h.1 h'.1, fun hpq => ?_⟩
  rw [Bool.and_eq_true] at hpq
  rw [h.2 hpq.1, h'.2 hpq.2]

theorem IsPartOf.mul {l l' m m' : Language Char} {p q : Bool} (h : IsPartOf l l' p)
    (h' : IsPartOf m m' q) : IsPartOf (l * m) (l' * m') (p && q) := by
  refine ⟨mul_le_mul' h.1 h'.1, fun hpq => ?_⟩
  rw [Bool.and_eq_true] at hpq
  rw [h.2 hpq.1, h'.2 hpq.2]

theorem IsPartOf.add {l l' m m' : Language Char} {p q : Bool} (h : IsPartOf l l' p)
    (h' : IsPartOf m m' q) : IsPartOf (l + m) (l' + m') (p && q) := by
  refine ⟨add_le_add h.1 h'.1, fun hpq => ?_⟩
  rw [Bool.and_eq_true] at hpq
  rw [h.2 hpq.1, h'.2 hpq.2]

theorem IsPartOf.repeated {l l' : Language Char} {p : Bool} (h : IsPartOf l l' p) (least : Nat)
    (most : Option Nat) :
    IsPartOf (Regex.repeated least most l) (Regex.repeated least most l') p :=
  ⟨repeated_mono least most h.1, fun hp => by rw [h.2 hp]⟩

/-- What a phrase is read as is regular and stands for no other texts than the phrase. -/
def Phrase.IsReadWell (next : Nat) : Phrase → Prop
  | .node n =>
      areRegularItems [n.item next] = true ∧
        IsPartOf (itemsLanguage [n.item next]) n.language (n.keepsCapitals next)
  | .sequence ns =>
      areRegularItems ((itemsFrom next ns).flatMap Item.spliced) = true ∧
        IsPartOf (itemsLanguage ((itemsFrom next ns).flatMap Item.spliced))
          (languageOfSequence ns) (sequenceKeepsCapitals next ns)
  | .choice alternatives =>
      alternatives ≠ [] ∧ areRegularAlternatives (alternativesFrom next alternatives) = true ∧
        IsPartOf (choiceLanguage (alternativesFrom next alternatives))
          (languageOfChoice alternatives) (eachKeepsCapitals next alternatives)

variable {alternatives : List (List Node)} {node : Node} {next : Nat}

/-- Alternatives that are read well are read well when they are joined. -/
theorem Phrase.IsReadWell.joined (h : IsReadWell next (.choice alternatives)) :
    areRegularItems (joined (alternativesFrom next alternatives)) = true ∧
      IsPartOf (itemsLanguage (joined (alternativesFrom next alternatives)))
        (languageOfChoice alternatives)
        (keepCapitals (alternativesFrom next alternatives) &&
          eachKeepsCapitals next alternatives) := by
  obtain ⟨hne, hregular, hpart⟩ := h
  have hne' : alternativesFrom next alternatives ≠ [] := by
    cases alternatives with
    | nil => exact absurd rfl hne
    | cons nodes alternatives =>
      rw [alternativesFrom]
      exact List.cons_ne_nil _ _
  exact ⟨areRegularItems_joined hregular, IsPartOf.trans (itemsLanguage_joined hne' hregular) hpart⟩

/-- A single test is read as what it is. -/
theorem isReadWell_of_ofItem {test : CharTest}
    (hitem : Op.ofItem .rule (node.item next) = [.char test])
    (hlanguage : node.language = test.language) : Phrase.IsReadWell next (.node node) := by
  refine ⟨areRegularItems_of_ofItem hitem, ?_⟩
  rw [itemsLanguage_of_ofItem hitem, hlanguage]
  exact .refl _ _

/-- A repetition of what is read well is read well. -/
theorem Phrase.IsReadWell.repeated (h : IsReadWell next (.node node)) (isLazy : Bool)
    (counts : Counts) : IsReadWell next (.node (.repeated isLazy counts node)) := by
  have hcounted : isCounted (repetitionOf isLazy) counts.least counts.most = true := by
    rw [isCounted, Bool.and_eq_true]
    refine ⟨by cases isLazy <;> rfl, ?_⟩
    simpa [Option.all_eq_true] using counts.ordered
  refine ⟨?_, ?_⟩
  · rw [Node.item, areRegularItems_repeated, areRegularItems_spliced, hcounted, h.1]
    rfl
  · rw [Node.item, itemsLanguage_repeated, itemsLanguage_spliced, Node.language,
      Node.keepsCapitals]
    exact h.2.repeated _ _

/-- What is spelled is read well. -/
theorem isReadWell_of_spells {phrase : Phrase} {t rest : Text} (h : Spells phrase t rest)
    (next : Nat) : phrase.IsReadWell next := by
  induction h generalizing next with
  | @char code => exact isReadWell_of_ofItem (ofItem_code code) rfl
  | any => exact isReadWell_of_ofItem ofItem_any rfl
  | category => exact isReadWell_of_ofItem (ofItem_itemOfSet _ _) rfl
  | set => exact isReadWell_of_ofItem (ofItem_itemOfSet _ _) rfl
  | negatedSet => exact isReadWell_of_ofItem (ofItem_itemOfSet _ _) rfl
  | capturing _ ih | named _ _ _ ih =>
    obtain ⟨hregular, hpart⟩ := (ih (next + 1)).joined
    refine ⟨?_, ?_⟩
    · rw [Node.item, areRegularItems_group]
      exact hregular
    · rw [Node.item, itemsLanguage_group, Node.language, Node.keepsCapitals]
      exact hpart
  | plain _ ih =>
    obtain ⟨hregular, hpart⟩ := (ih next).joined
    refine ⟨?_, ?_⟩
    · rw [Node.item, areRegularItems_group]
      exact hregular
    · rw [Node.item, itemsLanguage_group, Node.language, Node.keepsCapitals]
      exact hpart
  | greedy _ _ _ ih => exact (ih next).repeated _ _
  | lazy _ _ ih => exact (ih next).repeated _ _
  | nil =>
    refine ⟨rfl, ?_⟩
    rw [itemsFrom, List.flatMap_nil, itemsLanguage_nil, languageOfSequence]
    exact .refl _ _
  | @cons node _ _ _ _ _ _ ih ihnodes =>
    obtain ⟨hregular, hpart⟩ := ih next
    obtain ⟨hregular', hpart'⟩ := ihnodes (next + node.groups)
    refine ⟨?_, ?_⟩
    · rw [itemsFrom, List.flatMap_cons, areRegularItems_append, areRegularItems_spliced, hregular,
        hregular']
      rfl
    · rw [itemsFrom, List.flatMap_cons, itemsLanguage_append, itemsLanguage_spliced,
        languageOfSequence, sequenceKeepsCapitals]
      exact hpart.mul hpart'
  | single _ ih =>
    obtain ⟨hregular, hpart⟩ := ih next
    refine ⟨List.cons_ne_nil _ _, ?_, ?_⟩
    · rw [alternativesFrom, alternativesFrom, areRegularAlternatives_cons, hregular]
      rfl
    · rw [alternativesFrom, alternativesFrom, choiceLanguage_cons, choiceLanguage_nil,
        languageOfChoice, languageOfChoice, eachKeepsCapitals, eachKeepsCapitals]
      exact hpart.add (.refl 0 true)
  | @bar nodes _ _ _ _ _ _ ih ihalternatives =>
    obtain ⟨hregular, hpart⟩ := ih next
    obtain ⟨-, hregular', hpart'⟩ := ihalternatives (next + groupsOfSequence nodes)
    refine ⟨List.cons_ne_nil _ _, ?_, ?_⟩
    · rw [alternativesFrom, areRegularAlternatives_cons, hregular, hregular']
      rfl
    · rw [alternativesFrom, choiceLanguage_cons, languageOfChoice, eachKeepsCapitals]
      exact hpart.add hpart'

variable {rule : Text} {regex : Regex}

/-- The language that a rule is read as is a part of the usual one, and the same one if no capital
letter beyond the basic plane becomes a member of a set. -/
theorem readLanguage_isPartOf (h : Spells (.choice alternatives) rule []) :
    IsPartOf (readLanguage alternatives) (languageOfChoice alternatives)
      (ruleKeepsCapitals alternatives) :=
  (isReadWell_of_spells h 2).joined.2

/-! ## Whole texts -/

/-- What a regular rule becomes: its operations in the first group, from the start to the end. -/
theorem program_of_compile (h : Spells (.choice alternatives) rule [])
    (hcompile : compile rule = .ok regex) :
    regex.program = .anchor .textStart :: .openGroup 1 ::
      (Op.ofItems .rule (joined (alternativesFrom 2 alternatives)) ++
        [.closeGroup 1, .anchor .closingEnd]) := by
  rw [compile] at hcompile
  split at hcompile
  · cases hcompile
  · next items hitems =>
    rw [readItems_anchored h hitems] at hcompile
    split at hcompile
    · cases hcompile
      show .anchor .textStart :: .openGroup 1 ::
        (Op.ofItems .rule _ ++ [.closeGroup 1] ++ [.anchor .closingEnd]) = _
      rw [List.append_assoc]
      rfl
    · cases hcompile

/-- Where a rule may end. -/
def closing : Language Char := {t | t = [] ∨ t = ['\n']}

/-- Behind the first group a rule ends at the end of the text or in front of a last line feed. -/
theorem decides_closing :
    Decides (fun s => matcherOf [.closeGroup 1, .anchor .closingEnd] s .found) closing := by
  intro s
  have hstep : matcherOf [.closeGroup 1, .anchor .closingEnd] s .found =
      Matcher.anchor .closingEnd { s with closings := (1, s.cursor) :: s.closings } .found := by
    simp only [matcherOf, Op.matcher]
    rfl
  dsimp only
  rw [hstep, Matcher.anchor]
  split
  · next hend =>
    refine iff_of_true rfl ?_
    show s.cursor.rest = [] ∨ s.cursor.rest = ['\n']
    simpa [Cursor.holds] using hend
  · next hend =>
    refine iff_of_false Bool.false_ne_true ?_
    show ¬ (s.cursor.rest = [] ∨ s.cursor.rest = ['\n'])
    simpa [Cursor.holds] using hend

/-- A rule is searched for from the start of a text on, in its first group. -/
theorem alone_matcherOf_anchored (ops : List Op) (t : Text) :
    Matcher.alone (matcherOf (.anchor .textStart :: .openGroup 1 :: ops)) (.start t) =
      matcherOf ops { SearchState.start t with openings := [(1, .start t)] } .found := by
  rw [Matcher.alone, matcherOf, matcherOf, Op.matcher, Op.matcher]
  rfl

/-- A rule accepts the texts of the language that it is read as, and those with a line feed behind
them. -/
theorem accepts_iff (h : Spells (.choice alternatives) rule [])
    (hcompile : compile rule = .ok regex) (t : Text) :
    regex.accepts t = true ↔
      t ∈ readLanguage alternatives ∨ ∃ w ∈ readLanguage alternatives, t = w ++ ['\n'] := by
  have hregular := (isReadWell_of_spells h 2).joined.1
  have hdecides := decides_matcherOf _ hregular _ decides_closing
  rw [Regex.accepts, program_of_compile h hcompile, alone_matcherOf_anchored]
  refine (hdecides _).trans ?_
  show t ∈ readLanguage alternatives * closing ↔ _
  rw [Language.mem_mul]
  constructor
  · rintro ⟨w, hw, v, rfl | rfl, rfl⟩
    · exact .inl (by rwa [List.append_nil])
    · exact .inr ⟨w, hw, rfl⟩
  · rintro (ht | ⟨w, hw, rfl⟩)
    · exact ⟨t, ht, [], .inl rfl, List.append_nil t⟩
    · exact ⟨w, hw, ['\n'], .inr rfl, rfl⟩

end UrlRouting.Regex
