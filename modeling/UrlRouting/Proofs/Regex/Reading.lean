import UrlRouting.Proofs.Regex.Lexeme
import UrlRouting.Regex.Basic

/-!
# Reading regular rules

What a regular rule is read as: every node becomes an item, groups that capture are counted from
left to right, and the reader joins alternatives and splices plain groups into their sequence.

`Reading.Grown` is what a phrase does to a reading: it changes the current level and closes some
groups.  `Reading.read_of_spells` follows a spelled phrase through the reader, and
`readItems_anchored` says what a whole rule comes to.
-/

namespace UrlRouting.Regex

/-! ## Items of nodes -/

mutual

/-- The number of groups in a node that capture. -/
def Node.groups : Node → Nat
  | .group captures alternatives => (if captures then 1 else 0) + groupsOfChoice alternatives
  | .repeated _ _ body => body.groups
  | _ => 0

/-- The number of groups in a sequence that capture. -/
def groupsOfSequence : List Node → Nat
  | [] => 0
  | node :: nodes => node.groups + groupsOfSequence nodes

/-- The number of groups in alternatives that capture. -/
def groupsOfChoice : List (List Node) → Nat
  | [] => 0
  | nodes :: alternatives => groupsOfSequence nodes + groupsOfChoice alternatives

end

/-- How a repetition of a regular rule chooses its count. -/
def repetitionOf (isLazy : Bool) : Repetition := if isLazy then .lazy else .greedy

mutual

/-- The item that a node is read as, if `next` is the number of the next group. -/
def Node.item (next : Nat) : Node → Item
  | .char code => .code code
  | .any => .any
  | .set negated members => itemOfSet negated members
  | .group true alternatives =>
      .group (some next) .none (joined (alternativesFrom (next + 1) alternatives))
  | .group false alternatives => .group none .none (joined (alternativesFrom next alternatives))
  | .repeated isLazy counts body =>
      .repeated (repetitionOf isLazy) counts.least counts.most (body.item next).spliced

/-- The items that a sequence is read as. -/
def itemsFrom (next : Nat) : List Node → List Item
  | [] => []
  | node :: nodes => node.item next :: itemsFrom (next + node.groups) nodes

/-- The sequences of items that alternatives are read as. -/
def alternativesFrom (next : Nat) : List (List Node) → List (List Item)
  | [] => []
  | nodes :: alternatives =>
      (itemsFrom next nodes).flatMap Item.spliced ::
        alternativesFrom (next + groupsOfSequence nodes) alternatives

end

namespace Reading

variable {r r' r'' : Reading} {items : List Item} {t u rest : Text} {k : Nat} {level : Level}

/-- A reading of a regular rule: it is not verbose, and the innermost group is no conditional. -/
structure IsPlain (r : Reading) : Prop where
  verbose : r.verbose = false
  kind : ∀ group ∈ r.opened.head?, ∀ index, group.kind ≠ .conditional index

/-- What a phrase does to a reading: it leaves another level, other names and the widths of some more
groups. -/
def Grown (r : Reading) (k : Nat) (level : Level) (r' : Reading) : Prop :=
  ∃ names widths, widths.length = r.widths.length + k ∧ r' = { r with level, names, widths }

theorem IsPlain.withLevel (hr : r.IsPlain) (level : Level) : IsPlain { r with level } :=
  ⟨hr.verbose, hr.kind⟩

theorem Grown.isPlain (h : r.Grown k level r') (hr : r.IsPlain) : r'.IsPlain := by
  obtain ⟨names, widths, -, rfl⟩ := h
  exact ⟨hr.verbose, hr.kind⟩

theorem Grown.level_eq (h : r.Grown k level r') : r'.level = level := by
  obtain ⟨names, widths, -, rfl⟩ := h
  rfl

theorem Grown.length_widths (h : r.Grown k level r') : r'.widths.length = r.widths.length + k := by
  obtain ⟨names, widths, hlength, rfl⟩ := h
  exact hlength

theorem Grown.trans {k' : Nat} {level' : Level} (h : r.Grown k level r')
    (h' : r'.Grown k' level' r'') : r.Grown (k + k') level' r'' := by
  obtain ⟨names, widths, hlength, rfl⟩ := h
  obtain ⟨names', widths', hlength', rfl⟩ := h'
  exact ⟨names', widths', by rw [hlength', hlength, Nat.add_assoc], rfl⟩

theorem grown_push (r : Reading) (item : Item) :
    r.Grown 0 ⟨item :: r.level.items, r.level.alternatives⟩ (r.push item) :=
  ⟨r.names, r.widths, rfl, rfl⟩

/-! ## Steps through a text -/

theorem readFrom_skip (r : Reading) (u t : Text) :
    r.readFrom u.length (u ++ t) = r.readFrom 0 t := by
  induction u with
  | nil => rfl
  | cons c u ih => exact ih

/-- After a step that reads a text the reading goes on with the rest. -/
theorem readFrom_of_step (hne : t ≠ []) (h : r.readFrom 0 (t ++ rest) = .ok items)
    (hstep : ∀ x, r.step (t ++ rest) = .ok x → x = (r', rest)) :
    r'.readFrom 0 rest = .ok items := by
  cases t with
  | nil => exact absurd rfl hne
  | cons c t =>
    rw [List.cons_append, readFrom] at h
    obtain ⟨x, hx, h⟩ := bind_eq_ok_iff.1 h
    cases hstep x hx
    have hskip : (t ++ rest).length - rest.length = t.length := by
      rw [List.length_append]
      omega
    dsimp only at h
    rw [hskip, readFrom_skip] at h
    exact h

/-- A character that is no backslash is read by itself. -/
theorem IsPlain.step_plain (hr : r.IsPlain) {c : Char} (hc : c ≠ '\\') (t : Text) :
    r.step (c :: t) = r.readPlain (c :: t) c t := by
  rw [step, token?_cons hc]
  simp [hr.verbose]

/-! ## Characters and sets -/

variable {code : Nat} {x : Reading × Text}

/-- A character is read as what it spells. -/
theorem step_char (hr : r.IsPlain) (h : SpellsChar code t rest)
    (hx : r.step (t ++ rest) = .ok x) : x = (r.push (.code code), rest) := by
  cases h with
  | @literal c _ h =>
    have hbackslash : c ≠ '\\' := by
      rintro rfl
      exact h (by decide)
    have hplain : r.readPlain (c :: rest) c rest = .ok (r.push (.code c.toNat), rest) := by
      unfold readPlain
      split <;> first | rfl | exact absurd (by decide) h
    rw [List.singleton_append, hr.step_plain hbackslash, hplain] at hx
    exact (Except.ok.inj hx).symm
  | brace h =>
    rw [List.singleton_append, hr.step_plain (by decide)] at hx
    obtain ⟨counts, hcounts, hx⟩ := bind_eq_ok_iff.1 (show r.readCounts _ rest = .ok x from hx)
    cases readBraces_of_not_bounds h hcounts
    exact (Except.ok.inj hx).symm
  | @control c code _ h =>
    have hc : anchorEscape? c = none ∧ categoryEscape? c = none ∧ controlEscape? c = some code := by
      simp only [controls, List.mem_cons, Prod.mk.injEq, List.not_mem_nil, or_false] at h
      rcases h with ⟨rfl, rfl⟩ | ⟨rfl, rfl⟩ | ⟨rfl, rfl⟩ | ⟨rfl, rfl⟩ | ⟨rfl, rfl⟩ | ⟨rfl, rfl⟩ <;>
        exact ⟨rfl, rfl, rfl⟩
    replace hx : r.readEscape _ c rest = .ok x := hx
    simp only [readEscape, hc] at hx
    exact (Except.ok.inj hx).symm
  | @escaped code t _ h =>
    obtain ⟨c, u, rfl, hanchor, hcategory, hdigit, hread⟩ := h.read
    replace hx : r.readEscape _ c (u ++ rest) = .ok x := hx
    rcases hread with ⟨hcontrol, rfl⟩ | ⟨hcontrol, hread⟩
    · simp only [readEscape, hanchor, hcategory, hcontrol] at hx
      exact (Except.ok.inj hx).symm
    · have hzero : c ≠ '0' := by
        rintro rfl
        cases hdigit
      simp only [readEscape, hanchor, hcategory, hcontrol, if_neg hzero, hdigit] at hx
      obtain ⟨y, hy, hx⟩ := bind_eq_ok_iff.1 hx
      cases hread _ rest y hy
      exact (Except.ok.inj hx).symm
  | @zero digits _ h =>
    replace hx : r.readEscape ('\\' :: '0' :: digits ++ rest) '0' (digits ++ rest) = .ok x := hx
    simp only [readEscape, anchorEscape?, categoryEscape?, controlEscape?, h.takeAtMost] at hx
    exact (Except.ok.inj hx).symm
  | @octal c d e _ hc hne hd he =>
    obtain ⟨hanchor, hcategory, hcontrol⟩ := escapes_of_isOctalDigit hc
    have hdigit := isAsciiDigit_of_isOctalDigit hc
    have hoctal : ∀ a ∈ [d, e], isOctalDigit a = true := by simp [hd, he]
    have htake : takeAtMost 2 isOctalDigit (d :: e :: rest) = ([d, e], rest) :=
      takeAtMost_append hoctal (le_refl 2) fun hlt => absurd hlt (lt_irrefl 2)
    replace hx : r.readEscape ('\\' :: c :: d :: e :: rest) c (d :: e :: rest) = .ok x := hx
    simp only [readEscape, hanchor, hcategory, hcontrol, if_neg hne, if_pos hdigit,
      readNumberEscape, htake, hc] at hx
    rw [if_pos (show (decide ([c, d, e].length = 3) && true) = true from rfl)] at hx
    obtain ⟨code, hcode, hx⟩ := bind_eq_ok_iff.1 hx
    cases octalCode_eq_ok hcode
    exact (Except.ok.inj hx).symm

/-- A class is read as a set of that class. -/
theorem step_category {c : Char} {member : Member} (h : (c, member) ∈ categories)
    (hx : r.step (['\\', c] ++ rest) = .ok x) :
    x = (r.push (itemOfSet false [member]), rest) := by
  have hc : anchorEscape? c = none ∧ categoryEscape? c = some member ∧
      itemOfSet false [member] = .set false [member] := by
    simp only [categories, List.mem_cons, Prod.mk.injEq, List.not_mem_nil, or_false] at h
    rcases h with ⟨rfl, rfl⟩ | ⟨rfl, rfl⟩ | ⟨rfl, rfl⟩ | ⟨rfl, rfl⟩ | ⟨rfl, rfl⟩ | ⟨rfl, rfl⟩ <;>
      exact ⟨rfl, rfl, rfl⟩
  replace hx : r.readEscape ('\\' :: c :: rest) c rest = .ok x := hx
  simp only [readEscape, hc] at hx
  rw [hc.2.2]
  exact (Except.ok.inj hx).symm

/-- A set is read as what its members spell. -/
theorem step_set (hr : r.IsPlain) {members : List Member} (h : SpellsMembers true members t rest)
    (hcaret : t.head? ≠ some '^') (hx : r.step ('[' :: t ++ rest) = .ok x) :
    x = (r.push (itemOfSet false members), rest) := by
  rw [List.cons_append, hr.step_plain (by decide)] at hx
  obtain ⟨y, hy, hx⟩ := bind_eq_ok_iff.1 (show (readSetItem _ (t ++ rest) >>= _) = .ok x from hx)
  cases h.readSetItem hcaret hy
  exact (Except.ok.inj hx).symm

/-- A set that begins with a caret is read as everything but what its members spell. -/
theorem step_negatedSet (hr : r.IsPlain) {members : List Member}
    (h : SpellsMembers true members t rest) (hx : r.step ('[' :: '^' :: t ++ rest) = .ok x) :
    x = (r.push (itemOfSet true members), rest) := by
  rw [List.cons_append, hr.step_plain (by decide)] at hx
  obtain ⟨y, hy, hx⟩ :=
    bind_eq_ok_iff.1 (show (readSetItem _ ('^' :: t ++ rest) >>= _) = .ok x from hx)
  cases h.readSetItem_negated hy
  exact (Except.ok.inj hx).symm

/-! ## Repetitions -/

theorem repeatLast_eq_ok {least : Nat} {most : Option Nat} {start : Text} {item : Item}
    {before : List Item} (hitems : r.level.items = item :: before)
    (hx : r.repeatLast least most start t = .ok x) :
    x = ({ r with
      level := ⟨.repeated (repetitionAndRest t).1 least most item.spliced :: before,
        r.level.alternatives⟩ }, (repetitionAndRest t).2) := by
  rw [repeatLast, hitems] at hx
  split at hx
  · next heq => cases heq
  · cases hx
  · cases hx
  · next heq =>
    cases heq
    exact (Except.ok.inj hx).symm

/-- Counts repeat the last item. -/
theorem step_counts (hr : r.IsPlain) {counts : Counts} (h : SpellsCounts counts t) {item : Item}
    {before : List Item} (hitems : r.level.items = item :: before)
    (hx : r.step (t ++ rest) = .ok x) :
    x = ({ r with
      level := ⟨.repeated (repetitionAndRest rest).1 counts.least counts.most item.spliced :: before,
        r.level.alternatives⟩ }, (repetitionAndRest rest).2) := by
  cases h with
  | star =>
    rw [List.singleton_append, hr.step_plain (by decide)] at hx
    exact repeatLast_eq_ok hitems hx
  | plus =>
    rw [List.singleton_append, hr.step_plain (by decide)] at hx
    exact repeatLast_eq_ok hitems hx
  | question =>
    rw [List.singleton_append, hr.step_plain (by decide)] at hx
    exact repeatLast_eq_ok hitems hx
  | @braces _ t h =>
    rw [List.cons_append, List.append_assoc, hr.step_plain (by decide)] at hx
    obtain ⟨y, hy, hx⟩ :=
      bind_eq_ok_iff.1 (show r.readCounts _ (t ++ '\x7d' :: rest) = .ok x from hx)
    cases readBraces_append h hy
    exact repeatLast_eq_ok hitems hx

/-- Behind an item, counts and the mark for lazy repetition make a repetition of it. -/
theorem Grown.repeatLast {item : Item} {before : List Item} {alternatives : List (List Item)}
    (h : r.Grown k ⟨item :: before, alternatives⟩ r') (hr : r.IsPlain) {counts : Counts}
    (hcounts : SpellsCounts counts t) {kind : Repetition} (mark : Text)
    (hmark : repetitionAndRest (mark ++ rest) = (kind, rest))
    (hread : r'.readFrom 0 (t ++ (mark ++ rest)) = .ok items) :
    ∃ r'', r.Grown k
        ⟨.repeated kind counts.least counts.most item.spliced :: before, alternatives⟩ r'' ∧
      r''.readFrom 0 rest = .ok items := by
  have hr' := h.isPlain hr
  obtain ⟨names, widths, hlength, rfl⟩ := h
  refine ⟨_, ⟨names, widths, hlength, rfl⟩, ?_⟩
  rw [← List.append_assoc] at hread
  refine readFrom_of_step (List.append_ne_nil_of_left_ne_nil hcounts.ne_nil _) hread fun x hx => ?_
  rw [List.append_assoc] at hx
  rw [step_counts hr' hcounts rfl hx, hmark]

/-! ## Groups -/

/-- A group that does not begin with a question mark captures. -/
theorem step_capturing (hr : r.IsPlain) (h : rest.head? ≠ some '?')
    (hx : r.step (['('] ++ rest) = .ok x) : x = (r.openCapturing ('(' :: rest), rest) := by
  rw [List.singleton_append, hr.step_plain (by decide)] at hx
  replace hx : r.readGroup ('(' :: rest) rest = .ok x := hx
  unfold readGroup at hx
  split at hx
  · exact absurd rfl h
  · exact (Except.ok.inj hx).symm

/-- A group with a name captures. -/
theorem step_named (hr : r.IsPlain) {name : Text} (hname : ∀ c ∈ name, c ≠ '\\' ∧ c ≠ '>')
    (hne : name ≠ []) (hx : r.step ('(' :: '?' :: 'P' :: '<' :: (name ++ '>' :: rest)) = .ok x) :
    x = ({ r.openCapturing ('(' :: '?' :: 'P' :: '<' :: (name ++ '>' :: rest)) with
      names := (name, r.widths.length) :: r.names }, rest) := by
  rw [hr.step_plain (by decide)] at hx
  replace hx : r.openNamed _ (name ++ '>' :: rest) = .ok x := hx
  rw [openNamed] at hx
  obtain ⟨y, hy, hx⟩ := bind_eq_ok_iff.1 hx
  rw [readName_append _ hname (by decide) hne] at hy
  cases hy
  dsimp only at hx
  split at hx
  · cases hx
  · split at hx
    · cases hx
    · exact (Except.ok.inj hx).symm

theorem step_plainGroup (hr : r.IsPlain) (hx : r.step (['(', '?', ':'] ++ rest) = .ok x) :
    x = (r.openGroup (.plain .none) ('(' :: '?' :: ':' :: rest), rest) := by
  rw [List.cons_append, hr.step_plain (by decide)] at hx
  exact (Except.ok.inj hx).symm

theorem IsPlain.openGroup (hr : r.IsPlain) {kind : GroupKind}
    (hkind : ∀ index, kind ≠ .conditional index) (opening : Text) (names : List (Text × Nat))
    (widths : List (Option Width)) :
    IsPlain { r.openGroup kind opening with names, widths } := by
  refine ⟨hr.verbose, fun group hgroup => ?_⟩
  cases hgroup
  exact hkind

theorem IsPlain.openCapturing (hr : r.IsPlain) (opening : Text) (names : List (Text × Nat)) :
    IsPlain { r.openCapturing opening with names } :=
  hr.openGroup (by nofun) opening names _

theorem IsPlain.openPlain (hr : r.IsPlain) (opening : Text) :
    IsPlain (r.openGroup (.plain .none) opening) :=
  hr.openGroup (by nofun) opening r.names r.widths

/-- A parenthesis closes a group: the item that its level comes to stands behind what stood in front
of the group. -/
theorem readFrom_closeGroup {kind : GroupKind} {opening : Text} {names : List (Text × Nat)}
    {widths : List (Option Width)} {k' : Nat} (hr : r.IsPlain)
    (hkind : ∀ index, kind ≠ .conditional index)
    (h : Grown { r.openGroup kind opening with names, widths } k level r')
    (hlength : widths.length + k = r.widths.length + k')
    (hread : r'.readFrom 0 (')' :: rest) = .ok items) :
    ∃ r'', r.Grown k' ⟨itemOf kind level :: r.level.items, r.level.alternatives⟩ r'' ∧
      r''.readFrom 0 rest = .ok items := by
  have hr' := h.isPlain (hr.openGroup hkind opening names widths)
  obtain ⟨names', widths', hlength', rfl⟩ := h
  refine ⟨_, ⟨names', widthsAfter kind level widths', ?_, rfl⟩, ?_⟩
  · rw [← hlength, ← hlength']
    cases kind <;> simp [widthsAfter]
  · refine readFrom_of_step (List.cons_ne_nil ')' []) hread fun x hx => ?_
    rw [List.singleton_append, hr'.step_plain (by decide)] at hx
    exact (Except.ok.inj hx).symm

/-- A bar ends an alternative. -/
theorem step_bar (hr : r.IsPlain) (hx : r.step (['|'] ++ rest) = .ok x) :
    x = ({ r with level := ⟨[], sequence r.level.items :: r.level.alternatives⟩ }, rest) := by
  rw [List.singleton_append, hr.step_plain (by decide)] at hx
  replace hx : r.endAlternative ('|' :: rest) rest = .ok x := hx
  unfold endAlternative at hx
  dsimp only at hx
  split at hx
  · next heq =>
    obtain ⟨group, hgroup, hkind⟩ := Option.map_eq_some_iff.1 heq
    exact absurd hkind (hr.kind group hgroup _)
  · exact (Except.ok.inj hx).symm

/-! ## Phrases -/

/-- What a phrase does to a reading.  Alternatives are read where a group begins. -/
def Took (r : Reading) : Phrase → Reading → Prop
  | .node node, r' =>
      r.Grown node.groups ⟨node.item r.widths.length :: r.level.items, r.level.alternatives⟩ r'
  | .sequence nodes, r' =>
      r.Grown (groupsOfSequence nodes)
        ⟨(itemsFrom r.widths.length nodes).reverse ++ r.level.items, r.level.alternatives⟩ r'
  | .choice alternatives, r' =>
      r.level.items = [] → ∃ level, r.Grown (groupsOfChoice alternatives) level r' ∧
        level.all = r.level.alternatives.reverse ++ alternativesFrom r.widths.length alternatives

/-- Behind a group the item that its alternatives are joined to has been read. -/
theorem Took.closeGroup {kind : GroupKind} {opening : Text} {names : List (Text × Nat)}
    {widths : List (Option Width)} {alternatives : List (List Node)} {k' : Nat}
    (htook : Took { r.openGroup kind opening with names, widths } (.choice alternatives) r')
    (hr : r.IsPlain) (hkind : ∀ index, kind ≠ .conditional index)
    (hlength : widths.length + groupsOfChoice alternatives = r.widths.length + k')
    (hread : r'.readFrom 0 (')' :: rest) = .ok items) :
    ∃ level r'', level.body = joined (alternativesFrom widths.length alternatives) ∧
      r.Grown k' ⟨itemOf kind level :: r.level.items, r.level.alternatives⟩ r'' ∧
      r''.readFrom 0 rest = .ok items := by
  obtain ⟨level, hgrown, hall⟩ := htook rfl
  obtain ⟨r'', hgrown', hread'⟩ := readFrom_closeGroup hr hkind hgrown hlength hread
  refine ⟨level, r'', ?_, hgrown', hread'⟩
  rw [Level.body, hall]
  simp [openGroup, Level.empty]

/-- Behind a group that captures, with or without a name, the group has been read. -/
theorem Took.closeCapturing {opening : Text} {names : List (Text × Nat)}
    {alternatives : List (List Node)}
    (htook : Took { r.openCapturing opening with names } (.choice alternatives) r')
    (hr : r.IsPlain) (hread : r'.readFrom 0 (')' :: rest) = .ok items) :
    ∃ r'', r.Took (.node (.group true alternatives)) r'' ∧ r''.readFrom 0 rest = .ok items := by
  have hone : (r.openCapturing opening).widths.length = r.widths.length + 1 := by
    simp [openCapturing]
  have hlength : (r.openCapturing opening).widths.length + groupsOfChoice alternatives =
      r.widths.length + (Node.group true alternatives).groups := by
    rw [hone, Node.groups, if_pos rfl, Nat.add_assoc]
  obtain ⟨level, r'', hbody, hgrown, hread'⟩ := htook.closeGroup hr nofun hlength hread
  rw [itemOf, hbody, hone] at hgrown
  exact ⟨r'', hgrown, hread'⟩

/-- A node and the nodes behind it are a sequence. -/
theorem Took.cons {node : Node} {nodes : List Node} (h : r.Took (.node node) r')
    (h' : r'.Took (.sequence nodes) r'') : r.Took (.sequence (node :: nodes)) r'' := by
  have hitems : (itemsFrom r.widths.length (node :: nodes)).reverse ++ r.level.items =
      (itemsFrom (r.widths.length + node.groups) nodes).reverse ++
        node.item r.widths.length :: r.level.items := by
    simp [itemsFrom]
  have hgrown := h.trans h'
  rw [h.length_widths, h.level_eq] at hgrown
  rw [Took, hitems]
  exact hgrown

/-- A sequence by itself is a choice. -/
theorem Took.single {nodes : List Node} (h : r.Took (.sequence nodes) r') :
    r.Took (.choice [nodes]) r' := by
  refine fun hnil => ⟨_, h, ?_⟩
  simp [Level.all, sequence, hnil, alternativesFrom]

/-- A sequence and the alternatives behind a bar are a choice. -/
theorem Took.bar {nodes : List Node} {alternatives : List (List Node)}
    (h : r.Took (.sequence nodes) r')
    (h' : Took { r' with level := ⟨[], sequence r'.level.items :: r'.level.alternatives⟩ }
      (.choice alternatives) r'') : r.Took (.choice (nodes :: alternatives)) r'' := by
  intro hnil
  obtain ⟨names, widths, hlength, rfl⟩ := h
  obtain ⟨level, ⟨names', widths', hlength', rfl⟩, hall⟩ := h' rfl
  refine ⟨level, ⟨names', widths', ?_, rfl⟩, ?_⟩
  · rw [hlength', groupsOfChoice, ← Nat.add_assoc, ← hlength]
  · rw [hall]
    simp [sequence, hnil, alternativesFrom, hlength]

/-- What is spelled is read: behind it the reading goes on with what the phrase left. -/
theorem read_of_spells {phrase : Phrase} (h : Spells phrase t rest) (hr : r.IsPlain)
    (hread : r.readFrom 0 (t ++ rest) = .ok items) :
    ∃ r', r.Took phrase r' ∧ r'.readFrom 0 rest = .ok items := by
  induction h generalizing r with
  | char h =>
    exact ⟨_, grown_push r _, readFrom_of_step h.ne_nil hread fun x => step_char hr h⟩
  | any =>
    refine ⟨_, grown_push r _, readFrom_of_step (List.cons_ne_nil _ _) hread fun x hx => ?_⟩
    rw [List.singleton_append, hr.step_plain (by decide)] at hx
    exact (Except.ok.inj hx).symm
  | category h =>
    exact ⟨_, grown_push r _,
      readFrom_of_step (List.cons_ne_nil _ _) hread fun x => step_category h⟩
  | set h hcaret =>
    exact ⟨_, grown_push r _,
      readFrom_of_step (List.cons_ne_nil _ _) hread fun x => step_set hr h hcaret⟩
  | negatedSet h =>
    exact ⟨_, grown_push r _,
      readFrom_of_step (List.cons_ne_nil _ _) hread fun x => step_negatedSet hr h⟩
  | @capturing alternatives t rest h ih =>
    have hhead : (t ++ ')' :: rest).head? ≠ some '?' := by
      cases t with
      | nil => simp
      | cons c t => exact h.head?_ne
    have hassoc : '(' :: (t ++ [')']) ++ rest = ['('] ++ (t ++ ')' :: rest) := by simp
    rw [hassoc] at hread
    obtain ⟨r₁, htook, hread⟩ := ih (hr.openCapturing _ _)
      (readFrom_of_step (List.cons_ne_nil _ _) hread fun x => step_capturing hr hhead)
    exact htook.closeCapturing hr hread
  | @named alternatives name t rest hname hne h ih =>
    have hassoc : '(' :: '?' :: 'P' :: '<' :: (name ++ '>' :: (t ++ [')'])) ++ rest =
        '(' :: '?' :: 'P' :: '<' :: (name ++ ['>']) ++ (t ++ ')' :: rest) := by simp
    rw [hassoc] at hread
    obtain ⟨r₁, htook, hread⟩ := ih (hr.openCapturing _ _)
      (readFrom_of_step (List.cons_ne_nil _ _) hread fun x hx =>
        step_named hr hname hne (by simpa using hx))
    exact htook.closeCapturing hr hread
  | @plain alternatives t rest h ih =>
    have hassoc : '(' :: '?' :: ':' :: (t ++ [')']) ++ rest =
        ['(', '?', ':'] ++ (t ++ ')' :: rest) := by simp
    rw [hassoc] at hread
    obtain ⟨r₁, htook, hread⟩ := ih (hr.openPlain _)
      (readFrom_of_step (List.cons_ne_nil _ _) hread fun x => step_plainGroup hr)
    have hlength : r.widths.length + groupsOfChoice alternatives =
        r.widths.length + (Node.group false alternatives).groups := by
      rw [Node.groups, if_neg Bool.false_ne_true, Nat.zero_add]
    obtain ⟨level, r₂, hbody, hgrown, hread⟩ := htook.closeGroup hr nofun hlength hread
    rw [itemOf, hbody] at hgrown
    exact ⟨r₂, hgrown, hread⟩
  | @greedy node counts t u rest h hcounts hends ih =>
    rw [List.append_assoc] at hread
    obtain ⟨r₁, htook, hread⟩ := ih hr hread
    have hgreedy : repetitionAndRest rest = (.greedy, rest) := by
      unfold repetitionAndRest
      split
      · exact absurd rfl (hends _ rfl).1
      · exact absurd rfl (hends _ rfl).2
      · rfl
    exact htook.repeatLast hr hcounts [] hgreedy hread
  | @lazy node counts t u rest h hcounts ih =>
    have hassoc : t ++ (u ++ ['?']) ++ rest = t ++ (u ++ '?' :: rest) := by simp
    rw [hassoc] at hread
    obtain ⟨r₁, htook, hread⟩ := ih hr hread
    exact htook.repeatLast hr hcounts ['?'] rfl hread
  | nil => exact ⟨r, ⟨r.names, r.widths, rfl, rfl⟩, hread⟩
  | cons h hnodes ih ihnodes =>
    rw [List.append_assoc] at hread
    obtain ⟨r₁, htook, hread⟩ := ih hr hread
    obtain ⟨r₂, htook', hread⟩ := ihnodes (htook.isPlain hr) hread
    exact ⟨r₂, htook.cons htook', hread⟩
  | single h ih =>
    obtain ⟨r₁, htook, hread⟩ := ih hr hread
    exact ⟨r₁, htook.single, hread⟩
  | @bar nodes alternatives t u rest h halternatives ih ihalternatives =>
    have hassoc : t ++ '|' :: u ++ rest = t ++ '|' :: (u ++ rest) := by simp
    rw [hassoc] at hread
    obtain ⟨r₁, htook, hread⟩ := ih hr hread
    have hr₁ := htook.isPlain hr
    have hread' := readFrom_of_step (List.cons_ne_nil '|' []) hread fun x => step_bar hr₁
    obtain ⟨r₂, htook', hread⟩ := ihalternatives (hr₁.withLevel _) hread'
    exact ⟨r₂, htook.bar htook', hread⟩

theorem isPlain_start : IsPlain .start := ⟨rfl, nofun⟩

end Reading

/-- A regular rule is read as its alternatives in the first group, between the start and the end. -/
theorem readItems_anchored {alternatives : List (List Node)} {rule : Text} {items : List Item}
    (h : Spells (.choice alternatives) rule []) (hread : readItems (anchored rule) = .ok items) :
    items = [.anchor .lineStart,
      .group (some 1) .none (joined (alternativesFrom 2 alternatives)), .anchor .lineEnd] := by
  have hpushed : (Reading.start.push (.anchor .lineStart)).IsPlain :=
    Reading.isPlain_start.withLevel _
  have hopening : anchored rule = ['^'] ++ (('(' :: (rule ++ [')'])) ++ ['$']) := by
    simp [anchored]
  rw [readItems, hopening] at hread
  have hstart : (Reading.start.push (.anchor .lineStart)).readFrom 0
      (('(' :: (rule ++ [')'])) ++ ['$']) = .ok items := by
    refine Reading.readFrom_of_step (List.cons_ne_nil '^' []) hread fun x hx => ?_
    rw [List.singleton_append, Reading.isPlain_start.step_plain (by decide)] at hx
    exact (Except.ok.inj hx).symm
  have hgroup : Spells (.node (.group true alternatives)) ('(' :: (rule ++ [')'])) ['$'] :=
    .capturing (h.append ['$'])
  obtain ⟨r, htook, hend⟩ := Reading.read_of_spells hgroup hpushed hstart
  have hr : r.IsPlain := htook.isPlain hpushed
  have hfinish : (r.push (.anchor .lineEnd)).readFrom 0 [] = .ok items := by
    rw [← List.append_nil ['$']] at hend
    refine Reading.readFrom_of_step (List.cons_ne_nil '$' []) hend fun x hx => ?_
    rw [List.append_nil, hr.step_plain (by decide)] at hx
    exact (Except.ok.inj hx).symm
  obtain ⟨names, widths, -, rfl⟩ := htook
  exact (Except.ok.inj hfinish).symm

end UrlRouting.Regex
