import UrlRouting.Proofs.Regex.Boundary
import UrlRouting.Proofs.Regex.Numbering
import UrlRouting.Proofs.Regex.Steps

/-!
# Reading a rule within a larger one

A rule that can be read by itself is read in the same way inside a group and in front of a bar or of
the parenthesis that closes the group: the groups that it opens stand on top of the one around it, its
alternatives are put behind those that the group has already, and only the numbers of its groups are
other ones.  `Reading.Follows` relates the two readings, `Follows.step` takes one step of both, and
`Follows.readFrom` goes through the whole rule.

References would see the other numbers, and a name could be taken, so the rule must have neither
(`refersHere`).
-/

namespace UrlRouting.Regex

variable {t u rest start start' : Text}

/-- Whether a text begins with a reference, a conditional or a group that has a name: `(?P`, `(?(`, or
a backslash with a number that is none of an octal escape. -/
def refersHere : Text → Bool
  | '(' :: '?' :: 'P' :: _ => true
  | '(' :: '?' :: '(' :: _ => true
  | '\\' :: c :: t =>
      Text.isAsciiDigit c && c != '0' &&
        !((takeAtMost 2 isOctalDigit t).1.length == 2 && isOctalDigit c)
  | _ => false

/-! ## Levels and groups up to numbers -/

/-- A level is the same as another one up to the numbers of groups, with more alternatives in front;
the items of the first one refer to no groups. -/
structure Level.Follows (before : List (List Item)) (l l' : Level) : Prop where
  items : unnumberedItems l'.items = unnumberedItems l.items
  alternatives : unnumberedAlternatives l'.alternatives =
    unnumberedAlternatives (l.alternatives ++ before)
  itemsFree : areFree l.items = true
  alternativesFree : areAllFree l.alternatives = true

/-- The kind of a group with the number zero. -/
def GroupKind.unnumbered : GroupKind → GroupKind
  | .capturing _ => .capturing 0
  | kind => kind

/-- Whether a group is a conditional. -/
def GroupKind.isConditional : GroupKind → Bool
  | .conditional _ => true
  | _ => false

theorem GroupKind.isConditional_unnumbered (kind : GroupKind) :
    kind.unnumbered.isConditional = kind.isConditional := by
  cases kind <;> rfl

/-- The current level and the open groups of a reading, and those of another one inside a group:
they are the same up to numbers, and below them that group is open and has some alternatives. -/
inductive Nested (around : OpenGroup) (before : List (List Item)) :
    Level → Bool → List OpenGroup → Level → Bool → List OpenGroup → Prop
  | outside {l l' : Level} (level : l.Follows before l') :
      Nested around before l false [] l' false [around]
  | inside {l l' : Level} {group group' : OpenGroup} {opened opened' : List OpenGroup}
      (verbose : Bool) (level : l.Follows [] l')
      (kind : group'.kind.unnumbered = group.kind.unnumbered)
      (isFree : group.kind.isConditional = false)
      (behind : Nested around before group.level group.verbose opened group'.level group'.verbose
        opened') :
      Nested around before l verbose (group :: opened) l' verbose (group' :: opened')

/-! ### Levels -/

namespace Level.Follows

variable {before : List (List Item)} {l l' : Level}

theorem empty (before : List (List Item)) : Level.Follows before .empty ⟨[], before⟩ :=
  ⟨rfl, rfl, rfl, rfl⟩

/-- A level goes on with an item that is the same up to numbers. -/
theorem push (h : l.Follows before l') {item item' : Item}
    (hitem : item'.unnumbered = item.unnumbered) (hfree : item.isFree = true) :
    Level.Follows before { l with items := item :: l.items }
      { l' with items := item' :: l'.items } where
  items := by rw [unnumberedItems, unnumberedItems, hitem, h.items]
  alternatives := h.alternatives
  itemsFree := by rw [areFree, hfree, h.itemsFree, Bool.and_true]
  alternativesFree := h.alternativesFree

/-- An alternative ends in both levels. -/
theorem endAlternative (h : l.Follows before l') :
    Level.Follows before ⟨[], sequence l.items :: l.alternatives⟩
      ⟨[], sequence l'.items :: l'.alternatives⟩ where
  items := rfl
  alternatives := by
    rw [List.cons_append, unnumberedAlternatives, unnumberedAlternatives, h.alternatives,
      ← sequence_unnumbered, h.items, sequence_unnumbered]
  itemsFree := rfl
  alternativesFree := by rw [areAllFree, areFree_sequence, h.itemsFree, h.alternativesFree]; rfl

/-- The alternatives of a level stand behind those that there were before it. -/
theorem all (h : l.Follows before l') :
    unnumberedAlternatives l'.all = unnumberedAlternatives (before.reverse ++ l.all) := by
  have hitems : unnumberedItems (sequence l'.items) = unnumberedItems (sequence l.items) := by
    rw [← sequence_unnumbered, h.items, sequence_unnumbered]
  have halternatives := h.alternatives
  simp only [unnumberedAlternatives_eq_map] at halternatives ⊢
  rw [Level.all, Level.all, List.reverse_cons, List.reverse_cons, List.map_append,
    List.map_reverse, halternatives]
  simp [hitems]

theorem areAllFree_all (h : l.Follows before l') : areAllFree l.all = true := by
  refine areAllFree_iff.2 fun items hitems => ?_
  rw [Level.all, List.mem_reverse, List.mem_cons] at hitems
  rcases hitems with rfl | hitems
  · rw [areFree_sequence, h.itemsFree]
  · exact areAllFree_iff.1 h.alternativesFree items hitems

/-- Without alternatives before it, a level comes to the same items. -/
theorem body (h : l.Follows [] l') : unnumberedItems l'.body = unnumberedItems l.body := by
  rw [Level.body, Level.body, ← joined_unnumbered, h.all, List.reverse_nil, List.nil_append,
    joined_unnumbered]

end Level.Follows

/-- Groups that are the same up to numbers become items that are. -/
theorem itemOf_unnumbered {kind kind' : GroupKind} {l l' : Level}
    (hkind : kind'.unnumbered = kind.unnumbered) (hfree : kind.isConditional = false)
    (h : l.Follows [] l') :
    (Reading.itemOf kind' l').unnumbered = (Reading.itemOf kind l).unnumbered := by
  cases kind with
  | capturing index =>
    cases kind' with
    | capturing index' => simp [Reading.itemOf, Item.unnumbered, h.body]
    | _ => cases hkind
  | conditional index => cases hfree
  | _ =>
    cases kind' <;> cases hkind
    simp [Reading.itemOf, Item.unnumbered, h.body]

/-- They refer to no group if the level does not. -/
theorem isFree_itemOf {before : List (List Item)} {kind : GroupKind} {l l' : Level}
    (hfree : kind.isConditional = false) (h : l.Follows before l') :
    (Reading.itemOf kind l).isFree = true := by
  have hbody : areFree l.body = true := areFree_joined h.areAllFree_all
  cases kind with
  | conditional index => cases hfree
  | _ => exact hbody

namespace Nested

variable {around : OpenGroup} {before : List (List Item)} {l l' : Level} {verbose verbose' : Bool}
  {group : OpenGroup} {opened opened' : List OpenGroup}

theorem verbose_eq (h : Nested around before l verbose opened l' verbose' opened') :
    verbose' = verbose := by
  cases h <;> rfl

/-- What changes the current level in both changes nothing else. -/
theorem withLevel (h : Nested around before l verbose opened l' verbose' opened') :
    ∃ before', l.Follows before' l' ∧ ∀ m m' : Level, m.Follows before' m' →
      Nested around before m verbose opened m' verbose' opened' := by
  cases h with
  | outside level => exact ⟨before, level, fun m m' hm => .outside hm⟩
  | inside _ level kind isFree behind =>
    exact ⟨[], level, fun m m' hm => .inside _ hm kind isFree behind⟩

/-- Outside all groups of its own a reading is not verbose, and the other one is in the group
around. -/
theorem of_nil (h : Nested around before l verbose [] l' verbose' opened') :
    verbose = false ∧ l.Follows before l' ∧ verbose' = false ∧ opened' = [around] := by
  cases h with
  | outside level => exact ⟨rfl, level, rfl, rfl⟩

/-- The innermost groups of both are the same up to numbers, and so is what goes on behind them. -/
theorem of_cons (h : Nested around before l verbose (group :: opened) l' verbose' opened') :
    ∃ group' behind', opened' = group' :: behind' ∧ l.Follows [] l' ∧
      group'.kind.unnumbered = group.kind.unnumbered ∧ group.kind.isConditional = false ∧
      Nested around before group.level group.verbose opened group'.level group'.verbose
        behind' := by
  cases h with
  | inside _ level kind isFree behind => exact ⟨_, _, rfl, level, kind, isFree, behind⟩

/-- The innermost groups are no conditionals. -/
theorem isConditional_head (h : Nested around before l verbose opened l' verbose' opened')
    (haround : around.kind = .capturing 1) :
    (∀ g ∈ opened.head?, g.kind.isConditional = false) ∧
      ∀ g ∈ opened'.head?, g.kind.isConditional = false := by
  cases h with
  | outside =>
    refine ⟨nofun, ?_⟩
    rintro g ⟨⟩
    rw [haround]
    rfl
  | @inside _ _ group group' _ _ _ _ kind isFree _ =>
    refine ⟨?_, ?_⟩
    · rintro g ⟨⟩
      exact isFree
    · rintro g ⟨⟩
      rw [← GroupKind.isConditional_unnumbered, kind, GroupKind.isConditional_unnumbered, isFree]

end Nested

namespace Reading

variable {r r' r₁ : Reading} {around : OpenGroup} {before : List (List Item)}

/-- A letter that is a flag, or a minus, opens a group with flags. -/
theorem readExtension_of_flag (r : Reading) (opening mark : Text) {token : Token}
    (htoken : token? t = some (token, rest)) (hflag : token = .plain '-' ∨ token.flag?.isSome) :
    r.readExtension opening mark t = r.openFlagged opening t := by
  unfold readExtension
  rw [htoken]
  split <;> (rename_i heq; cases heq)
  all_goals first | exact absurd hflag (by decide) | exact if_pos hflag

/-- A comment is passed over. -/
theorem readExtension_of_comment (r : Reading) (opening mark : Text) {behind : Text}
    (htoken : token? t = some (.plain '#', behind)) (hcomment : afterComment? behind = some rest) :
    r.readExtension opening mark t = .ok (r, rest) := by
  unfold readExtension
  rw [htoken]
  split <;> (rename_i heq; cases heq)
  · rw [hcomment]
    rfl
  · next hother => exact absurd rfl hother

/-- A set refers to no group. -/
theorem isFree_itemOfSet (negated : Bool) (members : List Member) :
    (itemOfSet negated members).isFree = true := by
  unfold itemOfSet
  split
  · cases negated <;> rfl
  · rfl

theorem isFree_of_readSetItem {item : Item} (h : readSetItem start t = .ok (item, rest)) :
    item.isFree = true := by
  obtain ⟨⟨members, rest'⟩, -, h⟩ := bind_eq_ok_iff.1 h
  cases h
  exact isFree_itemOfSet _ members

/-! ## Readings that follow each other -/

/-- A reading does the same as another one inside a group, where some alternatives have ended before
it. -/
structure Follows (around : OpenGroup) (before : List (List Item)) (r r' : Reading) : Prop where
  nested : Nested around before r.level r.verbose r.opened r'.level r'.verbose r'.opened
  conditions : r'.conditions = []
  captures : around.kind = .capturing 1

/-- What a reader does in one reading it does in the other one too, in front of more text. -/
def Keeps (around : OpenGroup) (before : List (List Item)) (u : Text)
    (x x' : Except Flaw (Reading × Text)) : Prop :=
  ∀ r rest, x = .ok (r, rest) →
    ∃ r', x' = .ok (r', rest ++ u) ∧ Follows around before r r'

theorem Keeps.of_follows (h : r.Follows around before r') (t : Text) :
    Keeps around before u (.ok (r, t)) (.ok (r', t ++ u)) := by
  rintro r₁ rest ⟨⟩
  exact ⟨r', rfl, h⟩

namespace Follows

variable (h : r.Follows around before r')

include h

theorem push {item item' : Item} (hitem : item'.unnumbered = item.unnumbered)
    (hfree : item.isFree = true) : Follows around before (r.push item) (r'.push item') := by
  obtain ⟨before', hlevel, hwith⟩ := h.nested.withLevel
  exact ⟨hwith _ _ (hlevel.push hitem hfree), h.conditions, h.captures⟩

/-- Reading an item leaves what follows it. -/
theorem keeps_push {item : Item} (hfree : item.isFree = true) (t : Text) :
    Keeps around before u (.ok (r.push item, t)) (.ok (r'.push item, t ++ u)) :=
  .of_follows (h.push rfl hfree) t

/-! ### Escapes -/

/-- A number of three octal digits writes a character. -/
theorem keeps_readNumberEscape {c : Char} (hu : IsBoundary u)
    (hoctal : ((takeAtMost 2 isOctalDigit t).1.length == 2 && isOctalDigit c) = true) :
    Keeps around before u (r.readNumberEscape start c t) (r'.readNumberEscape start' c (t ++ u)) := by
  intro r₁ rest hread
  have hthree : (decide ((c :: (takeAtMost 2 isOctalDigit t).1).length = 3) && isOctalDigit c) =
      true := by
    simpa using hoctal
  have hlength : 2 ≤ t.length := by
    rw [Bool.and_eq_true, beq_iff_eq] at hoctal
    have hle : (takeAtMost 2 isOctalDigit t).1.length ≤ t.length :=
      ((List.takeWhile_prefix _).trans (List.take_prefix 2 t)).length_le
    omega
  unfold readNumberEscape at hread ⊢
  rw [takeAtMost_continued hu.not_octalDigit]
  rw [if_pos hthree] at hread ⊢
  obtain ⟨code, hcode, hread⟩ := bind_eq_ok_iff.1 hread
  cases hread
  rw [List.drop_append_of_le_length hlength]
  exact ⟨_, bind_eq_ok_iff.2 ⟨code, octalCode_congr hcode, rfl⟩, h.push rfl rfl⟩

theorem keeps_readEscape {c : Char} (hu : IsBoundary u)
    (hrefers : (Text.isAsciiDigit c && c != '0' &&
      !((takeAtMost 2 isOctalDigit t).1.length == 2 && isOctalDigit c)) = false) :
    Keeps around before u (r.readEscape start c t) (r'.readEscape start' c (t ++ u)) := by
  intro r₁ rest hread
  unfold readEscape at hread ⊢
  split at hread
  · cases hread
    exact h.keeps_push rfl t _ _ rfl
  · cases hread
    exact h.keeps_push rfl t _ _ rfl
  · cases hread
    exact h.keeps_push rfl t _ _ rfl
  · split at hread
    · next hzero =>
      rw [if_pos hzero, takeAtMost_continued hu.not_octalDigit]
      cases hread
      exact h.keeps_push rfl _ _ _ rfl
    · next hzero =>
      rw [if_neg hzero]
      split at hread
      · next hdigit =>
        rw [if_pos hdigit]
        have hoctal : ((takeAtMost 2 isOctalDigit t).1.length == 2 && isOctalDigit c) = true := by
          simpa [hdigit, hzero] using hrefers
        exact h.keeps_readNumberEscape hu hoctal _ _ hread
      · next hdigit =>
        rw [if_neg hdigit]
        obtain ⟨⟨code, rest'⟩, hcode, hread⟩ := bind_eq_ok_iff.1 hread
        cases hread
        exact ⟨_, bind_eq_ok_iff.2 ⟨_, readCommonEscape_continued hu hcode, rfl⟩, h.push rfl rfl⟩

/-! ### Groups -/

/-- Both open a group of the same kind, whatever else they keep of it. -/
theorem openGroup {kind kind' : GroupKind} (hkind : kind'.unnumbered = kind.unnumbered)
    (hfree : kind.isConditional = false) {verbose verbose' : Bool} (hverbose : verbose' = verbose)
    (opening opening' : Text) (widths widths' : List (Option Width)) (look look' : Option Nat) :
    Follows around before { r.openGroup kind opening with verbose, widths, look }
      { r'.openGroup kind' opening' with
        verbose := verbose', widths := widths', look := look' } := by
  refine ⟨?_, h.conditions, h.captures⟩
  subst hverbose
  exact .inside _ (.empty []) hkind hfree h.nested

theorem openPlain {kind : GroupKind} (hfree : kind.isConditional = false)
    (opening opening' : Text) :
    Follows around before (r.openGroup kind opening) (r'.openGroup kind opening') :=
  h.openGroup rfl hfree h.nested.verbose_eq opening opening' r.widths r'.widths r.look r'.look

/-- The groups that capture have numbers of their own. -/
theorem openCapturing (opening opening' : Text) :
    Follows around before (r.openCapturing opening) (r'.openCapturing opening') :=
  have hkind : (GroupKind.capturing r'.widths.length).unnumbered =
      (GroupKind.capturing r.widths.length).unnumbered := rfl
  h.openGroup hkind rfl h.nested.verbose_eq opening opening' _ _ _ _

theorem keeps_readLookBehind {opening opening' mark mark' : Text} (u : Text) :
    Keeps around before u (r.readLookBehind opening mark t)
      (r'.readLookBehind opening' mark' (t ++ u)) := by
  intro r₁ rest hread
  unfold readLookBehind at hread ⊢
  split at hread
  · next htoken =>
    cases hread
    rw [token?_plain_continued htoken (by decide)]
    exact ⟨_, rfl, h.openGroup rfl rfl h.nested.verbose_eq opening opening' _ _ _ _⟩
  · next htoken =>
    cases hread
    rw [token?_plain_continued htoken (by decide)]
    exact ⟨_, rfl, h.openGroup rfl rfl h.nested.verbose_eq opening opening' _ _ _ _⟩
  · cases hread
  · cases hread

theorem keeps_openFlagged {opening opening' : Text} (u : Text) :
    Keeps around before u (r.openFlagged opening t) (r'.openFlagged opening' (t ++ u)) := by
  intro r₁ rest hread
  unfold openFlagged at hread ⊢
  obtain ⟨⟨flags, rest'⟩, hflags, hread⟩ := bind_eq_ok_iff.1 hread
  cases hread
  refine ⟨_, bind_eq_ok_iff.2 ⟨_, readFlags_continued hflags u, rfl⟩, ?_⟩
  exact h.openGroup rfl rfl (by simp only [h.nested.verbose_eq]) opening opening' _ _ _ _

theorem keeps_readExtension {opening opening' mark mark' : Text}
    (hrefers : ∀ c ∈ t.head?, c ≠ 'P' ∧ c ≠ '(') (u : Text) :
    Keeps around before u (r.readExtension opening mark t)
      (r'.readExtension opening' mark' (t ++ u)) := by
  intro r₁ rest hread
  unfold readExtension at hread ⊢
  split at hread
  · cases hread
  · next htoken =>
    rw [eq_of_token? htoken] at hrefers
    exact absurd rfl (hrefers 'P' rfl).1
  · next htoken =>
    cases hread
    rw [token?_plain_continued htoken (by decide)]
    exact ⟨_, rfl, h.openPlain rfl opening opening'⟩
  · next htoken =>
    cases hread
    rw [token?_plain_continued htoken (by decide)]
    exact ⟨_, rfl, h.openPlain rfl opening opening'⟩
  · next htoken =>
    cases hread
    rw [token?_plain_continued htoken (by decide)]
    exact ⟨_, rfl, h.openPlain rfl opening opening'⟩
  · next htoken =>
    rw [token?_plain_continued htoken (by decide)]
    exact h.keeps_readLookBehind u _ _ hread
  · next htoken =>
    cases hread
    rw [token?_plain_continued htoken (by decide)]
    exact ⟨_, rfl, h.openPlain rfl opening opening'⟩
  · next htoken =>
    rw [eq_of_token? htoken] at hrefers
    exact absurd rfl (hrefers '(' rfl).2
  · next htoken =>
    split at hread
    · next hcomment =>
      cases hread
      have hpassed := r'.readExtension_of_comment opening' mark'
        (token?_plain_continued htoken (by decide) u) (afterComment?_continued hcomment u)
      unfold readExtension at hpassed
      exact ⟨r', hpassed, h⟩
    · cases hread
  · next token behind _ _ _ _ _ _ _ _ htoken =>
    split at hread
    · next hflag =>
      have hbackslash : token ≠ .plain '\\' := by
        rintro rfl
        revert hflag
        decide
      have hflagged := r'.readExtension_of_flag opening' mark'
        (token?_continued htoken (.inr hbackslash) u) hflag
      unfold readExtension at hflagged
      rw [hflagged]
      exact h.keeps_openFlagged u _ _ hread
    · cases hread

theorem keeps_readGroup {opening opening' : Text} (hu : IsBoundary u)
    (hrefers : refersHere ('(' :: t) = false) :
    Keeps around before u (r.readGroup opening t) (r'.readGroup opening' (t ++ u)) := by
  intro r₁ rest hread
  unfold readGroup at hread
  split at hread
  · next t =>
    refine h.keeps_readExtension (fun c hc => ?_) u _ _ hread
    cases t with
    | nil => cases hc
    | cons d t =>
      cases hc
      refine ⟨?_, ?_⟩
      · rintro rfl
        cases hrefers
      · rintro rfl
        cases hrefers
  · next hmark =>
    cases hread
    have hopen : r'.readGroup opening' (t ++ u) = .ok (r'.openCapturing opening', t ++ u) := by
      unfold readGroup
      split
      · next heq =>
        cases t with
        | nil => cases hu <;> cases heq
        | cons c t =>
          cases heq
          exact absurd rfl (hmark t)
      · rfl
    exact ⟨_, hopen, h.openCapturing opening opening'⟩

theorem keeps_closeGroup (u : Text) :
    Keeps around before u (r.closeGroup start t) (r'.closeGroup start' (t ++ u)) := by
  intro r₁ rest hread
  unfold closeGroup at hread
  split at hread
  · cases hread
  · next group opened hopened =>
    cases hread
    obtain ⟨group', behind, hopened', hlevel, hkind, hfree, hbehind⟩ :=
      Nested.of_cons (hopened ▸ h.nested)
    have houter : Follows around before
        { r with level := group.level, opened, verbose := group.verbose,
                 widths := widthsAfter group.kind r.level r.widths, look := group.look }
        { r' with level := group'.level, opened := behind, verbose := group'.verbose,
                  widths := widthsAfter group'.kind r'.level r'.widths, look := group'.look } :=
      ⟨hbehind, h.conditions, h.captures⟩
    refine ⟨_, ?_, houter.push (itemOf_unnumbered hkind hfree hlevel) ?_⟩
    · unfold closeGroup
      rw [hopened']
      rfl
    · exact isFree_itemOf hfree hlevel

/-- Neither of them is in a conditional, so both end an alternative. -/
theorem endAlternative_eq (start start' t : Text) :
    r.endAlternative start t =
      .ok ({ r with level := ⟨[], sequence r.level.items :: r.level.alternatives⟩ }, t) ∧
    r'.endAlternative start' t =
      .ok ({ r' with level := ⟨[], sequence r'.level.items :: r'.level.alternatives⟩ }, t) := by
  obtain ⟨hhead, hhead'⟩ := h.nested.isConditional_head h.captures
  have hend : ∀ (x : Reading) (start : Text),
      (∀ g ∈ x.opened.head?, g.kind.isConditional = false) →
      x.endAlternative start t =
        .ok ({ x with level := ⟨[], sequence x.level.items :: x.level.alternatives⟩ }, t) := by
    intro x start hx
    unfold endAlternative
    dsimp only
    split
    · next heq =>
      obtain ⟨group, hgroup, hkind⟩ := Option.map_eq_some_iff.1 heq
      have hfree := hx group hgroup
      rw [hkind] at hfree
      cases hfree
    · rfl
  exact ⟨hend r start hhead, hend r' start' hhead'⟩

theorem keeps_endAlternative (u : Text) :
    Keeps around before u (r.endAlternative start t) (r'.endAlternative start' (t ++ u)) := by
  obtain ⟨before', hlevel, hwith⟩ := h.nested.withLevel
  have hended := hwith _ _ hlevel.endAlternative
  rw [(h.endAlternative_eq start start' t).1, (h.endAlternative_eq start start' (t ++ u)).2]
  have hfollows : Follows around before
      { r with level := ⟨[], sequence r.level.items :: r.level.alternatives⟩ }
      { r' with level := ⟨[], sequence r'.level.items :: r'.level.alternatives⟩ } :=
    ⟨hended, h.conditions, h.captures⟩
  exact .of_follows hfollows t

/-! ### Repetitions -/

theorem keeps_repeatLast (hu : IsBoundary u) (least : Nat) (most : Option Nat) :
    Keeps around before u (r.repeatLast least most start t)
      (r'.repeatLast least most start' (t ++ u)) := by
  intro r₁ rest hread
  obtain ⟨before', hlevel, hwith⟩ := h.nested.withLevel
  obtain ⟨hitems, halternatives, hitemsFree, halternativesFree⟩ := hlevel
  unfold repeatLast at hread
  split at hread
  · cases hread
  · cases hread
  · cases hread
  · next item items hanchor hrepeated heq =>
    cases hread
    rw [heq, areFree, Bool.and_eq_true] at hitemsFree
    rw [heq, unnumberedItems] at hitems
    cases hitems' : r'.level.items with
    | nil =>
      rw [hitems'] at hitems
      cases hitems
    | cons item' items' =>
      rw [hitems', unnumberedItems, List.cons.injEq] at hitems
      have hread' : r'.repeatLast least most start' (t ++ u) =
          .ok ({ r' with level := { r'.level with
            items := .repeated (repetitionAndRest t).1 least most item'.spliced :: items' } },
            (repetitionAndRest t).2 ++ u) := by
        have hanchor' : ∀ place, item' ≠ .anchor place := by
          rintro place rfl
          cases item <;> first | exact hanchor _ rfl | cases hitems.1
        have hrepeated' : ∀ kind least most body, item' ≠ .repeated kind least most body := by
          rintro kind least most body rfl
          cases item <;> first | exact hrepeated _ _ _ _ rfl | cases hitems.1
        rw [repeatLast, hitems']
        split
        · next heq => cases heq
        · next heq => exact absurd (List.cons.inj heq).1 (hanchor' _)
        · next heq => exact absurd (List.cons.inj heq).1 (hrepeated' _ _ _ _)
        · next heq =>
          cases heq
          rw [repetitionAndRest_continued hu]
          rfl
      refine ⟨_, hread', hwith _ _ ⟨?_, halternatives, ?_, halternativesFree⟩, h.conditions,
        h.captures⟩
      · simp only [unnumberedItems, Item.unnumbered, ← spliced_unnumbered, hitems.1, hitems.2]
        rfl
      · rw [areFree, Item.isFree, areFree_spliced, hitemsFree.1, hitemsFree.2]
        rfl

theorem keeps_readCounts (hu : IsBoundary u) :
    Keeps around before u (r.readCounts start t) (r'.readCounts start' (t ++ u)) := by
  intro r₁ rest hread
  unfold readCounts at hread ⊢
  obtain ⟨counts, hcounts, hread⟩ := bind_eq_ok_iff.1 hread
  cases counts with
  | none =>
    cases hread
    exact ⟨_, bind_eq_ok_iff.2 ⟨_, readBraces_continued hu hcounts, rfl⟩, h.push rfl rfl⟩
  | some counts =>
    obtain ⟨⟨least, most⟩, behind⟩ := counts
    have hrepeat : Keeps around before u (r.repeatLast least most start behind)
        (r'.repeatLast least most start' (behind ++ u)) := h.keeps_repeatLast hu least most
    obtain ⟨r₁', hread', hfollows⟩ := hrepeat _ _ hread
    exact ⟨r₁', bind_eq_ok_iff.2 ⟨_, readBraces_continued hu hcounts, hread'⟩, hfollows⟩

/-! ### Steps -/

theorem keeps_readPlain {c : Char} (hu : IsBoundary u) (hrefers : refersHere (c :: t) = false) :
    Keeps around before u (r.readPlain start c t) (r'.readPlain start' c (t ++ u)) := by
  intro r₁ rest hread
  unfold readPlain at hread ⊢
  split at hread
  · exact h.keeps_endAlternative u _ _ hread
  · exact h.keeps_closeGroup u _ _ hread
  · cases hread
  · obtain ⟨⟨item, behind⟩, hitem, hread⟩ := bind_eq_ok_iff.1 hread
    cases hread
    refine ⟨_, bind_eq_ok_iff.2 ⟨_, readSetItem_continued hu hitem, rfl⟩, h.push rfl (isFree_of_readSetItem hitem)⟩
  · exact h.keeps_repeatLast hu _ _ _ _ hread
  · exact h.keeps_repeatLast hu _ _ _ _ hread
  · exact h.keeps_repeatLast hu _ _ _ _ hread
  · exact h.keeps_readCounts hu _ _ hread
  · cases hread
    exact h.keeps_push rfl t _ _ rfl
  · exact h.keeps_readGroup hu hrefers _ _ hread
  · cases hread
    exact h.keeps_push rfl t _ _ rfl
  · cases hread
    exact h.keeps_push rfl t _ _ rfl
  · cases hread
    exact h.keeps_push rfl t _ _ rfl

/-- **One step of both readings.**  The other reading takes what the first one takes, unless that is
a comment up to the end of the text. -/
theorem step (hu : IsBoundary u) (hrefers : refersHere t = false) (hne : t ≠ [])
    (hstep : r.step t = .ok (r₁, rest)) :
    (rest = [] ∧ r₁ = r ∧ r.verbose = true) ∨
      ∃ r₁', r'.step (t ++ u) = .ok (r₁', rest ++ u) ∧ Follows around before r₁ r₁' := by
  unfold Reading.step at hstep ⊢
  split at hstep
  · next htoken => exact absurd (eq_nil_of_token? htoken) hne
  · next c behind htoken =>
    obtain rfl : t = '\\' :: c :: behind := eq_of_token? htoken
    exact .inr (h.keeps_readEscape hu hrefers _ _ hstep)
  · next c behind htoken =>
    obtain rfl : t = c :: behind := eq_of_token? htoken
    by_cases hbackslash : c = '\\'
    · -- a backslash that is read by itself is the last character, which no reading accepts
      subst hbackslash
      split at hstep
      · next hblank => exact absurd (Bool.and_eq_true_iff.1 hblank).2 (by decide)
      · split at hstep
        · next hcomment =>
          rw [Bool.and_eq_true, decide_eq_true_eq] at hcomment
          exact absurd hcomment.2 (by decide)
        · cases hstep
    · rw [token?_plain_continued htoken hbackslash]
      dsimp only
      rw [h.nested.verbose_eq]
      split at hstep
      · next hblank =>
        cases hstep
        rw [if_pos hblank]
        exact .inr ⟨r', rfl, h⟩
      · next hblank =>
        rw [if_neg hblank]
        split at hstep
        · next hcomment =>
          cases hstep
          rw [if_pos hcomment]
          by_cases hend : afterLine behind = []
          · rw [Bool.and_eq_true] at hcomment
            exact .inl ⟨hend, rfl, hcomment.1⟩
          · exact .inr ⟨r', by rw [afterLine_continued hend]; rfl, h⟩
        · next hcomment =>
          rw [if_neg hcomment]
          exact .inr (h.keeps_readPlain hu hrefers _ _ hstep)

end Follows

/-! ## Reading a whole text -/

/-- What has been read in front of the end of a text. -/
def readUpTo (r : Reading) : (skip : Nat) → Text → Except Flaw Reading
  | _, [] => .ok r
  | skip + 1, _ :: t => r.readUpTo skip t
  | 0, c :: t => do
      let (r, rest) ← r.step (c :: t)
      r.readUpTo (t.length - rest.length) t

/-- Whether a reference, a conditional or a group with a name is read. -/
def refersFrom (r : Reading) : (skip : Nat) → Text → Bool
  | _, [] => false
  | skip + 1, _ :: t => r.refersFrom skip t
  | 0, c :: t =>
      refersHere (c :: t) ||
        match r.step (c :: t) with
        | .ok (r', rest) => r'.refersFrom (t.length - rest.length) t
        | .error _ => false

/-- Characters that have been read already are skipped. -/
theorem readUpTo_skip (r : Reading) (u t : Text) :
    r.readUpTo u.length (u ++ t) = r.readUpTo 0 t := by
  induction u with
  | nil => rfl
  | cons c u ih => exact ih

theorem refersFrom_skip (r : Reading) (u t : Text) :
    r.refersFrom u.length (u ++ t) = r.refersFrom 0 t := by
  induction u with
  | nil => rfl
  | cons c u ih => exact ih

/-- After a step the reading goes on with the rest. -/
theorem readUpTo_of_step (hne : t ≠ []) (hstep : r.step t = .ok (r₁, rest)) :
    r.readUpTo 0 t = r₁.readUpTo 0 rest := by
  obtain ⟨c, u, rfl⟩ := (step_cases hstep hne).exists_cons_append
  have hskip : (u ++ rest).length - rest.length = u.length := by
    rw [List.length_append, Nat.add_sub_cancel]
  rw [List.cons_append, readUpTo, ← List.cons_append, hstep]
  exact (congrArg (r₁.readUpTo · (u ++ rest)) hskip).trans (readUpTo_skip r₁ u rest)

theorem refersFrom_of_step (hne : t ≠ []) (hstep : r.step t = .ok (r₁, rest)) :
    r.refersFrom 0 t = (refersHere t || r₁.refersFrom 0 rest) := by
  obtain ⟨c, u, rfl⟩ := (step_cases hstep hne).exists_cons_append
  have hskip : (u ++ rest).length - rest.length = u.length := by
    rw [List.length_append, Nat.add_sub_cancel]
  rw [List.cons_append, refersFrom, ← List.cons_append, hstep]
  dsimp only
  rw [hskip, refersFrom_skip]

/-- Outside all groups of its own a reading is not verbose, and the other one is in the group
around. -/
theorem Follows.of_opened_eq_nil (h : r.Follows around before r') (hopened : r.opened = []) :
    r.verbose = false ∧ r.level.Follows before r'.level ∧ r'.verbose = false ∧
      r'.opened = [around] := by
  have hnested := h.nested
  rw [hopened] at hnested
  exact hnested.of_nil

/-- **A whole text is read in the same way within a group** in front of a bar or of the parenthesis
that closes the group, if no group of its own is open at its end. -/
theorem Follows.readUpTo {r₂ : Reading} (h : r.Follows around before r') (hu : IsBoundary u)
    (hread : r.readUpTo 0 t = .ok r₂) (hopened : r₂.opened = [])
    (hrefers : r.refersFrom 0 t = false) :
    ∃ r₂', Follows around before r₂ r₂' ∧ r'.readUpTo 0 (t ++ u) = r₂'.readUpTo 0 u := by
  induction hn : t.length using Nat.strongRecOn generalizing r r' t with
  | _ n ih =>
    subst hn
    cases t with
    | nil =>
      cases hread
      exact ⟨r', h, rfl⟩
    | cons c t =>
      have hne : c :: t ≠ [] := List.cons_ne_nil c t
      obtain ⟨⟨r₁, rest⟩, hstep, -⟩ := bind_eq_ok_iff.1 hread
      rw [readUpTo_of_step hne hstep] at hread
      rw [refersFrom_of_step hne hstep, Bool.or_eq_false_iff] at hrefers
      rcases h.step hu hrefers.1 hne hstep with ⟨rfl, rfl, hverbose⟩ | ⟨r₁', hstep', h'⟩
      · -- a comment that takes the end stands in a group, which is then not closed
        cases hread
        rw [(h.of_opened_eq_nil hopened).1] at hverbose
        cases hverbose
      · have hshorter : rest.length < (c :: t).length := by
          obtain ⟨d, v, htaken⟩ := (step_cases hstep hne).exists_cons_append
          rw [htaken]
          simp only [List.length_append, List.length_cons]
          omega
        obtain ⟨r₂', hfollows, heq⟩ := ih _ hshorter h' hread hrefers.2 rfl
        refine ⟨r₂', hfollows, ?_⟩
        rw [readUpTo_of_step (List.append_ne_nil_of_left_ne_nil hne u) hstep', heq]

end Reading

end UrlRouting.Regex
