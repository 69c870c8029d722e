import UrlRouting.Proofs.Regex.Alike
import UrlRouting.Proofs.Regex.Merging
import UrlRouting.Proofs.Regex.Steps
import UrlRouting.Proofs.Route.Coherence

/-!
# Rules match whole texts

A rule is read between a parenthesis that opens a group at the start of the text and one that closes
it at the end.  It may close the group itself and open another one; then a bar between the two stands
outside all groups, and each side of it is bound to one end of the text only.  Such a rule is divided.
What a rule that is not divided matches in a text of a single line is the whole text:
`accepted_text_is_matched_whole`.
-/

namespace UrlRouting.Regex

/-- Whether a bar of a rule stands outside all groups, also that of the whole rule. -/
def isDivided (rule : Text) : Bool := Reading.start.isDividedFrom 0 (anchored rule)

/-- What a rule matches in front of a text, if it does. -/
def matched? (r : Regex) (t : Text) : Option Text :=
  match Matcher.alone (matcherOf r.program) (.start t) with
  | .gaveUp _ => none
  | .found s => some ((Cursor.start t).textTo s.cursor)

/-- A rule accepts the texts in which it matches something. -/
theorem accepts_eq_isSome_matched? (r : Regex) (t : Text) : r.accepts t = (r.matched? t).isSome := by
  unfold accepts matched?
  cases Matcher.alone (matcherOf r.program) (.start t) <;> rfl

/-! ## Programs that end with the end of the text -/

/-- The items of a rule that is not divided end with the end of the text. -/
theorem exists_append_of_readItems {rule : Text} {items : List Item}
    (h : readItems (anchored rule) = .ok items) (hdivided : isDivided rule = false) :
    ∃ before, items = before ++ [.anchor .lineEnd] :=
  Reading.exists_append_of_readFrom Reading.isWhole_start
    (.inr ⟨'^' :: '(' :: rule, by simp [anchored]⟩) h hdivided

/-- So do its operations. -/
theorem exists_append_of_compile {rule : Text} {regex : Regex} (h : compile rule = .ok regex)
    (hdivided : isDivided rule = false) :
    ∃ before, regex.program = before ++ [.anchor .closingEnd] := by
  rw [compile] at h
  split at h
  · cases h
  · next items hitems =>
    split at h
    · obtain ⟨before, rfl⟩ := exists_append_of_readItems hitems hdivided
      cases h
      exact ⟨Op.ofItems .rule before, ofItems_append _ _ _⟩
    · cases h

/-- Two characters are the same, and no line feed. -/
def SameInLine (c d : Char) : Prop := c = d ∧ c ≠ '\n'

theorem isLikeness_sameInLine : IsLikeness SameInLine where
  lineFeed c d h := by rw [h.1]
  word alphabet c d h := by rw [h.1]

theorem Demand.isBlind_sameInLine (demand : Demand) : demand.IsBlind SameInLine := by
  cases demand with
  | pass test =>
    rintro c d ⟨rfl, -⟩
    rfl
  | equal comparison =>
    rintro c d x y ⟨rfl, -⟩ ⟨rfl, -⟩
    rfl

/-- A text of a single line is like itself. -/
theorem forall₂_sameInLine {t : Text} (h : '\n' ∉ t) : List.Forall₂ SameInLine t t := by
  refine List.forall₂_same.2 fun c hc => ⟨rfl, ?_⟩
  rintro rfl
  exact h hc

/-- A program that ends with the end of the text finds final states with nothing behind them, if there
are no line feeds. -/
theorem agree_of_closingEnd (ops : List Op) :
    Agree SameInLine (fun s _ => s.cursor.rest = [])
      (fun s => matcherOf (ops ++ [.anchor .closingEnd]) s .found)
      fun s => matcherOf (ops ++ [.anchor .closingEnd]) s .found := by
  induction ops with
  | nil =>
    intro s s' h
    show Outcome.Alike _ _ (Matcher.anchor .closingEnd s .found)
      (Matcher.anchor .closingEnd s' .found)
    dsimp only [Matcher.anchor]
    rw [← h.cursor.holds_eq isLikeness_sameInLine]
    split
    · next hend =>
      refine .found ?_
      rw [Cursor.holds, Bool.or_eq_true, List.isEmpty_iff, beq_iff_eq] at hend
      refine hend.resolve_right fun hfeed => ?_
      have hrest := h.cursor.rest
      rw [hfeed] at hrest
      obtain ⟨_, _, hsame, -⟩ := List.forall₂_cons_left_iff.1 hrest
      exact hsame.2 rfl
    · exact .gaveUp h.noted
  | cons op ops ih =>
    exact op.keeps_matcher isLikeness_sameInLine (fun _ _ => Demand.isBlind_sameInLine _)
      (fun demand _ => demand.isBlind_sameInLine) _ _ _ ih

/-- What such a program matches in a text of a single line is the whole text. -/
theorem matched?_of_closingEnd {regex : Regex} {before : List Op}
    (hprogram : regex.program = before ++ [.anchor .closingEnd]) {t : Text} (hline : '\n' ∉ t)
    (haccepts : regex.accepts t = true) : regex.matched? t = some t := by
  have hagree := agree_of_closingEnd before _ _ (SearchState.alike_start (forall₂_sameInLine hline))
  rw [accepts_eq_isSome_matched?] at haccepts
  unfold matched? at haccepts ⊢
  rw [hprogram] at haccepts ⊢
  replace hagree : Outcome.Alike SameInLine _ (Matcher.alone _ _) (Matcher.alone _ _) := hagree
  cases hoc : Matcher.alone (matcherOf (before ++ [.anchor .closingEnd])) (.start t) with
  | gaveUp noted =>
    rw [hoc] at haccepts
    cases haccepts
  | found s =>
    rw [hoc] at hagree
    cases hagree with
    | found hrest =>
      show some ((Cursor.start t).textTo s.cursor) = some t
      rw [Cursor.textTo, hrest]
      exact congrArg some (List.take_length)

end UrlRouting.Regex

namespace UrlRouting

/-- **Rules match whole texts.**  If a rule that is not divided accepts a text without a line feed,
whatever it is made of, then what it matches is the whole text. -/
theorem accepted_text_is_matched_whole {urlPattern name rule : Text} {check : Check}
    (hread : readCheck urlPattern name (.text rule) = .ok check)
    (hdivided : Regex.isDivided rule = false) {values : Bindings Value} {t : Text}
    (hvalue : values.get? name = some (.text t)) (hline : '\n' ∉ t)
    (haccepts : check.accepts values = true) : check.regex.matched? t = some t := by
  obtain ⟨hname, rule', hrule', hcompile⟩ := (readCheck_eq_ok_iff _ _ _ _).1 hread
  cases hrule'
  obtain ⟨before, hprogram⟩ := Regex.exists_append_of_compile hcompile hdivided
  rw [Check.accepts, hname, hvalue] at haccepts
  exact Regex.matched?_of_closingEnd hprogram hline haccepts

/-- A rule that closes the group and opens another one, without a bar between the two, matches whole
texts too. -/
theorem accepted_text_is_matched_whole_unbalanced :
    ∃ check, readCheck [] "v".toList (.text "a|ab)(c?".toList) = .ok check ∧
      check.regex.matched? "ab".toList = some "ab".toList := by
  have haccepts : (readCheck [] "v".toList (.text "a|ab)(c?".toList)).toOption.map
      (·.accepts (.ofList [("v".toList, .text "ab".toList)])) = some true := by decide +kernel
  cases hcheck : readCheck [] "v".toList (.text "a|ab)(c?".toList) with
  | error fault =>
    rw [hcheck] at haccepts
    cases haccepts
  | ok check =>
    rw [hcheck] at haccepts
    exact ⟨check, rfl, accepted_text_is_matched_whole hcheck (by decide +kernel) rfl (by decide)
      (Option.some.inj haccepts)⟩

/-- A divided rule accepts a text although it matches the start of it only. -/
theorem divided_rule_matches_start_only :
    (readCheck [] "v".toList (.text "a)|(b".toList)).toOption.map (fun check =>
      (check.accepts (.ofList [("v".toList, .text "ac".toList)]), check.regex.matched? "ac".toList)) =
        some (true, some "a".toList) := by
  decide +kernel

end UrlRouting
