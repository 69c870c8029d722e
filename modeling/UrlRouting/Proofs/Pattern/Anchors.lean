import UrlRouting.Proofs.Pattern.Filling

/-!
# What a filling writes

A segment has a text if it is a literal, or a variable with a value or a default.  A full filling
writes all texts.  A brief one writes them up to the last anchor: a literal, or a variable whose
value differs from its default by more than case.  `fill_writes_texts_up_to_last_anchor` says both;
it rests on `isAnchor_iff`, by which the anchors are the segments whose texts are never held back.
-/

namespace UrlRouting

namespace Segment

/-- The text that a segment has: its own if it is a literal, else that of the value of its name, or of
the default if there is no value. -/
def text? (values defaults : Bindings Value) : Segment → Option Text
  | literal own => some own
  | named _ name =>
      match values.get? name with
      | some value => some value.urlText
      | none => (defaults.get? name).map Value.urlText

/-- Whether a segment is written whatever follows it: a literal, or a variable with a value that is
more than its default in another case. -/
def IsAnchor (values defaults : Bindings Value) : Segment → Prop
  | literal _ => True
  | named _ name =>
      ∃ value, values.get? name = some value ∧
        ∀ default, defaults.get? name = some default →
          Text.lowercase value.urlText ≠ Text.lowercase default.urlText

variable {values defaults : Bindings Value} {segment : Segment} {text : Text}

/-- The text of a segment is its token by the values and the defaults behind them. -/
theorem text?_eq_token? (values defaults : Bindings Value) (segment : Segment) :
    segment.text? values defaults = segment.token? (values.withDefaults defaults) := by
  cases segment with
  | literal own => rfl
  | named written name =>
    rw [text?, token?, Bindings.get?_withDefaults]
    cases values.get? name <;> rfl

/-- A text repeats the default of a segment if both are the same up to case. -/
theorem repeatsDefault_eq_true_iff : repeatsDefault defaults segment text = true ↔
    ∃ name default, segment.name? = some name ∧ defaults.get? name = some default ∧
      Text.lowercase text = Text.lowercase default.urlText := by
  simp only [repeatsDefault, Option.any_eq_true, Option.bind_eq_some_iff, sameUpToCase, beq_iff_eq]
  constructor
  · rintro ⟨default, ⟨name, hname, hdefault⟩, hsame⟩
    exact ⟨name, default, hname, hdefault, hsame⟩
  · rintro ⟨name, default, hname, hdefault, hsame⟩
    exact ⟨default, ⟨name, hname, hdefault⟩, hsame⟩

/-- The anchors are the segments with a text that does not repeat their default. -/
theorem isAnchor_iff : segment.IsAnchor values defaults ↔
    ∃ text, segment.text? values defaults = some text ∧
      repeatsDefault defaults segment text = false := by
  cases segment with
  | literal own => exact iff_of_true trivial ⟨own, rfl, rfl⟩
  | named written name =>
    cases hvalue : values.get? name with
    | some value =>
      cases hdefault : defaults.get? name <;>
        simp [IsAnchor, text?, hvalue, hdefault, repeatsDefault, name?, sameUpToCase]
    | none =>
      -- a text that only comes from the default repeats it
      have hrepeats : ∀ default, defaults.get? name = some default →
          repeatsDefault defaults (named written name) default.urlText = true :=
        fun default hdefault => repeatsDefault_eq_true_iff.2 ⟨name, default, rfl, hdefault, rfl⟩
      refine iff_of_false ?_ ?_
      · rintro ⟨value, h, -⟩
        rw [hvalue] at h
        cases h
      · rintro ⟨text, htext, hnot⟩
        rw [text?, hvalue] at htext
        obtain ⟨default, hdefault, rfl⟩ := Option.map_eq_some_iff.1 htext
        rw [hrepeats default hdefault] at hnot
        cases hnot

end Segment

variable {values defaults : Bindings Value} {segments : List Segment} {segment : Segment}
  {text : Text}

/-- A segment without a text leaves a brief filling as it is. -/
theorem fillBriefly_concat_of_none (h : segment.text? values defaults = none) :
    fillBriefly (segments ++ [segment]) values defaults = fillBriefly segments values defaults := by
  have hpiece : segment.piece? values defaults = none := by
    rw [piece?_eq, ← Segment.text?_eq_token?, h]
    rfl
  rw [fillBriefly, List.filterMap_append, List.filterMap_cons_none hpiece, List.filterMap_nil,
    List.append_nil]
  rfl

/-- A text at the end that repeats a default is not written. -/
theorem fillBriefly_concat_of_repeats (h : segment.text? values defaults = some text)
    (hrepeats : repeatsDefault defaults segment text = true) :
    fillBriefly (segments ++ [segment]) values defaults = fillBriefly segments values defaults := by
  have hpiece : segment.piece? values defaults = some (.held text) := by
    rw [piece?_eq, ← Segment.text?_eq_token?, h, Option.map_some, pieceOf, if_pos hrepeats]
  rw [fillBriefly, List.filterMap_append, List.filterMap_cons_some hpiece, List.filterMap_nil,
    settle_append_held]
  rfl

/-- The pieces of segments carry their texts. -/
theorem map_token_filterMap_piece? (segments : List Segment) (values defaults : Bindings Value) :
    (segments.filterMap (·.piece? values defaults)).map Piece.token =
      segments.filterMap (·.text? values defaults) := by
  rw [List.map_filterMap]
  refine List.filterMap_congr fun segment _ => ?_
  rw [piece?_eq, ← Segment.text?_eq_token?, Option.map_map]
  have htoken : Piece.token ∘ pieceOf defaults segment = id :=
    funext fun text => token_pieceOf defaults segment text
  rw [htoken, Option.map_id_apply]

/-- An anchor at the end makes all texts be written. -/
theorem fillBriefly_concat_of_isAnchor (h : segment.IsAnchor values defaults) :
    fillBriefly (segments ++ [segment]) values defaults =
      (segments ++ [segment]).filterMap (·.text? values defaults) := by
  obtain ⟨text, htext, hnot⟩ := Segment.isAnchor_iff.1 h
  have hpiece : segment.piece? values defaults = some (.fixed text) := by
    rw [piece?_eq, ← Segment.text?_eq_token?, htext, Option.map_some, pieceOf, hnot]
    rfl
  rw [fillBriefly, List.filterMap_append, List.filterMap_cons_some hpiece, List.filterMap_nil,
    settle_append_fixed, List.nil_append, map_token_filterMap_piece?, List.filterMap_append,
    List.filterMap_cons_some htext, List.filterMap_nil]

/-- **What filling writes.**  A full filling writes the texts of all segments that have one, in order.
A brief filling writes those up to the last anchor, and nothing if there is no anchor.  What it leaves
out behind the anchor are texts that repeat the default of their segment up to case. -/
theorem fill_writes_texts_up_to_last_anchor (segments : List Segment)
    (values defaults : Bindings Value) :
    fillFully segments values defaults = segments.filterMap (·.text? values defaults) ∧
      ∃ written left, segments = written ++ left ∧
        fillBriefly segments values defaults = written.filterMap (·.text? values defaults) ∧
        (∀ anchor ∈ written.getLast?, anchor.IsAnchor values defaults) ∧
        (∀ segment ∈ left, ¬ segment.IsAnchor values defaults) ∧
        ∀ segment ∈ left, ∀ text, segment.text? values defaults = some text →
          ∃ name default, segment.name? = some name ∧ defaults.get? name = some default ∧
            Text.lowercase text = Text.lowercase default.urlText := by
  refine ⟨List.filterMap_congr fun segment _ => (segment.text?_eq_token? values defaults).symm, ?_⟩
  induction segments using List.reverseRecOn with
  | nil => exact ⟨[], [], rfl, rfl, by simp, by simp, by simp⟩
  | append_singleton segments segment ih =>
    obtain ⟨written, left, rfl, hfill, hends, hnone, hrepeat⟩ := ih
    by_cases hanchor : segment.IsAnchor values defaults
    · refine ⟨written ++ left ++ [segment], [], by simp, fillBriefly_concat_of_isAnchor hanchor, ?_,
        by simp, by simp⟩
      intro anchor h
      rw [List.getLast?_concat] at h
      cases h
      exact hanchor
    · have hrepeats : ∀ text, segment.text? values defaults = some text →
          repeatsDefault defaults segment text = true := by
        intro text htext
        by_contra hnot
        exact hanchor (Segment.isAnchor_iff.2 ⟨text, htext, Bool.eq_false_iff.2 hnot⟩)
      have hsame : fillBriefly (written ++ left ++ [segment]) values defaults =
          fillBriefly (written ++ left) values defaults := by
        cases htext : segment.text? values defaults with
        | none => exact fillBriefly_concat_of_none htext
        | some text => exact fillBriefly_concat_of_repeats htext (hrepeats text htext)
      refine ⟨written, left ++ [segment], by simp, hsame.trans hfill, hends, ?_, ?_⟩
      · intro other hother
        rcases List.mem_append.1 hother with h | h
        · exact hnone other h
        · rw [List.mem_singleton.1 h]
          exact hanchor
      · intro other hother text htext
        rcases List.mem_append.1 hother with h | h
        · exact hrepeat other h text htext
        · rw [List.mem_singleton.1 h] at htext ⊢
          exact Segment.repeatsDefault_eq_true_iff.1 (hrepeats text htext)

end UrlRouting
