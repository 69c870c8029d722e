import Mathlib.Data.List.DropRight
import Mathlib.Data.List.Forall2
import UrlRouting.Proofs.Bindings
import UrlRouting.Pattern.Filling

/-!
# What filled segments are

A segment has one token, by its value or else by its default, and filling writes these tokens in
order.  The main statements are `fillBriefly_eq_briefTokens`, which says which tokens a brief
filling leaves out at the end when every segment has one, and `forall₂_of_length_fillBriefly` and
`forall₂_of_length_fillFully`: a filling that is as long as its pattern has skipped nothing, so
that each of its tokens stands at the place of its own segment.
-/

namespace UrlRouting

variable {α β : Type}

/-! ## Settling pieces -/

namespace Piece

/-- Whether the piece only repeats a default. -/
def isHeld : Piece → Bool
  | fixed _ => false
  | held _ => true

/-- The token of a piece. -/
def token : Piece → Text
  | fixed token => token
  | held token => token

end Piece

/-- A repeated default at the end is never written. -/
theorem settle_append_held (waiting : List Text) (pieces : List Piece) (token : Text) :
    settle waiting (pieces ++ [.held token]) = settle waiting pieces := by
  induction pieces generalizing waiting with
  | nil => rfl
  | cons piece pieces ih =>
    cases piece with
    | fixed first => rw [List.cons_append, settle, settle, ih]
    | held first => rw [List.cons_append, settle, settle, ih]

/-- A fixed token at the end makes everything in front of it be written. -/
theorem settle_append_fixed (waiting : List Text) (pieces : List Piece) (token : Text) :
    settle waiting (pieces ++ [.fixed token]) =
      waiting ++ (pieces.map Piece.token ++ [token]) := by
  induction pieces generalizing waiting with
  | nil => rfl
  | cons piece pieces ih =>
    cases piece with
    | fixed first =>
      rw [List.cons_append, settle, ih]
      rfl
    | held first =>
      rw [List.cons_append, settle, ih]
      simp [Piece.token]

/-- What settling writes: everything up to the last fixed token. -/
theorem settle_nil_eq (pieces : List Piece) :
    settle [] pieces = (pieces.rdropWhile Piece.isHeld).map Piece.token := by
  induction pieces using List.reverseRecOn with
  | nil => rfl
  | append_singleton pieces piece ih =>
    cases piece with
    | held token =>
      rw [settle_append_held, ih, List.rdropWhile_concat_pos _ _ _ rfl]
    | fixed token =>
      rw [settle_append_fixed, List.rdropWhile_concat_neg _ _ _ (by simp [Piece.isHeld]),
        List.map_append]
      rfl

/-! ## The token of a segment -/

/-- Whether a token equals the default of its segment up to case. -/
def repeatsDefault (defaults : Bindings Value) (segment : Segment) (token : Text) : Bool :=
  (segment.name?.bind defaults.get?).any fun default => sameUpToCase token default.urlText

/-- The piece that a segment with the given token is. -/
def pieceOf (defaults : Bindings Value) (segment : Segment) (token : Text) : Piece :=
  if repeatsDefault defaults segment token then .held token else .fixed token

@[simp] theorem isHeld_pieceOf (defaults : Bindings Value) (segment : Segment) (token : Text) :
    (pieceOf defaults segment token).isHeld = repeatsDefault defaults segment token := by
  unfold pieceOf
  split
  · next h => rw [h]; rfl
  · next h => rw [Bool.not_eq_true] at h; rw [h]; rfl

@[simp] theorem token_pieceOf (defaults : Bindings Value) (segment : Segment) (token : Text) :
    (pieceOf defaults segment token).token = token := by
  unfold pieceOf
  split <;> rfl

/-- The piece of a segment is settled by its token: the one of its value, or else of its
default. -/
theorem piece?_eq (values defaults : Bindings Value) (segment : Segment) :
    segment.piece? values defaults =
      (segment.token? (values.withDefaults defaults)).map (pieceOf defaults segment) := by
  cases segment with
  | literal own => rfl
  | named written name =>
    simp only [Segment.piece?, Segment.token?, Bindings.get?_withDefaults]
    cases hd : defaults.get? name with
    | none => cases values.get? name <;> simp [pieceOf, repeatsDefault, Segment.name?, hd]
    | some default =>
      cases values.get? name with
      | none => simp [pieceOf, repeatsDefault, Segment.name?, hd, sameUpToCase]
      | some value =>
        by_cases h : sameUpToCase value.urlText default.urlText = true <;>
          simp [pieceOf, repeatsDefault, Segment.name?, hd, h]

/-! ## Lists of tokens -/

/-- The tokens of segments without the defaults at the end: those in front of the longest run of
tokens that only repeat the default of their segment. -/
def briefTokens (defaults : Bindings Value) (segments : List Segment) (tokens : List Text) :
    List Text :=
  ((segments.zip tokens).rdropWhile fun e => repeatsDefault defaults e.1 e.2).map Prod.snd

/-- Every segment has its token, by its value or else by its default. -/
def Resolved (values defaults : Bindings Value) : List Segment → List Text → Prop :=
  List.Forall₂ fun segment token => segment.token? (values.withDefaults defaults) = some token

theorem rdropWhile_map (f : α → β) (p : β → Bool) (l : List α) :
    (l.map f).rdropWhile p = (l.rdropWhile (p ∘ f)).map f := by
  rw [List.rdropWhile, List.rdropWhile, ← List.map_reverse, List.dropWhile_map, List.map_reverse]

/-- A list that `filterMap` does not shorten is mapped place by place. -/
theorem forall₂_of_length_filterMap {f : α → Option β} {l : List α}
    (h : (l.filterMap f).length = l.length) :
    List.Forall₂ (fun a b => f a = some b) l (l.filterMap f) := by
  induction l with
  | nil => exact .nil
  | cons a l ih =>
    cases hf : f a with
    | none =>
      rw [List.filterMap_cons_none hf, List.length_cons] at h
      have hle : (l.filterMap f).length ≤ l.length := List.length_filterMap_le f l
      omega
    | some b =>
      rw [List.filterMap_cons_some hf] at h ⊢
      exact .cons hf (ih (by simpa using h))

/-- The pieces of segments that all have a token. -/
theorem filterMap_piece? {values defaults : Bindings Value} {segments : List Segment}
    {tokens : List Text} (h : Resolved values defaults segments tokens) :
    segments.filterMap (·.piece? values defaults) =
      (segments.zip tokens).map fun e => pieceOf defaults e.1 e.2 := by
  induction h with
  | nil => rfl
  | @cons segment token segments tokens htoken _ ih =>
    have hpiece : segment.piece? values defaults = some (pieceOf defaults segment token) := by
      rw [piece?_eq, htoken]
      rfl
    rw [List.filterMap_cons_some hpiece, ih]
    rfl

/-- What a brief filling writes when every segment has a token. -/
theorem fillBriefly_eq_briefTokens {values defaults : Bindings Value} {segments : List Segment}
    {tokens : List Text} (h : Resolved values defaults segments tokens) :
    fillBriefly segments values defaults = briefTokens defaults segments tokens := by
  rw [fillBriefly, filterMap_piece? h, settle_nil_eq, rdropWhile_map, List.map_map]
  have hheld : (Piece.isHeld ∘ fun e : Segment × Text => pieceOf defaults e.1 e.2)
      = fun e => repeatsDefault defaults e.1 e.2 := by
    funext e
    exact isHeld_pieceOf defaults e.1 e.2
  have htoken : (Piece.token ∘ fun e : Segment × Text => pieceOf defaults e.1 e.2) = Prod.snd := by
    funext e
    exact token_pieceOf defaults e.1 e.2
  rw [hheld, htoken]
  rfl

/-- What a full filling writes when every segment has a token. -/
theorem fillFully_eq {values defaults : Bindings Value} {segments : List Segment}
    {tokens : List Text} (h : Resolved values defaults segments tokens) :
    fillFully segments values defaults = tokens := by
  unfold fillFully
  induction h with
  | nil => rfl
  | cons htoken _ ih => rw [List.filterMap_cons_some htoken, ih]

/-- A full filling as long as its pattern has skipped no segment. -/
theorem forall₂_of_length_fillFully {values defaults : Bindings Value} {segments : List Segment}
    (h : (fillFully segments values defaults).length = segments.length) :
    Resolved values defaults segments (fillFully segments values defaults) :=
  forall₂_of_length_filterMap h

/-- A brief filling as long as its pattern has skipped no segment and left out no default. -/
theorem forall₂_of_length_fillBriefly {values defaults : Bindings Value} {segments : List Segment}
    (h : (fillBriefly segments values defaults).length = segments.length) :
    Resolved values defaults segments (fillBriefly segments values defaults) := by
  set pieces := segments.filterMap (·.piece? values defaults) with hpieces
  have hfill : fillBriefly segments values defaults
      = (pieces.rdropWhile Piece.isHeld).map Piece.token := settle_nil_eq pieces
  have hprefix : pieces.rdropWhile Piece.isHeld <+: pieces := List.rdropWhile_prefix _ _
  have hle : pieces.length ≤ segments.length := List.length_filterMap_le _ _
  have hlen : (pieces.rdropWhile Piece.isHeld).length = pieces.length := by
    have := hprefix.length_le
    rw [hfill, List.length_map] at h
    omega
  have hall : pieces.rdropWhile Piece.isHeld = pieces := hprefix.eq_of_length hlen
  rw [hfill, List.length_map, hlen] at h
  rw [hfill, hall]
  have hforall : List.Forall₂ (fun segment piece => segment.piece? values defaults = some piece)
      segments pieces := forall₂_of_length_filterMap h
  refine List.forall₂_map_right_iff.2 (hforall.imp ?_)
  intro segment piece hpiece
  rw [piece?_eq] at hpiece
  obtain ⟨token, htoken, rfl⟩ := Option.map_eq_some_iff.1 hpiece
  rw [htoken, token_pieceOf]

end UrlRouting
