import UrlRouting.Pattern.Segment
import UrlRouting.Text.Lowercase
import UrlRouting.Value

/-!
# Filling segments

Segments become tokens again: a literal by itself, a variable by the text of its value or of its
default.  Where defaults are left out, a token that only repeats a default is held back until
a token that has to be written follows it, so that no default stands at the end.
-/

namespace UrlRouting

/-- What a segment contributes to a filled pattern. -/
inductive Piece
  /-- A token that has to be written. -/
  | fixed (token : Text)
  /-- A token that repeats a default and is written only in front of a fixed one. -/
  | held (token : Text)
  deriving Repr, DecidableEq

/-- Whether two texts differ in case at most. -/
def sameUpToCase (s t : Text) : Bool := Text.lowercase s == Text.lowercase t

/-- The token of a segment by the given values, if it has one. -/
def Segment.token? (values : Bindings Value) : Segment → Option Text
  | .literal token => some token
  | .named _ name => (values.get? name).map Value.urlText

/-- What a segment contributes.  A value that equals the default up to case only repeats it. -/
def Segment.piece? (values defaults : Bindings Value) : Segment → Option Piece
  | .literal token => some (.fixed token)
  | .named _ name =>
      match values.get? name, defaults.get? name with
      | some value, some default =>
          if sameUpToCase value.urlText default.urlText then some (.held value.urlText)
          else some (.fixed value.urlText)
      | some value, none => some (.fixed value.urlText)
      | none, some default => some (.held default.urlText)
      | none, none => none

/-- The tokens that are written when the tokens of `waiting` are held back. -/
def settle (waiting : List Text) : List Piece → List Text
  | [] => []
  | .fixed token :: pieces => waiting ++ token :: settle [] pieces
  | .held token :: pieces => settle (waiting ++ [token]) pieces

/-- The tokens of the segments without the defaults at the end. -/
def fillBriefly (segments : List Segment) (values defaults : Bindings Value) : List Text :=
  settle [] (segments.filterMap (·.piece? values defaults))

/-- The tokens of the segments, every default written. -/
def fillFully (segments : List Segment) (values defaults : Bindings Value) : List Text :=
  segments.filterMap (·.token? (values.withDefaults defaults))

end UrlRouting
