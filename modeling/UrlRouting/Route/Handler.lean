import UrlRouting.Value

/-!
# Handlers

What a route leads to: nothing, a label that stands for something outside, or a view.  A view
takes values under fixed names and writes them into a fixed text.
-/

namespace UrlRouting

/-- A part of the text of a view. -/
inductive ViewPart
  | verbatim (t : Text)
  | parameter (name : Text)
  deriving Repr, DecidableEq

/-- A text with parameters. -/
structure View where
  parameters : List Text
  parts : List ViewPart
  deriving Repr, DecidableEq

/-- What a route leads to. -/
inductive Handler
  | absent
  | label (t : Text)
  | view (v : View)
  deriving Repr, DecidableEq

/-- The text of a part under the given values, if its parameter has one. -/
def ViewPart.render? (values : Bindings Value) : ViewPart → Option Text
  | verbatim t => some t
  | parameter name => (values.get? name).map Value.message

/-- The text of a view under the given values, if their names are exactly its parameters. -/
def View.render? (v : View) (values : Bindings Value) : Option Text :=
  if v.parameters.all values.contains ∧ values.keys.all v.parameters.contains then
    (v.parts.mapM (ViewPart.render? values)).map List.flatten
  else none

end UrlRouting
