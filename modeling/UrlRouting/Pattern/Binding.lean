import UrlRouting.Pattern.Segment
import UrlRouting.Value

/-!
# Binding tokens to segments

The tokens of a host or a path fit the segments of a pattern if there are as many of them and
every literal equals its token.  A variable is bound to its token.  Without segments every list
of tokens fits.
-/

namespace UrlRouting

/-- How tokens fit segments, and what is bound afterwards: the variables in front of the first
literal that differs from its token. -/
structure Binding where
  fits : Bool
  values : Bindings Value

/-- Binds the tokens one by one up to the first literal that differs from its token. -/
def bindEach : List Segment → List Text → Bindings Value → Binding
  | .literal literal :: segments, token :: tokens, values =>
      if literal = token then bindEach segments tokens values else ⟨false, values⟩
  | .named _ name :: segments, token :: tokens, values =>
      bindEach segments tokens (values.set name (.text token))
  | _, _, values => ⟨true, values⟩

/-- Binds the tokens to the segments if there are as many, or no segments at all. -/
def bindTokens (segments : List Segment) (tokens : List Text) (values : Bindings Value) :
    Binding :=
  if segments = [] then ⟨true, values⟩
  else if segments.length ≠ tokens.length then ⟨false, values⟩
  else bindEach segments tokens values

end UrlRouting
