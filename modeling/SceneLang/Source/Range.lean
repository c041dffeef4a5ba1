/-!
# Ranges of a source text

A `SourceRange` is a half-open interval of character offsets.  It comes from a document and is not
checked there: an end before the start and offsets outside the text are all possible.
-/

namespace SceneLang

/-- **Half-open range of character offsets** into a program's source. -/
structure SourceRange where
  start : Int
  stop : Int
  deriving Repr, DecidableEq, Inhabited

namespace SourceRange

/-- The empty range right after this one. -/
def upperBound (r : SourceRange) : SourceRange := ⟨r.stop, r.stop⟩

/-- The range from the start of this one to the end of the other. -/
def through (r other : SourceRange) : SourceRange := ⟨r.start, other.stop⟩

/-- How a range is written. -/
def text (r : SourceRange) : String := s!"{r.start}..<{r.stop}"

end SourceRange

end SceneLang
