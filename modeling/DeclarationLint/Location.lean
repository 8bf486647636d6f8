/-!
# Locations

Points and ranges of source text. Lines and columns count from one, and numbers below one
belong to ranges that point at no text.
-/
namespace DeclarationLint

structure Location where
  file : String
  line : Int
  column : Int
deriving DecidableEq, Repr

def Location.render (location : Location) : String :=
  s!"{location.file}:{location.line}:{location.column}"

/-- A point of the text as parsers count, from row and column zero. -/
structure Point where
  row : Nat
  column : Nat
deriving DecidableEq, Repr

namespace Point

def render (point : Point) : String := s!"({point.row}, {point.column})"

def toLocation (file : String) (point : Point) : Location :=
  ⟨file, point.row + 1, point.column + 1⟩

end Point

/-- A range of source text, from its first point to its last. -/
structure Span where
  start : Location
  stop : Location
deriving DecidableEq, Repr

namespace Span

def between (file : String) (startLine startColumn stopLine stopColumn : Int) : Span :=
  ⟨⟨file, startLine, startColumn⟩, ⟨file, stopLine, stopColumn⟩⟩

/-- The range of an issue about nothing in particular. -/
def empty : Span := between "" 0 0 0 0

/-- The range of an issue whose place is not known. -/
def invalid : Span := between "<invalid>" (-1) (-1) (-1) (-1)

end Span
end DeclarationLint
