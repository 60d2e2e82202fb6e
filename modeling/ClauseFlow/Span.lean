/-!
# Spans

A span is a range of a source text: the file, and the line and column of its first and of its last
character. Lines and columns count from one.
-/

namespace ClauseFlow

/-- A range of a source text, both ends included. The coordinates are integers because a span may
also lie outside its text. -/
structure Span where
  file : String
  startLine : Int
  startColumn : Int
  endLine : Int
  endColumn : Int
  deriving DecidableEq, Repr, Inhabited

namespace Span

/-- The span of everything that no source text contains. -/
def generated : Span :=
  ⟨"<generated>", 0, 0, 0, 0⟩

/-- The range from the start of one span to the end of another. -/
def through (first last : Span) : Span :=
  ⟨first.file, first.startLine, first.startColumn, last.endLine, last.endColumn⟩

end Span

/-- A place in a source text. -/
structure Position where
  line : Int
  column : Int
  deriving DecidableEq, Repr, Inhabited

namespace Position

/-- The first place of a text. -/
def first : Position :=
  ⟨1, 1⟩

/-- The place after a character that stands at the given place. -/
def next (place : Position) (c : Char) : Position :=
  if c = '\n' then ⟨place.line + 1, 1⟩ else ⟨place.line, place.column + 1⟩

/-- The place after a text that starts at the given place. -/
def after (place : Position) (text : List Char) : Position :=
  text.foldl next place

/-- The column of the character before a place on its line, or the first column. -/
def previousColumn (place : Position) : Int :=
  if 1 < place.column then place.column - 1 else 1

/-- The span from a place up to, but not including, another one. -/
def upTo (file : String) (start stop : Position) : Span :=
  ⟨file, start.line, start.column, stop.line, stop.previousColumn⟩

/-- The span of a single place. -/
def span (file : String) (place : Position) : Span :=
  ⟨file, place.line, place.column, place.line, place.column⟩

end Position
end ClauseFlow
