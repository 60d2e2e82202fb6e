import ClauseFlow.Span
import ClauseFlow.Number.Numeral
import ClauseFlow.Text.Lines

/-!
# Source texts by line

Access to the lines of a source text, and to the part that a span covers.
-/

namespace ClauseFlow

/-- The lines of a source text. -/
structure SourceText where
  lines : List String
  deriving Inhabited

namespace SourceText

def ofString (text : String) : SourceText :=
  ⟨Text.lines text⟩

/-- How many lines there are. -/
def size (source : SourceText) : Nat :=
  source.lines.length

/-- The line of a number, counted from one, or nothing outside the text. -/
def lineAt (source : SourceText) (number : Int) : String :=
  if 1 ≤ number then (source.lines[(number - 1).toNat]?).getD "" else ""

/-- The offset that a bound denotes in a text of `length` characters: a negative one counts from the
end, and none leaves the text. -/
def offset (length : Nat) (bound : Int) : Nat :=
  if bound < 0 then (bound + length).toNat else min bound.toNat length

/-- The characters from one bound up to another. -/
def slice (text : String) (start stop : Int) : String :=
  let content := text.toList
  let first := offset content.length start
  String.ofList ((content.drop first).take (offset content.length stop - first))

/-- The characters from a bound to the end. -/
def sliceFrom (text : String) (start : Int) : String :=
  let content := text.toList
  String.ofList (content.drop (offset content.length start))

/-- The part of one line that a span of several lines covers. -/
def covered (source : SourceText) (span : Span) (number : Int) : String :=
  let line := source.lineAt number
  if number = span.startLine then sliceFrom line (span.startColumn - 1)
  else if number = span.endLine then slice line 0 span.endColumn
  else line

/-- The text that a span covers, its lines joined by line feeds. -/
def spanText (source : SourceText) (span : Span) : String :=
  if span.startLine = span.endLine then
    slice (source.lineAt span.startLine) (span.startColumn - 1) span.endColumn
  else
    let count := (span.endLine + 1 - span.startLine).toNat
    Text.join "\n" ((List.range count).map fun (i : Nat) =>
      source.covered span (span.startLine + i))

end SourceText
end ClauseFlow
