import ClauseFlow.Diagnostic
import ClauseFlow.SourceText

/-!
# Diagnostics as text

A diagnostic is a headline, an excerpt of the source for every label that lies in a text, and the
notes. Color, if wanted, is written as terminal escape sequences.
-/

namespace ClauseFlow.Diagnostic

/-- The escape character that begins every color sequence. -/
def escape : String :=
  String.singleton '\x1b'

def resetColor : String := escape ++ "[0m"

def boldColor : String := escape ++ "[1m"

/-- The color of the frame around an excerpt. -/
def frameColor : String := escape ++ "[1;34m"

/-- The color of a severity. -/
def severityColor : Severity → String
  | .error => escape ++ "[1;31m"
  | .warning => escape ++ "[1;33m"
  | .note => escape ++ "[1;36m"

def severityText : Severity → String
  | .error => "error"
  | .warning => "warning"
  | .note => "note"

/-- A text in a color, or as it is when no color is wanted. -/
def paint (colored : Bool) (color text : String) : String :=
  if colored then color ++ text ++ resetColor else text

def spaces (count : Int) : String :=
  String.ofList (List.replicate count.toNat ' ')

/-- A line number at the right of four columns. -/
def gutter (number : Int) : String :=
  let digits := Numeral.intText number
  spaces (4 - (digits.length : Int)) ++ digits

/-- The underline of a span on one line; at least one mark. -/
def carets (span : Span) : String :=
  String.ofList (List.replicate (max 1 (span.endColumn - span.startColumn + 1)).toNat '^')

/-- The lines that show where a label points. -/
def excerpt (colored : Bool) (source? : Option SourceText) (color : String) (label : Label) :
    List String :=
  let span := label.span
  let bar := "  " ++ paint colored frameColor "   |"
  let place := span.file ++ ":" ++ Numeral.intText span.startLine ++ ":" ++
    Numeral.intText span.startColumn
  let quotation :=
    match source? with
    | some source =>
        if span.startLine ≤ source.size then
          ["  " ++ paint colored frameColor (gutter span.startLine ++ " |") ++ " " ++
            source.lineAt span.startLine]
        else []
    | none => []
  let underline :=
    if span.startLine = span.endLine then
      [bar ++ " " ++ spaces (span.startColumn - 1) ++ paint colored color (carets span)]
    else []
  let message :=
    if label.message.isEmpty then [] else [bar ++ "   " ++ paint colored color label.message]
  ("  " ++ paint colored frameColor "-->" ++ " " ++ place) :: bar ::
    (quotation ++ underline ++ message)

/-- The text of a diagnostic, given the sources that are known by file name. -/
def render (colored : Bool) (source? : String → Option SourceText) (diagnostic : Diagnostic) :
    String :=
  let color := severityColor diagnostic.severity
  let headline :=
    paint colored color (severityText diagnostic.severity ++ "[" ++ diagnostic.code ++ "]") ++
      paint colored boldColor (": " ++ diagnostic.message)
  let located := diagnostic.labels.filter fun label => 0 < label.span.startLine
  let excerpts := located.flatMap fun label =>
    excerpt colored (source? label.span.file) color label
  let notes := diagnostic.notes.map fun note =>
    "  " ++ paint colored frameColor "=" ++ " note: " ++ note
  Text.join "\n" (headline :: excerpts ++ notes)

end ClauseFlow.Diagnostic
