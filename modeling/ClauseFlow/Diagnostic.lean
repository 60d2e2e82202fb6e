import ClauseFlow.Span

/-!
# Diagnostics

What the tool reports about a source text or a run.
-/

namespace ClauseFlow

inductive Severity where
  | error
  | warning
  | note
  deriving DecidableEq, Repr

/-- A place that a diagnostic points at, with a message that may be empty. -/
structure Label where
  span : Span
  message : String
  deriving DecidableEq, Repr

/-- A report: how grave it is, its code, what is wrong, where, and further notes. -/
structure Diagnostic where
  severity : Severity
  code : String
  message : String
  labels : List Label
  notes : List String
  deriving DecidableEq, Repr

namespace Diagnostic

/-- A report about one place. -/
def atSpan (severity : Severity) (code message : String) (span : Span) (notes : List String) :
    Diagnostic :=
  ⟨severity, code, message, [⟨span, ""⟩], notes⟩

def isError (diagnostic : Diagnostic) : Bool :=
  diagnostic.severity = .error

end Diagnostic
end ClauseFlow
