/-!
# Lines of a text

A text is a sequence of lines, each closed by a line break; the last line may lack one. A carriage
return and the line feed after it are one break.
-/

namespace ClauseFlow.Text

/-- The characters that end a line: line feed, vertical tab, form feed, carriage return, the file,
group and record separators, next line, line separator and paragraph separator. -/
def isLineBreak (c : Char) : Bool :=
  ('\n' ≤ c && c ≤ '\r') || ('\x1c' ≤ c && c ≤ '\x1e') ||
    c = '\u0085' || c = '\u2028' || c = '\u2029'

/-- The lines of a text, each with the break that ends it. -/
def splitLines : List Char → List (List Char × List Char)
  | [] => []
  | '\r' :: '\n' :: rest => ([], ['\r', '\n']) :: splitLines rest
  | c :: rest =>
      if isLineBreak c then ([], [c]) :: splitLines rest
      else
        match splitLines rest with
        | [] => [([c], [])]
        | (line, ending) :: more => (c :: line, ending) :: more

/-- The lines of a text without their breaks. -/
def lines (text : String) : List String :=
  (splitLines text.toList).map fun line => String.ofList line.1

/-- Nothing is lost: the lines with their breaks make up the text. -/
theorem flatten_splitLines (text : List Char) :
    (splitLines text).flatMap (fun line => line.1 ++ line.2) = text := by
  fun_induction splitLines text with
  | case1 => rfl
  | case2 rest ih => simp [ih]
  | case3 c rest _ _ ih => simp [ih]
  | case4 c rest _ _ empty ih => simpa [empty] using ih
  | case5 c rest _ _ line ending more eq ih => simpa [eq] using ih

/-- The text with every `\r\n` and every other `\r` replaced by a line feed, as files are read. -/
def unifyLineFeeds : List Char → List Char
  | [] => []
  | '\r' :: '\n' :: rest => '\n' :: unifyLineFeeds rest
  | '\r' :: rest => '\n' :: unifyLineFeeds rest
  | c :: rest => c :: unifyLineFeeds rest

/-- Texts joined by a separator between neighbours. -/
def join (separator : String) : List String → String
  | [] => ""
  | [last] => last
  | first :: rest => first ++ separator ++ join separator rest

end ClauseFlow.Text
