/-!
# Color codes

Terminal color is written into a text as codes: an escape character, a bracket, parameters, and a
letter. Where no terminal reads the text, they are taken out.
-/

namespace ClauseFlow.Text

def isColorParameter (c : Char) : Bool :=
  c = ';' || c = '?' || c.isDigit

/-- How many characters a code takes behind its escape character, if one stands at the head of the
text there. -/
def colorCodeSize? : List Char → Option Nat
  | '[' :: rest =>
      let parameters := rest.takeWhile isColorParameter
      match rest.drop parameters.length with
      | c :: _ => if c.isAlpha then some (parameters.length + 2) else none
      | [] => none
  | _ => none

/-- A text without its codes; the first `skip` characters belong to a code. -/
def withoutCodes (skip : Nat) : List Char → List Char
  | [] => []
  | c :: rest =>
      match skip with
      | skip + 1 => withoutCodes skip rest
      | 0 =>
          match if c = '\x1b' then colorCodeSize? rest else none with
          | some size => withoutCodes size rest
          | none => c :: withoutCodes 0 rest

/-- A text without color codes. -/
def uncolored (text : String) : String :=
  String.ofList (withoutCodes 0 text.toList)

end ClauseFlow.Text
