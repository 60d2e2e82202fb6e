import ClauseFlow.Parse.Cursor

/-!
# Turns of the loops that read rows

All rows of items are read by the same loop: nothing is read before the closing mark, and any item
but the first one comes after a comma. The rows differ only in what an item is and in what is made
of it and of the rest of the row. So what holds of a row follows from what holds of one turn.
-/

namespace ClauseFlow.Parse

variable {α β : Type}

/-- One turn of a loop: an item and all after it, unless the closing mark comes next. -/
def turn (closing : TokenKind) (first : Bool) (empty : β) (more : Parse β) : Parse β := do
  let token ← current
  if token.kind = closing || token.kind = .endOfText then
    return empty
  unless first do
    discard (expect .comma)
  more

/-- An item and the rest of its row. -/
def itemAnd (item : Parse α) (rest : Parse (List α)) : Parse (List α) := do
  let value ← item
  let rest ← rest
  return value :: rest

/-- An item and the rest of its row, or the one after the bar. -/
def itemAndTail (item : Parse α) (rest : Parse (List α × Option α)) :
    Parse (List α × Option α) := do
  let value ← item
  if ← at? .bar then
    discard advance
    let tail ← item
    return ([value], some tail)
  let rest ← rest
  return (value :: rest.1, rest.2)

/-- The item of an entry and the rest of its row. -/
def valueAnd (item : Parse α) (key : String) (rest : Parse (List (String × α))) :
    Parse (List (String × α)) := do
  let value ← item
  let rest ← rest
  return (key, value) :: rest

/-- An entry and the rest of its row, to which its key is known. -/
def entryAnd (item : Parse α) (seen : List String)
    (rest : List String → Parse (List (String × α))) : Parse (List (String × α)) := do
  let key ← expect .name
  discard (expect .colon)
  if seen.contains key.value then
    record (.duplicateKey key)
  valueAnd item key.value (rest (key.value :: seen))

theorem separated_succ (item : Parse α) (closing : TokenKind) (fuel : Nat) (first : Bool) :
    separated item closing (fuel + 1) first =
      turn closing first [] (itemAnd item (separated item closing fuel false)) :=
  rfl

theorem separatedWithTail_succ (item : Parse α) (fuel : Nat) (first : Bool) :
    separatedWithTail item (fuel + 1) first =
      turn .rightBracket first ([], none) (itemAndTail item (separatedWithTail item fuel false)) :=
  rfl

theorem entries_succ (item : Parse α) (fuel : Nat) (seen : List String) :
    entries item (fuel + 1) seen =
      turn .rightBrace seen.isEmpty [] (entryAnd item seen (entries item fuel)) :=
  rfl

end ClauseFlow.Parse
