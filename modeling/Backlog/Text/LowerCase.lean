import Backlog.Text.LowerCase.Mapping
/-!
# Lower case

The lower-case form of a text. Two characters need more than the table: the
capital I with a dot above becomes two characters, and a capital sigma takes
its final form at the end of a word, which is where a cased character comes
before it and none after it, marks read over.
-/

namespace Backlog

namespace Text

/-- Whether a sigma stands at the end of a word, given the characters before
it, nearest first, and those after it. -/
def endsWord (before after : List Char) : Bool :=
  (before.dropWhile isCaseIgnorable).head?.any isCased &&
    !(after.dropWhile isCaseIgnorable).head?.any isCased

/-- The lower-case form of a character between its neighbours. -/
def lowerBetween (before : List Char) (c : Char) (after : List Char) : List Char :=
  if c = 'Σ' then
    [if endsWord before after then 'ς' else 'σ']
  else if c = 'İ' then
    ['i', '\u0307']
  else
    [lowerChar c]

/-- The lower-case form of the characters that follow `before`, given nearest
first. -/
def lowerAfter (before : List Char) : List Char → List Char
  | [] => []
  | c :: rest => lowerBetween before c rest ++ lowerAfter (c :: before) rest

/-- The lower-case form of a text. -/
def lower (s : String) : String := String.ofList (lowerAfter [] s.toList)

end Text

end Backlog
