import Backlog.Decimal.Shortest
import Backlog.Text.Quoted
import Backlog.Value.Basic
/-!
# Values in running text

How a value reads inside a message, a path or a clause: a text as it is, a
text within a list or an object in quotes.

Every value has a text here. Writing has limits like those that reading keeps to,
on the digits of an integer, which are 4300, and on the depth of lists and objects
(`Json.maxIntegerDigits`, `Json.maxDepth`), and refuses what is beyond them. Values
are assumed to stay within these.
-/

namespace Backlog

/-- The text of a number or a truth value. -/
def Number.display : Number → String
  | .int n => toString n
  | .flag true => "True"
  | .flag false => "False"
  | .float d => Decimal.textOf d

/-- The text of an atom, a text as it is. -/
def Atom.display : Atom → String
  | .null => "None"
  | .num n => n.display
  | .text s => s

/-- The text of an atom, a text in quotes. -/
def Atom.displayQuoted : Atom → String
  | .text s => Text.quoted s
  | a => a.display

namespace Value

mutual

/-- The text of a value, a text in quotes. -/
def displayQuoted : Value → String
  | .atom a => a.displayQuoted
  | .list items => "[" ++ displayItems items ++ "]"
  | .object fields => "\x7b" ++ displayFields fields ++ "\x7d"

/-- The texts of the elements of a list, with commas between. -/
def displayItems : List Value → String
  | [] => ""
  | [v] => displayQuoted v
  | v :: w :: rest => displayQuoted v ++ ", " ++ displayItems (w :: rest)

/-- The texts of the fields of an object, with commas between. -/
def displayFields : List (String × Value) → String
  | [] => ""
  | [(name, v)] => Text.quoted name ++ ": " ++ displayQuoted v
  | (name, v) :: field :: rest =>
    Text.quoted name ++ ": " ++ displayQuoted v ++ ", " ++ displayFields (field :: rest)

end

/-- The text of a value, a text as it is. -/
def display : Value → String
  | .text s => s
  | v => v.displayQuoted

end Value

end Backlog
