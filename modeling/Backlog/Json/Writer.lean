import Backlog.Decimal.Shortest
import Backlog.Text.Half
import Backlog.Text.Hex
import Backlog.Value.Basic
/-!
# Writing JSON

JSON text in ASCII: every character outside `' '` to `'~'` is escaped,
those beyond U+FFFF as a pair of units, half a pair as the unit that it is.
`Json.indented` lays a value out over lines, two columns per level;
`Json.compact` writes it on one line.

Every value can be written here. Writing has limits like those that reading keeps
to, on the digits of an integer and on the depth of lists and objects, and refuses
what is beyond them; values are assumed to stay within these.
-/

namespace Backlog

namespace Json

/-- The text of a number or a truth value. -/
def numberText : Number → String
  | .int n => toString n
  | .flag true => "true"
  | .flag false => "false"
  | .float d =>
    match d.shape with
    | .nan => "NaN"
    | .infinite false => "Infinity"
    | .infinite true => "-Infinity"
    | .finite .. => Decimal.textOf d

/-- The escape of one 16-bit unit. -/
def unitEscape (unit : Nat) : List Char := '\\' :: 'u' :: Text.hexDigits 4 unit

/-- One character inside a JSON string. -/
def escapedChar (c : Char) : List Char :=
  if c = '"' then ['\\', '"']
  else if c = '\\' then ['\\', '\\']
  else if c = '\n' then ['\\', 'n']
  else if c = '\r' then ['\\', 'r']
  else if c = '\t' then ['\\', 't']
  else if c = '\x0c' then ['\\', 'f']
  else if c = '\x08' then ['\\', 'b']
  else if ' ' ≤ c ∧ c ≤ '~' then [c]
  else if Text.codeOf c < 0x10000 then unitEscape (Text.codeOf c)
  else
    let offset := c.toNat - 0x10000
    unitEscape (0xD800 + offset / 0x400) ++ unitEscape (0xDC00 + offset % 0x400)

/-- A JSON string. -/
def stringText (s : String) : String :=
  String.ofList ('"' :: s.toList.flatMap escapedChar ++ ['"'])

/-- The text of an atom. -/
def atomText : Atom → String
  | .null => "null"
  | .num n => numberText n
  | .text s => stringText s

/-- The start of a line at the given level. -/
def lineStart (level : Nat) : String := String.ofList ('\n' :: List.replicate (2 * level) ' ')

mutual

/-- A value laid out over lines, its inner lines starting one level below
`level`. -/
def indentedAt (level : Nat) : Value → String
  | .atom a => atomText a
  | .list [] => "[]"
  | .list (v :: rest) => "[" ++ indentedItems (level + 1) (v :: rest) ++ lineStart level ++ "]"
  | .object [] => "\x7b\x7d"
  | .object (field :: rest) =>
    "\x7b" ++ indentedFields (level + 1) (field :: rest) ++ lineStart level ++ "\x7d"

/-- The elements of a list, one to a line. -/
def indentedItems (level : Nat) : List Value → String
  | [] => ""
  | [v] => lineStart level ++ indentedAt level v
  | v :: w :: rest =>
    lineStart level ++ indentedAt level v ++ "," ++ indentedItems level (w :: rest)

/-- The fields of an object, one to a line. -/
def indentedFields (level : Nat) : List (String × Value) → String
  | [] => ""
  | [(name, v)] => lineStart level ++ stringText name ++ ": " ++ indentedAt level v
  | (name, v) :: field :: rest =>
    lineStart level ++ stringText name ++ ": " ++ indentedAt level v ++ "," ++
      indentedFields level (field :: rest)

end

/-- A value laid out over lines. -/
def indented (v : Value) : String := indentedAt 0 v

mutual

/-- A value on one line. -/
def compact : Value → String
  | .atom a => atomText a
  | .list items => "[" ++ compactItems items ++ "]"
  | .object fields => "\x7b" ++ compactFields fields ++ "\x7d"

/-- The elements of a list on one line. -/
def compactItems : List Value → String
  | [] => ""
  | [v] => compact v
  | v :: w :: rest => compact v ++ ", " ++ compactItems (w :: rest)

/-- The fields of an object on one line. -/
def compactFields : List (String × Value) → String
  | [] => ""
  | [(name, v)] => stringText name ++ ": " ++ compact v
  | (name, v) :: field :: rest =>
    stringText name ++ ": " ++ compact v ++ ", " ++ compactFields (field :: rest)

end

end Json

end Backlog
