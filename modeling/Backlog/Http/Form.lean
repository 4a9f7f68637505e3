import Backlog.Http.Percent
import Backlog.Table
import Backlog.Text.Parts
/-!
# Form coding

The query of an address as a list of named values: `name=value` joined by
`&`, a space as `+`, all but letters, digits and `_ . - ~` in percent
coding. Reading accepts more than writing produces: a name without a value
has the empty one, and empty pieces are passed over.
-/

namespace Backlog

namespace Http

namespace Form

/-- Whether a character stands for itself. -/
def isPlain (c : Char) : Bool :=
  c.isAlphanum || c = '_' || c = '.' || c = '-' || c = '~'

/-- A name or a value in form coding. -/
def encodeText (s : String) : List Char :=
  s.toList.flatMap fun c =>
    if isPlain c then [c] else if c = ' ' then ['+'] else Percent.encodeChar c

/-- A named value in form coding. -/
def encodePair (pair : String × String) : List Char :=
  encodeText pair.1 ++ '=' :: encodeText pair.2

/-- Named values in form coding. -/
def encode (pairs : List (String × String)) : List Char :=
  ['&'].intercalate (pairs.map encodePair)

/-- A name or a value read from its form coding. -/
def decodeText (cs : List Char) : String :=
  String.ofList (Percent.decode (cs.map fun c => if c = '+' then ' ' else c))

/-- A named value read from its form coding. -/
def decodePair (cs : List Char) : String × String :=
  let (name, value) := Text.cutAtChar '=' cs
  (decodeText name, decodeText (value.getD []))

/-- Named values read from their form coding. -/
def decode (cs : List Char) : List (String × String) :=
  ((Text.splitAtChar '&' cs).filter (!·.isEmpty)).map decodePair

/-- The first value of each name. -/
def firstOfEach (pairs : List (String × String)) : Table String String :=
  pairs.foldl (fun table pair => table.insertIfNew pair.1 pair.2) []

end Form

end Http

end Backlog
