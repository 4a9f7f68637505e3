import Backlog.Http.Domain.Label
/-!
# Host names

The ASCII form of a host name with characters of other scripts, and the way
back. Labels are separated by full stops, of which some scripts have their
own, and one may stand at the end.

Which names have an ASCII form is decided by a library that the one for requests
calls. Its rules, its tables of characters and the wording of its faults are
assumed to be as they are written down in the modules on domains.
-/

namespace Backlog

namespace Http

namespace Domain

/-- Whether a character separates labels. -/
def isStop (c : Char) : Bool := c ∈ ['.', '\u3002', '\uFF0E', '\uFF61']

/-- The longest name, not counting a full stop at its end. -/
def maxName : Nat := 253

/-- The labels of a name, and whether a full stop stands at its end. -/
def labels (name : List Char) : List (List Char) × Bool :=
  let pieces := Text.splitWhere isStop name
  if pieces.getLast? = some [] then (pieces.dropLast, true) else (pieces, false)

/-- The name of some labels. -/
def join (labels : List (List Char)) (endsInStop : Bool) : List Char :=
  ['.'].intercalate labels ++ if endsInStop then ['.'] else []

/-- A name with another form of each of its labels. -/
def mapLabels (form : List Char → Except NameFault (List Char)) (name : List Char) :
    Except NameFault (List Char) := do
  if maxName + 1 < name.length then throw .longName
  let (labels, endsInStop) := labels name
  if name.isEmpty then throw .emptyName
  let forms ← labels.mapM form
  pure (join forms endsInStop)

/-- The ASCII form of a name in small letters. -/
def encode (name : List Char) : Except NameFault (List Char) := do
  let form ← mapLabels encodeLabel name
  let room := if (labels name).2 then maxName + 1 else maxName
  if room < form.length then throw .longName
  pure form

/-- The name that an ASCII form stands for. -/
def decode (form : List Char) : Except NameFault (List Char) :=
  mapLabels decodeLabel (form.map Char.toLower)

end Domain

end Http

end Backlog
