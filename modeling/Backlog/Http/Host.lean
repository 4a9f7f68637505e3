import Backlog.Decimal.Digit
import Backlog.Fault
import Backlog.Http.Domain.Name
import Backlog.Http.Percent
import Backlog.Text.LowerCase
import Backlog.Text.Parts
/-!
# Hosts

The host of an address: a name, or a numeric address of version 4 or, in
square brackets, of version 6. Which of these are accepted is up to the library that
requests are sent with, and assumed to be as it is written down here.
-/

namespace Backlog

namespace Http

namespace Host

/-- Whether the characters are one byte of an address of version 4: up to
three digits, no superfluous zero, at most 255. -/
def isOctet (cs : List Char) : Bool :=
  !cs.isEmpty && cs.length ≤ 3 && cs.all Char.isDigit && (cs.length = 1 || cs.head? != some '0') &&
    Decimal.ofAsciiDigits cs ≤ 255

/-- Whether the characters are an address of version 4. -/
def isAddress4 (cs : List Char) : Bool :=
  let parts := Text.splitAtChar '.' cs
  parts.length = 4 && parts.all isOctet

/-- Whether a host is taken for an address of version 4: four runs of digits
with points between. -/
def looksLikeAddress4 (cs : List Char) : Bool :=
  let parts := Text.splitAtChar '.' cs
  parts.length = 4 && parts.all fun part => !part.isEmpty && part.all Char.isDigit

/-- Whether the characters are one group of an address of version 6. -/
def isGroup (cs : List Char) : Bool :=
  !cs.isEmpty && cs.length ≤ 4 && cs.all fun c => (Text.hexValue? c).isSome

/-- The groups of an address of version 6, with an address of version 4 at
the end read as two groups. -/
def groups? (cs : List Char) : Option (List (List Char)) :=
  let parts := Text.splitAtChar ':' cs
  match parts.getLast? with
  | some last =>
    if '.' ∈ last then
      if isAddress4 last then some (parts.dropLast ++ [['0'], ['0']]) else none
    else some parts
  | none => none

/-- Whether groups are an address of version 6: eight groups, or fewer with
one gap `::`. The gap is an empty group inside; at either end of the address
it leaves a second empty one. -/
def areGroups (parts : List (List Char)) : Bool :=
  let inner := (parts.drop 1).dropLast
  let first := parts.headD []
  let last := parts.getLastD []
  if parts.length < 3 || 9 < parts.length then false
  else
    match inner.findIdx? (·.isEmpty) with
    | none => parts.length = 8 && parts.all isGroup
    | some gap =>
      let before := inner.take gap
      let after := inner.drop (gap + 1)
      let front := if first.isEmpty then before else first :: before
      let back := if last.isEmpty then after else after ++ [last]
      (!first.isEmpty || before.isEmpty) && (!last.isEmpty || after.isEmpty) &&
        front.all isGroup && back.all isGroup && front.length + back.length < 8

/-- Whether the characters are an address of version 6, which may name a
zone after a percent sign. -/
def isAddress6 (cs : List Char) : Bool :=
  let (address, zone) := Text.cutAtChar '%' cs
  let zoneFits :=
    match zone with
    | some zone => !zone.isEmpty && !zone.contains '%'
    | none => true
  zoneFits && match groups? address with
    | some parts => areGroups parts
    | none => false

/-- Whether a character of a host name stands for itself. -/
def isPlain (c : Char) : Bool :=
  c.isAlphanum || "-._~!$&'()*+,;=\"\x60\x7b\x7d%|\\".toList.contains c

/-- Whether a character is ASCII. -/
def isAscii (c : Char) : Bool := c.toNat < 0x80

/-- Reads a host name with characters outside ASCII. -/
def ofName (cs : List Char) : Except UrlFault (List Char) :=
  (Domain.encode (Text.lowerAfter [] cs)).mapError fun _ => .badName (String.ofList cs)

/-- Reads a host. -/
def ofChars (cs : List Char) : Except UrlFault (List Char) :=
  if looksLikeAddress4 cs then
    if isAddress4 cs then .ok cs else .error (.badAddress4 (String.ofList cs))
  else if cs.head? = some '[' ∧ cs.getLast? = some ']' ∧ 2 ≤ cs.length then
    let inner := (cs.drop 1).dropLast
    if isAddress6 inner then .ok inner else .error (.badAddress6 (String.ofList cs))
  else if cs.all isAscii then .ok (Percent.encode isPlain (cs.map Char.toLower))
  else ofName cs

/-- The host as it stands in an address. -/
def display (host : List Char) : List Char :=
  if ':' ∈ host then '[' :: host ++ [']'] else host

/-- The host for people: a name whose first label is in ASCII form is shown as
what it stands for. -/
def plain (host : List Char) : Except Domain.NameFault (List Char) :=
  if (Text.afterStart? Domain.codedMark host).isSome then Domain.decode host else .ok host

end Host

end Http

end Backlog
