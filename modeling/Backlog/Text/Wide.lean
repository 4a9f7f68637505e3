import Backlog.Text.Half
/-!
# Text in wide units

UTF-16 and UTF-32: text in units of two or four bytes, with the higher or the
lower byte first. A character beyond U+FFFF takes two units of UTF-16. Half of
such a pair may stand by itself.
-/

namespace Backlog

namespace Text

namespace Wide

/-- The order of the bytes of a unit. -/
inductive ByteOrder where
  /-- The highest byte comes first. -/
  | highFirst
  /-- The lowest byte comes first. -/
  | lowFirst
  deriving DecidableEq

/-- The number that the bytes of a unit make. -/
def ByteOrder.number (order : ByteOrder) (bytes : List UInt8) : Nat :=
  let highFirst := if order = .highFirst then bytes else bytes.reverse
  highFirst.foldl (fun n b => n * 256 + b.toNat) 0

/-- The units of two bytes. -/
def pairs? (order : ByteOrder) : List UInt8 → Option (List Nat)
  | [] => some []
  | a :: b :: rest => (pairs? order rest).map (order.number [a, b] :: ·)
  | _ => none

/-- The units of four bytes. -/
def quads? (order : ByteOrder) : List UInt8 → Option (List Nat)
  | [] => some []
  | a :: b :: c :: d :: rest => (quads? order rest).map (order.number [a, b, c, d] :: ·)
  | _ => none

/-- The characters of units of UTF-16. -/
def ofPairs : List Nat → List Char
  | [] => []
  | [unit] => [charOf unit]
  | high :: low :: rest =>
    if isHighHalf high && isLowHalf low then ofHalves high low :: ofPairs rest
    else charOf high :: ofPairs (low :: rest)

/-- The characters of bytes in UTF-16, if there are whole units. -/
def decode16? (order : ByteOrder) (bytes : List UInt8) : Option (List Char) :=
  (pairs? order bytes).map ofPairs

/-- The characters of bytes in UTF-32, if all units are code points. -/
def decode32? (order : ByteOrder) (bytes : List UInt8) : Option (List Char) := do
  let units ← quads? order bytes
  if units.all (· ≤ 0x10FFFF) then some (units.map charOf) else none

end Wide

end Text

end Backlog
