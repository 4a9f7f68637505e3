import Backlog.Text.Half
/-!
# Characters in the letters of the alphabet

A label with characters outside ASCII is written with ASCII letters, digits
and hyphens: first its ASCII characters as they are, then, behind a hyphen,
where each of the others goes and which it is, in the order of their code
points. Places and code points are told by how far they are from the last
one, as numbers of 36 digits whose places have weights that follow the sizes
seen so far.
-/

namespace Backlog

namespace Http

namespace Domain

namespace Punycode

/-! ## Digits and weights -/

/-- The digit of a value below 36. -/
def digit (n : Nat) : Char :=
  if n < 26 then Char.ofNat ('a'.toNat + n) else Char.ofNat ('0'.toNat + (n - 26))

/-- The value of a digit in either case. -/
def digitValue? (c : Char) : Option Nat :=
  if 'a' ≤ c ∧ c ≤ 'z' then some (c.toNat - 'a'.toNat)
  else if 'A' ≤ c ∧ c ≤ 'Z' then some (c.toNat - 'A'.toNat)
  else if '0' ≤ c ∧ c ≤ '9' then some (c.toNat - '0'.toNat + 26)
  else none

/-- The least digit that does not end a number at a place. `place` counts
from 36 in steps of 36. -/
def threshold (place bias : Nat) : Nat :=
  if place ≤ bias then 1 else min 26 (place - bias)

/-- How often a size is divided by 35 until it is at most 455, in steps of
36, and what is left of it. -/
def reduce (steps size : Nat) : Nat × Nat :=
  if 455 < size then reduce (steps + 36) (size / 35) else (steps, size)
termination_by size
decreasing_by omega

/-- The bias after a number of the given size, when `count` characters are in
place. -/
def adapt (size count : Nat) (isFirst : Bool) : Nat :=
  let size := if isFirst then size / 700 else size / 2
  let (steps, size) := reduce 0 (size + size / count)
  steps + 36 * size / (size + 38)

/-! ## Writing -/

/-- The digits of a number from a place on, lowest first. -/
def digits (bias place n : Nat) : List Char :=
  let least := threshold place bias
  if n < least then [digit n]
  else
    digit (least + (n - least) % (36 - least)) ::
      digits bias (place + 36) ((n - least) / (36 - least))
termination_by n
decreasing_by
  have : 0 < threshold place bias := by unfold threshold; split <;> omega
  exact Nat.lt_of_le_of_lt (Nat.div_le_self _ _) (by omega)

/-- Characters on the way to being written. -/
structure Writing where
  /-- What is written, last first. -/
  written : List Char := []
  /-- The distance from the last character. -/
  distance : Nat := 0
  /-- The bias. -/
  bias : Nat := 72
  /-- How many characters are in place. -/
  placed : Nat

/-- Passes a character while those with the code point `code` are written.
`plain` is the number of ASCII characters. -/
def Writing.pass (plain code : Nat) (state : Writing) (c : Char) : Writing :=
  if c.toNat < code then { state with distance := state.distance + 1 }
  else if c.toNat = code then
    { written := (digits state.bias 36 state.distance).reverse ++ state.written
      distance := 0
      bias := adapt state.distance (state.placed + 1) (state.placed = plain)
      placed := state.placed + 1 }
  else state

/-- Writes the characters with the code points in `codes`, which rise. `next`
is the code point after the last one written. -/
def writeCodes (cs : List Char) (plain : Nat) : Nat → List Nat → Writing → Writing
  | _, [], state => state
  | next, code :: codes, state =>
    let state :=
      { state with distance := state.distance + (code - next) * (state.placed + 1) }
    let state := cs.foldl (Writing.pass plain code) state
    writeCodes cs plain (code + 1) codes { state with distance := state.distance + 1 }

/-- Whether a character is ASCII. -/
def isPlain (c : Char) : Bool := c.toNat < 0x80

/-- The code points of the characters outside ASCII, rising. -/
def risingCodes (cs : List Char) : List Nat :=
  (((cs.filter (!isPlain ·)).map Char.toNat).mergeSort fun a b => decide (a ≤ b)).eraseDups

/-- The characters in ASCII. -/
def encode (cs : List Char) : List Char :=
  let plain := cs.filter isPlain
  let state := writeCodes cs plain.length 0x80 (risingCodes cs) { placed := plain.length }
  (if plain.isEmpty then [] else plain ++ ['-']) ++ state.written.reverse

/-! ## Reading -/

/-- Reads a number from a place on, the weight of which is given: its size
and the rest. -/
def number? (bias : Nat) : (place weight : Nat) → List Char → Option (Nat × List Char)
  | _, _, [] => none
  | place, weight, c :: rest =>
    match digitValue? c with
    | none => none
    | some value =>
      let least := threshold place bias
      if value < least then some (value * weight, rest)
      else
        (number? bias (place + 36) (weight * (36 - least)) rest).map fun (size, rest) =>
          (value * weight + size, rest)

/-- Puts the characters that the numbers tell in their places. `code` is the
code point of the last one, `place` where the next goes if it is at no
distance. `fuel` bounds how many there are. -/
def insertAll? (fuel : Nat) (isFirst : Bool) (bias code place : Nat) (placed numbers : List Char) :
    Option (List Char) :=
  match fuel, numbers with
  | _, [] => some placed
  | 0, _ => none
  | fuel + 1, numbers =>
    match number? bias 36 1 numbers with
    | none => none
    | some (size, rest) =>
      let count := placed.length + 1
      let code := code + (place + size) / count
      let here := (place + size) % count
      if 0x10FFFF < code then none
      else
        insertAll? fuel false (adapt size count isFirst) code (here + 1)
          (placed.take here ++ Text.charOf code :: placed.drop here) rest

/-- The characters that ASCII stands for, if it is well formed. A hyphen with
nothing before it separates nothing. -/
def decode? (cs : List Char) : Option (List Char) :=
  let numbers := (cs.reverse.takeWhile (· ≠ '-')).reverse
  let plain := (cs.take (cs.length - numbers.length)).dropLast
  if plain.isEmpty && numbers.length < cs.length then none
  else insertAll? numbers.length true 72 0x80 0 plain numbers

end Punycode

end Domain

end Http

end Backlog
