/-!
# Bytes of text

UTF-8, read one byte at a time. Each byte either completes a character,
carries on an unfinished one, or shows that the bytes so far are no
character. `decode?` refuses a text with such bytes, `decodeLossy` puts the
replacement character in their place.
-/

namespace Backlog

namespace Text

namespace Utf8

/-- What is known between two bytes. -/
inductive Pending where
  /-- No character is unfinished. -/
  | none
  /-- `count` bytes of the character are still to come, the next of them
  between `low` and `high`, and `code` is what has been read of it. -/
  | some (count low high code : Nat)

/-- Reads the first byte of a character. -/
def start (b : Nat) : List (Option Char) × Pending :=
  if b < 0x80 then ([some (Char.ofNat b)], .none)
  else if 0xC2 ≤ b ∧ b ≤ 0xDF then ([], .some 1 0x80 0xBF (b - 0xC0))
  else if b = 0xE0 then ([], .some 2 0xA0 0xBF 0)
  else if b = 0xED then ([], .some 2 0x80 0x9F 0xD)
  else if 0xE1 ≤ b ∧ b ≤ 0xEF then ([], .some 2 0x80 0xBF (b - 0xE0))
  else if b = 0xF0 then ([], .some 3 0x90 0xBF 0)
  else if 0xF1 ≤ b ∧ b ≤ 0xF3 then ([], .some 3 0x80 0xBF (b - 0xF0))
  else if b = 0xF4 then ([], .some 3 0x80 0x8F 4)
  else ([none], .none)

/-- Reads one byte. A byte that cannot carry on the unfinished character
ends it as malformed and is read as a first byte. -/
def step (pending : Pending) (b : Nat) : List (Option Char) × Pending :=
  match pending with
  | .none => start b
  | .some count low high code =>
    if low ≤ b ∧ b ≤ high then
      let code := code * 64 + (b - 0x80)
      if count ≤ 1 then ([some (Char.ofNat code)], .none)
      else ([], .some (count - 1) 0x80 0xBF code)
    else
      let (read, pending) := start b
      (none :: read, pending)

/-- The characters of the bytes, with `none` for each malformed stretch. -/
def decodeFrom : Pending → List UInt8 → List (Option Char)
  | .none, [] => []
  | .some .., [] => [none]
  | pending, b :: rest =>
    let (read, pending) := step pending b.toNat
    read ++ decodeFrom pending rest

/-- The characters of the bytes, if all are well formed. -/
def decode? (bytes : List UInt8) : Option (List Char) :=
  (decodeFrom .none bytes).mapM id

/-- The characters of the bytes, with U+FFFD for each malformed stretch. -/
def decodeLossy (bytes : List UInt8) : List Char :=
  (decodeFrom .none bytes).map (·.getD '\uFFFD')

/-- The bytes of the characters. -/
def encode (cs : List Char) : List UInt8 := cs.flatMap String.utf8EncodeChar

end Utf8

end Text

end Backlog
