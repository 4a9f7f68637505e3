import Backlog.Text.Utf8
import Backlog.Text.Wide
/-!
# The encoding of JSON text

JSON text in bytes is UTF-8, UTF-16 or UTF-32. A byte-order mark tells which.
Without one, the zero bytes do: the first two characters of a JSON text are
ASCII.
-/

namespace Backlog

namespace Json

/-- How characters are written in bytes. -/
inductive Encoding where
  /-- In units of one byte. -/
  | utf8
  /-- In units of two bytes. -/
  | utf16 (order : Text.Wide.ByteOrder)
  /-- In units of four bytes. -/
  | utf32 (order : Text.Wide.ByteOrder)

/-- The encoding that the zeros among the first bytes tell. -/
def Encoding.ofZeros : List UInt8 → Encoding
  | a :: b :: c :: d :: _ =>
    if a = 0 then if b = 0 then .utf32 .highFirst else .utf16 .highFirst
    else if b = 0 then if c = 0 && d = 0 then .utf32 .lowFirst else .utf16 .lowFirst
    else .utf8
  | [a, b] => if a = 0 then .utf16 .highFirst else if b = 0 then .utf16 .lowFirst else .utf8
  | _ => .utf8

/-- The encoding of bytes, and the bytes without the byte-order mark. -/
def Encoding.detect : List UInt8 → Encoding × List UInt8
  | 0x00 :: 0x00 :: 0xFE :: 0xFF :: rest => (.utf32 .highFirst, rest)
  | 0xFF :: 0xFE :: 0x00 :: 0x00 :: rest => (.utf32 .lowFirst, rest)
  | 0xFE :: 0xFF :: rest => (.utf16 .highFirst, rest)
  | 0xFF :: 0xFE :: rest => (.utf16 .lowFirst, rest)
  | 0xEF :: 0xBB :: 0xBF :: rest => (.utf8, rest)
  | bytes => (.ofZeros bytes, bytes)

/-- The bytes of UTF-8 with what is kept for it in place of each half of a pair
that is written as if it were a character. -/
def withKeptHalves : List UInt8 → List UInt8
  | 0xED :: b :: c :: rest =>
    if 0xA0 ≤ b && b ≤ 0xBF && 0x80 ≤ c && c ≤ 0xBF then
      let half := 0xD000 + (b.toNat - 0x80) * 0x40 + (c.toNat - 0x80)
      Text.Utf8.encode [Text.charOf half] ++ withKeptHalves rest
    else 0xED :: withKeptHalves (b :: c :: rest)
  | b :: rest => b :: withKeptHalves rest
  | [] => []

/-- The characters of JSON text in bytes, if they are well formed. -/
def charsOf? (bytes : List UInt8) : Option (List Char) :=
  match Encoding.detect bytes with
  | (.utf8, bytes) => Text.Utf8.decode? (withKeptHalves bytes)
  | (.utf16 order, bytes) => Text.Wide.decode16? order bytes
  | (.utf32 order, bytes) => Text.Wide.decode32? order bytes

end Json

end Backlog
