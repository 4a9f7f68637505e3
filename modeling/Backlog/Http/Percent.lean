import Backlog.Text.Hex
import Backlog.Text.Utf8
/-!
# Percent coding

A character that is not safe at its place in an address stands there as the
bytes of its UTF-8 form, each as `%` and two hexadecimal digits. Decoding
puts the bytes together again; a `%` without two digits is itself, and bytes
that are no text become U+FFFD. That the library that requests are sent with codes
and decodes like this is assumed.
-/

namespace Backlog

namespace Http

namespace Percent

/-- A byte in percent coding. -/
def encodeByte (b : UInt8) : List Char :=
  ['%', Text.upperHexDigit (b.toNat / 16), Text.upperHexDigit (b.toNat % 16)]

/-- A character in percent coding. -/
def encodeChar (c : Char) : List Char := (Text.Utf8.encode [c]).flatMap encodeByte

/-- The characters with those that are not safe in percent coding. -/
def encode (safe : Char → Bool) (cs : List Char) : List Char :=
  cs.flatMap fun c => if safe c then [c] else encodeChar c

/-- The bytes that the characters stand for. -/
def bytes : List Char → List UInt8
  | '%' :: high :: low :: rest =>
    match Text.hexValue? high, Text.hexValue? low with
    | some h, some l => UInt8.ofNat (h * 16 + l) :: bytes rest
    | _, _ => 0x25 :: bytes (high :: low :: rest)
  | c :: rest => Text.Utf8.encode [c] ++ bytes rest
  | [] => []

/-- The text that the characters stand for. -/
def decode (cs : List Char) : List Char := Text.Utf8.decodeLossy (bytes cs)

end Percent

end Http

end Backlog
