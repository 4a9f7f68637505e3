import Backlog.Decimal.Digit
import Backlog.Decimal.Double
import Backlog.Text.Blank
/-!
# Reading numerals

Numerals in text: digits of any script, single low lines between digits, an
optional sign, and blanks at both ends. The information separators, blank
elsewhere, are no blanks here.
-/

namespace Backlog

namespace Decimal

/-- Whether a character may stand around a numeral. -/
def isPadding (c : Char) : Bool := Text.isBlank c && !(0x1C ≤ c.toNat && c.toNat ≤ 0x1F)

/-- The values of digits in which single low lines may stand between two
digits. -/
def groupedDigits? : List Char → Option (List Nat)
  | [] => none
  | [c] => (digitValue? c).map ([·])
  | c :: '_' :: rest => do
    let d ← digitValue? c
    let ds ← groupedDigits? rest
    pure (d :: ds)
  | c :: rest => do
    let d ← digitValue? c
    let ds ← groupedDigits? rest
    pure (d :: ds)

/-- The longest numeral that is read as an integer, in digits. -/
def maxNumeralDigits : Nat := 4300

/-! ## Integers -/

/-- Why a text is no integer that can be read. -/
inductive IntegerFault where
  /-- It is no integer. -/
  | malformed
  /-- It starts as an integer with too many digits. -/
  | tooLong (digits : Nat)

/-- Whether a character may stand in the digits of an integer. -/
def isDigitOrLine (c : Char) : Bool := isDigit c || c = '_'

/-- Reads an integer. That its digits are too many shows before what stands
behind them is looked at. -/
def readInteger (s : String) : Except IntegerFault Int :=
  let (negative, rest) := signed (s.toList.dropWhile isPadding)
  match groupedDigits? (rest.takeWhile isDigitOrLine) with
  | none => .error .malformed
  | some digits =>
    if maxNumeralDigits < digits.length then .error (.tooLong digits.length)
    else if (rest.dropWhile isDigitOrLine).all isPadding then
      .ok (signedInt negative (ofDigits digits))
    else .error .malformed

/-! ## Doubles -/

/-- The characters of a numeral without the padding at both ends. -/
def unpadded (s : String) : List Char :=
  ((s.toList.dropWhile isPadding).reverse.dropWhile isPadding).reverse

/-- The digits of a part of a numeral that may be missing. -/
def optionalDigits? : List Char → Option (List Nat)
  | [] => some []
  | cs => groupedDigits? cs

/-- Reads the power of ten after its mark. -/
def power? (cs : List Char) : Option Int :=
  let (negative, rest) := signed cs
  (groupedDigits? rest).map fun digits => signedInt negative (ofDigits digits)

/-- Whether a character marks the power of ten. -/
def isPowerMark (c : Char) : Bool := c = 'e' || c = 'E'

/-- Reads a decimal without sign: digits, a point and digits, and a power of
ten. One of the two groups of digits may be missing. -/
def unsignedDecimal? (cs : List Char) : Option (Nat × Int) := do
  let mantissa := cs.takeWhile fun c => !isPowerMark c
  let power ←
    match cs.dropWhile fun c => !isPowerMark c with
    | [] => some 0
    | _ :: rest => power? rest
  let whole ← optionalDigits? (mantissa.takeWhile (· ≠ '.'))
  let fraction ← optionalDigits? ((mantissa.dropWhile (· ≠ '.')).drop 1)
  if whole.isEmpty && fraction.isEmpty then none
  else some (ofDigits (whole ++ fraction), power - fraction.length)

/-- An ASCII letter in lower case, any other character as it is. -/
def asciiLower (cs : List Char) : String := String.ofList (cs.map Char.toLower)

/-- Reads a double: a decimal, or one of the words for infinity and NaN in
any case. -/
def double? (s : String) : Option Double :=
  let (negative, rest) := signed (unpadded s)
  match asciiLower rest with
  | "inf" | "infinity" => some (Double.infinity negative)
  | "nan" => some Double.nan
  | _ => (unsignedDecimal? rest).map fun (digits, exponent) =>
    Double.ofDecimal negative digits exponent

end Decimal

end Backlog
