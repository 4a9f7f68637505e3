/-!
# Double-precision numbers

A double is held as its 64 bits, so that equality of values is decidable and
what it stands for can be said exactly: a sign, a mantissa and a power of
two. `Double.ofRatio` gives the double nearest to a ratio, a tie going to the
even mantissa.
-/

namespace Backlog

/-- A double-precision number, as its bits. -/
structure Double where
  /-- Sign, exponent and fraction. -/
  bits : UInt64
  deriving DecidableEq

namespace Double

/-- What the bits of a double stand for. -/
inductive Shape where
  /-- Not a number. -/
  | nan
  /-- An infinity of the given sign. -/
  | infinite (negative : Bool)
  /-- `mantissa * 2 ^ exponent`, with a sign. -/
  | finite (negative : Bool) (mantissa : Nat) (exponent : Int)
  deriving DecidableEq

/-- The number of fractions between two powers of two: 2 to the power 52. -/
def fractions : Nat := 0x10000000000000

/-- The bit of the sign: 2 to the power 63. -/
def signBit : Nat := 0x8000000000000000

/-- The exponent field of infinities and NaN. -/
def lastField : Nat := 0x7FF

/-- The exponent of the smallest double. -/
def leastExponent : Int := -1074

/-- Reads the bits. -/
def shape (d : Double) : Shape :=
  let negative := d.bits >>> 63 != 0
  let field := ((d.bits >>> 52) &&& 0x7FF).toNat
  let fraction := (d.bits &&& 0xFFFFFFFFFFFFF).toNat
  if field = lastField then
    if fraction = 0 then .infinite negative else .nan
  else if field = 0 then .finite negative fraction leastExponent
  else .finite negative (fractions + fraction) (leastExponent + (field - 1))

/-- The double with the given sign and the given other bits. -/
def ofSignAndBits (negative : Bool) (rest : Nat) : Double :=
  ⟨UInt64.ofNat (if negative then signBit + rest else rest)⟩

/-- Zero of the given sign. -/
def zero (negative : Bool) : Double := ofSignAndBits negative 0

/-- Infinity of the given sign. -/
def infinity (negative : Bool) : Double := ofSignAndBits negative (lastField * fractions)

/-- Not a number. -/
def nan : Double := ofSignAndBits false (lastField * fractions + fractions / 2)

/-- `num / den` rounded to a whole number, a tie going to the even one. -/
def roundQuotient (num den : Nat) : Nat :=
  let quotient := num / den
  let remainder := num % den
  if den < 2 * remainder ∨ (2 * remainder = den ∧ quotient % 2 = 1) then quotient + 1
  else quotient

/-- The ratio `num * 2 ^ shift / den`, as numerator and denominator. -/
def scaled (num den : Nat) (shift : Int) : Nat × Nat :=
  (num * Nat.pow 2 shift.toNat, den * Nat.pow 2 (-shift).toNat)

/-- The largest `e` with `2 ^ e ≤ num / den`, for positive `num` and
`den`. -/
def binaryOrder (num den : Nat) : Int :=
  let guess : Int := num.log2 - den.log2
  let (n, d) := scaled num den (-guess)
  if n < d then guess - 1 else guess

/-- The double nearest to `num / den`, with the given sign. -/
def ofRatio (negative : Bool) (num den : Nat) : Double :=
  if num = 0 then zero negative
  else
    let exponent := max (binaryOrder num den - 52) leastExponent
    let (n, d) := scaled num den (-exponent)
    let rest := (exponent - leastExponent).toNat * fractions + roundQuotient n d
    if lastField * fractions ≤ rest then infinity negative else ofSignAndBits negative rest

/-- The double nearest to an integer. -/
def ofInt (n : Int) : Double := ofRatio (n < 0) n.natAbs 1

/-- The double nearest to `digits * 10 ^ exponent`, with the given sign. Far
outside the range of doubles the power is not computed. -/
def ofDecimal (negative : Bool) (digits : Nat) (exponent : Int) : Double :=
  let order := (digits.log2 : Int) * 3 / 10 + exponent
  if digits = 0 ∨ order < -400 then zero negative
  else if 400 < order then infinity negative
  else ofRatio negative (digits * Nat.pow 10 exponent.toNat) (Nat.pow 10 (-exponent).toNat)

/-- The sum of two doubles. -/
def add (a b : Double) : Double := ⟨(Float.ofBits a.bits + Float.ofBits b.bits).toBits⟩

/-- The difference of two doubles. -/
def sub (a b : Double) : Double := ⟨(Float.ofBits a.bits - Float.ofBits b.bits).toBits⟩

/-- Whether a double is neither an infinity nor NaN. -/
def isFinite (d : Double) : Bool :=
  match d.shape with
  | .finite .. => true
  | _ => false

end Double

end Backlog
