import Backlog.Decimal.Double
/-!
# Numbers

A number is an integer of any size, a truth value that counts as one or zero,
or a double. Whole numbers stay whole under addition and subtraction, and a
double with a whole number gives a double. Comparison is exact: it never
rounds the whole number.
-/

namespace Backlog

/-- An integer, a truth value or a double. -/
inductive Number where
  /-- An integer of any size. -/
  | int (n : Int)
  /-- A truth value, which counts as one or zero. -/
  | flag (b : Bool)
  /-- A double. -/
  | float (d : Double)
  deriving DecidableEq

namespace Number

instance : Inhabited Number := ⟨.int 0⟩

/-- What a number measures, exactly: a ratio with a positive denominator in
lowest terms, an infinity, or nothing. -/
inductive Magnitude where
  /-- Not a number. -/
  | nan
  /-- An infinity of the given sign. -/
  | infinite (negative : Bool)
  /-- `num / den`. -/
  | ratio (num : Int) (den : Nat)
  deriving DecidableEq

/-- The ratio `mantissa * 2 ^ exponent` in lowest terms, with a sign. -/
def dyadic (negative : Bool) (mantissa : Nat) (exponent : Int) : Magnitude :=
  let (num, den) := Double.scaled mantissa 1 exponent
  let common := Nat.gcd num den
  let num : Int := (num / common : Nat)
  .ratio (if negative then -num else num) (den / common)

/-- What the number measures. Both zeros measure the same. -/
def magnitude : Number → Magnitude
  | .int n => .ratio n 1
  | .flag b => .ratio (if b then 1 else 0) 1
  | .float d =>
    match d.shape with
    | .nan => .nan
    | .infinite negative => .infinite negative
    | .finite negative mantissa exponent => dyadic negative mantissa exponent

/-- Whether one measure is smaller than another. NaN is on neither side. -/
def Magnitude.lt : Magnitude → Magnitude → Bool
  | .ratio n d, .ratio n' d' => n * d' < n' * d
  | .ratio .., .infinite negative => !negative
  | .infinite negative, .ratio .. => negative
  | .infinite negative, .infinite negative' => negative && !negative'
  | _, _ => false

/-- Whether one number is smaller than another. -/
def lt (a b : Number) : Bool := a.magnitude.lt b.magnitude

/-- The integer that a number is, unless it is a double. -/
def whole? : Number → Option Int
  | .int n => some n
  | .flag b => some (if b then 1 else 0)
  | .float _ => none

/-- The double nearest to the number. -/
def toDouble : Number → Double
  | .int n => Double.ofInt n
  | .flag b => Double.ofInt (if b then 1 else 0)
  | .float d => d

/-- Whether the number is a double or near to a finite one. -/
def fitsDouble (a : Number) : Bool := a.whole?.isNone || a.toDouble.isFinite

/-- The sum, whole when both are. There is none when a double meets a whole
number beyond the range of doubles. -/
def add? (a b : Number) : Option Number :=
  match a.whole?, b.whole? with
  | some m, some n => some (.int (m + n))
  | _, _ =>
    if a.fitsDouble && b.fitsDouble then some (.float (a.toDouble.add b.toDouble)) else none

/-- The difference, whole when both are. There is none when a double meets a
whole number beyond the range of doubles. -/
def sub? (a b : Number) : Option Number :=
  match a.whole?, b.whole? with
  | some m, some n => some (.int (m - n))
  | _, _ =>
    if a.fitsDouble && b.fitsDouble then some (.float (a.toDouble.sub b.toDouble)) else none

/-- Whether a number is zero. -/
def isZero (a : Number) : Bool := a.magnitude = .ratio 0 1

/-- Whether a number is neither an infinity nor NaN. -/
def isFinite : Number → Bool
  | .int _ | .flag _ => true
  | .float d => d.isFinite

end Number

end Backlog
