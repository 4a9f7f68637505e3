import Backlog.Decimal.Double
/-!
# The shortest text of a double

A double is written with the fewest digits that read back as the same
double, and of those with the nearest. For each number of digits the two
neighbours of the value on that decimal grid are tried, in exact arithmetic.
-/

namespace Backlog

namespace Decimal

/-- A positive decimal `digits * 10 ^ exponent`. -/
structure Scientific where
  /-- The digits, read as a number. -/
  digits : Nat
  /-- The power of ten. -/
  exponent : Int
  deriving DecidableEq

namespace Shortest

/-- The reals that round to one double, and the double itself: all three are
multiples of `2 ^ scale`. -/
structure Interval where
  /-- The lower end. -/
  low : Nat
  /-- The double. -/
  value : Nat
  /-- The upper end. -/
  high : Nat
  /-- The power of two of the unit. -/
  scale : Int
  /-- Whether the ends round to the double too. -/
  closed : Bool

/-- The interval of `mantissa * 2 ^ exponent`. Below a power of two the
doubles stand twice as dense. -/
def interval (mantissa : Nat) (exponent : Int) : Interval where
  low := if mantissa = Double.fractions ∧ Double.leastExponent < exponent then 4 * mantissa - 1
    else 4 * mantissa - 2
  value := 4 * mantissa
  high := 4 * mantissa + 2
  scale := exponent - 2
  closed := mantissa % 2 = 0

/-- The ratio `10 ^ power / 2 ^ scale`, as numerator and denominator. -/
def unitRatio (power scale : Int) : Nat × Nat :=
  (Nat.pow 10 power.toNat * Nat.pow 2 (-scale).toNat,
    Nat.pow 10 (-power).toNat * Nat.pow 2 scale.toNat)

/-- Whether `digits * 10 ^ power` lies in the interval. -/
def Interval.holds (i : Interval) (digits : Nat) (power : Int) : Bool :=
  let (num, den) := unitRatio power i.scale
  let point := digits * num
  if i.closed then i.low * den ≤ point && point ≤ i.high * den
  else i.low * den < point && point < i.high * den

/-- The neighbour of the value on the grid of `10 ^ power` that lies in the
interval, the nearer one when both do, and the even one in a tie. -/
def Interval.hit? (i : Interval) (power : Int) : Option Scientific :=
  let (num, den) := unitRatio power i.scale
  let below := i.value * den / num
  let gapBelow := i.value * den - below * num
  let gapAbove := (below + 1) * num - i.value * den
  let preferAbove := gapAbove < gapBelow ∨ (gapAbove = gapBelow ∧ below % 2 = 1)
  let candidates := if preferAbove then [below + 1, below] else [below, below + 1]
  (candidates.find? (i.holds · power)).map (⟨·, power⟩)

/-- The number of digits before the point of `value * 2 ^ scale`, which is
negative or zero for small values. -/
def decimalOrder (value : Nat) (scale : Int) : Int :=
  let guess := ((value.log2 : Int) + scale) * 30103 / 100000 - 1
  let reaches (power : Int) : Bool :=
    let (num, den) := unitRatio power scale
    num ≤ value * den
  guess + ([1, 2, 3].filter fun step : Nat => reaches (guess + step - 1)).length

/-- The shortest decimal of a positive double. Seventeen digits always
suffice. -/
def ofFinite (mantissa : Nat) (exponent : Int) : Scientific :=
  let i := interval mantissa exponent
  let order := decimalOrder i.value i.scale
  let grids := (List.range 17).map fun n : Nat => order - 1 - n
  (grids.findSome? i.hit?).getD ⟨mantissa, 0⟩

end Shortest

/-- Digits and a point, `order` of the digits standing before it. -/
def positional (digits : List Char) (order : Int) : List Char :=
  if order ≤ 0 then
    '0' :: '.' :: List.replicate (-order).toNat '0' ++ digits
  else
    let whole := digits.take order.toNat
    let padding := List.replicate (order.toNat - digits.length) '0'
    let fraction := digits.drop order.toNat
    whole ++ padding ++ '.' :: (if fraction.isEmpty then ['0'] else fraction)

/-- One digit before the point, and a power of ten with a sign and at least
two digits. -/
def exponential (digits : List Char) (order : Int) : List Char :=
  let power := order - 1
  let mantissa :=
    match digits with
    | [] => []
    | [d] => [d]
    | d :: rest => d :: '.' :: rest
  let powerDigits := Nat.toDigits 10 power.natAbs
  let padded := if powerDigits.length < 2 then '0' :: powerDigits else powerDigits
  mantissa ++ 'e' :: (if power < 0 then '-' else '+') :: padded

/-- The text of a double: positional from `0.0001` to below `1e+16`, with a
power of ten outside. -/
def textOf (d : Double) : String :=
  match d.shape with
  | .nan => "nan"
  | .infinite false => "inf"
  | .infinite true => "-inf"
  | .finite negative mantissa exponent =>
    let sign := if negative then ['-'] else []
    if mantissa = 0 then String.ofList (sign ++ ['0', '.', '0'])
    else
      let shortest := Shortest.ofFinite mantissa exponent
      let all := Nat.toDigits 10 shortest.digits
      let order := shortest.exponent + all.length
      let digits := (all.reverse.dropWhile (· = '0')).reverse
      let body :=
        if -4 < order ∧ order ≤ 16 then positional digits order else exponential digits order
      String.ofList (sign ++ body)

end Decimal

end Backlog
