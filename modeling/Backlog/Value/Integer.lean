import Backlog.Decimal.Numeral
import Backlog.Value.Access
/-!
# Values as integers

How a count is read from a value of any type: a text as a numeral, a double
without its fraction, a truth value as one or zero.
-/

namespace Backlog

/-- The double without its fraction. -/
def Double.truncate (d : Double) : Except Fault Int :=
  match d.shape with
  | .nan => .error (.refused .nanAsInteger)
  | .infinite _ => .error .infinityAsInteger
  | .finite negative mantissa exponent =>
    let (num, den) := scaled mantissa 1 exponent
    .ok (Decimal.signedInt negative (num / den))

/-- The integer that a text spells. -/
def readInteger (s : String) : Except Fault Int :=
  (Decimal.readInteger s).mapError fun
    | .malformed => .refused (.notAnInteger s)
    | .tooLong digits => .refused (.integerTooLong digits)

/-- The value as an integer. -/
def Value.toInteger : Value → Except Fault Int
  | .int n => .ok n
  | .bool b => .ok (if b then 1 else 0)
  | .num (.float d) => d.truncate
  | .text s => readInteger s
  | _ => .error .wrongType

end Backlog
