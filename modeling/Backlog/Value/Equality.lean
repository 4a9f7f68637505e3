import Backlog.Value.Basic
/-!
# Equality of values

Values are compared by what they hold: atoms as ids, lists element by
element, objects by their fields in any order. That is how a value is looked
for among others. Set against one other value by itself, NaN equals nothing.
-/

namespace Backlog

namespace Value

mutual

/-- Whether two values hold the same. -/
def same : Value → Value → Bool
  | .atom a, .atom b => a == b
  | .list xs, .list ys => sameItems xs ys
  | .object fields, .object others => fields.length == others.length && sameFields fields others
  | _, _ => false

/-- Whether two lists of values hold the same, element by element. -/
def sameItems : List Value → List Value → Bool
  | [], [] => true
  | x :: xs, y :: ys => same x y && sameItems xs ys
  | _, _ => false

/-- Whether each field is found among the others with the same value. -/
def sameFields : List (String × Value) → List (String × Value) → Bool
  | [], _ => true
  | (name, v) :: rest, others =>
    (match Table.get? others name with
      | some w => same v w
      | none => false) && sameFields rest others

end

/-- Values are compared by what they hold. -/
instance : BEq Value := ⟨same⟩

/-- Whether a value is NaN. -/
def isNaN : Value → Bool
  | .num n => n.magnitude = .nan
  | _ => false

/-- Whether a value equals one other. NaN equals nothing, not even itself. -/
def equals (v w : Value) : Bool := v == w && !v.isNaN

end Value

end Backlog
