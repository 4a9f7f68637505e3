import Backlog.Decimal.Number
import Backlog.Table
/-!
# Values

The dynamic data of the tracker: what its replies hold, what tools are
called with and what their results show. Atoms are the values that can be
ids. Two atoms are the same id when they measure the same: `1`, `1.0` and
`true` are one id, `"1"` is another.
-/

namespace Backlog

/-- A value without parts. -/
inductive Atom where
  /-- No value. -/
  | null
  /-- A number or a truth value. -/
  | num (n : Number)
  /-- A text. -/
  | text (s : String)
  deriving DecidableEq

namespace Atom

instance : Inhabited Atom := ⟨.null⟩

/-- A truth value. -/
@[match_pattern] abbrev bool (b : Bool) : Atom := .num (.flag b)

/-- What makes two atoms the same id. -/
inductive Key where
  /-- No value. -/
  | null
  /-- A measure; true measures one and false zero. -/
  | measure (m : Number.Magnitude)
  /-- A text. -/
  | text (s : String)
  deriving DecidableEq

/-- The key of an atom. -/
def key : Atom → Key
  | .null => .null
  | .num n => .measure n.magnitude
  | .text s => .text s

/-- Atoms are compared as ids. -/
instance : BEq Atom := ⟨fun a b => a.key == b.key⟩

theorem beq_iff_key_eq {a b : Atom} : (a == b) = true ↔ a.key = b.key := by
  show (a.key == b.key) = true ↔ a.key = b.key
  exact beq_iff_eq

/-- Comparing ids is an equivalence. -/
instance : EquivBEq Atom where
  rfl := beq_iff_key_eq.2 rfl
  symm h := beq_iff_key_eq.2 (beq_iff_key_eq.1 h).symm
  trans h h' := beq_iff_key_eq.2 ((beq_iff_key_eq.1 h).trans (beq_iff_key_eq.1 h'))

end Atom

/-- A value: an atom, a list, or an object with its fields in order. -/
inductive Value where
  /-- A value without parts. -/
  | atom (a : Atom)
  /-- A list. -/
  | list (items : List Value)
  /-- An object, as its fields in order. -/
  | object (fields : List (String × Value))

namespace Value

instance : Inhabited Value := ⟨.atom .null⟩

/-- No value. -/
@[match_pattern] abbrev null : Value := .atom .null

/-- A truth value. -/
@[match_pattern] abbrev bool (b : Bool) : Value := .atom (.bool b)

/-- An integer. -/
@[match_pattern] abbrev int (n : Int) : Value := .atom (.num (.int n))

/-- A number or a truth value. -/
@[match_pattern] abbrev num (n : Number) : Value := .atom (.num n)

/-- A text. -/
@[match_pattern] abbrev text (s : String) : Value := .atom (.text s)

/-- The value of a field among fields, null when it is missing. -/
def fieldOf (fields : Table String Value) (name : String) : Value := (fields.get? name).getD .null

/-- Whether a value is `null`. -/
def isNull : Value → Bool
  | .null => true
  | _ => false

/-- Whether a value counts as something: not null, false, zero or empty. -/
def truthy : Value → Bool
  | .null => false
  | .num n => !n.isZero
  | .text s => s != ""
  | .list items => !items.isEmpty
  | .object fields => !fields.isEmpty

/-- The value if it counts as something, else the other one. -/
def orElse (v other : Value) : Value := if v.truthy then v else other

end Value

end Backlog
