import Backlog.Value.Basic
/-!
# Parameters of tools

What a tool can be called with. A call is bound to the parameters: what is
not given takes its default, what is of another type or lacks a default is
refused, and arguments that no parameter names are left out.

Binding is done by a library, of which this is assumed. Before it refuses a value
it may also turn one into another that is of the type, such as the text of a number
into the number. What it does then is what it does with the other value, so only
values that are of the type are bound here.
-/

namespace Backlog

namespace Server

/-- The type of a parameter. -/
inductive ParameterType where
  /-- An integer. -/
  | int
  /-- A truth value. -/
  | bool
  /-- A text. -/
  | text
  /-- One of some words. -/
  | oneOf (names : List String)
  /-- A list of texts. -/
  | texts
  /-- A list of objects whose fields are texts. -/
  | records

/-- Whether a value is a text. -/
def isText : Value → Bool
  | .text _ => true
  | _ => false

/-- Whether a value is an object whose fields are texts. -/
def isRecord : Value → Bool
  | .object fields => fields.all fun (_, v) => isText v
  | _ => false

/-- Whether a value is of the type, as the library that binds arguments is assumed
to tell, and needs no conversion. -/
def ParameterType.accepts : ParameterType → Value → Bool
  | .int, .int _ => true
  | .bool, .bool _ => true
  | .text, .text _ => true
  | .oneOf names, .text s => names.contains s
  | .texts, .list items => items.all isText
  | .records, .list items => items.all isRecord
  | _, _ => false

/-- A parameter of a tool. -/
structure Parameter where
  /-- The name. -/
  name : String
  /-- The type. -/
  type : ParameterType
  /-- Whether null is accepted too. -/
  nullable : Bool := false
  /-- The value when nothing is given; without one, something must be. -/
  default : Option Value := none

namespace Parameter

/-- A parameter that must be given. -/
def required (name : String) (type : ParameterType) : Parameter := { name, type }

/-- A parameter that is null unless given. -/
def optional (name : String) (type : ParameterType) : Parameter :=
  { name, type, nullable := true, default := some .null }

/-- A parameter with a default, null not accepted. -/
def withDefault (name : String) (type : ParameterType) (v : Value) : Parameter :=
  { name, type, default := some v }

/-- Whether a parameter takes a value. -/
def accepts (p : Parameter) (v : Value) : Bool := p.type.accepts v || (p.nullable && v.isNull)

/-- The value that a call gives to a parameter. -/
def bind? (p : Parameter) (given : Table String Value) : Option Value :=
  match given.get? p.name with
  | some v => if p.accepts v then some v else none
  | none => p.default

end Parameter

/-- The arguments of a call, one for each parameter. -/
abbrev Arguments := Table String Value

namespace Arguments

/-- Binds a call to parameters. -/
def bind? (parameters : List Parameter) (given : Table String Value) : Option Arguments :=
  parameters.mapM fun p => (p.bind? given).map fun v => (p.name, v)

/-- An argument, null when there is none. -/
def get (args : Arguments) (name : String) : Value := Value.fieldOf args name

/-- Whether an argument is true. -/
def isSet (args : Arguments) (name : String) : Bool := (args.get name).truthy

/-- An argument that is a list of texts. -/
def texts (args : Arguments) (name : String) : List String :=
  match args.get name with
  | .list items => items.filterMap fun
    | .text s => some s
    | _ => none
  | _ => []

/-- The arguments that are not null, but for those with the given names. -/
def without (args : Arguments) (names : List String) : Table String Value :=
  args.filter fun (name, v) => !v.isNull && !names.contains name

end Arguments

end Server

end Backlog
