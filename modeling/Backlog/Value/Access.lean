import Backlog.Fault
import Backlog.Value.Equality
/-!
# Reading values

How the parts of a value are reached when its type is not known in advance,
and which fault arises when it does not have the parts asked for.
-/

namespace Backlog

namespace Value

/-- The object with the given fields. -/
def ofFields (fields : Table String Value) : Value := .object fields

/-- A list of texts. -/
def texts (ss : List String) : Value := .list (ss.map .text)

/-- The fields of an object. -/
def fields? : Value → Except Fault (Table String Value)
  | .object fields => .ok fields
  | _ => .error .noSuchMember

/-- A field of an object, null when it is missing. -/
def field (v : Value) (name : String) : Except Fault Value :=
  match v with
  | .object fields => .ok (fieldOf fields name)
  | _ => .error .noSuchMember

/-- A field that an object must have. -/
def required (v : Value) (name : String) : Except Fault Value :=
  match v with
  | .object fields =>
    match Table.get? fields name with
    | some v => .ok v
    | none => .error (.missingKey (.text name))
  | _ => .error .wrongType

/-- A value that counts as nothing read as an empty object. -/
def orNoFields (v : Value) : Value := v.orElse (.object [])

/-- A value that counts as nothing read as an empty list. -/
def orNoItems (v : Value) : Value := v.orElse (.list [])

/-- The elements that are met in walking through a value: those of a list,
the characters of a text, the field names of an object. -/
def elements : Value → Except Fault (List Value)
  | .list items => .ok items
  | .text s => .ok (s.toList.map fun c => .text (String.singleton c))
  | .object fields => .ok ((Table.keys fields).map .text)
  | _ => .error .wrongType

/-- A value read as a text; one that counts as nothing is the empty text. -/
def asText (v : Value) : Except Fault String :=
  match v with
  | .text s => .ok s
  | v => if v.truthy then .error .noSuchMember else .ok ""

/-- The value as an id. -/
def asId : Value → Except Fault Atom
  | .atom a => .ok a
  | _ => .error .wrongType

/-- The kind that a value names. -/
def asKind (v : Value) : Except Fault Kind := v.asId.map Kind.ofAtom

/-- Whether a name is among the parts of a value: a field of an object, an
element of a list, a stretch of a text. -/
def has (v : Value) (name : String) : Except Fault Bool :=
  match v with
  | .object fields => .ok (Table.contains fields name)
  | .list items => .ok (items.any (· == .text name))
  | .text s => .ok (Text.occursIn name.toList s.toList)
  | _ => .error .wrongType

/-- Whether a value is among the parts of another. -/
def holds (container v : Value) : Except Fault Bool :=
  match container, v with
  | .list items, v => .ok (items.any (· == v))
  | container, .text name => container.has name
  | .object _, .atom _ => .ok false
  | _, _ => .error .wrongType

/-- The first part of a value that counts as something. -/
def first : Value → Except Fault Value
  | .list (v :: _) => .ok v
  | .list [] => .error .emptyList
  | .text s =>
    match s.toList with
    | c :: _ => .ok (.text (String.singleton c))
    | [] => .error .emptyList
  | .object _ => .error (.missingKey (.num (.int 0)))
  | _ => .error .wrongType

/-- Whether every number in the value is finite. -/
def numbersFinite : Value → Bool
  | .num n => n.isFinite
  | .atom _ => true
  | .list items => itemsFinite items
  | .object fields => fieldsFinite fields
where
  /-- Whether every number in the elements is finite. -/
  itemsFinite : List Value → Bool
    | [] => true
    | v :: rest => v.numbersFinite && itemsFinite rest
  /-- Whether every number in the fields is finite. -/
  fieldsFinite : List (String × Value) → Bool
    | [] => true
    | (_, v) :: rest => v.numbersFinite && fieldsFinite rest

/-- The first text in the value that holds half of a pair, field names
included. -/
def brokenText? : Value → Option String
  | .text s => if Text.hasHalf s then some s else none
  | .atom _ => none
  | .list items => brokenItem? items
  | .object fields => brokenField? fields
where
  /-- The first such text in the elements. -/
  brokenItem? : List Value → Option String
    | [] => none
    | v :: rest => v.brokenText?.or (brokenItem? rest)
  /-- The first such text in the fields. -/
  brokenField? : List (String × Value) → Option String
    | [] => none
    | (name, v) :: rest =>
      if Text.hasHalf name then some name else v.brokenText?.or (brokenField? rest)

/-- The value with null for each number that is not finite. -/
def withFiniteNumbers : Value → Value
  | .num n => if n.isFinite then .num n else .null
  | .atom a => .atom a
  | .list items => .list (finiteItems items)
  | .object fields => .object (finiteFields fields)
where
  /-- The elements with null for each number that is not finite. -/
  finiteItems : List Value → List Value
    | [] => []
    | v :: rest => v.withFiniteNumbers :: finiteItems rest
  /-- The fields with null for each number that is not finite. -/
  finiteFields : List (String × Value) → List (String × Value)
    | [] => []
    | (name, v) :: rest => (name, v.withFiniteNumbers) :: finiteFields rest

end Value

end Backlog
