import Backlog.Entity.Reference
import Backlog.Entity.Shape
/-!
# Looked-up references

The ids that a group of primary entities refers to, and what became of
looking each of them up. A failed look-up is kept apart from a miss.
-/

namespace Backlog

/-- The outcome of looking up one id. -/
inductive Lookup where
  /-- The entity. -/
  | found (entity : Value)
  /-- There is no such entity. -/
  | notFound (id : Atom)
  /-- The tracker could not be asked, or gave no usable answer. -/
  | failure (id : Atom) (error : String)

/-- The name shown for what could not be found. -/
def unknownName : String := "[Unknown]"

/-- Ids by kind, both in the order in which they were first met. -/
abbrev IdsByKind := Table Kind (List Atom)

/-- The outcome for each id, by kind. -/
structure Refs where
  /-- The outcomes, in the order in which the ids were first met. -/
  lookups : Table Kind (Table Atom Lookup) := []

namespace Refs

/-- The outcomes of a kind. -/
def ofKind (refs : Refs) (kind : Kind) : Table Atom Lookup := (refs.lookups.get? kind).getD []

/-- The outcome for an id; an id that was not looked up is not found. -/
def get (refs : Refs) (kind : Kind) (id : Atom) : Lookup :=
  ((refs.ofKind kind).get? id).getD (.notFound id)

/-- Records the outcome for an id. -/
def record (refs : Refs) (kind : Kind) (id : Atom) (lookup : Lookup) : Refs :=
  ⟨refs.lookups.insert kind ((refs.ofKind kind).insert id lookup)⟩

/-- The name shown for an id. -/
def nameOf (refs : Refs) (kind : Kind) (id : Value) : Except Fault String := do
  let id ← id.asId
  match refs.get kind id with
  | .found entity => Entity.displayName kind entity
  | _ => pure unknownName

end Refs

namespace IdsByKind

/-- Adds ids of a kind, those already there left as they are. -/
def add (collected : IdsByKind) (kind : Kind) (ids : List Atom) : IdsByKind :=
  Table.insert collected kind ((Table.get? collected kind).getD [] ++ ids).eraseDups

/-- Adds the ids that an entity holds in a reference. -/
def addReference (entity : Value) (collected : IdsByKind) (ref : Reference) :
    Except Fault IdsByKind := do
  let values ← ref.ids entity
  let ids ← values.mapM Value.asId
  pure (collected.add ref.kind ids)

/-- Adds the ids that an entity holds in its references. -/
def addEntity (kind : Kind) (collected : IdsByKind) (entity : Value) : Except Fault IdsByKind :=
  kind.references.foldlM (addReference entity) collected

/-- The ids that the entities of a kind refer to. -/
def ofEntities (kind : Kind) (entities : List Value) : Except Fault IdsByKind :=
  entities.foldlM (addEntity kind) []

/-- The ids of a kind among the fields of an object, none when it has no such
field. A field of a cached kind that counts as nothing has none either. -/
def ofField (fields : Table String Value) (kind : Kind) : Except Fault (List Atom) :=
  match fields.get? kind.name with
  | none => pure []
  | some v =>
    if Kind.cached.contains kind && !v.truthy then pure []
    else do
      let values ← v.elements
      values.mapM Value.asId

/-- The ids that the fields of an object hold by kind. -/
def ofFields (fields : Table String Value) : Except Fault IdsByKind :=
  (Kind.cached ++ Kind.fetched).mapM fun kind => do
    let ids ← ofField fields kind
    pure (kind, ids)

/-- Adds the ids that a related entity holds in a reference and that are not
looked up yet. -/
def addUnresolved (refs : Refs) (entity : Value) (collected : IdsByKind) (ref : Reference) :
    Except Fault IdsByKind := do
  let values ← ref.ids entity
  let ids ← values.mapM Value.asId
  match ids.filter fun id => !(refs.ofKind ref.kind).contains id with
  | [] => pure collected
  | unresolved => pure (collected.add ref.kind unresolved)

/-- Adds the unresolved ids of one related entity, if it was found. -/
def addLookup (refs : Refs) (kind : Kind) (collected : IdsByKind) (lookup : Lookup) :
    Except Fault IdsByKind :=
  match lookup with
  | .found entity => kind.secondaryReferences.foldlM (addUnresolved refs entity) collected
  | _ => pure collected

/-- Adds the unresolved ids of the related entities of a kind. -/
def addSource (refs : Refs) (collected : IdsByKind) (kind : Kind) : Except Fault IdsByKind :=
  (refs.ofKind kind).values.foldlM (addLookup refs kind) collected

/-- The ids that the related entities refer to and that are not looked up
yet. -/
def unresolved (refs : Refs) : Except Fault IdsByKind :=
  Kind.secondarySources.foldlM (addSource refs) []

end IdsByKind

end Backlog
