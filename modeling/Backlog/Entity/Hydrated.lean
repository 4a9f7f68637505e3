import Backlog.Entity.Lookup
import Backlog.Json.Writer
/-!
# Hydrated results

Primary entities with the names of what they refer to, beside the related
entities themselves. All of it is built from the looked-up references.
-/

namespace Backlog

/-- Primary entities and what they refer to. -/
structure Hydrated where
  /-- The name under which the primary entities are shown. -/
  key : String
  /-- The primary entity, or the list of them. -/
  primary : Value
  /-- The related entities by kind. -/
  related : Table Kind (List Value)
  /-- The looked-up references. -/
  refs : Refs

namespace Hydrated

/-- The name of the field that a kind is shown under. What is given for a kind
and is no text stands there as it does in JSON. -/
def fieldName : Kind → String
  | .other (.text name) => name
  | .other given => Json.atomText given
  | kind => kind.name

/-- The name of the field that one entity of a kind is shown under. -/
def singularFieldName (kind : Kind) : String := kind.singular?.getD (fieldName kind)

/-- The result as a value. -/
def toValue (result : Hydrated) : Value :=
  .object (Table.ofList
    [(result.key, result.primary),
     ("relatedEntities", .object (result.related.map fun (kind, entities) =>
       (fieldName kind, .list entities)))])

/-- What is shown for an id without an entity. -/
def unknownEntity (id : Atom) : Value :=
  .object [("id", .atom id), ("name", .text unknownName), ("not_found", .bool true)]

/-! ## Names beside ids -/

/-- The state with the given id among states. -/
def findState (id : Value) : List Value → Except Fault (Option Value)
  | [] => pure none
  | state :: rest => do
    let stateId ← state.field "id"
    if stateId.equals id then pure (some state) else findState id rest

/-- The state with the given id in the first workflow that has one. -/
def findStateIn (id : Value) : List Value → Except Fault (Option Value)
  | [] => pure none
  | workflow :: rest => do
    let states ← workflow.field "states"
    let states ← states.orNoItems.elements
    match ← findState id states with
    | some state => pure (some state)
    | none => findStateIn id rest

/-- The workflows in which the state of a story is looked for: its own, if
it was found, before the others. -/
def candidateWorkflows (refs : Refs) (workflowId : Atom) (workflows : List Value) : List Value :=
  match refs.get .workflows workflowId with
  | .found workflow => workflow :: workflows
  | _ => workflows

/-- The name of the workflow state of a story, null when it has no state. The
other workflows to look in are the elements of a value. -/
def stateName (story : Value) (refs : Refs) (workflows : Value) : Except Fault Value := do
  let stateId ← story.field "workflow_state_id"
  if stateId.isNull then pure .null
  else
    let workflowId ← story.field "workflow_id"
    let workflowId ← workflowId.asId
    let workflows ← workflows.elements
    match ← findStateIn stateId (candidateWorkflows refs workflowId workflows) with
    | some state =>
      let name ← state.field "name"
      pure (name.orElse (.text unknownName))
    | none => pure (.text unknownName)

/-- What the name field of a reference shows for the names of its ids. -/
def shownNames (ref : Reference) (names : List String) : Value :=
  if ref.many then .texts names
  else
    match names with
    | name :: _ => .text name
    | [] => .null

/-- Adds the name field of a reference, if the entity has its ids. -/
def addNames (entity : Value) (refs : Refs) (shaped : Table String Value) (ref : Reference) :
    Except Fault (Table String Value) := do
  if ← entity.has ref.idField then
    let ids ← ref.ids entity
    let names ← ids.mapM (refs.nameOf ref.kind)
    pure (shaped.insert ref.nameField (shownNames ref names))
  else pure shaped

/-- Adds the name of the workflow state of a story. -/
def addStateName (kind : Kind) (entity : Value) (refs : Refs) (workflows : Value)
    (shaped : Table String Value) : Except Fault (Table String Value) := do
  if kind = .stories then
    if ← entity.has "workflow_state_id" then
      let name ← stateName entity refs workflows
      pure (shaped.insert "workflow_state_name" name)
    else pure shaped
  else pure shaped

/-- The shape of a primary entity with the names of what it refers to. -/
def decorate (kind : Kind) (entity : Value) (refs : Refs) (full : Bool) (workflows : Value) :
    Except Fault (Table String Value) := do
  let shaped ← Entity.shape kind entity full
  let named ← kind.references.foldlM (addNames entity refs) shaped
  addStateName kind entity refs workflows named

/-! ## Related entities -/

/-- Whether a miss of the kind is shown. -/
def showsUnknown (kind : Kind) (markUnknown : Bool) : Bool :=
  Kind.fetched.contains kind || markUnknown

/-- What is shown for the outcomes of a kind, in their order. -/
def relatedEntries (kind : Kind) (markUnknown : Bool) :
    Table Atom Lookup → Except Fault (List Value)
  | [] => pure []
  | (_, .found entity) :: rest => do
    let shaped ← Entity.shape kind entity false
    let others ← relatedEntries kind markUnknown rest
    pure (.object shaped :: others)
  | (id, _) :: rest => do
    let others ← relatedEntries kind markUnknown rest
    pure (if showsUnknown kind markUnknown then unknownEntity id :: others else others)

/-- Adds what is shown for the outcomes of one kind. -/
def addRelated (markUnknown : Bool) (related : Table Kind (List Value))
    (outcomes : Kind × Table Atom Lookup) : Except Fault (Table Kind (List Value)) := do
  let entries ← relatedEntries outcomes.1 markUnknown outcomes.2
  pure (related.insert outcomes.1 ((related.get? outcomes.1).getD [] ++ entries))

/-- The related entities by kind. Every kind that may be related is there. -/
def relatedEntities (kind : Kind) (refs : Refs) (markUnknown : Bool) :
    Except Fault (Table Kind (List Value)) :=
  refs.lookups.foldlM (addRelated markUnknown) (kind.related.map fun k => (k, []))

/-! ## Results -/

/-- How a result is shown. -/
structure Options where
  /-- Whether primary entities have their full shape. -/
  full : Bool := false
  /-- Whether a missing entity of a cached kind is shown as unknown. -/
  markUnknown : Bool := false

/-- The decorated primary entities. -/
def decorateAll (kind : Kind) (primaries : List Value) (refs : Refs) (full : Bool)
    (workflows : Value) : Except Fault (List Value) :=
  primaries.mapM fun entity => do
    let shaped ← decorate kind entity refs full workflows
    pure (.object shaped)

/-- The result for a list of primary entities. -/
def ofMany (kind : Kind) (primaries : List Value) (refs : Refs) (options : Options)
    (workflows : Value) : Except Fault Hydrated := do
  let shaped ← decorateAll kind primaries refs options.full workflows
  let related ← relatedEntities kind refs options.markUnknown
  pure ⟨fieldName kind, .list shaped, related, refs⟩

/-- The result for the first of the primary entities alone. -/
def ofFirst (kind : Kind) (primaries : List Value) (refs : Refs) (options : Options)
    (workflows : Value) : Except Fault Hydrated := do
  let shaped ← decorateAll kind primaries refs options.full workflows
  let related ← relatedEntities kind refs options.markUnknown
  match shaped with
  | first :: _ => pure ⟨singularFieldName kind, first, related, refs⟩
  | [] => throw .emptyList

end Hydrated

end Backlog
