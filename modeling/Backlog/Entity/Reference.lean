import Backlog.Value.Access
/-!
# References between entities

Which fields of an entity hold ids of other entities, and what those are.
-/

namespace Backlog

/-- A field that refers to other entities. -/
structure Reference where
  /-- The field that holds the id, or the ids. -/
  idField : String
  /-- The kind of what is referred to. -/
  kind : Kind
  /-- The field that shows the name, or the names. -/
  nameField : String
  /-- Whether there are many. -/
  many : Bool

namespace Reference

/-- The owners of an entity. -/
def owners : Reference := ⟨"owner_ids", .users, "owner_names", true⟩

/-- Who asked for an entity. -/
def requester : Reference := ⟨"requested_by_id", .users, "requester_name", false⟩

/-- Who follows an entity. -/
def followers : Reference := ⟨"follower_ids", .users, "follower_names", true⟩

/-- The team of an entity. -/
def team : Reference := ⟨"group_id", .teams, "team_name", false⟩

/-- The teams of an entity. -/
def teams : Reference := ⟨"group_ids", .teams, "team_names", true⟩

/-- The workflow of a story. -/
def workflow : Reference := ⟨"workflow_id", .workflows, "workflow_name", false⟩

/-- The epic of a story. -/
def epic : Reference := ⟨"epic_id", .epics, "epic_name", false⟩

/-- The iteration of a story. -/
def iteration : Reference := ⟨"iteration_id", .iterations, "iteration_name", false⟩

/-- The objective of an epic. -/
def objective : Reference := ⟨"milestone_id", .objectives, "objective_name", false⟩

/-- The objectives of an epic. -/
def objectives : Reference := ⟨"objective_ids", .objectives, "objective_names", true⟩

/-- The members of a team. -/
def members : Reference := ⟨"member_ids", .users, "member_names", true⟩

/-- The workflows of a team. -/
def workflows : Reference := ⟨"workflow_ids", .workflows, "workflow_names", true⟩

/-- Whether a value stands for no id. -/
def isBlankId : Value → Bool
  | .null => true
  | .text s => s = ""
  | _ => false

/-- The ids that an entity holds in the field. -/
def ids (ref : Reference) (entity : Value) : Except Fault (List Value) := do
  let v ← entity.field ref.idField
  if ref.many then
    let items ← v.orNoItems.elements
    pure (items.filter (!isBlankId ·))
  else pure (if isBlankId v then [] else [v])

end Reference

namespace Kind

/-- The references of an entity of the kind. -/
def references : Kind → List Reference
  | .stories =>
    [.owners, .requester, .followers, .workflow, .team, .epic, .iteration]
  | .epics =>
    [.owners, .requester, .followers, .team, .teams, .objective, .objectives]
  | .iterations => [.followers, .teams]
  | .teams => [.members, .workflows]
  | .objectives | .workflows | .users | .other _ => []

/-- The references that are followed from a related entity of the kind, one
step beyond the primary one. -/
def secondaryReferences : Kind → List Reference
  | .epics => [.objective, .objectives]
  | .teams => [.members, .workflows]
  | _ => []

/-- The kinds whose related entities are followed one step further. -/
def secondarySources : List Kind := [.epics, .teams]

/-- The kinds that may be related to an entity of the kind. -/
def related (kind : Kind) : List Kind :=
  let direct := kind.references.map (·.kind)
  let further := direct.flatMap fun k => k.secondaryReferences.map (·.kind)
  (direct ++ further).eraseDups

end Kind

end Backlog
