import Backlog.Value.Access
/-!
# Shapes of entities

How an entity of the tracker is shown. The full shape has all its fields,
some under the tracker's newer names; the simplified shape has the chosen
fields of its kind, and reduces the lists within to what matters.
-/

namespace Backlog

namespace Entity

/-- The name under which a field is shown. -/
def shownName : String → String
  | "group_id" => "team_id"
  | "group_ids" => "team_ids"
  | "milestone_id" => "objective_id"
  | name => name

/-- Whether a field is never shown. -/
def isHidden (name : String) : Bool := name = "entity_type"

/-- The fields under the names they are shown by. -/
def renamed (fields : Table String Value) : Table String Value :=
  Table.ofList ((fields.filter fun (name, _) => !isHidden name).map fun (name, v) =>
    (shownName name, v))

/-- The chosen fields of a kind in order. Users have a shape of their own. -/
def simplifiedFields? : Kind → Option (List String)
  | .stories => some
    ["id", "name", "app_url", "archived", "story_type", "workflow_id", "workflow_state_id",
     "group_id", "epic_id", "iteration_id", "parent_story_id", "owner_ids", "requested_by_id",
     "follower_ids", "estimate", "deadline", "started", "completed", "blocked", "blocker",
     "description", "labels", "comments", "tasks", "external_links"]
  | .epics => some
    ["id", "name", "app_url", "archived", "state", "group_id", "group_ids", "milestone_id",
     "objective_ids", "owner_ids", "requested_by_id", "follower_ids", "deadline", "started",
     "completed", "description", "comments"]
  | .iterations => some
    ["id", "name", "app_url", "status", "start_date", "end_date", "group_ids", "follower_ids",
     "description"]
  | .objectives => some
    ["id", "name", "app_url", "archived", "state", "started", "completed", "description",
     "categories"]
  | .teams => some
    ["id", "name", "mention_name", "archived", "description", "member_ids", "workflow_ids",
     "default_workflow_id"]
  | .workflows => some ["id", "name", "description", "default_state_id", "states"]
  | .users | .other _ => none

/-- The named parts of an object, null where it lacks them. -/
def parts (names : List (String × String)) (fields : Table String Value) : Value :=
  .object (names.map fun (shown, name) => (shown, Value.fieldOf fields name))

/-- The objects among the elements of a list. -/
def objects (items : List Value) : List (Table String Value) :=
  items.filterMap fun
    | .object fields => some fields
    | _ => none

/-- Whether a comment has been deleted. -/
def isDeleted (comment : Table String Value) : Bool :=
  (Value.fieldOf comment "deleted").truthy

/-- The value of a field, with the lists that have a reduced form
reduced. -/
def simplifiedValue (name : String) (v : Value) : Value :=
  match v with
  | .list items =>
    match name with
    | "labels" | "categories" =>
      .list ((objects items).map fun item => Value.fieldOf item "name")
    | "comments" =>
      .list (((objects items).filter (!isDeleted ·)).map
        (parts [("id", "id"), ("author_id", "author_id"), ("text", "text")]))
    | "tasks" =>
      .list ((objects items).map
        (parts [("id", "id"), ("description", "description"), ("complete", "complete")]))
    | "states" =>
      .list ((objects items).map (parts [("id", "id"), ("name", "name"), ("type", "type")]))
    | _ => v
  | _ => v

/-- The simplified shape of a user. Names in the profile go before the
user's own, even when they are null. -/
def simplifiedUser (user : Value) : Except Fault (Table String Value) := do
  let fields ← user.fields?
  let own := Value.fieldOf fields
  let profile ← (own "profile").orNoFields.fields?
  pure
    [("id", own "id"), ("name", (profile.get? "name").getD (own "name")),
     ("mention_name", (profile.get? "mention_name").getD (own "mention_name")),
     ("role", own "role"), ("disabled", own "disabled")]

/-- The chosen fields that the entity has, simplified. -/
def chosenFields (entity : Value) : List String → Except Fault (Table String Value)
  | [] => pure []
  | name :: rest => do
    if ← entity.has name then
      let v ← entity.required name
      let others ← chosenFields entity rest
      pure ((name, simplifiedValue name v) :: others)
    else chosenFields entity rest

/-- The shape of an entity. -/
def shape (kind : Kind) (entity : Value) (full : Bool) : Except Fault (Table String Value) :=
  if full then do
    let fields ← entity.fields?
    pure (renamed fields)
  else if kind = .users then simplifiedUser entity
  else
    match simplifiedFields? kind with
    | none => do
      let fields ← entity.fields?
      pure (renamed fields)
    | some names => do
      let fields ← chosenFields entity names
      pure (renamed fields)

/-- The name by which an entity is shown where another refers to it. -/
def displayName (kind : Kind) (entity : Value) : Except Fault String := do
  let fields ← entity.fields?
  let own := Value.fieldOf fields
  if kind = .users then
    let profile ← (own "profile").orNoFields.fields?
    let mention := (profile.get? "mention_name").getD (own "mention_name")
    pure (if mention.truthy then "@" ++ mention.display else (own "id").display)
  else pure ((own "name").orElse (own "id")).display

end Entity

end Backlog
