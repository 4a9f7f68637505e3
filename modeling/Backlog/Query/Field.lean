import Backlog.Kind
import Backlog.Table
/-!
# Search fields

What each kind of entity can be searched by. A field names the operator of
the search grammar that it becomes and says how its value is rendered.
-/

namespace Backlog

namespace Query

/-- How the value of a field becomes a clause. -/
inductive ClauseKind where
  /-- The value as it is. -/
  | value
  /-- A predicate that holds or does not. -/
  | flag
  /-- A date expression. -/
  | date
  /-- A user, with a word for the current one. -/
  | user
  /-- A team, by its name or its id. -/
  | team
  deriving DecidableEq

/-- The name of a clause kind. -/
def ClauseKind.name : ClauseKind → String
  | .value => "value"
  | .flag => "flag"
  | .date => "date"
  | .user => "user"
  | .team => "team"

/-- The clause kind of a name. -/
def ClauseKind.ofName? : String → Option ClauseKind
  | "value" => some .value
  | "flag" => some .flag
  | "date" => some .date
  | "user" => some .user
  | "team" => some .team
  | _ => none

/-- A field of a search. -/
structure Field where
  /-- The operator in the search grammar. -/
  operator : String
  /-- How the value is rendered. -/
  kind : ClauseKind
  deriving DecidableEq

/-- The fields of a search, by name, in the order of their clauses. -/
abbrev Fields := Table String Field

/-- A field that takes a value. -/
def valueField (operator : String) : Field := ⟨operator, .value⟩

/-- A field for a state that an entity is in. -/
def isField (state : String) : Field := ⟨"is:" ++ state, .flag⟩

/-- A field for something that an entity has. -/
def hasField (thing : String) : Field := ⟨"has:" ++ thing, .flag⟩

/-- A field that takes a date expression. -/
def dateField (operator : String) : Field := ⟨operator, .date⟩

/-- A field that takes a user. -/
def userField (operator : String) : Field := ⟨operator, .user⟩

/-- A field that takes a team. -/
def teamField (operator : String) : Field := ⟨operator, .team⟩

/-- What stories can be searched by. -/
def storyFields : Fields :=
  [("id", valueField "id"), ("name", valueField "name"), ("title", valueField "title"),
   ("description", valueField "description"), ("comment", valueField "comment"),
   ("type", valueField "type"), ("estimate", valueField "estimate"),
   ("branch", valueField "branch"), ("commit", valueField "commit"), ("pr", valueField "pr"),
   ("project", valueField "project"), ("epic", valueField "epic"),
   ("objective", valueField "objective"), ("state", valueField "state"),
   ("label", valueField "label"), ("owner", userField "owner"),
   ("requester", userField "requester"), ("team", teamField "team"),
   ("skill_set", valueField "skill-set"), ("product_area", valueField "product-area"),
   ("technical_area", valueField "technical-area"), ("priority", valueField "priority"),
   ("severity", valueField "severity"), ("is_done", isField "done"),
   ("is_started", isField "started"), ("is_unstarted", isField "unstarted"),
   ("is_unestimated", isField "unestimated"), ("is_overdue", isField "overdue"),
   ("is_archived", isField "archived"), ("is_blocker", isField "blocker"),
   ("is_blocked", isField "blocked"), ("has_comment", hasField "comment"),
   ("has_label", hasField "label"), ("has_deadline", hasField "deadline"),
   ("has_owner", hasField "owner"), ("has_pr", hasField "pr"),
   ("has_commit", hasField "commit"), ("has_branch", hasField "branch"),
   ("has_epic", hasField "epic"), ("has_task", hasField "task"),
   ("has_attachment", hasField "attachment"), ("created", dateField "created"),
   ("updated", dateField "updated"), ("completed", dateField "completed"),
   ("due", dateField "due")]

/-- What epics can be searched by. -/
def epicFields : Fields :=
  [("id", valueField "id"), ("name", valueField "name"),
   ("description", valueField "description"), ("state", valueField "state"),
   ("objective", valueField "objective"), ("owner", userField "owner"),
   ("requester", userField "requester"), ("team", teamField "team"),
   ("comment", valueField "comment"), ("is_unstarted", isField "unstarted"),
   ("is_started", isField "started"), ("is_done", isField "done"),
   ("is_archived", isField "archived"), ("is_overdue", isField "overdue"),
   ("has_owner", hasField "owner"), ("has_comment", hasField "comment"),
   ("has_deadline", hasField "deadline"), ("has_label", hasField "label"),
   ("created", dateField "created"), ("updated", dateField "updated"),
   ("completed", dateField "completed"), ("due", dateField "due")]

/-- What iterations can be searched by. -/
def iterationFields : Fields :=
  [("id", valueField "id"), ("name", valueField "title"),
   ("description", valueField "description"), ("state", valueField "state"),
   ("team", teamField "team"), ("created", dateField "created"),
   ("updated", dateField "updated"), ("start_date", dateField "start_date"),
   ("end_date", dateField "end_date")]

/-- What objectives can be searched by. -/
def objectiveFields : Fields :=
  [("id", valueField "id"), ("name", valueField "name"),
   ("description", valueField "description"), ("state", valueField "state"),
   ("owner", userField "owner"), ("requester", userField "requester"),
   ("team", teamField "team"), ("is_unstarted", isField "unstarted"),
   ("is_started", isField "started"), ("is_done", isField "done"),
   ("is_archived", isField "archived"), ("has_owner", hasField "owner"),
   ("created", dateField "created"), ("updated", dateField "updated"),
   ("completed", dateField "completed")]

end Query

/-- What a kind can be searched by, if it can be searched at all. -/
def Kind.searchFields? : Kind → Option Query.Fields
  | .stories => some Query.storyFields
  | .epics => some Query.epicFields
  | .iterations => some Query.iterationFields
  | .objectives => some Query.objectiveFields
  | _ => none

end Backlog
