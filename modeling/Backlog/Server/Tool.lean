import Backlog.Server.Parameter
import Backlog.Tools.Search
import Backlog.Tools.Story
/-!
# The tools of the server

Every tool with its parameters and what it does. Tools that write are marked
so that a read-only server can leave them out.
-/

namespace Backlog

namespace Server

/-- What a tool does. -/
inductive Work where
  /-- Works with the tracker. -/
  | session (run : Arguments → Action Value)
  /-- Describes the caches; needs no client. -/
  | health

/-- A tool of the server. -/
structure Tool where
  /-- The name it is called by. -/
  name : String
  /-- Whether it changes the tracker's data. -/
  writes : Bool
  /-- What it can be called with. -/
  parameters : List Parameter
  /-- What it does. -/
  work : Work

namespace Tool

open Parameter

/-- Work that ends in a report. -/
def reporting (run : Arguments → Action String) : Work :=
  .session fun args => do
    let report ← run args
    pure (.text report)

/-- A tool that reads and reports. -/
def reader (name : String) (parameters : List Parameter) (run : Arguments → Action String) :
    Tool := ⟨name, false, parameters, reporting run⟩

/-- A tool that writes and reports. -/
def writer (name : String) (parameters : List Parameter) (run : Arguments → Action String) :
    Tool := ⟨name, true, parameters, reporting run⟩

/-- The type of a story. -/
def storyType : ParameterType := .oneOf ["feature", "bug", "chore"]

/-- The state of an epic or an objective. -/
def entityState : ParameterType := .oneOf ["unstarted", "started", "done"]

/-- Optional parameters of one type. -/
def optionals (type : ParameterType) (names : List String) : List Parameter :=
  names.map (optional · type)

/-- A flag that is false unless given, or null. -/
def falseFlag (name : String) : Parameter :=
  { name, type := .bool, nullable := true, default := some (.bool false) }

/-- The parameters of a search besides its filters. -/
def searchControls : List Parameter :=
  [optional "negate" .texts, optional "next_page_token" .text]

/-- Whether an entity is to be shown in full. -/
def fullFlag : Parameter := withDefault "full" .bool (.bool false)

/-- A tool that searches a kind. -/
def search (name : String) (kind : Kind) (filters : List Parameter) : Tool :=
  reader name (filters ++ searchControls) fun args =>
    Tools.search kind (args.without ["negate", "next_page_token"]) (args.get "negate")
      (args.get "next_page_token")

/-- A tool that shows one entity. -/
def getter (name idName : String) (idType : ParameterType)
    (run : (id : Value) → (full : Bool) → Action String) : Tool :=
  reader name [required idName idType, fullFlag] fun args =>
    run (args.get idName) (args.isSet "full")

/-- The filters of a story search. -/
def storyFilters : List Parameter :=
  optional "id" .int :: optionals .text ["name", "title", "description", "comment"] ++
    [optional "type" storyType, optional "estimate" .int] ++
    optionals .text ["branch", "commit"] ++ optionals .int ["pr", "project", "epic", "objective"] ++
    optionals .text
      ["state", "label", "owner", "requester", "team", "skill_set", "product_area",
       "technical_area", "priority", "severity"] ++
    optionals .bool
      ["is_done", "is_started", "is_unstarted", "is_unestimated", "is_overdue"] ++
    falseFlag "is_archived" ::
    optionals .bool
      ["is_blocker", "is_blocked", "has_comment", "has_label", "has_deadline", "has_owner",
       "has_pr", "has_commit", "has_branch", "has_epic", "has_task", "has_attachment"] ++
    optionals .text ["created", "updated", "completed", "due"]

/-- The filters of an epic search. -/
def epicFilters : List Parameter :=
  optional "id" .int :: optionals .text ["name", "description"] ++
    [optional "state" entityState, optional "objective" .int] ++
    optionals .text ["owner", "requester", "team", "comment"] ++
    optionals .bool ["is_unstarted", "is_started", "is_done"] ++
    falseFlag "is_archived" ::
    optionals .bool ["is_overdue", "has_owner", "has_comment", "has_deadline", "has_label"] ++
    optionals .text ["created", "updated", "completed", "due"]

/-- The filters of an iteration search. -/
def iterationFilters : List Parameter :=
  optional "id" .int ::
    optionals .text
      ["name", "description", "state", "team", "created", "updated", "start_date", "end_date"]

/-- The filters of an objective search. -/
def objectiveFilters : List Parameter :=
  optional "id" .int :: optionals .text ["name", "description"] ++
    optional "state" entityState :: optionals .text ["owner", "requester", "team"] ++
    optionals .bool ["is_unstarted", "is_started", "is_done", "is_archived", "has_owner"] ++
    optionals .text ["created", "updated", "completed"]

/-- What a new story is made of, from the arguments of a call. -/
def draftOf (args : Arguments) : Tools.StoryDraft where
  name := args.get "name"
  description := args.get "description"
  storyType := args.get "type"
  owner := args.get "owner"
  epic := args.get "epic"
  iteration := args.get "iteration"
  team := args.get "team"
  workflow := args.get "workflow"

/-- The changes to a story that a call asks for: the arguments that are not
null, and null for each name that is to be cleared. -/
def updatesOf (args : Arguments) : Table String Value :=
  (args.texts "clear_fields").foldl (fun updates name => updates.insert name .null)
    (args.without ["story_public_id", "clear_fields"])

/-- All tools. -/
def all : List Tool :=
  [search "stories_search" .stories storyFilters,
   getter "stories_get_by_id" "story_public_id" .int Tools.getStory,
   reader "stories_get_branch_name" [required "story_public_id" .int] fun args =>
     Tools.getStoryBranchName (args.get "story_public_id"),
   writer "stories_create"
     [required "name" .text, optional "description" .text,
      withDefault "type" storyType (.text "feature"), optional "owner" .text,
      optional "epic" .int, optional "iteration" .int, optional "team" .text,
      optional "workflow" .int]
     fun args => Tools.createStory (draftOf args),
   writer "stories_update"
     [required "story_public_id" .int, optional "name" .text, optional "description" .text,
      optional "type" storyType, optional "epic" .int, optional "estimate" .int,
      optional "iteration" .int, optional "owner_ids" .texts, optional "workflow_state_id" .int,
      optional "labels" .records, optional "team_id" .text, optional "project_id" .int,
      optional "deadline" .text, optional "follower_ids" .texts,
      optional "requested_by_id" .text, optional "archived" .bool,
      optional "clear_fields" .texts]
     fun args => Tools.updateStory (args.get "story_public_id") (.object (updatesOf args)),
   writer "stories_create_comment" [required "story_public_id" .int, required "text" .text]
     fun args => Tools.createStoryComment (args.get "story_public_id") (args.get "text"),
   writer "stories_assign_current_user" [required "story_public_id" .int] fun args =>
     Tools.assignCurrentUser (args.get "story_public_id"),
   writer "stories_unassign_current_user" [required "story_public_id" .int] fun args =>
     Tools.unassignCurrentUser (args.get "story_public_id"),
   search "epics_search" .epics epicFilters,
   getter "epics_get_by_id" "epic_public_id" .int Tools.getEpic,
   writer "epics_create"
     [required "name" .text, required "team_id" .text, optional "description" .text]
     fun args => Tools.createEpic (args.get "name") (args.get "team_id") (args.get "description"),
   search "iterations_search" .iterations iterationFilters,
   getter "iterations_get_by_id" "iteration_public_id" .int Tools.getIteration,
   reader "iterations_get_stories" [required "iteration_public_id" .int] fun args =>
     Tools.getIterationStories (args.get "iteration_public_id"),
   search "objectives_search" .objectives objectiveFilters,
   getter "objectives_get_by_id" "objective_public_id" .int Tools.getObjective,
   getter "teams_get_by_id" "team_public_id" .text Tools.getTeam,
   reader "teams_list" [] fun _ => Tools.listTeams,
   getter "workflows_get_by_id" "workflow_public_id" .int Tools.getWorkflow,
   reader "workflows_list" [] fun _ => Tools.listWorkflows,
   reader "workflows_get_default" [optional "team_public_id" .text] fun args =>
     Tools.getDefaultWorkflow (args.get "team_public_id"),
   reader "users_get_current" [] fun _ => Tools.getCurrentUser,
   reader "users_get_current_teams" [] fun _ => Tools.getCurrentUserTeams,
   reader "users_list" [] fun _ => Tools.listUsers,
   ⟨"refresh_cache", false, [], .session fun _ => Resolver.refresh⟩,
   ⟨"get_cache_health", false, [], .health⟩]

/-- The words that make a server read-only. -/
def readOnlyWords : List String := ["1", "true", "yes"]

/-- Whether a setting makes the server read-only. -/
def isReadOnly (setting : Option String) : Bool :=
  readOnlyWords.contains (Text.lower (Text.strip (setting.getD "0")))

/-- The tools that a server offers. -/
def offered (readOnly : Bool) : List Tool := all.filter fun tool => !(readOnly && tool.writes)

/-- The tool of a name. -/
def find? (readOnly : Bool) (name : String) : Option Tool :=
  (offered readOnly).find? (·.name = name)

end Tool

end Server

end Backlog
