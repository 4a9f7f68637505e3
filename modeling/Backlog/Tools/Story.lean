import Backlog.Text.LowerCase
import Backlog.Text.WordChar
import Backlog.Tools.Workflow
/-!
# Writing stories and epics

The tools that change the tracker, and the branch name of a story. Each
write is the last request of its tool and comes after every check.
-/

namespace Backlog

namespace Tools

/-! ## Branch names -/

/-- The characters with each run of blanks replaced by a hyphen. `inRun`
tells whether a blank stands just before. -/
def hyphenated (inRun : Bool) : List Char → List Char
  | [] => []
  | c :: rest =>
    if Text.isBlank c then
      if inRun then hyphenated true rest else '-' :: hyphenated true rest
    else c :: hyphenated false rest

/-- A name as part of a branch name: in lower case, with hyphens for blanks,
and nothing but word characters and hyphens. -/
def branchSlug (name : String) : String :=
  String.ofList ((hyphenated false (Text.lower name).toList).filter fun c =>
    Text.isWordChar c || c = '-')

/-- The longest branch name that is made up, in characters. -/
def maxBranchName : Nat := 50

/-- The branch name made up for a story. -/
def madeUpBranch (user story name : Value) : Except Fault String := do
  let mention ← user.field "mention_name"
  let name ← name.asText
  let branch := mention.display ++ "/" ++ storyRef story ++ "/" ++ branchSlug name
  pure (String.ofList (branch.toList.take maxBranchName))

/-- The branch name of a story: the tracker's own, or one made up. -/
def branchName (user story entity : Value) : Except Fault String := do
  let own ← entity.field "formatted_vcs_branch_name"
  if own.truthy then pure own.display
  else
    let name ← entity.field "name"
    madeUpBranch user story name

/-- Reports the branch name of a story. -/
def getStoryBranchName (story : Value) : Action String := do
  let user ← requireUser
  let entity ← requireEntity .stories story
  let branch ← branchName user story entity
  pure (Report.render ("Branch name for story " ++ storyRef story ++ ": " ++ branch))

/-! ## Creating -/

/-- What a new story is made of. What is null is not given. -/
structure StoryDraft where
  /-- The name. -/
  name : Value
  /-- The description. -/
  description : Value := .null
  /-- The type. -/
  storyType : Value := .text "feature"
  /-- The owner. -/
  owner : Value := .null
  /-- The epic. -/
  epic : Value := .null
  /-- The iteration. -/
  iteration : Value := .null
  /-- The team. -/
  team : Value := .null
  /-- The workflow. -/
  workflow : Value := .null

/-- The types that a story can have. -/
def storyTypes : List String := ["feature", "bug", "chore"]

/-- A field of a body, left out when it is null. -/
def given (name : String) (v : Value) : List (String × Value) :=
  if v.isNull then [] else [(name, v)]

namespace StoryDraft

/-- Checks what can be checked without the tracker. -/
def check (draft : StoryDraft) : Except Fault Unit :=
  if !storyTypes.any (fun name => Value.text name == draft.storyType) then
    .error (.refused (.storyType storyTypes))
  else if !draft.workflow.truthy && !draft.team.truthy then .error (.refused .noTeamOrWorkflow)
  else .ok ()

/-- The workflow of the new story: the one given, or else the team's
default. -/
def workflowId (draft : StoryDraft) : Action Value := do
  if draft.workflow.truthy then pure draft.workflow
  else
    let team ← requireEntity .teams draft.team
    defaultWorkflowOf team

/-- The body that creates the story in a workflow state. -/
def payload (draft : StoryDraft) (state : Value) : Value :=
  .object (
    [("name", draft.name), ("story_type", draft.storyType),
     ("owner_ids", .list (if draft.owner.truthy then [draft.owner] else [])),
     ("workflow_state_id", state)] ++
    given "description" draft.description ++ given "epic_id" draft.epic ++
    given "iteration_id" draft.iteration ++
    (if draft.team.truthy then [("group_id", draft.team)] else []))

end StoryDraft

/-- Creates a story in the default state of its workflow. -/
def createStory (draft : StoryDraft) : Action String := do
  draft.check
  let workflow ← draft.workflowId
  if !workflow.truthy then Run.fail (.refused .noWorkflowOfTeam)
  else
    let entity ← requireEntity .workflows workflow
    let state ← entity.field "default_state_id"
    let story ← Api.createEntity .stories (draft.payload state)
    let id ← story.field "id"
    Action.log .info ("Created story " ++ id.display)
    let id ← story.required "id"
    pure (Report.render ("Created story: " ++ storyRef id))

/-- Creates an epic in a team. -/
def createEpic (name team description : Value) : Action String := do
  let epic ← Api.createEntity .epics
    (.object ([("name", name), ("group_id", team)] ++ given "description" description))
  let id ← epic.required "id"
  pure (Report.render ("Epic created with ID: " ++ id.display ++ "."))

/-! ## Changing -/

/-- The tracker's names of the story fields that can be changed, by the names
that the tool takes. -/
def storyUpdateFields : Table String String :=
  [("name", "name"), ("description", "description"), ("type", "story_type"),
   ("epic", "epic_id"), ("estimate", "estimate"), ("iteration", "iteration_id"),
   ("owner_ids", "owner_ids"), ("workflow_state_id", "workflow_state_id"),
   ("labels", "labels"), ("custom_fields", "custom_fields"), ("team_id", "group_id"),
   ("project_id", "project_id"), ("deadline", "deadline"), ("follower_ids", "follower_ids"),
   ("requested_by_id", "requested_by_id"), ("archived", "archived")]

/-- The names in an update: its parts, which must be texts. -/
def updateNames (updates : Value) : Except Fault (List String) := do
  let parts ← updates.elements
  parts.mapM fun
    | .text name => .ok name
    | _ => .error .wrongType

/-- Those of some names that are no fields of a story, in order of their
characters. -/
def unknownNames (names : List String) : List String :=
  (names.eraseDups.filter fun name => !storyUpdateFields.contains name).mergeSort
    (fun a b => decide (a ≤ b))

/-- Checks the names in an update. -/
def checkNames (updates : Value) : Except Fault Unit := do
  let names ← updateNames updates
  match unknownNames names with
  | [] => pure ()
  | names => throw (.refused (.unknownStoryFields names storyUpdateFields.keys))

/-- The body of an update. -/
def updatePayload (updates : Table String Value) : Table String Value :=
  Table.ofList (updates.map fun (name, v) => ((storyUpdateFields.get? name).getD name, v))

/-- Applies an update to a story, given as an object. A null unsets its
field. -/
def updateStory (story updates : Value) : Action String := do
  checkNames updates
  let _ ← requireEntity .stories story
  let updates ← updates.fields?
  if updates.isEmpty then Run.fail (.refused .nothingToUpdate)
  else
    let updated ← Api.updateEntity .stories story (.object (updatePayload updates))
    let url ← updated.field "app_url"
    pure (Report.render ("Updated story " ++ storyRef story ++ ". Story URL: " ++ url.display))

/-- Comments on a story. -/
def createStoryComment (story text : Value) : Action String := do
  if !text.truthy then Run.fail (.refused .emptyComment)
  else
    let _ ← requireEntity .stories story
    let comment ← Api.commentOnStory story text
    let url ← comment.field "app_url"
    pure (Report.render
      ("Created comment on story " ++ storyRef story ++ ". Comment URL: " ++ url.display ++ "."))

/-! ## Owners -/

/-- The ids of the owners of a story. -/
def ownerIds (story : Value) : Except Fault (List Value) := do
  let owners ← story.field "owner_ids"
  owners.orNoItems.elements

/-- Replaces the owners of a story. -/
def setOwners (story : Value) (owners : List Value) : Action Unit := do
  let _ ← Api.updateEntity .stories story (.object [("owner_ids", .list owners)])
  pure ()

/-- The owners of a story and the id of the current user. -/
def ownersAndUser (story : Value) : Action (List Value × Value) := do
  let entity ← requireEntity .stories story
  let user ← requireUser
  let owners ← ownerIds entity
  let id ← user.required "id"
  pure (owners, id)

/-- Makes the current user an owner of a story. -/
def assignCurrentUser (story : Value) : Action String := do
  let (owners, user) ← ownersAndUser story
  if owners.any (· == user) then
    pure (Report.render ("Current user is already an owner of story " ++ storyRef story))
  else
    setOwners story (owners ++ [user])
    pure (Report.render ("Assigned current user as owner of story " ++ storyRef story))

/-- Takes the current user out of the owners of a story. -/
def unassignCurrentUser (story : Value) : Action String := do
  let (owners, user) ← ownersAndUser story
  if !owners.any (· == user) then
    pure (Report.render ("Current user is not an owner of story " ++ storyRef story))
  else
    setOwners story (owners.filter fun owner => !owner.equals user)
    pure (Report.render ("Unassigned current user as owner of story " ++ storyRef story))

end Tools

end Backlog
