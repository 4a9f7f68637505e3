import Backlog.Report
import Backlog.Resolver
/-!
# Showing entities

Tools that report one entity, or all of a kind, with what it refers to.
-/

namespace Backlog

namespace Tools

/-- The entity that a tool is about. That it does not exist is a fault. -/
def requireEntity (kind : Kind) (id : Value) : Action Value := do
  let entity ← Api.getEntity kind id
  if entity.isNull then Run.fail (.api (.missingEntity kind.singular id)) else pure entity

/-- The current user. That there is none is a fault. -/
def requireUser : Action Value := do
  let user ← Api.currentUser
  if user.truthy then pure user else Run.fail (.api .noCurrentUser)

/-- Reports an entity under a title. -/
def showEntity (kind : Kind) (id : Value) (title : String) (full : Bool) : Action String := do
  let entity ← requireEntity kind id
  let hydrated ← Resolver.resolveOne kind entity { full }
  pure (Report.render title hydrated.toValue)

/-- How a story is referred to in text. -/
def storyRef (story : Value) : String := "sc-" ++ story.display

/-- Reports a story. -/
def getStory (story : Value) (full : Bool) : Action String :=
  showEntity .stories story ("Story: " ++ storyRef story) full

/-- Reports an epic. -/
def getEpic (epic : Value) (full : Bool) : Action String :=
  showEntity .epics epic ("Epic: " ++ epic.display) full

/-- Reports an iteration. -/
def getIteration (iteration : Value) (full : Bool) : Action String :=
  showEntity .iterations iteration ("Iteration: " ++ iteration.display) full

/-- Reports an objective. -/
def getObjective (objective : Value) (full : Bool) : Action String :=
  showEntity .objectives objective ("Objective: " ++ objective.display) full

/-- Reports the stories of an iteration. -/
def getIterationStories (iteration : Value) : Action String := do
  let stories ← Api.iterationStories iteration
  if !stories.truthy then
    pure (Report.render ("Result: No stories found in iteration " ++ iteration.display ++ "."))
  else
    let stories ← stories.elements
    let hydrated ← Resolver.resolveMany .stories stories
    pure (Report.render ("Result (" ++ toString stories.length ++ " stories found):")
      hydrated.toValue)

/-- Reports an entity of a cached kind; that it does not exist is reported
too. -/
def showCachedKind (kind : Kind) (noun : String) (id : Value) (full : Bool) : Action String := do
  let entity ← Api.getEntity kind id
  if entity.isNull then
    pure (Report.render (noun ++ " with public ID: " ++ id.display ++ " not found."))
  else
    let hydrated ← Resolver.resolveOne kind entity { full }
    let shown ← entity.required "id"
    pure (Report.render (noun ++ ": " ++ shown.display) hydrated.toValue)

/-- Reports a team. -/
def getTeam (team : Value) (full : Bool) : Action String := showCachedKind .teams "Team" team full

/-- Reports a workflow. -/
def getWorkflow (workflow : Value) (full : Bool) : Action String :=
  showCachedKind .workflows "Workflow" workflow full

/-- Reports all entities of a cached kind. -/
def listAll (kind : Kind) : Action String := do
  let entities ← Resolver.referenceValues kind true
  if entities.isEmpty then pure (Report.render ("No " ++ kind.name ++ " found."))
  else
    let hydrated ← Resolver.resolveMany kind entities
    let count := toString entities.length
    pure (Report.render
      ("Result (first " ++ count ++ " shown of " ++ count ++ " total " ++ kind.name ++ " found):")
      hydrated.toValue)

/-- Reports all teams. -/
def listTeams : Action String := listAll .teams

/-- Reports all workflows. -/
def listWorkflows : Action String := listAll .workflows

/-- Reports all users. -/
def listUsers : Action String := do
  let users ← Resolver.referenceValues .users true
  let hydrated ← Resolver.resolveMany .users users
  pure (Report.render ("Found " ++ toString users.length ++ " users:") hydrated.toValue)

/-- Reports the current user. -/
def getCurrentUser : Action String := do
  let user ← requireUser
  pure (Report.render "Current user:" user)

/-- Whether a user is a member of a team. -/
def isMember (user team : Value) : Except Fault Bool := do
  let id ← user.required "id"
  let members ← team.field "member_ids"
  members.orNoItems.holds id

/-- Reports the teams of the current user. -/
def getCurrentUserTeams : Action String := do
  let user ← requireUser
  let teams ← Resolver.referenceValues .teams true
  let mine ← (teams.filterM (isMember user) : Except Fault (List Value))
  if mine.isEmpty then pure (Report.render "Current user does not belong to any teams.")
  else
    let hydrated ← Resolver.resolveMany .teams mine
    pure (Report.render
      ("Current user belongs to " ++ toString mine.length ++ " teams:") hydrated.toValue)

end Tools

end Backlog
