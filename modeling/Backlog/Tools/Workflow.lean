import Backlog.Tools.Entity
/-!
# Default workflows

The workflow that new stories of a team start in, or those of the whole
workspace.
-/

namespace Backlog

namespace Tools

/-- The default workflow of a team: the one it names, or else the first of
its workflows, or null. -/
def defaultWorkflowOf (team : Value) : Except Fault Value := do
  let workflows ← team.field "workflow_ids"
  let named ← team.field "default_workflow_id"
  if named.truthy then pure named
  else if workflows.truthy then workflows.first
  else pure .null

/-- The team with an id, or no fields when the tracker cannot give it. -/
def teamIfThere (id : Value) : Action Value := do
  match ← (Api.getEntity .teams id).attempt with
  | .ok team => pure team
  | .error (.api fault) => do
    Action.log .warning
      ("Could not load team " ++ id.display ++ ", using workspace default: " ++ fault.message)
    pure .null
  | .error fault => Run.fail fault

/-- A workflow, from the cache if it is there. -/
def cachedWorkflow (id : Value) : Action Value := do
  let known ← Resolver.referenceMap .workflows (.list [id])
  let key ← id.asId
  let workflow := (known.get? key).getD .null
  if workflow.truthy then pure workflow else requireEntity .workflows id

/-- Reports the default workflow of the workspace, which is the first. -/
def workspaceWorkflow : Action String := do
  let workflows ← Resolver.referenceValues .workflows true
  match workflows with
  | [] => pure (Report.render "No default workflow found.")
  | workflow :: _ =>
    let hydrated ← Resolver.resolveOne .workflows workflow
    pure (Report.render "Workspace default workflow:" hydrated.toValue)

/-- The default workflow of a team by its id, null when it has none or the
tracker cannot give the team. -/
def defaultWorkflowId (team : Value) : Action Value := do
  let entity ← teamIfThere team
  defaultWorkflowOf entity.orNoFields

/-- Reports the default workflow of a team, or of the workspace when no team
is given or it has none. -/
def getDefaultWorkflow (team : Value) : Action String := do
  if team.truthy then
    let id ← defaultWorkflowId team
    if id.isNull then workspaceWorkflow
    else
      let workflow ← cachedWorkflow id
      let hydrated ← Resolver.resolveOne .workflows workflow
      pure (Report.render ("Default workflow for team " ++ team.display ++ ":") hydrated.toValue)
  else workspaceWorkflow

end Tools

end Backlog
