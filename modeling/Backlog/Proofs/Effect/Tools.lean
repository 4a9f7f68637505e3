import Backlog.Proofs.Effect.Consultation
import Backlog.Proofs.Effect.Resolver
/-!
# The effects of the tools

Every tool is made up of steps, whatever it is called with
(`Server.Tool.uses_of_mem_all`). A tool that is not marked as one that writes
needs no method but that for reading, and only the tools that may need the
current user remember them.
-/

namespace Backlog

open Backlog.Action

variable {may : Session.Deed → Prop}

namespace Tools

section Reading

variable (hget : may (.send .get)) (hremember : may .remember)
include hget

/-! ## Showing -/

theorem uses_requireEntity (kind : Kind) (id : Value) : Uses may (requireEntity kind id) := by
  refine (Api.uses_getEntity hget kind id).bind fun entity => ?_
  split
  · exact .fail _
  · exact .pure _

include hremember in
theorem uses_requireUser : Uses may requireUser := by
  refine (Api.uses_currentUser hget hremember).bind fun user => ?_
  split
  · exact .pure _
  · exact .fail _

theorem uses_showEntity (kind : Kind) (id : Value) (title : String) (full : Bool) :
    Uses may (showEntity kind id title full) := by
  refine (uses_requireEntity hget kind id).bind fun entity => ?_
  exact (Resolver.uses_resolveOne hget kind entity _).bind fun _ => .pure _

theorem uses_getIterationStories (iteration : Value) :
    Uses may (getIterationStories iteration) := by
  refine (Api.uses_iterationStories hget iteration).bind fun stories => ?_
  split
  · exact .pure _
  · refine (Uses.lift _).bind fun stories => ?_
    exact (Resolver.uses_resolveMany hget _ stories _).bind fun _ => .pure _

theorem uses_showCachedKind (kind : Kind) (noun : String) (id : Value) (full : Bool) :
    Uses may (showCachedKind kind noun id full) := by
  refine (Api.uses_getEntity hget kind id).bind fun entity => ?_
  split
  · exact .pure _
  · refine (Resolver.uses_resolveOne hget kind entity _).bind fun _ => ?_
    exact (Uses.lift _).bind fun _ => .pure _

theorem uses_listAll (kind : Kind) : Uses may (listAll kind) := by
  refine (Resolver.uses_referenceValues hget kind true).bind fun entities => ?_
  split
  · exact .pure _
  · exact (Resolver.uses_resolveMany hget kind entities _).bind fun _ => .pure _

theorem uses_listUsers : Uses may listUsers := by
  refine (Resolver.uses_referenceValues hget .users true).bind fun users => ?_
  exact (Resolver.uses_resolveMany hget .users users _).bind fun _ => .pure _

include hremember in
theorem uses_getCurrentUser : Uses may getCurrentUser :=
  (uses_requireUser hget hremember).bind fun _ => .pure _

include hremember in
theorem uses_getCurrentUserTeams : Uses may getCurrentUserTeams := by
  refine (uses_requireUser hget hremember).bind fun user => ?_
  refine (Resolver.uses_referenceValues hget .teams true).bind fun teams => ?_
  refine (Uses.lift _).bind fun mine => ?_
  split
  · exact .pure _
  · exact (Resolver.uses_resolveMany hget .teams mine _).bind fun _ => .pure _

/-! ## Searching -/

include hremember in
theorem uses_compile (kind : Kind) (params : Table String Value) (negate : Value) :
    Uses may (compile kind params negate) := by
  rw [compile]
  split
  · exact .fail _
  · next fields hfields =>
    have huser : Uses may (userForQuery fields params) := by
      rw [userForQuery]
      split
      · exact Api.uses_currentUser hget hremember
      · exact .pure _
    have hteams : Uses may (teamIdsForQuery fields params) := by
      rw [teamIdsForQuery]
      split
      · exact (Resolver.uses_referenceValues hget .teams false).bind fun _ => .lift _
      · exact .pure _
    refine (Uses.lift _).bind fun _ => huser.bind fun _ => hteams.bind fun _ => ?_
    exact (Uses.lift _).bind fun _ => .lift _

include hremember in
theorem uses_search (kind : Kind) (params : Table String Value) (negate token : Value) :
    Uses may (search kind params negate token) := by
  refine (uses_compile hget hremember kind params negate).bind fun query => ?_
  refine (Api.uses_search hget kind _ _ token).bind fun page => ?_
  split
  · exact .pure _
  · exact (Resolver.uses_resolveMany hget kind _ _).bind fun _ => .pure _

/-! ## Default workflows -/

theorem uses_defaultWorkflowId (team : Value) : Uses may (defaultWorkflowId team) := by
  have hteam : Uses may (teamIfThere team) := by
    refine (Api.uses_getEntity hget .teams team).attempt.bind fun outcome => ?_
    split
    · exact .pure _
    · exact (Uses.log _ _).bind fun _ => .pure _
    · exact .fail _
  exact hteam.bind fun _ => .lift _

theorem uses_cachedWorkflow (id : Value) : Uses may (cachedWorkflow id) := by
  refine (Resolver.uses_referenceMap hget .workflows _).bind fun known => ?_
  refine (Uses.lift _).bind fun key => ?_
  dsimp only
  split
  · exact .pure _
  · exact uses_requireEntity hget .workflows id

theorem uses_workspaceWorkflow : Uses may workspaceWorkflow := by
  refine (Resolver.uses_referenceValues hget .workflows true).bind fun workflows => ?_
  split
  · exact .pure _
  · exact (Resolver.uses_resolveOne hget .workflows _ _).bind fun _ => .pure _

theorem uses_getDefaultWorkflow (team : Value) : Uses may (getDefaultWorkflow team) := by
  rw [getDefaultWorkflow]
  split
  · refine (uses_defaultWorkflowId hget team).bind fun id => ?_
    split
    · exact uses_workspaceWorkflow hget
    · refine (uses_cachedWorkflow hget id).bind fun workflow => ?_
      exact (Resolver.uses_resolveOne hget .workflows workflow _).bind fun _ => .pure _
  · exact uses_workspaceWorkflow hget

include hremember in
theorem uses_getStoryBranchName (story : Value) : Uses may (getStoryBranchName story) := by
  refine (uses_requireUser hget hremember).bind fun user => ?_
  refine (uses_requireEntity hget .stories story).bind fun entity => ?_
  exact (Uses.lift _).bind fun _ => .pure _

end Reading

/-! ## Writing -/

section Writing

variable (hall : ∀ method, may (.send method)) (hremember : may .remember)
include hall

theorem uses_createStory (draft : StoryDraft) : Uses may (createStory draft) := by
  have hworkflow : Uses may draft.workflowId := by
    rw [StoryDraft.workflowId]
    split
    · exact .pure _
    · exact (uses_requireEntity (hall .get) .teams draft.team).bind fun _ => .lift _
  refine (Uses.lift _).bind fun _ => hworkflow.bind fun workflow => ?_
  split
  · exact .fail _
  · refine (uses_requireEntity (hall .get) .workflows workflow).bind fun entity => ?_
    refine (Uses.lift _).bind fun state => ?_
    refine (Api.uses_createEntity (hall .post) .stories _).bind fun story => ?_
    refine (Uses.lift _).bind fun _ => (Uses.log _ _).bind fun _ => ?_
    exact (Uses.lift _).bind fun _ => .pure _

theorem uses_createEpic (name team description : Value) :
    Uses may (createEpic name team description) := by
  refine (Api.uses_createEntity (hall .post) .epics _).bind fun epic => ?_
  exact (Uses.lift _).bind fun _ => .pure _

theorem uses_updateStory (story updates : Value) : Uses may (updateStory story updates) := by
  refine (Uses.lift _).bind fun _ => ?_
  refine (uses_requireEntity (hall .get) .stories story).bind fun _ => ?_
  refine (Uses.lift _).bind fun fields => ?_
  split
  · exact .fail _
  · refine (Api.uses_updateEntity (hall .put) .stories story _).bind fun updated => ?_
    exact (Uses.lift _).bind fun _ => .pure _

theorem uses_createStoryComment (story text : Value) :
    Uses may (createStoryComment story text) := by
  rw [createStoryComment]
  split
  · exact .fail _
  · refine (uses_requireEntity (hall .get) .stories story).bind fun _ => ?_
    refine (Api.uses_commentOnStory (hall .post) story text).bind fun comment => ?_
    exact (Uses.lift _).bind fun _ => .pure _

theorem uses_setOwners (story : Value) (owners : List Value) : Uses may (setOwners story owners) :=
  (Api.uses_updateEntity (hall .put) .stories story _).bind fun _ => .pure _

include hremember in
theorem uses_ownersAndUser (story : Value) : Uses may (ownersAndUser story) := by
  refine (uses_requireEntity (hall .get) .stories story).bind fun entity => ?_
  refine (uses_requireUser (hall .get) hremember).bind fun user => ?_
  exact (Uses.lift _).bind fun _ => (Uses.lift _).bind fun _ => .pure _

include hremember in
theorem uses_assignCurrentUser (story : Value) : Uses may (assignCurrentUser story) := by
  refine (uses_ownersAndUser hall hremember story).bind ?_
  rintro ⟨owners, user⟩
  dsimp only
  split
  · exact .pure _
  · exact (uses_setOwners hall story _).bind fun _ => .pure _

include hremember in
theorem uses_unassignCurrentUser (story : Value) : Uses may (unassignCurrentUser story) := by
  refine (uses_ownersAndUser hall hremember story).bind ?_
  rintro ⟨owners, user⟩
  dsimp only
  split
  · exact .pure _
  · exact (uses_setOwners hall story _).bind fun _ => .pure _

end Writing

end Tools

/-! ## All tools -/

namespace Server.Tool

/-- Whether a tool is made up of steps, whatever it is called with. -/
def Uses (may : Session.Deed → Prop) (tool : Tool) : Prop :=
  match tool.work with
  | .session run => ∀ args, Action.Uses may (run args)
  | .health => True

theorem uses_reader (name : String) (parameters : List Parameter)
    {run : Arguments → Action String} (h : ∀ args, Action.Uses may (run args)) :
    (reader name parameters run).Uses may :=
  fun args => (h args).bind fun _ => .pure _

theorem uses_writer (name : String) (parameters : List Parameter)
    {run : Arguments → Action String} (h : ∀ args, Action.Uses may (run args)) :
    (writer name parameters run).Uses may :=
  fun args => (h args).bind fun _ => .pure _

/-- **Every tool is made up of steps**. One that is not marked as one that writes
only reads, and one that never needs the current user does not remember them. -/
theorem uses_of_mem_all (hget : may (.send .get)) {tool : Tool} (h : tool ∈ all)
    (hwrites : tool.writes = true → ∀ method, may (.send method))
    (hconsults : tool.consults = true → may .remember) : tool.Uses may := by
  have hreads : may .remember → ∀ (name : String) (kind : Kind) (filters : List Parameter),
      (search name kind filters).Uses may := fun hremember name kind filters =>
    uses_reader name _ fun args => Tools.uses_search hget hremember kind _ _ _
  have hshows : ∀ (kind : Kind) (name idName : String) (idType : ParameterType)
      (title : Value → String), (getter name idName idType fun id full =>
        Tools.showEntity kind id (title id) full).Uses may :=
    fun kind name idName idType title =>
      uses_reader name _ fun args => Tools.uses_showEntity hget kind _ _ _
  have hcached : ∀ (kind : Kind) (name idName : String) (idType : ParameterType) (noun : String),
      (getter name idName idType fun id full =>
        Tools.showCachedKind kind noun id full).Uses may :=
    fun kind name idName idType noun =>
      uses_reader name _ fun args => Tools.uses_showCachedKind hget kind noun _ _
  have hevery : ∀ tool ∈ all, (tool.writes = true → ∀ method, may (.send method)) →
      (tool.consults = true → may .remember) → tool.Uses may := by
    simp only [all, List.forall_mem_cons]
    refine ⟨fun _ huser => hreads (huser rfl) _ _ _, fun _ _ => hshows _ _ _ _ _,
      fun _ huser => uses_reader _ _ fun _ => Tools.uses_getStoryBranchName hget (huser rfl) _,
      fun hall _ => uses_writer _ _ fun _ => Tools.uses_createStory (hall rfl) _,
      fun hall _ => uses_writer _ _ fun _ => Tools.uses_updateStory (hall rfl) _ _,
      fun hall _ => uses_writer _ _ fun _ => Tools.uses_createStoryComment (hall rfl) _ _,
      fun hall huser => uses_writer _ _ fun _ =>
        Tools.uses_assignCurrentUser (hall rfl) (huser rfl) _,
      fun hall huser => uses_writer _ _ fun _ =>
        Tools.uses_unassignCurrentUser (hall rfl) (huser rfl) _,
      fun _ huser => hreads (huser rfl) _ _ _, fun _ _ => hshows _ _ _ _ _,
      fun hall _ => uses_writer _ _ fun _ => Tools.uses_createEpic (hall rfl) _ _ _,
      fun _ huser => hreads (huser rfl) _ _ _, fun _ _ => hshows _ _ _ _ _,
      fun _ _ => uses_reader _ _ fun _ => Tools.uses_getIterationStories hget _,
      fun _ huser => hreads (huser rfl) _ _ _, fun _ _ => hshows _ _ _ _ _,
      fun _ _ => hcached _ _ _ _ _,
      fun _ _ => uses_reader _ _ fun _ => Tools.uses_listAll hget _,
      fun _ _ => hcached _ _ _ _ _,
      fun _ _ => uses_reader _ _ fun _ => Tools.uses_listAll hget _,
      fun _ _ => uses_reader _ _ fun _ => Tools.uses_getDefaultWorkflow hget _,
      fun _ huser => uses_reader _ _ fun _ => Tools.uses_getCurrentUser hget (huser rfl),
      fun _ huser => uses_reader _ _ fun _ => Tools.uses_getCurrentUserTeams hget (huser rfl),
      fun _ _ => uses_reader _ _ fun _ => Tools.uses_listUsers hget,
      fun _ _ _ => Resolver.uses_refresh hget _, fun _ _ => trivial,
      fun tool hnone => absurd hnone List.not_mem_nil⟩
  exact hevery tool h hwrites hconsults

/-- Every tool is made up of steps of some kind. -/
theorem uses_anything {tool : Tool} (h : tool ∈ all) : tool.Uses fun _ => True :=
  uses_of_mem_all trivial h (fun _ _ => trivial) fun _ => trivial

end Server.Tool

end Backlog
