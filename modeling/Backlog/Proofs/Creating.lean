import Backlog.Proofs.Body
import Backlog.Proofs.Found
import Backlog.Proofs.Http.Beside
import Backlog.Proofs.Story
import Backlog.Proofs.Writing
/-!
# Creating stories

A new story starts in the default state of a workflow: the one given, or the one that its
team has by default, or the first of its team (`StoryDraft.Decided`). The story is posted
if and only if its type is one of those that stories have, a workflow is decided on and
there, and the body can be written (`StoryDraft.Creatable`). The body has what is given and
nothing else (`StoryDraft.IsBody`). In every other case the tool ends in a fault, and all
that it has sent are questions for the team and the workflow
(`Tools.createStory_goes`). Texts are assumed to hold none of the code points that
halves of pairs are kept as (`Text.halfOffset`) but for halves, and the integers of a
body to be writable whatever their size.
-/

namespace Backlog

namespace Tools

/-- Where a team is. -/
def teamPath (team : Value) : String := "/groups" ++ "/" ++ team.display

/-- Where a workflow is. -/
def workflowPath (workflow : Value) : String := "/workflows" ++ "/" ++ workflow.display

theorem entityPath_teams (team : Value) : Api.entityPath .teams team = .ok (teamPath team) := rfl

theorem entityPath_workflows (workflow : Value) :
    Api.entityPath .workflows workflow = .ok (workflowPath workflow) := rfl

/-! ## The workflow of a team -/

/-- **The workflow that a team stands for**: its default, or else the first of those it
has. It counts as something. -/
inductive TeamWorkflow (team : Table String Value) : Value → Prop where
  /-- The default. -/
  | default (h : (Value.fieldOf team "default_workflow_id").truthy = true) :
      TeamWorkflow team (Value.fieldOf team "default_workflow_id")
  /-- The first, of a team without a default. -/
  | first {w : Value} (hdefault : (Value.fieldOf team "default_workflow_id").truthy = false)
      (hsome : (Value.fieldOf team "workflow_ids").truthy = true)
      (hfirst : (Value.fieldOf team "workflow_ids").first = .ok w) (hw : w.truthy = true) :
      TeamWorkflow team w

/-- What is found for a team. -/
theorem defaultWorkflowOf_eq_ok_iff {team : Table String Value} {w : Value} :
    defaultWorkflowOf (.object team) = .ok w ∧ w.truthy = true ↔ TeamWorkflow team w := by
  have hfield : ∀ name, (Value.object team).field name = .ok (Value.fieldOf team name) :=
    fun _ => rfl
  rw [defaultWorkflowOf, hfield, hfield]
  simp only [bind, Except.bind]
  constructor
  · rintro ⟨h, hw⟩
    split at h
    · next hdefault =>
      cases h
      exact .default hdefault
    · next hdefault =>
      split at h
      · next hsome => exact .first (Bool.eq_false_iff.2 hdefault) hsome h hw
      · cases h
        cases hw
  · intro h
    cases h with
    | default h => exact ⟨by rw [if_pos h]; rfl, h⟩
    | first hdefault hsome hfirst hw =>
      exact ⟨by rw [hdefault, if_neg Bool.false_ne_true, if_pos hsome]; exact hfirst, hw⟩

/-- Nothing is found for what is no object. -/
theorem exists_of_defaultWorkflowOf {team w : Value} (h : defaultWorkflowOf team = .ok w) :
    ∃ fields, team = .object fields := by
  cases team with
  | object fields => exact ⟨fields, rfl⟩
  | atom a => cases h
  | list items => cases h

namespace StoryDraft

/-! ## When a story can be created -/

/-- Whether the type is one that stories have. -/
def HasType (draft : StoryDraft) : Prop := ∃ name ∈ storyTypes, draft.storyType = .text name

/-- Whether a workflow or a team is given. -/
def HasPlace (draft : StoryDraft) : Prop :=
  draft.workflow.truthy = true ∨ draft.team.truthy = true

/-- **The workflow that is decided on**, and the session in which that is known: the one
given, or else that of the team, which has to be there. -/
inductive Decided (draft : StoryDraft) (remote : Remote) (s : Session) : Value → Session → Prop
    where
  /-- The workflow is given, and nothing is asked. -/
  | given (h : draft.workflow.truthy = true) : Decided draft remote s draft.workflow s
  /-- It is the workflow of the team. -/
  | ofTeam {request : Http.Request} {team : Table String Value} {w : Value}
      (hnone : draft.workflow.truthy = false) (hteam : draft.team.truthy = true)
      (hfound : FoundAt remote (teamPath draft.team) s request (.object team))
      (hw : TeamWorkflow team w) :
      Decided draft remote s w (s.received request (remote s.exchanges request))

/-- Whether the values that go into the body can be written. -/
def Writable (draft : StoryDraft) (state : Value) : Prop :=
  ∀ v ∈ [draft.name, draft.description, draft.owner, draft.epic, draft.iteration, draft.team,
    state], v.Writable

/-- **Whether a story can be created**: in a workflow that is asked for in a session and is
there. -/
structure Creatable (draft : StoryDraft) (remote : Remote) (s : Session) (w : Value) (m : Session)
    (request : Http.Request) (workflow : Table String Value) : Prop where
  /-- The type is one that stories have. -/
  type : draft.HasType
  /-- A workflow or a team is given. -/
  place : draft.HasPlace
  /-- The workflow is decided on. -/
  decided : draft.Decided remote s w m
  /-- It is there. -/
  found : FoundAt remote (workflowPath w) m request (.object workflow)
  /-- The body can be written. -/
  writable : draft.Writable (Value.fieldOf workflow "default_state_id")

/-- **The body that creates a story** in a state: what is given, each under its name, and
nothing else. -/
structure IsBody (draft : StoryDraft) (state : Value) (body : Table String Value) : Prop where
  /-- No key stands twice. -/
  distinct : Distinct body.keys
  /-- There are no other keys. -/
  keys : ∀ key ∈ body.keys, key ∈ ["name", "story_type", "owner_ids", "workflow_state_id",
    "description", "epic_id", "iteration_id", "group_id"]
  /-- The name and the type. -/
  name : body.get? "name" = some draft.name ∧ body.get? "story_type" = some draft.storyType
  /-- The one owner, or none. -/
  owners : body.get? "owner_ids" =
    some (.list (if draft.owner.truthy then [draft.owner] else []))
  /-- The state. -/
  state : body.get? "workflow_state_id" = some state
  /-- Description, epic and iteration, if they are given. -/
  given : body.get? "description" = (if draft.description.isNull then none
        else some draft.description) ∧
    body.get? "epic_id" = (if draft.epic.isNull then none else some draft.epic) ∧
    body.get? "iteration_id" = if draft.iteration.isNull then none else some draft.iteration
  /-- The team, if one is given. -/
  team : body.get? "group_id" = if draft.team.truthy then some draft.team else none

variable {draft : StoryDraft} {remote : Remote} {s m : Session} {w : Value}

/-! ## The checks -/

/-- What is checked without the tracker. -/
theorem check_eq_ok_iff : draft.check = .ok () ↔ draft.HasType ∧ draft.HasPlace := by
  have htype : storyTypes.any (fun name => Value.text name == draft.storyType) = true ↔
      draft.HasType := by
    rw [List.any_eq_true, HasType]
    refine exists_congr fun name => and_congr_right fun _ => ?_
    cases draft.storyType with
    | atom a =>
      cases a <;> simp [BEq.beq, Value.same, Atom.key, eq_comm]
    | list items => simp [BEq.beq, Value.same]
    | object fields => simp [BEq.beq, Value.same]
  rw [check, ← htype, HasPlace]
  cases storyTypes.any (fun name => Value.text name == draft.storyType) <;>
    cases draft.workflow.truthy <;> cases draft.team.truthy <;> simp

/-! ## The body -/

/-- A field that is left out when it is null. -/
theorem forall_mem_given {name : String} {v : Value} {p : String × Value → Prop}
    (hnull : p (name, .null)) : (∀ entry ∈ Tools.given name v, p entry) ↔ p (name, v) := by
  rw [Tools.given]
  cases h : v.isNull with
  | true =>
    rw [Value.eq_null_of_isNull h]
    simpa using hnull
  | false => simp

/-- **The body has what is given.** -/
theorem exists_body (draft : StoryDraft) (state : Value) :
    ∃ body, draft.payload state = .object body ∧ draft.IsBody state body := by
  refine ⟨_, rfl, ?_⟩
  simp only [Tools.given]
  cases hdescription : draft.description.isNull <;> cases hepic : draft.epic.isNull <;>
    cases hiteration : draft.iteration.isNull <;> cases hteam : draft.team.truthy <;>
      constructor <;>
        simp [Distinct, Table.keys, Table.get?, hdescription, hepic, hiteration, hteam]

/-- **The body can be sent if what goes into it can be written.** -/
theorem checkBody_payload_iff (htype : draft.HasType) (state : Value) :
    Api.checkBody (some (draft.payload state)) = .ok () ↔ draft.Writable state := by
  have hnull : Value.null.Writable := ⟨rfl, rfl⟩
  have hstoryType : draft.storyType.Writable := by
    obtain ⟨name, hname, htype⟩ := htype
    have hall : ∀ name ∈ storyTypes, Text.hasHalf name = false := by decide
    rw [htype]
    exact Value.writable_text (hall name hname)
  have howner : (Value.list (if draft.owner.truthy then [draft.owner] else [])).Writable ↔
      draft.owner.Writable := by
    cases htruthy : draft.owner.truthy with
    | true => exact Value.writable_singleton
    | false => exact iff_of_true ⟨rfl, rfl⟩ (Value.writable_of_not_truthy htruthy)
  have hteam : (∀ entry ∈ if draft.team.truthy then [("group_id", draft.team)] else [],
      entry.2.Writable) ↔ draft.team.Writable := by
    cases htruthy : draft.team.truthy with
    | true => simp
    | false =>
      exact iff_of_true (List.forall_mem_nil _) (Value.writable_of_not_truthy htruthy)
  obtain ⟨body, hbody, hisBody⟩ := draft.exists_body state
  have hnames : ∀ entry ∈ body, Text.hasHalf entry.1 = false := by
    have hall : ∀ key ∈ ["name", "story_type", "owner_ids", "workflow_state_id", "description",
        "epic_id", "iteration_id", "group_id"], Text.hasHalf key = false := by decide +kernel
    exact fun entry hmem => hall _ (hisBody.keys _ (List.mem_map_of_mem hmem))
  rw [hbody, Api.checkBody_object_iff hnames]
  cases hbody
  simp only [List.forall_mem_append, List.forall_mem_cons, forall_mem_given, hnull, howner, hteam,
    hstoryType, Writable, List.not_mem_nil]
  tauto

/-! ## The workflow -/

/-- A workflow is decided on in one way. -/
theorem Decided.unique {w' : Value} {m' : Session} (h : draft.Decided remote s w m)
    (h' : draft.Decided remote s w' m') : w' = w ∧ m' = m := by
  cases h with
  | given h =>
    cases h' with
    | given h' => exact ⟨rfl, rfl⟩
    | ofTeam hnone' => exact absurd (h.symm.trans hnone') Bool.true_eq_false.mp
  | ofTeam hnone hteam hfound hw =>
    cases h' with
    | given h' => exact absurd (h'.symm.trans hnone) Bool.true_eq_false.mp
    | ofTeam hnone' hteam' hfound' hw' =>
      obtain ⟨rfl, hsame⟩ := hfound.unique hfound'
      cases hsame
      have hread := (defaultWorkflowOf_eq_ok_iff.2 hw).1
      exact ⟨Except.ok.inj ((defaultWorkflowOf_eq_ok_iff.2 hw').1.symm.trans hread), rfl⟩

/-- What is asked until a workflow is decided on: for the team, if none is given. -/
theorem Decided.exists_asks (h : draft.Decided remote s w m) :
    w.truthy = true ∧ ∃ asked, m = { s with exchanges := s.exchanges ++ asked } ∧
      Asks s.client (teamPath draft.team) asked ∧
      (draft.workflow.truthy = true → w = draft.workflow ∧ asked = []) := by
  cases h with
  | given h => exact ⟨h, [], by rw [List.append_nil], .nil _ _, fun _ => ⟨rfl, rfl⟩⟩
  | ofTeam hnone hteam hfound hw =>
    refine ⟨(defaultWorkflowOf_eq_ok_iff.2 hw).2, _, rfl, asks_of_outgoing hfound.asked _, ?_⟩
    exact fun h => absurd (h.symm.trans hnone) Bool.true_eq_false.mp

/-- **A workflow is decided on, or the tool is left without one**, having asked for the team
at most. -/
theorem workflowId_goes (hplace : draft.HasPlace) (remote : Remote) (s : Session) :
    (∃ w m, draft.Decided remote s w m ∧ draft.workflowId remote s = (.ok w, m)) ∨
      (∀ w m, ¬ draft.Decided remote s w m) ∧ draft.workflow.truthy = false ∧
        ∃ result asked, draft.workflowId remote s =
            (result, { s with exchanges := s.exchanges ++ asked }) ∧
          Asks s.client (teamPath draft.team) asked ∧
          ∀ w, result = .ok w → w.truthy = false := by
  rw [workflowId]
  cases hgiven : draft.workflow.truthy with
  | true => exact .inl ⟨_, s, .given hgiven, rfl⟩
  | false =>
    have hteam : draft.team.truthy = true := hplace.resolve_left (Bool.eq_false_iff.1 hgiven)
    rw [if_neg Bool.false_ne_true]
    rcases requireEntity_goes (entityPath_teams draft.team) remote s with
      ⟨request, entity, hfound, hrun⟩ | ⟨hmissing, fault, asked, hrun, hasks⟩
    · rw [Run.bind_of_ok _ hrun, Run.lift_apply]
      by_cases hdecided : ∃ w m, draft.Decided remote s w m
      · obtain ⟨w, m, h⟩ := hdecided
        cases h with
        | given h => exact absurd (h.symm.trans hgiven) Bool.true_eq_false.mp
        | ofTeam hnone hteam' hfound' hw =>
          obtain ⟨rfl, rfl⟩ := hfound.unique hfound'
          refine .inl ⟨w, _, .ofTeam hnone hteam' hfound' hw, ?_⟩
          rw [(defaultWorkflowOf_eq_ok_iff.2 hw).1]
      · have hnone : ∀ w m, ¬ draft.Decided remote s w m := fun w m h => hdecided ⟨w, m, h⟩
        refine .inr ⟨hnone, rfl, _, _, rfl, asks_of_outgoing hfound.asked _, fun w hw => ?_⟩
        -- a workflow that counts as something would have been decided on
        obtain ⟨team, rfl⟩ := exists_of_defaultWorkflowOf hw
        cases htruthy : w.truthy with
        | false => rfl
        | true =>
          have hteamWorkflow := defaultWorkflowOf_eq_ok_iff.1 ⟨hw, htruthy⟩
          exact absurd (.ofTeam hgiven hteam hfound hteamWorkflow) (hnone w _)
    · rw [Run.bind_of_error _ hrun]
      refine .inr ⟨fun w m h => ?_, rfl, _, asked, rfl, hasks, fun w hw => by cases hw⟩
      cases h with
      | given h => exact absurd (h.symm.trans hgiven) Bool.true_eq_false.mp
      | ofTeam hnone hteam' hfound' hw => exact hmissing _ _ hfound'

end StoryDraft

/-! ## The request that creates -/

/-- What follows when a story has been created. -/
def afterCreation (story : Value) : Action String := do
  let id ← story.field "id"
  Action.log .info ("Created story " ++ id.display)
  let id ← story.required "id"
  pure (Report.render ("Created story: " ++ storyRef id))

/-- It sends nothing. -/
theorem quiet_afterCreation (story : Value) : Action.Quiet (afterCreation story) :=
  (Action.Quiet.lift _).bind fun _ => (Action.Quiet.log _ _).bind fun _ =>
    (Action.Quiet.lift _).bind fun _ => .pure _

/-- A draft that passes its checks is put into its workflow. -/
theorem createStory_of_check {draft : StoryDraft} (h : draft.check = .ok ()) (remote : Remote)
    (s : Session) :
    createStory draft remote s =
      (draft.workflowId >>= fun workflow =>
        if !workflow.truthy then Run.fail (.refused .noWorkflowOfTeam)
        else requireEntity .workflows workflow >>= fun entity =>
          liftM (entity.field "default_state_id") >>= fun state =>
            Api.createEntity .stories (draft.payload state) >>= afterCreation) remote s := by
  rw [createStory, Run.bind_apply, Run.lift_apply, h]
  rfl

/-- The request that creates what a body tells, where another would go. -/
def creating (request : Http.Request) (body : Value) : Http.Request :=
  { request with method := .post, body := some body }

section

variable {draft : StoryDraft} {state : Value} {remote : Remote} {m : Session} {post : Http.Request}

/-- Creating a story is one request and what follows its answer. -/
theorem createEntity_apply (draft : StoryDraft) (state : Value) (remote : Remote) (m : Session) :
    (Api.createEntity .stories (draft.payload state) >>= afterCreation) remote m =
      (Api.request .post "/stories" [] (some (draft.payload state)) false >>= fun created =>
        liftM (Api.expect created (.createFailed .stories)) >>= afterCreation) remote m := by
  have hcreate : Api.createEntity .stories (draft.payload state) =
      (Api.request .post "/stories" [] (some (draft.payload state)) false >>= fun created =>
        liftM (Api.expect created (.createFailed .stories))) := rfl
  rw [hcreate]
  exact Run.bind_assoc_apply _ _ _ remote m

variable (remote) in
/-- **A story whose body can be written is posted**, and nothing is sent after that. -/
theorem createEntity_posts (hpost : Api.outgoing m.client .post "/stories" [] none = .ok post)
    (hbody : Api.checkBody (some (draft.payload state)) = .ok ()) :
    ((Api.createEntity .stories (draft.payload state) >>= afterCreation) remote m).2.exchanges =
      m.exchanges ++ [⟨m.client.serial, creating post (draft.payload state),
        remote m.exchanges (creating post (draft.payload state))⟩] := by
  have hrequest := Api.request_apply .post "/stories" [] (some (draft.payload state)) false remote m
  rw [Api.outgoing_of_outgoing hpost, hbody] at hrequest
  obtain ⟨reply, hreply⟩ : ∃ reply,
      reply = remote m.exchanges (creating post (draft.payload state)) := ⟨_, rfl⟩
  have hsent : Api.request .post "/stories" [] (some (draft.payload state)) false remote m =
      (reply.value .post post.url "/stories" false,
        m.received (creating post (draft.payload state)) reply) := hreply ▸ hrequest
  rw [createEntity_apply, Run.bind_apply, hsent, ← hreply]
  cases reply.value .post post.url "/stories" false with
  | error fault => rfl
  | ok created =>
    have hquiet := (Action.Quiet.lift (Api.expect created (.createFailed .stories))).bind
      quiet_afterCreation
    exact hquiet remote _

/-- A story whose body cannot be written is not posted. -/
theorem createEntity_of_error (hpost : Api.outgoing m.client .post "/stories" [] none = .ok post)
    {fault : Fault} (hbody : Api.checkBody (some (draft.payload state)) = .error fault) :
    (Api.createEntity .stories (draft.payload state) >>= afterCreation) remote m =
      (.error fault, m) := by
  have hrequest := Api.request_apply .post "/stories" [] (some (draft.payload state)) false remote m
  rw [Api.outgoing_of_outgoing hpost, hbody] at hrequest
  rw [createEntity_apply, Run.bind_of_error _ hrequest]

variable (remote) in
/-- **A story is posted if what goes into its body can be written**, and nothing is sent after
that; otherwise nothing is sent at all. -/
theorem createEntity_goes (htype : draft.HasType)
    (hpost : Api.outgoing m.client .post "/stories" [] none = .ok post) :
    (¬ draft.Writable state ∧ ∃ fault,
        (Api.createEntity .stories (draft.payload state) >>= afterCreation) remote m =
          (.error fault, m)) ∨
      (draft.Writable state ∧ ∃ body result t, draft.IsBody state body ∧
        (Api.createEntity .stories (draft.payload state) >>= afterCreation) remote m =
          (result, t) ∧
        t.exchanges = m.exchanges ++ [⟨m.client.serial, creating post (.object body),
          remote m.exchanges (creating post (.object body))⟩]) := by
  have hwritable := draft.checkBody_payload_iff htype state
  cases hbody : Api.checkBody (some (draft.payload state)) with
  | error fault =>
    refine .inl ⟨fun hfit => ?_, fault, createEntity_of_error hpost hbody⟩
    rw [hwritable.2 hfit] at hbody
    cases hbody
  | ok checked =>
    obtain ⟨body, hpayload, hisBody⟩ := draft.exists_body state
    have hposts := createEntity_posts remote hpost hbody
    rw [hpayload] at hposts ⊢
    exact .inr ⟨hwritable.1 hbody, body, _, _, hisBody, rfl, hposts⟩

end

/-! ## How creating goes -/

/-- **How the creation of a story goes**: what it ends in, and what it sends. -/
structure CreationGoes (draft : StoryDraft) (remote : Remote) (s : Session)
    (result : Except Fault String) (sent : List Http.Exchange) : Prop where
  /-- It posts if and only if the story can be created. -/
  posts_iff : (∃ exchange ∈ sent, exchange.request.method = .post) ↔
    ∃ w m request workflow, draft.Creatable remote s w m request workflow
  /-- Then the post is the last request, after what is asked until the workflow is decided
  on and the one for the workflow. It goes to the stories, and its body has what is given
  and the default state of the workflow. -/
  posted : ∀ w m request workflow, draft.Creatable remote s w m request workflow →
    ∃ asked post body, m.exchanges = s.exchanges ++ asked ∧
      Asks s.client (teamPath draft.team) asked ∧ (draft.workflow.truthy = true → asked = []) ∧
      sent = asked ++ [⟨s.client.serial, request, remote m.exchanges request⟩, post] ∧
      post.request.method = .post ∧
      Api.address s.client "/stories" [] = .ok post.request.url ∧
      post.request.body = some (.object body) ∧
      draft.IsBody (Value.fieldOf workflow "default_state_id") body
  /-- In every other case it ends in a fault, and has only asked. -/
  otherwise : (¬ ∃ w m request workflow, draft.Creatable remote s w m request workflow) →
    (∃ fault, result = .error fault) ∧ ∀ exchange ∈ sent, exchange.request.method = .get
  /-- With a workflow that is given, it asks for nothing else. -/
  given : draft.workflow.truthy = true → ∀ exchange ∈ sent, exchange.request.method = .get →
    Api.address s.client (workflowPath draft.workflow) [] = .ok exchange.request.url
  /-- With another type, or neither workflow nor team, it sends nothing. -/
  refused : ¬ draft.HasType ∨ ¬ draft.HasPlace → sent = []

/-- What ends in a fault, having only asked. -/
theorem CreationGoes.of_error {draft : StoryDraft} {remote : Remote} {s : Session}
    {fault : Fault} {sent : List Http.Exchange}
    (hno : ∀ w m request workflow, ¬ draft.Creatable remote s w m request workflow)
    (hasks : ∀ exchange ∈ sent, exchange.request.method = .get)
    (hgiven : draft.workflow.truthy = true → ∀ exchange ∈ sent,
      Api.address s.client (workflowPath draft.workflow) [] = .ok exchange.request.url)
    (hrefused : ¬ draft.HasType ∨ ¬ draft.HasPlace → sent = []) :
    CreationGoes draft remote s (.error fault) sent where
  posts_iff := by
    constructor
    · rintro ⟨exchange, hmem, hpost⟩
      rw [hasks exchange hmem] at hpost
      cases hpost
    · rintro ⟨w, m, request, workflow, h⟩
      exact absurd h (hno w m request workflow)
  posted := fun w m request workflow h => absurd h (hno w m request workflow)
  otherwise := fun _ => ⟨⟨fault, rfl⟩, hasks⟩
  given := fun h exchange hmem _ => hgiven h exchange hmem
  refused := hrefused

section

variable {draft : StoryDraft} {remote : Remote} {s m : Session} {w : Value}

/-- What a story is created in is found in one way. -/
theorem StoryDraft.Creatable.unique {w' : Value} {m' : Session} {request request' : Http.Request}
    {workflow workflow' : Table String Value}
    (h : draft.Creatable remote s w m request workflow)
    (h' : draft.Creatable remote s w' m' request' workflow') :
    m' = m ∧ request' = request ∧ workflow' = workflow := by
  obtain ⟨rfl, rfl⟩ := h.decided.unique h'.decided
  obtain ⟨rfl, hsame⟩ := h.found.unique h'.found
  cases hsame
  exact ⟨rfl, rfl, rfl⟩

/-- What posts, having asked for the team and the workflow. -/
theorem CreationGoes.of_posted {result : Except Fault String} {request post : Http.Request}
    {reply : Http.Reply} {workflow body : Table String Value} {asked : List Http.Exchange}
    (h : draft.Creatable remote s w m request workflow)
    (hm : m.exchanges = s.exchanges ++ asked) (hasks : Asks s.client (teamPath draft.team) asked)
    (hgiven : draft.workflow.truthy = true → asked = [])
    (hasked : Api.outgoing s.client .get (workflowPath w) [] none = .ok request)
    (hplace : draft.workflow.truthy = true → w = draft.workflow)
    (hpost : Api.address s.client "/stories" [] = .ok post.url)
    (hbody : draft.IsBody (Value.fieldOf workflow "default_state_id") body) :
    CreationGoes draft remote s result
      (asked ++ [⟨s.client.serial, request, remote m.exchanges request⟩,
        ⟨s.client.serial, creating post (.object body), reply⟩]) where
  posts_iff := by
    refine iff_of_true ⟨⟨s.client.serial, creating post (.object body), reply⟩, ?_, rfl⟩
      ⟨w, m, request, workflow, h⟩
    exact List.mem_append_right asked (List.mem_cons_of_mem _ List.mem_cons_self)
  posted := by
    intro w' m' request' workflow' h'
    obtain ⟨rfl, rfl, rfl⟩ := h.unique h'
    exact ⟨asked, _, body, hm, hasks, hgiven, rfl, rfl, hpost, rfl, hbody⟩
  otherwise := fun hno => absurd ⟨w, m, request, workflow, h⟩ hno
  given := by
    intro htruthy exchange hmem hget
    rw [hgiven htruthy, List.nil_append] at hmem
    rcases List.mem_cons.1 hmem with rfl | hmem
    · rw [← hplace htruthy]
      exact Api.address_of_outgoing hasked
    · rw [List.mem_singleton.1 hmem] at hget
      cases hget
  refused := fun hno => (hno.elim (fun hno => absurd h.type hno) fun hno => absurd h.place hno)

/-- What ends in a fault once there is an answer for the workflow: it is no object, or the
body cannot be written. -/
theorem CreationGoes.of_unfit {fault : Fault} {request : Http.Request} {reply : Http.Reply}
    {entity : Value} {asked : List Http.Exchange} (htype : draft.HasType)
    (hplace : draft.HasPlace) (hdecided : draft.Decided remote s w m)
    (hfound : FoundAt remote (workflowPath w) m request entity) (hclient : m.client = s.client)
    (hasks : Asks s.client (teamPath draft.team) asked)
    (hgiven : draft.workflow.truthy = true → w = draft.workflow ∧ asked = [])
    (hunfit : ∀ workflow, entity = .object workflow →
      ¬ draft.Writable (Value.fieldOf workflow "default_state_id")) :
    CreationGoes draft remote s (.error fault)
      (asked ++ [⟨s.client.serial, request, reply⟩]) := by
  have hasked : Api.outgoing s.client .get (workflowPath w) [] none = .ok request :=
    hclient ▸ hfound.asked
  refine .of_error ?_ ?_ ?_ fun h => ?_
  · -- the workflow and what is answered for it are the only ones
    intro w' m' request' workflow h
    obtain ⟨rfl, rfl⟩ := hdecided.unique h.decided
    obtain ⟨rfl, hentity⟩ := hfound.unique h.found
    exact hunfit workflow hentity.symm h.writable
  · intro exchange hmem
    rcases List.mem_append.1 hmem with hmem | hmem
    · exact (hasks.2 exchange hmem).1
    · rw [List.mem_singleton.1 hmem]
      exact (Api.of_outgoing hasked).1
  · intro htruthy exchange hmem
    obtain ⟨rfl, rfl⟩ := hgiven htruthy
    rw [List.mem_singleton.1 hmem]
    exact Api.address_of_outgoing hasked
  · exact h.elim (fun h => absurd htype h) fun h => absurd hplace h

/-- How the creation goes on once there is an answer for the workflow. -/
theorem createStory_found (hbase : s.client.base.Coded) (htype : draft.HasType)
    (hplace : draft.HasPlace) (hdecided : draft.Decided remote s w m) {request : Http.Request}
    {entity : Value} (hfound : FoundAt remote (workflowPath w) m request entity) :
    ∃ result t sent, (liftM (entity.field "default_state_id") >>= fun state =>
        Api.createEntity .stories (draft.payload state) >>= afterCreation) remote
          (m.received request (remote m.exchanges request)) = (result, t) ∧
      t.exchanges = s.exchanges ++ sent ∧ CreationGoes draft remote s result sent := by
  obtain ⟨-, asked, hm, hasks, hgiven⟩ := hdecided.exists_asks
  have hclient : m.client = s.client := by rw [hm]
  have hasked : m.exchanges = s.exchanges ++ asked := by rw [hm]
  obtain ⟨reply, hreply⟩ : ∃ reply, reply = remote m.exchanges request := ⟨_, rfl⟩
  have hseen : (m.received request reply).exchanges =
      s.exchanges ++ (asked ++ [⟨s.client.serial, request, reply⟩]) := by
    rw [← hclient, ← List.append_assoc, ← hasked]
    rfl
  have hended : (∀ workflow, entity = .object workflow →
      ¬ draft.Writable (Value.fieldOf workflow "default_state_id")) → ∀ fault,
      CreationGoes draft remote s (.error fault)
        (asked ++ [⟨s.client.serial, request, reply⟩]) := fun hunfit _ =>
    .of_unfit htype hplace hdecided hfound hclient hasks hgiven hunfit
  rw [← hreply, Run.bind_apply, Run.lift_apply]
  cases entity with
  | atom a => exact ⟨_, _, _, rfl, hseen, hended (fun _ h => by cases h) _⟩
  | list items => exact ⟨_, _, _, rfl, hseen, hended (fun _ h => by cases h) _⟩
  | object workflow =>
    have hpath : Kind.stories.entityPath? = some "/stories" := rfl
    obtain ⟨post, hpost⟩ :=
      Api.exists_outgoing_of_workflow hbase (hclient ▸ hfound.asked) hpath .post
    have hpost' : Api.outgoing (m.received request reply).client .post "/stories" [] none =
        .ok post := hclient.symm ▸ hpost
    have hfield : (Value.object workflow).field "default_state_id" =
        .ok (Value.fieldOf workflow "default_state_id") := rfl
    rw [hfield]
    dsimp only
    rcases createEntity_goes remote htype hpost' with
      ⟨hunfit, fault, hrun⟩ | ⟨hfit, body, result, t, hisBody, hrun, hposts⟩
    · refine ⟨_, _, _, hrun, hseen, hended (fun other hentity => ?_) fault⟩
      cases hentity
      exact hunfit
    · have hcreatable : draft.Creatable remote s w m request workflow :=
        ⟨htype, hplace, hdecided, hfound, hfit⟩
      have hserial : (m.received request reply).client.serial = s.client.serial :=
        congrArg Client.serial hclient
      rw [hseen, hserial, List.append_assoc, List.append_assoc] at hposts
      refine ⟨result, t, _, hrun, hposts, ?_⟩
      rw [hreply]
      exact .of_posted hcreatable hasked hasks (fun h => (hgiven h).2) (hclient ▸ hfound.asked)
        (fun h => (hgiven h).1) (Api.address_of_outgoing hpost) hisBody

/-- **How the creation of a story goes in a workflow that is decided on.** -/
theorem createStory_in (hbase : s.client.base.Coded) (htype : draft.HasType)
    (hplace : draft.HasPlace) (hdecided : draft.Decided remote s w m) :
    ∃ result t sent, (requireEntity .workflows w >>= fun entity =>
        liftM (entity.field "default_state_id") >>= fun state =>
          Api.createEntity .stories (draft.payload state) >>= afterCreation) remote m =
        (result, t) ∧ t.exchanges = s.exchanges ++ sent ∧
      CreationGoes draft remote s result sent := by
  rcases requireEntity_goes (entityPath_workflows w) remote m with
    ⟨request, entity, hfound, hrun⟩ | ⟨hmissing, fault, looked, hrun, hlooked⟩
  · rw [Run.bind_of_ok _ hrun]
    exact createStory_found hbase htype hplace hdecided hfound
  · have hno : ∀ w' m' request workflow, ¬ draft.Creatable remote s w' m' request workflow := by
      intro w' m' request workflow h
      obtain ⟨rfl, rfl⟩ := hdecided.unique h.decided
      exact hmissing _ _ h.found
    obtain ⟨-, asked, rfl, hasks, hgiven⟩ := hdecided.exists_asks
    refine ⟨_, _, asked ++ looked, Run.bind_of_error _ hrun, List.append_assoc _ _ _, ?_⟩
    refine .of_error hno ?_ ?_ fun h => ?_
    · intro exchange hmem
      rcases List.mem_append.1 hmem with hmem | hmem
      · exact (hasks.2 exchange hmem).1
      · exact (hlooked.2 exchange hmem).1
    · intro htruthy exchange hmem
      obtain ⟨rfl, rfl⟩ := hgiven htruthy
      exact (hlooked.2 exchange hmem).2
    · exact h.elim (fun h => absurd htype h) fun h => absurd hplace h

/-- **How the creation of a story goes**, for any draft, whatever the tracker answers, in any
session of a client that was opened: it is posted if and only if it can be created, then as
the last request and with the body that is given, and in every other case the tool ends in a
fault and has only asked. -/
theorem createStory_goes {serial : Nat} {settings : Settings} {opened : Client}
    (hconnect : Client.connect serial settings = .ok opened)
    (hbase : s.client.base = opened.base) (draft : StoryDraft) (remote : Remote) :
    ∃ result t sent, createStory draft remote s = (result, t) ∧
      t.exchanges = s.exchanges ++ sent ∧ CreationGoes draft remote s result sent := by
  have hcoded : s.client.base.Coded := hbase ▸ Api.coded_of_connect hconnect
  have hnil : ∀ exchange ∈ ([] : List Http.Exchange), exchange.request.method = .get :=
    List.forall_mem_nil _
  cases hcheck : draft.check with
  | error fault =>
    have hrefused : ¬ (draft.HasType ∧ draft.HasPlace) := fun h => by
      rw [StoryDraft.check_eq_ok_iff.2 h] at hcheck
      cases hcheck
    refine ⟨.error fault, s, [], ?_, (List.append_nil _).symm, ?_⟩
    · rw [createStory, Run.bind_apply, Run.lift_apply, hcheck]
    · exact .of_error (fun w m request workflow h => hrefused ⟨h.type, h.place⟩) hnil
        (fun _ => List.forall_mem_nil _) fun _ => rfl
  | ok checked =>
    obtain ⟨htype, hplace⟩ := StoryDraft.check_eq_ok_iff.1 hcheck
    rw [createStory_of_check hcheck]
    rcases draft.workflowId_goes hplace remote s with
      ⟨w, m, hdecided, hrun⟩ | ⟨hundecided, hnone, outcome, asked, hrun, hasks, hfalsy⟩
    · rw [Run.bind_of_ok _ hrun, hdecided.exists_asks.1]
      exact createStory_in hcoded htype hplace hdecided
    · have hgoes : ∀ fault, CreationGoes draft remote s (.error fault) asked := fun fault =>
        .of_error (fun w m request workflow h => hundecided w m h.decided)
          (fun exchange hmem => (hasks.2 exchange hmem).1)
          (fun h => absurd (h.symm.trans hnone) Bool.true_eq_false.mp)
          fun h => h.elim (fun h => absurd htype h) fun h => absurd hplace h
      cases outcome with
      | error fault => exact ⟨_, _, asked, Run.bind_of_error _ hrun, rfl, hgoes fault⟩
      | ok w =>
        rw [Run.bind_of_ok _ hrun, hfalsy w rfl]
        exact ⟨_, _, asked, rfl, rfl, hgoes _⟩

end

/-! ### A story of a team, and one that cannot be written -/

namespace Sample

/-- A tracker that answers everything with one object: it has a default workflow, as a team
has, and a default state, as a workflow has. -/
def workflowTracker : Remote := fun _ _ =>
  .answer 200 [123, 34, 105, 100, 34, 58, 57, 44, 34, 100, 101, 102, 97, 117, 108, 116, 95, 119,
    111, 114, 107, 102, 108, 111, 119, 95, 105, 100, 34, 58, 51, 44, 34, 100, 101, 102, 97, 117,
    108, 116, 95, 115, 116, 97, 116, 101, 95, 105, 100, 34, 58, 49, 125]

/-- A story of a team. -/
def ofTeam : StoryDraft := { name := .text "n", owner := .text "u", team := .text "t" }

/-- A story of a workflow, with half of a pair for a name. -/
def halfNamed : StoryDraft :=
  { name := .text (String.singleton (Text.charOf 0xD800)), workflow := .int 3 }

/-- What is sent to create a story: the methods, the paths and the bodies. -/
def sentFor (draft : StoryDraft) : List (Http.Method × String × Option String) :=
  (createStory draft workflowTracker Api.Sample.session).2.exchanges.map fun exchange =>
    (exchange.request.method, exchange.request.url.plainPath,
      exchange.request.body.map Value.display)

end Sample

/-- The team is asked for, then its default workflow, and then the story is posted in the
default state. -/
theorem posted_in_default_state :
    Sample.sentFor Sample.ofTeam =
        [(.get, "/api/groups/t", none), (.get, "/api/workflows/3", none),
          (.post, "/api/stories", some ("\x7b'name': 'n', 'story_type': 'feature', " ++
            "'owner_ids': ['u'], 'workflow_state_id': 1, 'group_id': 't'\x7d"))] ∧
      ∃ result t sent,
        createStory Sample.ofTeam Sample.workflowTracker Api.Sample.session = (result, t) ∧
        t.exchanges = Api.Sample.session.exchanges ++ sent ∧
        CreationGoes Sample.ofTeam Sample.workflowTracker Api.Sample.session result sent :=
  ⟨by decide +kernel, createStory_goes Api.Sample.connect_opened rfl _ _⟩

/-- **A story that is not posted although its workflow is there**: half of a pair cannot be
written in bytes. -/
theorem half_name_not_posted :
    Sample.halfNamed.HasType ∧ Sample.halfNamed.HasPlace ∧
      Sample.halfNamed.Decided Sample.workflowTracker Api.Sample.session (.int 3)
        Api.Sample.session ∧
      (∃ request workflow, FoundAt Sample.workflowTracker (workflowPath (.int 3))
        Api.Sample.session request (.object workflow)) ∧
      Sample.sentFor Sample.halfNamed = [(.get, "/api/workflows/3", none)] :=
  ⟨⟨"feature", List.mem_cons_self, rfl⟩, .inl rfl, .given rfl, ⟨_, _, rfl, rfl, rfl⟩,
    by decide +kernel⟩

end Tools

end Backlog
