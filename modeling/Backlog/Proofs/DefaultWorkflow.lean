import Backlog.Proofs.Creating
import Backlog.Proofs.StrictRead
/-!
# The default workflow

The default workflow is looked for in three places, and each has its own way of failing. A
team may name it; that a team cannot be loaded is logged and passed over (`Tools.Told`). The
workflow that a team names is shown from the cache, which is seen to first, a refill that
fails being passed over as well, and is asked for if the cache lacks it; that it is not
there is a fault (`Tools.ShowsNamed`). Without a team that names one, the first workflow of
the cache is shown, and here the cache has to be fresh (`Tools.ShowsFirst`). Whatever
happens, a team, the list of workflows and a workflow are asked for once at most, in this
order (`Tools.getDefaultWorkflow_goes`).
-/

namespace Backlog

namespace Session

/-- Seeing to a cache leaves it keyed by ids. -/
theorem keyedById_seenTo {kind : Kind} (hkind : kind ∈ Kind.cached) (remote : Remote) {s : Session}
    (h : (s.cacheOf kind).KeyedById) : ((s.seenTo remote kind).cacheOf kind).KeyedById := by
  rw [seenTo]
  split
  · exact keyedById_refilled hkind h
  · exact h

end Session

namespace Resolver

/-- The entities that a cache has of some ids, under these. -/
def knownAmong (cache : Cache) (ids : List Atom) : Table Atom Value :=
  ids.eraseDups.filterMap fun id =>
    match cache.get? id with
    | some entity => if entity.isNull then none else some (id, entity)
    | none => none

theorem knownAmong_of_get?_eq_none {cache : Cache} {id : Atom} (h : cache.get? id = none) :
    knownAmong cache [id] = [] := by
  have hone : [id].eraseDups = [id] := rfl
  rw [knownAmong, hone]
  simp only [List.filterMap_cons, h, List.filterMap_nil]

theorem knownAmong_of_get?_eq_some {cache : Cache} {id : Atom} {entity : Value}
    (h : cache.get? id = some entity) (hentity : entity.isNull = false) :
    knownAmong cache [id] = [(id, entity)] := by
  have hone : [id].eraseDups = [id] := rfl
  rw [knownAmong, hone]
  simp [h, hentity]

/-- **The entities with some ids**, of a kind that is cached: those that the cache holds
once it has been seen to. -/
theorem referenceMap_apply {kind : Kind} (hc : kind ∈ Kind.cached) (ids : List Atom)
    (remote : Remote) {s : Session} (hdecided : s.isStale kind = .ok (s.knownStale kind)) :
    ∃ log, referenceMap kind (.list (ids.map .atom)) remote s =
      (.ok (knownAmong ((s.seenTo remote kind).cacheOf kind) ids),
        { s.seenTo remote kind with log }) := by
  obtain ⟨log, hfresh⟩ := ensureFresh_apply hc remote hdecided
  refine ⟨log, ?_⟩
  rw [referenceMap, Run.bind_of_ok _ hfresh, Run.bind_apply, cache_apply hc]
  dsimp only
  rw [Run.bind_apply, Run.lift_apply, Value.elements]
  dsimp only
  rw [Run.bind_apply, Run.lift_apply, Value.mapM_asId_atoms]
  rfl

end Resolver

namespace Tools

theorem workflows_mem_cached : Kind.workflows ∈ Kind.cached := by simp [Kind.cached]

/-! ## What is asked -/

/-- Getting an entity asks for it where it is, and for nothing else. -/
theorem exists_asks_of_getEntity {kind : Kind} {id : Value} {path : String}
    (hpath : Api.entityPath kind id = .ok path) {remote : Remote} {s m : Session}
    {result : Except Fault Value} (h : Api.getEntity kind id remote s = (result, m)) :
    ∃ asked, m = { s with exchanges := s.exchanges ++ asked } ∧ Asks s.client path asked := by
  rw [Api.getEntity, Run.bind_apply, Run.lift_apply, hpath] at h
  dsimp only at h
  rw [Api.getIfThere, Api.request_apply] at h
  cases hasked : Api.outgoing s.client .get path [] none with
  | error fault =>
    rw [hasked] at h
    cases h
    exact ⟨[], by rw [List.append_nil], .nil _ _⟩
  | ok request =>
    rw [hasked] at h
    cases h
    exact ⟨_, rfl, asks_of_outgoing hasked _⟩

/-- What an ask adds is about its path. -/
theorem asks_exchanges {ask : Ask} {path : String} (hpath : ask.path = .ok path) (remote : Remote)
    (client : Client) (past : List Http.Exchange) :
    Asks client path (ask.exchanges remote client past) := by
  rw [Ask.exchanges, Ask.request, hpath]
  simp only [bind, Except.bind]
  cases hasked : Api.outgoing client .get path [] none with
  | error fault => exact .nil _ _
  | ok request => exact asks_of_outgoing hasked _

/-! ## Showing a workflow -/

/-- **A workflow is shown under a title**, and nothing with it: it refers to nothing. -/
def ShowsWorkflow (title : String) (workflow : Value) (result : Except Fault String) : Prop :=
  ∃ shaped, Entity.shape .workflows workflow false = .ok shaped ∧
    result = .ok (Report.render title
      (.object [("workflow", .object shaped), ("relatedEntities", .object [])]))

/-- Resolving a workflow asks for nothing and changes nothing. -/
theorem resolveOne_workflow (workflow : Value) (remote : Remote) (s : Session) :
    Resolver.resolveOne .workflows workflow {} remote s =
      (Hydrated.ofFirst .workflows [workflow] {} {} (.list s.caches.workflows.values), s) := by
  -- a workflow has no references, so there is nothing to look up
  have hids : IdsByKind.ofEntities .workflows [workflow] = .ok [] := rfl
  have hrefs : Resolver.resolveRefs [] remote s = (.ok {}, s) := rfl
  have hknown : Resolver.knownWorkflows remote s =
      (.ok (.list s.caches.workflows.values), s) := rfl
  rw [Resolver.resolveOne, Run.bind_apply, Run.lift_apply, hids]
  dsimp only
  rw [Run.bind_of_ok _ hrefs, Run.bind_of_ok _ hknown, Run.lift_apply]

/-- **A workflow that is an object is shown.** -/
theorem exists_shown (title : String) (workflow : Value) (remote : Remote) (s : Session) :
    ∃ result, (Resolver.resolveOne .workflows workflow >>= fun hydrated =>
        pure (Report.render title hydrated.toValue)) remote s = (result, s) ∧
      ((∃ fields, workflow = .object fields) → ShowsWorkflow title workflow result) := by
  rw [Run.bind_apply, resolveOne_workflow]
  by_cases hobject : ∃ fields, workflow = .object fields
  · obtain ⟨fields, rfl⟩ := hobject
    obtain ⟨shaped, hshaped⟩ : ∃ shaped,
        Entity.shape .workflows (.object fields) false = .ok shaped := Entity.exists_shape nofun
    have hresult : Hydrated.ofFirst .workflows [.object fields] {} {}
        (.list s.caches.workflows.values) = .ok ⟨"workflow", .object shaped, [], {}⟩ := by
      simp only [Hydrated.ofFirst, Hydrated.decorateAll, List.mapM_cons, List.mapM_nil,
        Hydrated.decorate, hshaped]
      rfl
    rw [hresult]
    exact ⟨_, rfl, fun _ => ⟨shaped, hshaped, rfl⟩⟩
  · cases Hydrated.ofFirst .workflows [workflow] {} {} (.list s.caches.workflows.values) with
    | ok hydrated => exact ⟨_, rfl, fun h => absurd h hobject⟩
    | error fault => exact ⟨_, rfl, fun h => absurd h hobject⟩

/-! ## The workflow that a team names -/

/-- The fields of a team from which its workflows can be read. -/
structure HasWorkflows (team : Table String Value) : Prop where
  /-- The default is an id. -/
  default : ∃ id : Atom, Value.fieldOf team "default_workflow_id" = .atom id
  /-- The workflows are ids, if there are any. -/
  workflows : (Value.fieldOf team "workflow_ids").truthy = true →
    ∃ ids : List Atom, Value.fieldOf team "workflow_ids" = .list (ids.map .atom)

/-- **The workflow that a team names**: its default if that counts as something, or else
the first of its workflows, unless that is null. -/
inductive NamesWorkflow (team : Table String Value) : Option Atom → Prop where
  /-- The default. -/
  | default {id : Atom} (hid : Value.fieldOf team "default_workflow_id" = .atom id)
      (htruthy : (Value.atom id).truthy = true) : NamesWorkflow team (some id)
  /-- The first, of a team without a default. -/
  | first {id : Atom} {rest : List Value}
      (hnone : (Value.fieldOf team "default_workflow_id").truthy = false)
      (hids : Value.fieldOf team "workflow_ids" = .list (.atom id :: rest))
      (hid : (Value.atom id).isNull = false) : NamesWorkflow team (some id)
  /-- Nothing, of a team whose first workflow is null. -/
  | null {rest : List Value}
      (hnone : (Value.fieldOf team "default_workflow_id").truthy = false)
      (hids : Value.fieldOf team "workflow_ids" = .list (.null :: rest)) : NamesWorkflow team none
  /-- Nothing, of a team without workflows. -/
  | nothing (hnone : (Value.fieldOf team "default_workflow_id").truthy = false)
      (hids : (Value.fieldOf team "workflow_ids").truthy = false) : NamesWorkflow team none

/-- What a team names, as a value. -/
def namedValue (named : Option Atom) : Value := named.elim .null .atom

variable {team : Table String Value} {named : Option Atom}

/-- **A team names one workflow or none.** -/
theorem HasWorkflows.exists_names (h : HasWorkflows team) : ∃ named, NamesWorkflow team named := by
  obtain ⟨default, hdefault⟩ := h.default
  cases htruthy : (Value.fieldOf team "default_workflow_id").truthy with
  | true => exact ⟨_, .default hdefault (hdefault ▸ htruthy)⟩
  | false =>
    cases hsome : (Value.fieldOf team "workflow_ids").truthy with
    | false => exact ⟨_, .nothing htruthy hsome⟩
    | true =>
      obtain ⟨ids, hids⟩ := h.workflows hsome
      cases ids with
      | nil =>
        rw [hids] at hsome
        cases hsome
      | cons id rest =>
        cases hnull : (Value.atom id).isNull with
        | false => exact ⟨_, .first htruthy hids hnull⟩
        | true =>
          have hid : Value.atom id = .null := Value.eq_null_of_isNull hnull
          rw [List.map_cons, hid] at hids
          exact ⟨_, .null htruthy hids⟩

/-- What a team names is what is read of it. -/
theorem NamesWorkflow.defaultWorkflowOf_eq (h : NamesWorkflow team named) :
    defaultWorkflowOf (.object team) = .ok (namedValue named) := by
  have hfield : ∀ name, (Value.object team).field name = .ok (Value.fieldOf team name) :=
    fun _ => rfl
  rw [Tools.defaultWorkflowOf, hfield, hfield]
  simp only [bind, Except.bind]
  cases h with
  | default hid htruthy =>
    rw [hid, if_pos htruthy]
    rfl
  | first hnone hids hid =>
    rw [if_neg (Bool.eq_false_iff.1 hnone), hids]
    rfl
  | null hnone hids =>
    rw [if_neg (Bool.eq_false_iff.1 hnone), hids]
    rfl
  | nothing hnone hids =>
    rw [if_neg (Bool.eq_false_iff.1 hnone), if_neg (Bool.eq_false_iff.1 hids)]
    rfl

/-- A workflow that is named is not null. -/
theorem NamesWorkflow.isNull_eq_false {id : Atom} (h : NamesWorkflow team (some id)) :
    (Value.atom id).isNull = false := by
  cases h with
  | default hid htruthy =>
    cases id with
    | null => cases htruthy
    | _ => rfl
  | first hnone hids hid => exact hid

/-! ## The team -/

/-- What is logged for a team that cannot be loaded. -/
def couldNotLoad (team : Value) (fault : ApiFault) : LogLine :=
  ⟨.warning, "Could not load team " ++ team.display ++ ", using workspace default: " ++
    fault.message⟩

/-- **What there is to know of a team**: the workflow that it names, if any, and the session
in which that is known. -/
inductive Told (team : Value) (remote : Remote) (s : Session) : Option Atom → Session → Prop where
  /-- No team is given, and nothing is asked. -/
  | notGiven (hteam : team.truthy = false) : Told team remote s none s
  /-- The tracker cannot give the team, which is logged. -/
  | failed {fault : ApiFault} {m : Session} (hteam : team.truthy = true)
      (hload : Api.getEntity .teams team remote s = (.error (.api fault), m)) :
      Told team remote s none { m with log := m.log ++ [couldNotLoad team fault] }
  /-- There is no such team. -/
  | missing {entity : Value} {m : Session} (hteam : team.truthy = true)
      (hload : Api.getEntity .teams team remote s = (.ok entity, m))
      (hnothing : entity.truthy = false) : Told team remote s none m
  /-- The team is there, and names a workflow or none. -/
  | loaded {fields : Table String Value} {named : Option Atom} {m : Session}
      (hteam : team.truthy = true)
      (hload : Api.getEntity .teams team remote s = (.ok (.object fields), m))
      (hnames : NamesWorkflow fields named) : Told team remote s named m

section

variable {team : Value} {remote : Remote} {s m t : Session} {named : Option Atom}

/-- Asking for the team is all that changes the session, but for the log. -/
theorem Told.exists_asks (h : Told team remote s named m) :
    ∃ asked log, m = { s with exchanges := s.exchanges ++ asked, log } ∧
      Asks s.client (teamPath team) asked := by
  cases h with
  | notGiven hteam => exact ⟨[], s.log, by rw [List.append_nil], .nil _ _⟩
  | failed hteam hload =>
    obtain ⟨asked, rfl, hasks⟩ := exists_asks_of_getEntity (entityPath_teams team) hload
    exact ⟨asked, _, rfl, hasks⟩
  | missing hteam hload hnothing =>
    obtain ⟨asked, rfl, hasks⟩ := exists_asks_of_getEntity (entityPath_teams team) hload
    exact ⟨asked, _, rfl, hasks⟩
  | loaded hteam hload hnames =>
    obtain ⟨asked, rfl, hasks⟩ := exists_asks_of_getEntity (entityPath_teams team) hload
    exact ⟨asked, _, rfl, hasks⟩

/-- Shows the workflow that a team names. -/
def showNamed (team id : Value) : Action String := do
  let workflow ← cachedWorkflow id
  let hydrated ← Resolver.resolveOne .workflows workflow
  pure (Report.render ("Default workflow for team " ++ team.display ++ ":") hydrated.toValue)

/-- What is shown once it is known what a team names. -/
def showTold (team : Value) : Option Atom → Action String
  | some id => showNamed team (.atom id)
  | none => workspaceWorkflow

/-- The id that is read of a team that was given. -/
theorem Told.defaultWorkflowId_eq (h : Told team remote s named m) (hteam : team.truthy = true) :
    defaultWorkflowId team remote s = (.ok (namedValue named), m) ∧
      ∀ id, named = some id → (Value.atom id).isNull = false := by
  have hnone : ∀ id, (none : Option Atom) = some id → (Value.atom id).isNull = false := nofun
  rw [Tools.defaultWorkflowId, Run.bind_apply, teamIfThere, Run.bind_apply, Run.attempt_apply]
  cases h with
  | notGiven hnot => exact absurd (hteam.symm.trans hnot) Bool.true_eq_false.mp
  | failed _ hload =>
    rw [hload]
    exact ⟨rfl, hnone⟩
  | missing _ hload hnothing =>
    rw [hload]
    refine ⟨?_, hnone⟩
    dsimp only
    rw [Run.pure_apply]
    dsimp only
    -- what counts as nothing is read as a team without fields
    rw [Value.orNoFields, Value.orElse, if_neg (Bool.eq_false_iff.1 hnothing)]
    rfl
  | @loaded fields _ _ _ hload hnames =>
    rw [hload]
    refine ⟨?_, fun id hid => (hid ▸ hnames).isNull_eq_false⟩
    have hfields : (Value.object fields).orNoFields = .object fields := by
      cases fields <;> rfl
    dsimp only
    rw [Run.pure_apply]
    dsimp only
    rw [hfields, Run.lift_apply, hnames.defaultWorkflowOf_eq]

/-- **What is known of the team decides what is shown.** -/
theorem Told.getDefaultWorkflow_eq (h : Told team remote s named m) :
    getDefaultWorkflow team remote s = showTold team named remote m := by
  rw [Tools.getDefaultWorkflow]
  cases hteam : team.truthy with
  | false =>
    cases h with
    | notGiven => rfl
    | failed hgiven => exact absurd (hgiven.symm.trans hteam) Bool.true_eq_false.mp
    | missing hgiven => exact absurd (hgiven.symm.trans hteam) Bool.true_eq_false.mp
    | loaded hgiven => exact absurd (hgiven.symm.trans hteam) Bool.true_eq_false.mp
  | true =>
    obtain ⟨hid, hnull⟩ := h.defaultWorkflowId_eq hteam
    rw [if_pos rfl, Run.bind_of_ok _ hid]
    cases named with
    | none => rfl
    | some id =>
      rw [namedValue, Option.elim, hnull id rfl, if_neg Bool.false_ne_true]
      rfl

/-- A fault of another kind is not passed over. -/
theorem getDefaultWorkflow_of_broken (hteam : team.truthy = true) {fault : Fault}
    (hload : Api.getEntity .teams team remote s = (.error fault, m))
    (hfault : ∀ own, fault ≠ .api own) :
    getDefaultWorkflow team remote s = (.error fault, m) := by
  have hthere : teamIfThere team remote s = (.error fault, m) := by
    rw [teamIfThere, Run.bind_apply, Run.attempt_apply, hload]
    cases fault with
    | api own => exact absurd rfl (hfault own)
    | _ => rfl
  have hid : Tools.defaultWorkflowId team remote s = (.error fault, m) := by
    rw [Tools.defaultWorkflowId, Run.bind_of_error _ hthere]
  rw [Tools.getDefaultWorkflow, if_pos hteam, Run.bind_of_error _ hid]

end

/-! ## The workflow that is named -/

/-- How a workflow is shown that is asked for. -/
structure ShowsAsked (remote : Remote) (title : String) (id : Atom) (n : Session)
    (result : Except Fault String) (t : Session) : Prop where
  /-- It is asked for once, and nothing else is. -/
  asked : t.exchanges = n.exchanges ++
    (Ask.fetch .workflows id).exchanges remote n.client n.exchanges
  /-- It is shown if it is there. -/
  found : ∀ fields,
    (Ask.fetch .workflows id).answer remote n.client n.exchanges = .ok (.object fields) →
      ShowsWorkflow title (.object fields) result
  /-- That it is not there is a fault. -/
  missing : (Ask.fetch .workflows id).answer remote n.client n.exchanges = .ok .null →
    result = .error (.api (.missingEntity Kind.workflows.singular (.atom id)))
  /-- A fault of the tracker is passed on. -/
  failed : ∀ fault, (Ask.fetch .workflows id).answer remote n.client n.exchanges = .error fault →
    result = .error fault

/-- **How the workflow that a team names is shown**, once the cache has been seen to. -/
structure ShowsNamed (remote : Remote) (title : String) (id : Atom) (n : Session)
    (result : Except Fault String) (t : Session) : Prop where
  /-- What the cache has is shown, and nothing is asked. -/
  cached : ∀ workflow, (n.cacheOf .workflows).get? id = some workflow →
    ShowsWorkflow title workflow result ∧ t.exchanges = n.exchanges
  /-- What it lacks is asked for. -/
  lacking : (n.cacheOf .workflows).get? id = none → ShowsAsked remote title id n result t

/-- An object that is kept under its id counts as something. -/
theorem truthy_of_get? {fields : Table String Value} {v : Value}
    (h : Table.get? fields "id" = some v) : (Value.object fields).truthy = true := by
  cases fields with
  | nil => cases h
  | cons field rest => rfl

/-- **The workflow that is named is taken from the cache**, if it has it, and asked for
otherwise. -/
theorem cachedWorkflow_apply (id : Atom) (remote : Remote) {m : Session}
    (hkeyed : (m.cacheOf .workflows).KeyedById)
    (hdecided : m.isStale .workflows = .ok (m.knownStale .workflows)) :
    ∃ log, cachedWorkflow (.atom id) remote m =
      match ((m.seenTo remote .workflows).cacheOf .workflows).get? id with
      | some workflow => (.ok workflow, { m.seenTo remote .workflows with log })
      | none =>
        requireEntity .workflows (.atom id) remote { m.seenTo remote .workflows with log } := by
  obtain ⟨log, hmap⟩ := Resolver.referenceMap_apply workflows_mem_cached [id] remote hdecided
  refine ⟨log, ?_⟩
  rw [List.map_singleton] at hmap
  rw [cachedWorkflow, Run.bind_of_ok _ hmap, Run.bind_apply, Run.lift_apply, Value.asId]
  dsimp only
  cases hget : ((m.seenTo remote .workflows).cacheOf .workflows).get? id with
  | none =>
    rw [Resolver.knownAmong_of_get?_eq_none hget]
    rfl
  | some workflow =>
    obtain ⟨fields, own, rfl, hown⟩ :=
      (Session.keyedById_seenTo workflows_mem_cached remote hkeyed).of_get? hget
    have hentry : Table.get? [(id, Value.object fields)] id = some (.object fields) := by
      simp [Table.get?]
    -- what is kept under its id counts as something, so it is not asked for again
    rw [Resolver.knownAmong_of_get?_eq_some hget rfl, hentry, Option.getD_some,
      if_pos (truthy_of_get? hown)]
    rfl

/-- **How showing a workflow goes that is asked for.** -/
theorem showsAsked_goes (title : String) (id : Atom) (remote : Remote) (n : Session)
    (log : List LogLine) :
    ∃ result t, (requireEntity .workflows (.atom id) >>= fun workflow =>
        Resolver.resolveOne .workflows workflow >>= fun hydrated =>
          pure (Report.render title hydrated.toValue)) remote { n with log } = (result, t) ∧
      ShowsAsked remote title id n result t := by
  rw [Run.bind_apply, requireEntity, Run.bind_apply, Api.getEntity_apply]
  dsimp only
  cases hanswer : (Ask.fetch .workflows id).answer remote n.client n.exchanges with
  | error fault =>
    refine ⟨_, _, rfl, rfl, fun fields h => ?_, fun h => ?_, fun other h => ?_⟩
    · cases hanswer.symm.trans h
    · cases hanswer.symm.trans h
    · cases hanswer.symm.trans h
      rfl
  | ok entity =>
    dsimp only
    cases hnull : entity.isNull with
    | true =>
      cases Value.eq_null_of_isNull hnull
      refine ⟨_, _, rfl, rfl, fun fields h => ?_, fun _ => rfl, fun fault h => ?_⟩
      · cases hanswer.symm.trans h
      · cases hanswer.symm.trans h
    | false =>
      rw [if_neg Bool.false_ne_true, Run.pure_apply]
      dsimp only
      obtain ⟨result, hrun, hshown⟩ := exists_shown title entity remote
        (Session.asked remote (.fetch .workflows id) { n with log })
      refine ⟨result, _, hrun, rfl, fun fields h => ?_, fun h => ?_, fun fault h => ?_⟩
      · cases hanswer.symm.trans h
        exact hshown ⟨fields, rfl⟩
      · cases hanswer.symm.trans h
        cases hnull
      · cases hanswer.symm.trans h

/-- **How showing the workflow that a team names goes.** -/
theorem showNamed_goes (team : Value) (id : Atom) (remote : Remote) {m : Session}
    (hkeyed : (m.cacheOf .workflows).KeyedById)
    (hdecided : m.isStale .workflows = .ok (m.knownStale .workflows)) :
    ∃ result t, showNamed team (.atom id) remote m = (result, t) ∧
      ShowsNamed remote ("Default workflow for team " ++ team.display ++ ":") id
        (m.seenTo remote .workflows) result t := by
  obtain ⟨log, hrun⟩ := cachedWorkflow_apply id remote hkeyed hdecided
  rw [showNamed, Run.bind_apply, hrun]
  cases hget : ((m.seenTo remote .workflows).cacheOf .workflows).get? id with
  | none =>
    obtain ⟨result, t, hasked, hshows⟩ := showsAsked_goes
      ("Default workflow for team " ++ team.display ++ ":") id remote
      (m.seenTo remote .workflows) log
    refine ⟨result, t, hasked, fun workflow h => ?_, fun _ => hshows⟩
    cases hget.symm.trans h
  | some workflow =>
    obtain ⟨fields, -, rfl, -⟩ :=
      (Session.keyedById_seenTo workflows_mem_cached remote hkeyed).of_get? hget
    obtain ⟨result, hshown, hshows⟩ := exists_shown
      ("Default workflow for team " ++ team.display ++ ":") (.object fields) remote
      { m.seenTo remote .workflows with log }
    refine ⟨result, _, hshown, fun other h => ?_, fun h => ?_⟩
    · cases hget.symm.trans h
      exact ⟨hshows ⟨fields, rfl⟩, rfl⟩
    · cases hget.symm.trans h

/-! ## The first workflow -/

/-- **What is shown of the workspace**: the first of its workflows, if it has any. -/
def ShowsFirst (workflows : List Value) (result : Except Fault String) : Prop :=
  match workflows with
  | [] => result = .ok (Report.render "No default workflow found.")
  | workflow :: _ => ShowsWorkflow "Workspace default workflow:" workflow result

/-- **How the workflow of the workspace is shown**, from a cache that has to be fresh. -/
structure ShowsWorkspace (remote : Remote) (m : Session) (result : Except Fault String)
    (t : Session) : Prop where
  /-- Nothing is asked but what it takes to see to the cache. -/
  asked : t.exchanges = (m.seenTo remote .workflows).exchanges
  /-- The first workflow of a cache that was fresh, or has just been loaded. -/
  fresh : (m.isStale .workflows = .ok true →
      ∃ table, Ask.snapshot remote m.client m.exchanges .workflows = .ok table) →
    ShowsFirst ((m.seenTo remote .workflows).cacheOf .workflows).values result
  /-- That a stale cache cannot be loaded is a fault. -/
  refused : m.isStale .workflows = .ok true → ∀ fault,
    Ask.snapshot remote m.client m.exchanges .workflows = .error fault → result = .error fault

/-- **How showing the workflow of the workspace goes.** -/
theorem workspaceWorkflow_goes (remote : Remote) {m : Session}
    (hkeyed : (m.cacheOf .workflows).KeyedById)
    (hdecided : m.isStale .workflows = .ok (m.knownStale .workflows)) :
    ∃ result t, workspaceWorkflow remote m = (result, t) ∧ ShowsWorkspace remote m result t := by
  -- only a stale cache whose list does not come is not served
  by_cases hrefused : ∃ fault, m.isStale .workflows = .ok true ∧
      Ask.snapshot remote m.client m.exchanges .workflows = .error fault
  · obtain ⟨fault, hstale, hfault⟩ := hrefused
    obtain ⟨log, hrun⟩ := Resolver.referenceValues_of_refused workflows_mem_cached hstale hfault
    refine ⟨.error fault, _, Run.bind_of_error _ hrun, ?_, fun h => ?_, fun _ other hother => ?_⟩
    · rw [Session.seenTo, Session.knownStale_iff.2 hstale, if_pos rfl,
        Session.refilled_of_error hfault]
    · obtain ⟨table, htable⟩ := h hstale
      cases hfault.symm.trans htable
    · cases hfault.symm.trans hother
      rfl
  · have hloads : m.isStale .workflows = .ok true →
        ∃ table, Ask.snapshot remote m.client m.exchanges .workflows = .ok table := by
      intro hstale
      cases hsnapshot : Ask.snapshot remote m.client m.exchanges .workflows with
      | ok table => exact ⟨table, rfl⟩
      | error fault => exact absurd ⟨fault, hstale, hsnapshot⟩ hrefused
    obtain ⟨log, hrun⟩ := Resolver.referenceValues_strict_apply workflows_mem_cached remote hdecided hloads
    obtain ⟨n, hn⟩ : ∃ n, n = m.seenTo remote .workflows := ⟨_, rfl⟩
    have hkept : (n.cacheOf .workflows).KeyedById :=
      hn ▸ Session.keyedById_seenTo workflows_mem_cached remote hkeyed
    rw [← hn] at hrun
    rw [workspaceWorkflow, Run.bind_of_ok _ hrun]
    cases hvalues : (n.cacheOf .workflows).values with
    | nil =>
      refine ⟨_, _, rfl, by rw [← hn], fun _ => ?_, fun hstale fault hfault => ?_⟩
      · rw [← hn, hvalues]
        rfl
      · exact absurd ⟨fault, hstale, hfault⟩ hrefused
    | cons workflow rest =>
      obtain ⟨fields, -, hfields, -⟩ := hkept.of_mem_values (hvalues ▸ List.mem_cons_self)
      obtain ⟨result, hshown, hshows⟩ :=
        exists_shown "Workspace default workflow:" workflow remote { n with log }
      refine ⟨result, _, hshown, by rw [← hn], fun _ => ?_, fun hstale fault hfault => ?_⟩
      · rw [← hn, hvalues]
        exact hshows ⟨fields, hfields⟩
      · exact absurd ⟨fault, hstale, hfault⟩ hrefused

/-! ## All in all -/

/-- A team that is there has workflows that can be read. -/
def TeamReadable (team : Value) (remote : Remote) (s : Session) : Prop :=
  ∀ entity m, Api.getEntity .teams team remote s = (.ok entity, m) → entity.truthy = true →
    ∃ fields, entity = .object fields ∧ HasWorkflows fields

/-- **A team that cannot be asked for**, for another reason than what the tracker answers. -/
structure TeamBroken (team : Value) (remote : Remote) (s : Session) (fault : Fault)
    (m : Session) : Prop where
  /-- A team is given. -/
  given : team.truthy = true
  /-- Loading it ends in the fault. -/
  load : Api.getEntity .teams team remote s = (.error fault, m)
  /-- This is not one of the tracker. -/
  fault : ∀ own, fault ≠ .api own

/-- **What is asked at most**: for a team, for the list of workflows and for a workflow, once
each and in this order. -/
def AsksOnce (team : Value) (s t : Session) : Prop :=
  ∃ asked listed fetched, t.exchanges = s.exchanges ++ asked ++ listed ++ fetched ∧
    Asks s.client (teamPath team) asked ∧ Asks s.client "/workflows" listed ∧
      ∃ id : Atom, Asks s.client (workflowPath (.atom id)) fetched

/-- **How the default workflow is shown.** -/
structure DefaultGoes (team : Value) (remote : Remote) (s : Session)
    (result : Except Fault String) (t : Session) : Prop where
  /-- The team tells what there is to know of it, unless it cannot be asked for. -/
  told : (∃ named m, Told team remote s named m) ∨ ∃ fault m, TeamBroken team remote s fault m
  /-- A workflow that the team names is shown. -/
  named : ∀ id m, Told team remote s (some id) m →
    m.isStale .workflows = .ok (m.knownStale .workflows) →
      ShowsNamed remote ("Default workflow for team " ++ team.display ++ ":") id
        (m.seenTo remote .workflows) result t
  /-- Else that of the workspace is. -/
  workspace : ∀ m, Told team remote s none m →
    m.isStale .workflows = .ok (m.knownStale .workflows) → ShowsWorkspace remote m result t
  /-- What keeps it from being told whether the cache is stale is a fault. -/
  undecided : ∀ named m, Told team remote s named m → ∀ fault,
    m.isStale .workflows = .error fault → result = .error fault ∧ t = m
  /-- So is what keeps the team from being asked for. -/
  broken : ∀ fault m, TeamBroken team remote s fault m → result = .error fault ∧ t = m
  /-- Nothing is asked twice. -/
  asks : AsksOnce team s t

section

variable {team : Value} {remote : Remote} {s m t : Session} {named : Option Atom}

/-- **A team that can be read tells what there is to know**, or it cannot be asked for. -/
theorem exists_told (h : TeamReadable team remote s) :
    (∃ named m, Told team remote s named m) ∨ ∃ fault m, TeamBroken team remote s fault m := by
  cases hteam : team.truthy with
  | false => exact .inl ⟨_, _, .notGiven hteam⟩
  | true =>
    obtain ⟨loaded, m, hload⟩ : ∃ loaded m, Api.getEntity .teams team remote s = (loaded, m) :=
      ⟨_, _, rfl⟩
    cases loaded with
    | error fault =>
      by_cases hfault : ∃ own, fault = .api own
      · obtain ⟨own, rfl⟩ := hfault
        exact .inl ⟨_, _, .failed hteam hload⟩
      · exact .inr ⟨fault, m, hteam, hload, fun own heq => hfault ⟨own, heq⟩⟩
    | ok entity =>
      cases htruthy : entity.truthy with
      | false => exact .inl ⟨_, _, .missing hteam hload htruthy⟩
      | true =>
        obtain ⟨fields, rfl, hfields⟩ := h entity m hload htruthy
        obtain ⟨named, hnames⟩ := hfields.exists_names
        exact .inl ⟨_, _, .loaded hteam hload hnames⟩

/-- Seeing to the cache asks for the list at most. -/
theorem exists_asks_of_seenTo (remote : Remote) (s : Session) :
    ∃ listed, (s.seenTo remote .workflows).exchanges = s.exchanges ++ listed ∧
      Asks s.client "/workflows" listed := by
  rw [Session.seenTo]
  split
  · exact ⟨_, Session.exchanges_refilled remote .workflows s, asks_exchanges rfl _ _ _⟩
  · exact ⟨[], (List.append_nil _).symm, .nil _ _⟩

/-- What is shown of a session in which it cannot be told whether the cache is stale. -/
theorem showTold_of_undecided {fault : Fault} (h : m.isStale .workflows = .error fault) :
    showTold team named remote m = (.error fault, m) := by
  -- both ways to a workflow begin with seeing to the cache
  have hfresh : ∀ strict, Resolver.ensureFresh .workflows strict remote m = (.error fault, m) := by
    intro strict
    rw [Resolver.ensureFresh, Run.bind_apply, Resolver.isStale_apply workflows_mem_cached, h]
  cases named with
  | none =>
    have hvalues : Resolver.referenceValues .workflows true remote m = (.error fault, m) :=
      Run.bind_of_error _ (hfresh true)
    exact Run.bind_of_error _ hvalues
  | some id =>
    have hmap : Resolver.referenceMap .workflows (.list [.atom id]) remote m = (.error fault, m) :=
      Run.bind_of_error _ (hfresh false)
    have hcached : cachedWorkflow (.atom id) remote m = (.error fault, m) :=
      Run.bind_of_error _ hmap
    exact Run.bind_of_error _ hcached

/-- What is asked after the team: for the list, and then for one workflow. -/
theorem Told.asksOnce (h : Told team remote s named m) {listed fetched : List Http.Exchange}
    {id : Atom} (hlisted : Asks m.client "/workflows" listed)
    (hfetched : Asks m.client (workflowPath (.atom id)) fetched)
    (ht : t.exchanges = m.exchanges ++ listed ++ fetched) : AsksOnce team s t := by
  obtain ⟨asked, log, rfl, hasked⟩ := h.exists_asks
  exact ⟨asked, listed, fetched, ht, hasked, hlisted, id, hfetched⟩

/-- Showing a workflow that is named asks for the list and for it at most. -/
theorem ShowsNamed.asksOnce {title : String} {id : Atom} {result : Except Fault String}
    (h : ShowsNamed remote title id (m.seenTo remote .workflows) result t)
    (htold : Told team remote s named m) : AsksOnce team s t := by
  obtain ⟨listed, hseen, hlisted⟩ := exists_asks_of_seenTo remote m
  cases hget : ((m.seenTo remote .workflows).cacheOf .workflows).get? id with
  | some workflow =>
    refine htold.asksOnce hlisted (.nil _ (workflowPath (.atom id))) ?_
    rw [(h.cached workflow hget).2, hseen, List.append_nil]
  | none =>
    have hpath : (Ask.fetch .workflows id).path = .ok (workflowPath (.atom id)) := rfl
    refine htold.asksOnce hlisted (asks_exchanges hpath remote m.client (m.exchanges ++ listed)) ?_
    rw [(h.lacking hget).asked, Session.client_seenTo, hseen]

/-- Showing the workflow of the workspace asks for the list at most. -/
theorem ShowsWorkspace.asksOnce {result : Except Fault String}
    (h : ShowsWorkspace remote m result t) (htold : Told team remote s named m) :
    AsksOnce team s t := by
  obtain ⟨listed, hseen, hlisted⟩ := exists_asks_of_seenTo remote m
  refine htold.asksOnce hlisted (.nil _ (workflowPath .null)) ?_
  rw [h.asked, hseen, List.append_nil]

section Clauses

variable {result : Except Fault String}
variable (hrun : getDefaultWorkflow team remote s = (result, t))
variable (hkeyed : (s.cacheOf .workflows).KeyedById)

include hrun

/-- What is known of the team decides what the run does. -/
theorem Told.showTold_eq (h : Told team remote s named m) :
    showTold team named remote m = (result, t) := h.getDefaultWorkflow_eq.symm.trans hrun

omit hrun in
include hkeyed in
/-- The cache is as it was once that is known. -/
theorem Told.keyedById (h : Told team remote s named m) :
    (m.cacheOf .workflows).KeyedById := by
  obtain ⟨asked, log, rfl, -⟩ := h.exists_asks
  exact hkeyed

include hkeyed in
/-- A team that names a workflow. -/
theorem Told.showsNamed {id : Atom} (h : Told team remote s (some id) m)
    (hdecided : m.isStale .workflows = .ok (m.knownStale .workflows)) :
    ShowsNamed remote ("Default workflow for team " ++ team.display ++ ":") id
      (m.seenTo remote .workflows) result t := by
  obtain ⟨result', t', hshown, hshows⟩ :=
    showNamed_goes team id remote (h.keyedById hkeyed) hdecided
  cases (h.showTold_eq hrun).symm.trans hshown
  exact hshows

include hkeyed in
/-- No team that names one. -/
theorem Told.showsWorkspace (h : Told team remote s none m)
    (hdecided : m.isStale .workflows = .ok (m.knownStale .workflows)) :
    ShowsWorkspace remote m result t := by
  obtain ⟨result', t', hshown, hshows⟩ :=
    workspaceWorkflow_goes remote (h.keyedById hkeyed) hdecided
  cases (h.showTold_eq hrun).symm.trans hshown
  exact hshows

theorem Told.eq_of_undecided (h : Told team remote s named m) {fault : Fault}
    (hfault : m.isStale .workflows = .error fault) : result = .error fault ∧ t = m := by
  cases (h.showTold_eq hrun).symm.trans (showTold_of_undecided hfault)
  exact ⟨rfl, rfl⟩

theorem TeamBroken.eq_of_run {fault : Fault} (h : TeamBroken team remote s fault m) :
    result = .error fault ∧ t = m := by
  cases hrun.symm.trans (getDefaultWorkflow_of_broken h.given h.load h.fault)
  exact ⟨rfl, rfl⟩

include hkeyed in
/-- Once it is known what a team names, the list and a workflow are asked for at most. -/
theorem Told.asksOnce_of_run (h : Told team remote s named m) : AsksOnce team s t := by
  cases hstale : m.isStale .workflows with
  | error fault =>
    obtain ⟨-, rfl⟩ := h.eq_of_undecided hrun hstale
    refine h.asksOnce (.nil _ _) (.nil _ (workflowPath .null)) ?_
    rw [List.append_nil, List.append_nil]
  | ok stale =>
    have hdecided : m.isStale .workflows = .ok (m.knownStale .workflows) := by
      rw [Session.knownStale, hstale]
      rfl
    cases named with
    | some id => exact (h.showsNamed hrun hkeyed hdecided).asksOnce h
    | none => exact (h.showsWorkspace hrun hkeyed hdecided).asksOnce h

/-- A team that cannot be asked for is all that is asked for. -/
theorem TeamBroken.asksOnce {fault : Fault} (h : TeamBroken team remote s fault m) :
    AsksOnce team s t := by
  obtain ⟨-, rfl⟩ := h.eq_of_run hrun
  obtain ⟨asked, hm, hasks⟩ := exists_asks_of_getEntity (entityPath_teams team) h.load
  refine ⟨asked, [], [], ?_, hasks, .nil _ _, .null, .nil _ _⟩
  rw [hm, List.append_nil, List.append_nil]

end Clauses

/-- **How showing the default workflow goes**, for any team, whatever the tracker answers, as
long as a team that is there can be read, and in any session whose workflows are kept under
their ids. -/
theorem getDefaultWorkflow_goes (hkeyed : (s.cacheOf .workflows).KeyedById)
    (hteam : TeamReadable team remote s) :
    ∃ result t, getDefaultWorkflow team remote s = (result, t) ∧
      DefaultGoes team remote s result t := by
  obtain ⟨result, t, hrun⟩ : ∃ result t, getDefaultWorkflow team remote s = (result, t) :=
    ⟨_, _, rfl⟩
  have htold := exists_told hteam
  have hasks : AsksOnce team s t := by
    rcases htold with ⟨named, m, h⟩ | ⟨fault, m, h⟩
    · exact h.asksOnce_of_run hrun hkeyed
    · exact h.asksOnce hrun
  exact ⟨result, t, hrun, htold, fun _ _ h => h.showsNamed hrun hkeyed,
    fun _ h => h.showsWorkspace hrun hkeyed, fun _ _ h _ => h.eq_of_undecided hrun,
    fun _ _ h => h.eq_of_run hrun, hasks⟩

end

namespace Sample

/-- What `workflowTracker` answers everything with. -/
def oneAnswer : Value :=
  .object [("id", .int 9), ("default_workflow_id", .int 3), ("default_state_id", .int 1)]

/-- What is sent to show the default workflow of a team: the paths. -/
def askedFor (team : Value) : List String :=
  (getDefaultWorkflow team workflowTracker Api.Sample.session).2.exchanges.map
    (·.request.url.plainPath)

end Sample

open Sample in
/-- The default workflow of a team is shown although the list of workflows is no list: the
team is asked for, then the list in vain, and then the workflow. -/
theorem named_workflow_shown_without_list :
    (Api.Sample.session.cacheOf .workflows).KeyedById ∧
      TeamReadable (.text "t") workflowTracker Api.Sample.session ∧
      askedFor (.text "t") = ["/api/groups/t", "/api/workflows", "/api/workflows/3"] ∧
      ∃ result t, getDefaultWorkflow (.text "t") workflowTracker Api.Sample.session = (result, t) ∧
        DefaultGoes (.text "t") workflowTracker Api.Sample.session result t ∧
        ShowsWorkflow "Default workflow for team t:" oneAnswer result := by
  have hkeyed : (Api.Sample.session.cacheOf .workflows).KeyedById :=
    fun _ _ hmem => (List.not_mem_nil hmem).elim
  have hload : Api.getEntity .teams (.text "t") workflowTracker Api.Sample.session =
      (.ok oneAnswer,
        (Api.getEntity .teams (.text "t") workflowTracker Api.Sample.session).2) := rfl
  have hteam : TeamReadable (.text "t") workflowTracker Api.Sample.session := by
    intro entity m h _
    cases hload.symm.trans h
    exact ⟨_, rfl, ⟨_, rfl⟩, nofun⟩
  obtain ⟨result, t, hrun, hgoes⟩ := getDefaultWorkflow_goes hkeyed hteam
  have hnamed := hgoes.named _ _ (.loaded rfl hload (.default rfl rfl)) rfl
  exact ⟨hkeyed, hteam, by decide +kernel, result, t, hrun, hgoes,
    (hnamed.lacking rfl).found _ rfl⟩

end Tools

end Backlog
