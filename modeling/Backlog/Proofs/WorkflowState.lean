import Backlog.Proofs.Showing
/-!
# The state of a story

The name of the state that a story is in is looked for among the states of workflows: in
the workflow of the story, if it was found, and then in the others that are at hand. The
search through lists within lists is one through the states of all of these workflows, one
after the other, and stops at the first with the id (`Hydrated.findStateIn_eq`). So the
workflow of the story takes precedence over any other, and another workflow that has the
state does if it is missing (`Hydrated.ShowsState`). A decorated story shows the name that
is found, and none is found in two ways only: no state has the id, or the first that has it
is without a name or named so itself (`Hydrated.decorate_shows_state`).
-/

namespace Backlog

namespace Hydrated

/-- There is no first state with an id where no state has it. -/
theorem firstState_eq_none_iff {id : Value} {workflows : List Value} :
    firstState id workflows = none ↔
      ∀ workflow ∈ workflows, ∀ state ∈ workflow.statesOf, state.hasIdEqual id = false := by
  rw [firstState, List.find?_eq_none]
  constructor
  · intro h workflow hworkflow state hstate
    exact Bool.eq_false_iff.2 (h state (List.mem_flatMap.2 ⟨workflow, hworkflow, hstate⟩))
  · intro h state hmem
    obtain ⟨workflow, hworkflow, hstate⟩ := List.mem_flatMap.1 hmem
    exact Bool.eq_false_iff.1 (h workflow hworkflow state hstate)

/-- What a workflow has comes before what the others have. -/
theorem firstState_cons_of_some {id workflow state : Value}
    (h : firstState id [workflow] = some state) (workflows : List Value) :
    firstState id (workflow :: workflows) = some state := by
  rw [firstState, List.flatMap_cons, List.flatMap_nil, List.append_nil] at h
  rw [firstState, List.flatMap_cons, List.find?_append, h]
  rfl

/-! ## The name -/

/-- **How the state of a story is named**, by the state and the workflow that the story
has the ids of, and with other workflows at hand. -/
structure ShowsState (refs : Refs) (workflows : List Value) (stateId : Value) (workflowId : Atom)
    (name : Value) : Prop where
  /-- It is the name of the first state with the id, if there is one. The workflow of the
  story is looked through before the others, if it was found. -/
  first : name = ((firstState stateId (candidateWorkflows refs workflowId workflows)).map
    shownState).getD (.text unknownName)
  /-- The name is unknown exactly when no state has the id, or the first that has it is
  without a name or named so itself. -/
  unknown_iff : name = .text unknownName ↔
    (∀ workflow ∈ candidateWorkflows refs workflowId workflows,
      ∀ state ∈ workflow.statesOf, state.hasIdEqual stateId = false) ∨
    ∃ fields, firstState stateId (candidateWorkflows refs workflowId workflows) =
        some (.object fields) ∧
      ((Value.fieldOf fields "name").truthy = false ∨
        Value.fieldOf fields "name" = .text unknownName)
  /-- A state that the workflow of the story has takes precedence. -/
  own : ∀ own, refs.get .workflows workflowId = .found own →
    ∀ state, firstState stateId [own] = some state → name = shownState state
  /-- If the workflow of the story is missing, any other that has the state will do. -/
  missing : (refs.get .workflows workflowId).isMissing = true →
    ∀ workflow ∈ workflows, ∀ state ∈ workflow.statesOf, state.hasIdEqual stateId = true →
      ∃ first, firstState stateId workflows = some first ∧ name = shownState first

section

variable {refs : Refs} {workflows : List Value} {workflowId : Atom}

theorem candidateWorkflows_of_found {own : Value}
    (h : refs.get .workflows workflowId = .found own) (workflows : List Value) :
    candidateWorkflows refs workflowId workflows = own :: workflows := by
  rw [candidateWorkflows, h]

theorem candidateWorkflows_of_isMissing (h : (refs.get .workflows workflowId).isMissing = true)
    (workflows : List Value) : candidateWorkflows refs workflowId workflows = workflows := by
  rw [candidateWorkflows]
  cases hget : refs.get .workflows workflowId with
  | found own =>
    rw [hget] at h
    cases h
  | notFound id => rfl
  | failure id error => rfl

/-- The name of an object is unknown when it has none, or when it is that. -/
theorem shownState_eq_unknown_iff (fields : Table String Value) :
    shownState (.object fields) = .text unknownName ↔
      (Value.fieldOf fields "name").truthy = false ∨
        Value.fieldOf fields "name" = .text unknownName := by
  rw [shownState, Value.orElse]
  cases (Value.fieldOf fields "name").truthy <;> simp

/-- **The first state with the id gives the name.** -/
theorem showsState_of_first (refs : Refs) (workflows : List Value) (stateId : Value)
    (workflowId : Atom) :
    ShowsState refs workflows stateId workflowId
      (((firstState stateId (candidateWorkflows refs workflowId workflows)).map shownState).getD
        (.text unknownName)) where
  first := rfl
  unknown_iff := by
    rw [← firstState_eq_none_iff]
    cases hfirst : firstState stateId (candidateWorkflows refs workflowId workflows) with
    | none => simp
    | some state =>
      obtain ⟨fields, rfl⟩ := exists_fields_of_firstState hfirst
      simp [shownState_eq_unknown_iff]
  own := by
    intro own hown state hstate
    rw [candidateWorkflows_of_found hown, firstState_cons_of_some hstate]
    rfl
  missing := by
    intro hmissing workflow hworkflow state hstate hid
    rw [candidateWorkflows_of_isMissing hmissing]
    cases hfirst : firstState stateId workflows with
    | some first => exact ⟨first, rfl, rfl⟩
    | none =>
      rw [firstState_eq_none_iff.1 hfirst workflow hworkflow state hstate] at hid
      cases hid

variable {fields : Table String Value}

/-- A decorated story shows the name of its state. -/
theorem get?_stateName_of_decorate {full : Bool} {workflows name : Value}
    {shaped : Table String Value}
    (hstate : (Value.fieldOf fields "workflow_state_id").isNull = false)
    (hname : stateName (.object fields) refs workflows = .ok name)
    (h : decorate .stories (.object fields) refs full workflows = .ok shaped) :
    shaped.get? "workflow_state_name" = some name := by
  have hhas : (Value.object fields).has "workflow_state_id" = .ok true := by
    rw [Value.has, Table.contains]
    cases hget : Table.get? fields "workflow_state_id" with
    | some v => rfl
    | none =>
      rw [Value.fieldOf, hget] at hstate
      cases hstate
  obtain ⟨plain, -, h⟩ := Except.bind_eq_ok.1 h
  obtain ⟨named, -, h⟩ := Except.bind_eq_ok.1 h
  rw [addStateName, if_pos rfl, hhas] at h
  obtain ⟨_, ⟨⟩, h⟩ := Except.bind_eq_ok.1 h
  rw [if_pos rfl, hname] at h
  cases h
  rw [Table.get?_insert, if_pos BEq.rfl]

/-- **A decorated story shows the name of its state**, looked for in its own workflow and
then in the others, if their states can be read. It can be decorated at all if its
references can be read and what was looked up can be used. -/
theorem decorate_shows_state (hstate : (Value.fieldOf fields "workflow_state_id").isNull = false)
    (hid : Value.fieldOf fields "workflow_id" = .atom workflowId)
    (hown : ∀ own, refs.get .workflows workflowId = .found own → own.UsableAs .workflows)
    (hworkflows : ∀ workflow ∈ workflows, workflow.UsableAs .workflows) (full : Bool) :
    (∀ shaped, decorate .stories (.object fields) refs full (.list workflows) = .ok shaped →
      ∃ name, shaped.get? "workflow_state_name" = some name ∧
        ShowsState refs workflows (Value.fieldOf fields "workflow_state_id") workflowId name) ∧
    (Entity.Primary .stories full fields → refs.Usable →
      ∃ shaped, decorate .stories (.object fields) refs full (.list workflows) = .ok shaped) := by
  have hname := stateName_eq hstate hid (usable_of_mem_candidateWorkflows hown hworkflows)
  refine ⟨fun shaped hshaped => ?_, fun hprimary hrefs => ?_⟩
  · exact ⟨_, get?_stateName_of_decorate hstate hname hshaped, showsState_of_first _ _ _ _⟩
  · exact exists_decorate hrefs hworkflows ⟨fields, rfl, hprimary⟩

end

namespace Sample

/-- The only state of a workflow, under a name. -/
def stateNamed (name : String) : Value := .object [("id", .int 501), ("name", .text name)]

/-- A workflow with a state that another one has as well. -/
def workflowWith (id : Int) (name : String) : Value :=
  .object [("id", .int id), ("states", .list [stateNamed name])]

/-- A workflow with one state can be used. -/
theorem usable_workflowWith (id : Int) (name : String) :
    (workflowWith id name).UsableAs .workflows := by
  refine ⟨_, rfl, fun ref href => (List.not_mem_nil href).elim, (by cases ·), fun _ _ => ?_⟩
  exact ⟨_, rfl, fun state hstate => ⟨_, List.mem_singleton.1 hstate⟩⟩

/-- The fields of a story in that state. -/
def started : Table String Value :=
  [("entity_type", .text "story"), ("id", .int 5), ("workflow_id", .int 500),
    ("workflow_state_id", .int 501)]

/-- The id of its workflow. -/
def ownId : Atom := .num (.int 500)

/-- References with the workflow of the story. -/
def withWorkflow : Refs :=
  ({} : Refs).record .workflows ownId (.found (workflowWith 500 "In Progress"))

end Sample

open Sample in
/-- A state of the own workflow of a story is named by it, whatever another one calls it. -/
theorem own_workflow_names_state :
    (Value.fieldOf started "workflow_state_id").isNull = false ∧
      Value.fieldOf started "workflow_id" = .atom ownId ∧
      (∀ own, withWorkflow.get .workflows ownId = .found own → own.UsableAs .workflows) ∧
      (∀ workflow ∈ [workflowWith 600 "Ready"], workflow.UsableAs .workflows) ∧
      ∃ shaped, decorate .stories (.object started) withWorkflow true
          (.list [workflowWith 600 "Ready"]) = .ok shaped ∧
        shaped.get? "workflow_state_name" = some (.text "In Progress") := by
  have hstate : (Value.fieldOf started "workflow_state_id").isNull = false := rfl
  have hid : Value.fieldOf started "workflow_id" = .atom ownId := rfl
  have hget : withWorkflow.get .workflows ownId = .found (workflowWith 500 "In Progress") := rfl
  have hown : ∀ own, withWorkflow.get .workflows ownId = .found own →
      own.UsableAs .workflows := by
    intro own hfound
    rw [hget] at hfound
    cases hfound
    exact usable_workflowWith _ _
  have hworkflows : ∀ workflow ∈ [workflowWith 600 "Ready"], workflow.UsableAs .workflows := by
    intro workflow hworkflow
    rw [List.mem_singleton.1 hworkflow]
    exact usable_workflowWith _ _
  refine ⟨hstate, hid, hown, hworkflows, _, rfl, ?_⟩
  obtain ⟨name, hshown, hname⟩ := (decorate_shows_state hstate hid hown hworkflows true).1 _ rfl
  rw [hshown, hname.own _ hget (stateNamed "In Progress") rfl]
  rfl

end Hydrated

end Backlog
