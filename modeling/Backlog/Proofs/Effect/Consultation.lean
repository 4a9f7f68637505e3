import Backlog.Server.Tool
/-!
# Tools that need the current user

Six pieces of work may need the current user: a search whose filters name them,
the branch name of a story, the two changes of the owners of a story, and the
reports of the user and of their teams (`Tools.Consultation`). They are the work
of nine tools (`Server.Tool.exists_consultation`).
-/

namespace Backlog

namespace Tools

/-- Work that may need the current user, with what it is given. -/
inductive Consultation where
  /-- A search. -/
  | search (kind : Kind) (params : Table String Value) (negate token : Value)
  /-- The branch name of a story. -/
  | branchName (story : Value)
  /-- The current user as an owner of a story. -/
  | assign (story : Value)
  /-- The current user as no owner of a story. -/
  | unassign (story : Value)
  /-- The current user. -/
  | showUser
  /-- The teams of the current user. -/
  | showTeams

namespace Consultation

/-- Does the work. -/
def run : Consultation → Action String
  | search kind params negate token => Tools.search kind params negate token
  | branchName story => getStoryBranchName story
  | assign story => assignCurrentUser story
  | unassign story => unassignCurrentUser story
  | showUser => getCurrentUser
  | showTeams => getCurrentUserTeams

end Consultation

end Tools

namespace Server.Tool

/-- The search of a kind that a tool does with its arguments. -/
def searchOf (kind : Kind) (args : Arguments) : Tools.Consultation :=
  .search kind (args.without ["negate", "next_page_token"]) (args.get "negate")
    (args.get "next_page_token")

/-- What the tools do that may need the current user, by name. -/
def consultations : Table String (Arguments → Tools.Consultation) :=
  [("stories_search", searchOf .stories),
   ("stories_get_branch_name", fun args => .branchName (args.get "story_public_id")),
   ("stories_assign_current_user", fun args => .assign (args.get "story_public_id")),
   ("stories_unassign_current_user", fun args => .unassign (args.get "story_public_id")),
   ("epics_search", searchOf .epics), ("iterations_search", searchOf .iterations),
   ("objectives_search", searchOf .objectives), ("users_get_current", fun _ => .showUser),
   ("users_get_current_teams", fun _ => .showTeams)]

/-- Whether a tool may need the current user. -/
def consults (tool : Tool) : Bool := consultations.contains tool.name

/-- **A tool that may need the current user** does what is noted under its
name. -/
theorem exists_consultation {tool : Tool} (h : tool ∈ all) (hconsults : tool.consults = true) :
    ∃ consult, consultations.get? tool.name = some consult ∧
      tool.work = reporting fun args => (consult args).run := by
  have hevery : ∀ tool ∈ all, tool.consults = true → ∃ consult,
      consultations.get? tool.name = some consult ∧
        tool.work = reporting fun args => (consult args).run := by
    simp only [all, List.forall_mem_cons]
    have hnone : ∀ {p : Prop}, false = true → p := fun h => absurd h Bool.false_ne_true
    refine ⟨fun _ => ⟨_, rfl, rfl⟩, hnone, fun _ => ⟨_, rfl, rfl⟩, hnone, hnone, hnone,
      fun _ => ⟨_, rfl, rfl⟩, fun _ => ⟨_, rfl, rfl⟩, fun _ => ⟨_, rfl, rfl⟩, hnone, hnone,
      fun _ => ⟨_, rfl, rfl⟩, hnone, hnone, fun _ => ⟨_, rfl, rfl⟩, hnone, hnone, hnone, hnone,
      hnone, hnone, fun _ => ⟨_, rfl, rfl⟩, fun _ => ⟨_, rfl, rfl⟩, hnone, hnone, hnone,
      fun _ hnil => absurd hnil List.not_mem_nil⟩
  exact hevery tool h hconsults

end Server.Tool

end Backlog
