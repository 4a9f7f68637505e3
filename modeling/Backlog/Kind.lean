import Backlog.Value.Display
/-!
# Kinds of entities

What the tracker keeps: stories with their epics, iterations and objectives,
and the reference data they point to. Kinds are told apart as ids are: `1`,
`1.0` and `true` are one kind, though none of the seven.
-/

namespace Backlog

/-- A kind of entity. What names none of the seven is kept as it is. -/
inductive Kind where
  /-- Stories, the units of work. -/
  | stories
  /-- Epics, groups of stories. -/
  | epics
  /-- Iterations, spans of time. -/
  | iterations
  /-- Objectives, which epics serve. -/
  | objectives
  /-- Teams of users. -/
  | teams
  /-- Workflows and their states. -/
  | workflows
  /-- Members of the workspace. -/
  | users
  /-- Anything else that is given for a kind. -/
  | other (given : Atom)
  deriving DecidableEq

namespace Kind

instance : Inhabited Kind := ⟨.stories⟩

/-- The name of a kind, in the plural. -/
def name : Kind → String
  | .stories => "stories"
  | .epics => "epics"
  | .iterations => "iterations"
  | .objectives => "objectives"
  | .teams => "teams"
  | .workflows => "workflows"
  | .users => "users"
  | .other given => given.display

/-- The kind of a name. -/
def ofName : String → Kind
  | "stories" => .stories
  | "epics" => .epics
  | "iterations" => .iterations
  | "objectives" => .objectives
  | "teams" => .teams
  | "workflows" => .workflows
  | "users" => .users
  | name => .other (.text name)

/-- The kind that an atom names. -/
def ofAtom : Atom → Kind
  | .text name => ofName name
  | a => .other a

/-- The name of one entity of the kind, if the kind is one of the seven. -/
def singular? : Kind → Option String
  | .stories => some "story"
  | .epics => some "epic"
  | .iterations => some "iteration"
  | .objectives => some "objective"
  | .teams => some "team"
  | .workflows => some "workflow"
  | .users => some "user"
  | .other _ => none

/-- The name of one entity of the kind; for a kind that is none of the seven,
its own name. -/
def singular (kind : Kind) : String := kind.singular?.getD kind.name

/-! ## Comparing kinds -/

/-- What makes two kinds the same. -/
def key : Kind → Atom.Key
  | .other given => given.key
  | kind => .text kind.name

/-- Kinds are compared as ids. -/
instance : BEq Kind := ⟨fun a b => a.key == b.key⟩

theorem beq_iff_key_eq {a b : Kind} : (a == b) = true ↔ a.key = b.key := by
  show (a.key == b.key) = true ↔ a.key = b.key
  exact beq_iff_eq

/-- Comparing kinds is an equivalence. -/
instance : EquivBEq Kind where
  rfl := beq_iff_key_eq.2 rfl
  symm h := beq_iff_key_eq.2 (beq_iff_key_eq.1 h).symm
  trans h h' := beq_iff_key_eq.2 ((beq_iff_key_eq.1 h).trans (beq_iff_key_eq.1 h'))

/-! ## Groups of kinds -/

/-- The kinds that are listed as a whole and kept in a cache. -/
def cached : List Kind := [.users, .workflows, .teams]

/-- The kinds that are fetched one entity at a time. -/
def fetched : List Kind := [.epics, .iterations, .objectives]

end Kind

end Backlog
