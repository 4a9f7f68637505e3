import Backlog.Proofs.CurrentUser
import Backlog.Proofs.Entries
import Backlog.Proofs.StrictRead
/-!
# Lists of reference data

Five tools list entities of a cached kind (`Tools.Listing`): all teams, all
workflows, all users, the teams of the current user, and the first workflow. Each
reads the cache strictly and then hydrates what it has read, which insists on
nothing. So it answers with entities of a snapshot that is up to date, all that
are to be listed and in their order (`Tools.Listing.Lists`), or it fails. When it
fails because the list of the kind cannot be had, the cache is as it was, and
searches go on serving it.
-/

namespace Backlog

open Session.Deed (Forgetful forgetful_send)

namespace Tools

/-! ## The members of a team -/

/-- **Whether the ids of the members of a team contain that of a user.** Should a
team have something else than a list there, that contains the id as well, in its
own way. -/
inductive HasMember (user team : Value) : Prop where
  /-- A list contains the id as an element. -/
  | listed {own fields : Table String Value} {id member : Value} {members : List Value}
      (huser : user = .object own) (hid : own.get? "id" = some id)
      (hteam : team = .object fields) (hmembers : fields.get? "member_ids" = some (.list members))
      (hmember : member ∈ members) (hequal : (member == id) = true) : HasMember user team
  /-- A text contains the id as a stretch of it, unless it is empty. -/
  | stretch {own fields : Table String Value} {id members : String}
      (huser : user = .object own) (hid : own.get? "id" = some (.text id))
      (hteam : team = .object fields) (hmembers : fields.get? "member_ids" = some (.text members))
      (hsome : members ≠ "") (hstretch : id.toList <:+: members.toList) : HasMember user team
  /-- An object contains the id as the name of a field. -/
  | field {own fields members : Table String Value} {id : String}
      (huser : user = .object own) (hid : own.get? "id" = some (.text id))
      (hteam : team = .object fields)
      (hmembers : fields.get? "member_ids" = some (.object members))
      (hfield : members.contains id = true) : HasMember user team

/-- What a value holds. -/
theorem holds_iff {container id : Value} :
    container.holds id = .ok true ↔
      (∃ items, container = .list items ∧ ∃ item ∈ items, (item == id) = true) ∨
      (∃ text part, container = .text text ∧ id = .text part ∧ part.toList <:+: text.toList) ∨
      ∃ fields name, container = .object fields ∧ id = .text name ∧
        Table.contains fields name = true := by
  cases container with
  | list items => simp [Value.holds]
  | object fields =>
    cases id with
    | atom a => cases a <;> simp [Value.holds, Value.has]
    | list _ => simp [Value.holds]
    | object _ => simp [Value.holds]
  | atom a =>
    cases a with
    | text s =>
      cases id with
      | atom b => cases b <;> simp [Value.holds, Value.has, Text.occursIn_iff_infix]
      | list _ => simp [Value.holds]
      | object _ => simp [Value.holds]
    | null | num _ =>
      cases id with
      | atom b => cases b <;> simp [Value.holds, Value.has]
      | list _ => simp [Value.holds]
      | object _ => simp [Value.holds]

/-- A user is a member of a team when what the team has for the ids of its members
counts as something and holds that of the user. -/
theorem isMember_iff_holds {user team : Value} :
    isMember user team = .ok true ↔ ∃ own fields id members, user = .object own ∧
      Table.get? own "id" = some id ∧ team = .object fields ∧
      Table.get? fields "member_ids" = some members ∧ members.truthy = true ∧
      members.holds id = .ok true := by
  have hnothing : ∀ v id : Value, v.truthy = false → v.orNoItems.holds id = .ok false := by
    intro v id hfalsy
    rw [Value.orNoItems, Value.orElse, hfalsy]
    rfl
  constructor
  · intro h
    obtain ⟨id, hrequired, h⟩ := Except.bind_eq_ok.1 h
    obtain ⟨v, hfield, h⟩ := Except.bind_eq_ok.1 h
    obtain ⟨own, rfl, hid⟩ := Value.required_eq_ok_iff.1 hrequired
    obtain ⟨fields, rfl, rfl⟩ := Value.field_eq_ok_iff.1 hfield
    cases hsome : (Value.fieldOf fields "member_ids").truthy with
    | false => cases (hnothing _ id hsome).symm.trans h
    | true =>
      rw [Value.orNoItems, Value.orElse, if_pos hsome] at h
      cases hmembers : Table.get? fields "member_ids" with
      | none =>
        rw [Value.fieldOf, hmembers] at hsome
        cases hsome
      | some members =>
        rw [Value.fieldOf, hmembers, Option.getD_some] at hsome h
        exact ⟨own, fields, id, members, rfl, hid, rfl, hmembers, hsome, h⟩
  · rintro ⟨own, fields, id, members, rfl, hid, rfl, hmembers, hsome, hholds⟩
    refine Except.bind_eq_ok.2 ⟨id, Value.required_eq_ok_iff.2 ⟨own, rfl, hid⟩,
      Except.bind_eq_ok.2 ⟨members, Value.field_eq_ok_iff.2 ⟨fields, rfl, ?_⟩, ?_⟩⟩
    · rw [Value.fieldOf, hmembers, Option.getD_some]
    · rw [Value.orNoItems, Value.orElse, if_pos hsome, hholds]

/-- **A user is a member of the teams that have the user among their members.** -/
theorem isMember_iff {user team : Value} : isMember user team = .ok true ↔ HasMember user team := by
  rw [isMember_iff_holds]
  constructor
  · rintro ⟨own, fields, id, members, huser, hid, hteam, hmembers, hsome, hholds⟩
    rcases holds_iff.1 hholds with ⟨items, rfl, item, hitem, hequal⟩ | ⟨text, part, rfl, rfl, hpart⟩ |
      ⟨others, name, rfl, rfl, hfield⟩
    · exact .listed huser hid hteam hmembers hitem hequal
    · exact .stretch huser hid hteam hmembers (by simpa [Value.truthy] using hsome) hpart
    · exact .field huser hid hteam hmembers hfield
  · rintro (⟨huser, hid, hteam, hmembers, hmember, hequal⟩ |
      ⟨huser, hid, hteam, hmembers, hsome, hstretch⟩ | ⟨huser, hid, hteam, hmembers, hfield⟩)
    · refine ⟨_, _, _, _, huser, hid, hteam, hmembers, ?_, ?_⟩
      · simpa [Value.truthy] using List.ne_nil_of_mem hmember
      · exact holds_iff.2 (.inl ⟨_, rfl, _, hmember, hequal⟩)
    · refine ⟨_, _, _, _, huser, hid, hteam, hmembers, ?_, ?_⟩
      · simpa [Value.truthy] using hsome
      · exact holds_iff.2 (.inr (.inl ⟨_, _, rfl, rfl, hstretch⟩))
    · refine ⟨_, _, _, _, huser, hid, hteam, hmembers, ?_, ?_⟩
      · rw [Value.truthy, Bool.not_eq_true', List.isEmpty_eq_false_iff]
        rintro rfl
        cases hfield
      · exact holds_iff.2 (.inr (.inr ⟨_, _, rfl, rfl, hfield⟩))

theorem toOption_isMember_iff {user team : Value} :
    (isMember user team).toOption.getD false = true ↔ HasMember user team := by
  rw [← isMember_iff]
  cases isMember user team <;> simp [Except.toOption]

instance (user team : Value) : Decidable (HasMember user team) :=
  decidable_of_iff _ toOption_isMember_iff

/-! ## Lists and what they list -/

/-- A list of reference data. -/
inductive Listing where
  /-- All teams. -/
  | teams
  /-- All workflows. -/
  | workflows
  /-- All users. -/
  | users
  /-- The teams of the current user. -/
  | ownTeams
  /-- The workflow that comes first. -/
  | defaultWorkflow

namespace Listing

/-- The kind that is listed. -/
def kind : Listing → Kind
  | teams | ownTeams => .teams
  | workflows | defaultWorkflow => .workflows
  | users => .users

/-- Reports the list. -/
def run : Listing → Action String
  | teams => listTeams
  | workflows => listWorkflows
  | users => listUsers
  | ownTeams => getCurrentUserTeams
  | defaultWorkflow => workspaceWorkflow

/-- What comes before the cache is read: the current user, if their teams are to
be listed. -/
def before : Listing → Action Value
  | ownTeams => requireUser
  | _ => pure .null

/-- Those of the entities of a kind that are listed. -/
def chosen (user : Value) (entities : List Value) : Listing → List Value
  | teams | workflows | users => entities
  | ownTeams => entities.filter fun team => HasMember user team
  | defaultWorkflow => entities.take 1

/-- What is said in place of a list without entries. Users are listed even when
there are none. -/
def emptyMessage? : Listing → Option String
  | teams => some "No teams found."
  | workflows => some "No workflows found."
  | users => none
  | ownTeams => some "Current user does not belong to any teams."
  | defaultWorkflow => some "No default workflow found."

/-- What is said above a list with a number of entries. -/
def heading (count : Nat) (listing : Listing) : String :=
  match listing with
  | teams | workflows =>
    "Result (first " ++ toString count ++ " shown of " ++ toString count ++ " total " ++
      listing.kind.name ++ " found):"
  | users => "Found " ++ toString count ++ " users:"
  | ownTeams => "Current user belongs to " ++ toString count ++ " teams:"
  | defaultWorkflow => "Workspace default workflow:"

/-- Whether an entry is that of an entity: the entity with the names of what it
refers to, and with its own id. -/
def IsEntry (kind : Kind) (refs : Refs) (workflows entity v : Value) : Prop :=
  ∃ fields : Table String Value, v = .object fields ∧
    Hydrated.decorate kind entity refs false workflows = .ok fields ∧
    ∀ id, entity.idOf? = some id → fields.get? "id" = some (.atom id)

/-- **How a list answers** with some entities, once the cache has been read. -/
inductive Lists (remote : Remote) (listing : Listing) (m : Session) (entities : List Value)
    (t : Session) : String → Prop where
  /-- There are none, and it says so. -/
  | nothing {message : String} (hnone : entities = [])
      (hmessage : listing.emptyMessage? = some message) (hend : t = m) :
      Lists remote listing m entities t (Report.render message)
  /-- They are hydrated, and there is one entry for each, in order. -/
  | entries {result : Hydrated} (hsome : entities = [] → listing.emptyMessage? = none)
      (hreturns : Resolver.ReturnsWith {} remote m listing.kind entities result t)
      (hentries : entities.Forall₂
        (IsEntry listing.kind result.refs (.list t.caches.workflows.values)) result.entries) :
      Lists remote listing m entities t
        (Report.render (listing.heading entities.length) result.toValue)

variable {listing : Listing} {remote : Remote} {s m n t : Session}
variable {entities : List Value} {text : String}

theorem kind_mem_cached (listing : Listing) : listing.kind ∈ Kind.cached := by
  cases listing <;> simp [kind, Kind.cached]

/-- The entries of a result are those of the entities. -/
theorem Lists.of_returns {result : Hydrated}
    (hsome : entities = [] → listing.emptyMessage? = none)
    (h : Resolver.ReturnsWith {} remote m listing.kind entities result t) :
    Lists remote listing m entities t
      (Report.render (listing.heading entities.length) result.toValue) := by
  refine .entries hsome h (h.forall₂_entries.imp ?_)
  rintro entity v ⟨fields, rfl, hfields⟩
  refine ⟨fields, rfl, hfields, fun id hid => ?_⟩
  exact Hydrated.get?_id_of_decorate listing.kind_mem_cached hfields hid

/-- Hydration knows nothing of the current user. -/
theorem Lists.client_eq (h : Lists remote listing m entities t text) : t.client = m.client := by
  cases h with
  | nothing hnone hmessage hend => rw [hend]
  | entries hsome hreturns hentries =>
    cases hreturns with
    | many hrun =>
      exact (Resolver.uses_resolveMany (forgetful_send .get) _ _ _).client_eq_of_run hrun
    | one hrun => exact (Resolver.uses_resolveOne (forgetful_send .get) _ _ _).client_eq_of_run hrun

/-! ## The two ends of a list -/

/-- **What comes before the cache is read** leaves caches and clock alone. If it
ends well, what is chosen is chosen for the current user that the client knows
from then on. -/
theorem of_before {outcome : Except Fault Value} (h : listing.before remote s = (outcome, m)) :
    m.caches = s.caches ∧ m.clock = s.clock ∧ s.exchanges <+: m.exchanges ∧
      ∀ user, outcome = .ok user → ∀ entities,
        listing.chosen user entities = listing.chosen m.client.currentUser entities := by
  cases listing with
  | ownTeams =>
    rw [before, requireUser, Run.bind_apply] at h
    rcases hrun : Api.currentUser remote s with ⟨fault | user, m'⟩
    · rw [hrun] at h
      cases h
      obtain ⟨hcaches, hclock, hlog, -⟩ := Api.of_currentUser hrun
      exact ⟨hcaches, hclock, hlog, fun user hno => by cases hno⟩
    · obtain ⟨hcaches, hclock, hlog, hknown⟩ := Api.of_currentUser hrun
      have huser := hknown user rfl
      rw [hrun] at h
      dsimp only at h
      split at h
      · cases h
        exact ⟨hcaches, hclock, hlog, fun _ hsame _ => by rw [← Except.ok.inj hsame, huser]⟩
      · cases h
        exact ⟨hcaches, hclock, hlog, fun user hno => by cases hno⟩
  | teams | workflows | users | defaultWorkflow =>
    cases h
    exact ⟨rfl, rfl, List.prefix_rfl, fun _ _ _ => rfl⟩

/-- A list that cannot begin fails. -/
theorem run_of_before_error {fault : Fault} (h : listing.before remote s = (.error fault, m)) :
    listing.run remote s = (.error fault, m) := by
  cases listing with
  | ownTeams => exact Run.bind_of_error _ h
  | teams | workflows | users | defaultWorkflow => cases h

/-- A list that cannot read the cache fails. -/
theorem run_of_read_error {user : Value} {fault : Fault}
    (h : listing.before remote s = (.ok user, m))
    (hread : Resolver.referenceValues listing.kind true remote m = (.error fault, n)) :
    listing.run remote s = (.error fault, n) := by
  cases listing with
  | ownTeams => exact (Run.bind_of_ok _ h).trans (Run.bind_of_error _ hread)
  | teams | workflows | users | defaultWorkflow =>
    cases h
    exact Run.bind_of_error _ hread

/-- What all entities of a kind are reported with. -/
theorem of_listAll (hrun : listing.run = listAll listing.kind)
    (hchosen : ∀ user entities, listing.chosen user entities = entities)
    (hmessage : listing.emptyMessage? = some ("No " ++ listing.kind.name ++ " found."))
    (hheading : ∀ count, listing.heading count = "Result (first " ++ toString count ++
      " shown of " ++ toString count ++ " total " ++ listing.kind.name ++ " found):")
    (h : listing.run remote s = (.ok text, t)) :
    ∃ values n, Resolver.referenceValues listing.kind true remote s = (.ok values, n) ∧
      Lists remote listing n (listing.chosen .null values) t text := by
  rw [hrun] at h
  obtain ⟨values, n, hread, h⟩ := Run.bind_eq_ok.1 h
  refine ⟨values, n, hread, ?_⟩
  rw [hchosen]
  split at h
  · next hnone =>
    cases h
    exact .nothing (List.isEmpty_iff.1 hnone) hmessage rfl
  · next hsome =>
    obtain ⟨result, t', hhydrated, h⟩ := Run.bind_eq_ok.1 h
    cases h
    rw [← hheading]
    exact .of_returns (fun hnone => absurd (List.isEmpty_iff.2 hnone) hsome) (.many hhydrated)

/-- **A list that ends well** has read the cache and answers with the entities
that are to be listed. -/
theorem of_run_eq_ok (h : listing.run remote s = (.ok text, t)) :
    ∃ user m values n, listing.before remote s = (.ok user, m) ∧
      Resolver.referenceValues listing.kind true remote m = (.ok values, n) ∧
      Lists remote listing n (listing.chosen user values) t text := by
  cases listing with
  | teams =>
    obtain ⟨values, n, hread, hlists⟩ := of_listAll rfl (fun _ _ => rfl) rfl (fun _ => rfl) h
    exact ⟨.null, s, values, n, rfl, hread, hlists⟩
  | workflows =>
    obtain ⟨values, n, hread, hlists⟩ := of_listAll rfl (fun _ _ => rfl) rfl (fun _ => rfl) h
    exact ⟨.null, s, values, n, rfl, hread, hlists⟩
  | users =>
    obtain ⟨values, n, hread, h⟩ := Run.bind_eq_ok.1 h
    obtain ⟨result, t', hhydrated, h⟩ := Run.bind_eq_ok.1 h
    cases h
    exact ⟨.null, s, values, n, rfl, hread, .of_returns (fun _ => rfl) (.many hhydrated)⟩
  | ownTeams =>
    obtain ⟨user, m, hbefore, h⟩ := Run.bind_eq_ok.1 h
    obtain ⟨values, n, hread, h⟩ := Run.bind_eq_ok.1 h
    obtain ⟨mine, hmine, h⟩ := Run.lift_bind_eq_ok.1 h
    have hchosen : mine = chosen user values ownTeams := by
      rw [(Except.filterM_eq_ok hmine).2]
      refine List.filter_congr fun team _ => Bool.eq_iff_iff.2 ?_
      rw [toOption_isMember_iff, decide_eq_true_iff]
    subst hchosen
    refine ⟨user, m, values, n, hbefore, hread, ?_⟩
    split at h
    · next hnone =>
      cases h
      exact .nothing (List.isEmpty_iff.1 hnone) rfl rfl
    · next hsome =>
      obtain ⟨result, t', hhydrated, h⟩ := Run.bind_eq_ok.1 h
      cases h
      exact .of_returns (fun hnone => absurd (List.isEmpty_iff.2 hnone) hsome) (.many hhydrated)
  | defaultWorkflow =>
    obtain ⟨values, n, hread, h⟩ := Run.bind_eq_ok.1 h
    refine ⟨.null, s, values, n, rfl, hread, ?_⟩
    cases values with
    | nil =>
      cases h
      exact .nothing rfl rfl rfl
    | cons workflow others =>
      obtain ⟨result, t', hhydrated, h⟩ := Run.bind_eq_ok.1 h
      cases h
      exact .of_returns (fun hnone => by cases hnone) (.one hhydrated)

/-- **A list that ends well is up to date**: what it lists is chosen from a
snapshot that the cache holds by right. -/
theorem upToDate_of_run_eq_ok (h : listing.run remote s = (.ok text, t)) :
    ∃ m, Session.UpToDate listing.kind s m ∧
      Lists remote listing m
        (listing.chosen t.client.currentUser (m.cacheOf listing.kind).values) t text := by
  obtain ⟨user, m, values, n, hbefore, hread, hlists⟩ := of_run_eq_ok h
  obtain ⟨hcaches, hclock, hlog, hchosen⟩ := of_before hbefore
  obtain ⟨rfl, hcurrent⟩ := Resolver.of_referenceValues_strict listing.kind_mem_cached hread
  refine ⟨n, hcurrent.earlier (Session.cacheOf_congr hcaches _) hclock hlog, ?_⟩
  -- neither the read nor hydration touches who the current user is
  have huses := Resolver.uses_referenceValues (forgetful_send .get) listing.kind true
  rw [hlists.client_eq, huses.client_eq_of_run hread, ← hchosen user rfl]
  exact hlists

/-- **A list that needs what it does not get fails**, and leaves the caches as
they were: with the fault of the refill, or with what kept it from beginning. -/
theorem run_of_refused {outcome : Except Fault Value} {fault : Fault}
    (hbefore : listing.before remote s = (outcome, m)) (hstale : s.isStale listing.kind = .ok true)
    (hfault : Ask.snapshot remote m.client m.exchanges listing.kind = .error fault) :
    ∃ t, listing.run remote s = (outcome.bind fun _ => .error fault, t) ∧
      t.caches = s.caches := by
  obtain ⟨hcaches, hclock, -, -⟩ := of_before hbefore
  cases outcome with
  | error own => exact ⟨m, run_of_before_error hbefore, hcaches⟩
  | ok user =>
    rw [← Session.isStale_congr (Session.cacheOf_congr hcaches _) hclock] at hstale
    obtain ⟨log, hread⟩ :=
      Resolver.referenceValues_of_refused listing.kind_mem_cached hstale hfault
    exact ⟨_, run_of_read_error hbefore hread, hcaches⟩

end Listing

end Tools

/-! ## Tools that list -/

namespace Server.Tool

/-- What the tools list, by name. The default workflow is one of a list only when
no team is given. -/
def listings : Table String (Arguments → Option Tools.Listing) :=
  [("teams_list", fun _ => some .teams), ("workflows_list", fun _ => some .workflows),
   ("users_list", fun _ => some .users), ("users_get_current_teams", fun _ => some .ownTeams),
   ("workflows_get_default", fun args =>
     if (args.get "team_public_id").truthy then none else some .defaultWorkflow)]

/-- The list that a tool reports when it is called with some arguments, if it
does. -/
def listing? (tool : Tool) (args : Arguments) : Option Tools.Listing :=
  (listings.get? tool.name).bind (· args)

/-- **A tool that reports a list** does what the list says. -/
theorem exists_listing {tool : Tool} (h : tool ∈ all) {args : Arguments} {listing : Tools.Listing}
    (hlisting : tool.listing? args = some listing) :
    ∃ run, tool.work = reporting run ∧ run args = listing.run := by
  have hevery : ∀ tool ∈ all, tool.listing? args = some listing →
      ∃ run, tool.work = reporting run ∧ run args = listing.run := by
    have hnone : ∀ {p : Prop}, (none : Option Tools.Listing) = some listing → p :=
      fun h => by cases h
    have hone : ∀ {run : Arguments → Action String} {own : Tools.Listing},
        run args = own.run → some own = some listing →
          ∃ run', reporting run = reporting run' ∧ run' args = listing.run :=
      fun hrun h => ⟨_, rfl, Option.some.inj h ▸ hrun⟩
    simp only [all, List.forall_mem_cons]
    refine ⟨hnone, hnone, hnone, hnone, hnone, hnone, hnone, hnone, hnone, hnone, hnone, hnone,
      hnone, hnone, hnone, hnone, hnone, hone rfl, hnone, hone rfl, fun hdefault => ?_, hnone,
      hone rfl, hone rfl, hnone, hnone, fun _ hnil => absurd hnil List.not_mem_nil⟩
    have hgiven : (if (args.get "team_public_id").truthy then none
        else some Tools.Listing.defaultWorkflow) = some listing := hdefault
    split at hgiven
    · cases hgiven
    · next hteam =>
      cases hgiven
      exact ⟨_, rfl, if_neg hteam⟩
  exact hevery tool h hlisting

/-- **Strict lists show nothing stale.** A tool that reports a list answers with
entities of a snapshot that is up to date: one that was there and is not older
than allowed, or one that was loaded in the call. It lists the entities that are
to be listed, all of them and in the order of the snapshot. If the cache is stale
and the list of its kind cannot be had, the call fails and the caches are as they
were. From then on, while the tracker does not give that list, a read that does
not insist on it gets the entities of the old snapshot, and a search that answers
serves them. -/
theorem lists_nothing_stale {tool : Tool} (htool : tool ∈ all) {args : Arguments}
    {listing : Tools.Listing} (hlisting : tool.listing? args = some listing) :
    ∃ run, tool.work = reporting run ∧ run args = listing.run ∧ ∀ remote s,
      (∀ text t, listing.run remote s = (.ok text, t) →
        ∃ m, Session.UpToDate listing.kind s m ∧
          listing.Lists remote m
            (listing.chosen t.client.currentUser (m.cacheOf listing.kind).values) t text) ∧
      ∀ outcome m fault, listing.before remote s = (outcome, m) →
        s.isStale listing.kind = .ok true →
        Ask.snapshot remote m.client m.exchanges listing.kind = .error fault →
        ∃ t, listing.run remote s = (outcome.bind fun _ => .error fault, t) ∧
          t.caches = s.caches ∧
          ∀ later u, u.cacheOf listing.kind = t.cacheOf listing.kind →
            u.Refuses later listing.kind →
            Tools.GoesOnServing later listing.kind (s.cacheOf listing.kind) u := by
  obtain ⟨run, hwork, hrun⟩ := exists_listing htool hlisting
  refine ⟨run, hwork, hrun, fun remote s => ⟨fun text t => Tools.Listing.upToDate_of_run_eq_ok,
    fun outcome m fault hbefore hstale hfault => ?_⟩⟩
  obtain ⟨t, hfailed, hkept⟩ := Tools.Listing.run_of_refused hbefore hstale hfault
  refine ⟨t, hfailed, hkept, fun later u hcache hrefuses => ?_⟩
  rw [← hcache.trans (Session.cacheOf_congr hkept _)]
  exact Tools.goesOnServing listing.kind_mem_cached hrefuses

/-! ### A team that grows old -/

namespace Sample

/-- A team without members. -/
def loneTeam : Value := .object [("id", .text "t")]

/-- A session with the team in its cache, which was loaded at zero. -/
def withTeam (now : Number) : Session :=
  { Resolver.Sample.session with
    caches := { teams := { entries := [(.text "t", loneTeam)], loadedAt := some (.int 0) } }
    clock := now }

/-- The tracker has nothing, but while the team is young it is listed. -/
theorem exists_listTeams :
    ∃ text t, Tools.listTeams Resolver.Sample.remote (withTeam (.int 10)) = (.ok text, t) := by
  have hread : Resolver.referenceValues .teams true Resolver.Sample.remote (withTeam (.int 10)) =
      (.ok [loneTeam], withTeam (.int 10)) := rfl
  have hids : IdsByKind.ofEntities .teams [loneTeam] = .ok [(.users, []), (.workflows, [])] := rfl
  have hrefs : Resolver.resolveRefs [(.users, []), (.workflows, [])] Resolver.Sample.remote
      (withTeam (.int 10)) = (.ok {}, withTeam (.int 10)) := rfl
  obtain ⟨result, hresult⟩ : ∃ result,
      Hydrated.ofMany .teams [loneTeam] {} {} (.list []) = .ok result := ⟨_, rfl⟩
  have hhydrated : Resolver.resolveMany .teams [loneTeam] {} Resolver.Sample.remote
      (withTeam (.int 10)) = (.ok result, withTeam (.int 10)) := by
    refine Run.lift_bind_eq_ok.2 ⟨_, hids, Run.bind_eq_ok.2 ⟨_, _, hrefs, ?_⟩⟩
    exact Run.bind_eq_ok.2 ⟨.list [], _, rfl, by rw [Run.lift_apply, hresult]⟩
  exact ⟨_, _, Run.bind_eq_ok.2 ⟨_, _, hread, Run.bind_eq_ok.2 ⟨_, _, hhydrated, rfl⟩⟩⟩

/-- A session of a user with filled caches, none of which is old. -/
def ofAnn : Session :=
  { Resolver.Sample.staffed with
    client := { Resolver.Sample.staffed.client with currentUser := Resolver.Sample.ann }
    clock := .int 200 }

/-- The ids that the team of the user refers to. -/
def coreIds : IdsByKind := [(.users, [.text "u"]), (.workflows, [])]

/-- The only member of the team. -/
def coreRefs : Refs := ⟨[(.users, [(.text "u", .found Resolver.Sample.ann)])]⟩

theorem exists_getCurrentUserTeams :
    ∃ text, Tools.getCurrentUserTeams Resolver.Sample.remote ofAnn = (.ok text, ofAnn) := by
  have huser : Tools.requireUser Resolver.Sample.remote ofAnn =
      (.ok Resolver.Sample.ann, ofAnn) := rfl
  have hread : Resolver.referenceValues .teams true Resolver.Sample.remote ofAnn =
      (.ok [Resolver.Sample.core, Resolver.Sample.side], ofAnn) := rfl
  have hmine : ([Resolver.Sample.core, Resolver.Sample.side].filterM
      (Tools.isMember Resolver.Sample.ann) : Except Fault (List Value)) =
      .ok [Resolver.Sample.core] := rfl
  have hids : IdsByKind.ofEntities .teams [Resolver.Sample.core] = .ok coreIds := rfl
  have hlook : Resolver.lookUp coreIds {} Resolver.Sample.remote ofAnn = (.ok coreRefs, ofAnn) := rfl
  have hround : Resolver.round coreIds {} [] Resolver.Sample.remote ofAnn =
      (.ok (coreRefs, [.users]), ofAnn) :=
    Run.bind_eq_ok.2 ⟨_, _, rfl, Run.bind_eq_ok.2 ⟨_, _, hlook, rfl⟩⟩
  have hrefs : Resolver.resolveRefs coreIds Resolver.Sample.remote ofAnn =
      (.ok coreRefs, ofAnn) :=
    Run.bind_eq_ok.2 ⟨_, _, hround, Run.lift_bind_eq_ok.2 ⟨[], rfl, rfl⟩⟩
  obtain ⟨result, hresult⟩ : ∃ result,
      Hydrated.ofMany .teams [Resolver.Sample.core] coreRefs {} (.list []) = .ok result := ⟨_, rfl⟩
  have hhydrated : Resolver.resolveMany .teams [Resolver.Sample.core] {} Resolver.Sample.remote
      ofAnn = (.ok result, ofAnn) := by
    refine Run.lift_bind_eq_ok.2 ⟨_, hids, Run.bind_eq_ok.2 ⟨_, _, hrefs, ?_⟩⟩
    exact Run.bind_eq_ok.2 ⟨.list [], _, rfl, by rw [Run.lift_apply, hresult]⟩
  exact ⟨_, Run.bind_eq_ok.2 ⟨_, _, huser, Run.bind_eq_ok.2 ⟨_, _, hread,
    Run.lift_bind_eq_ok.2 ⟨_, hmine, Run.bind_eq_ok.2 ⟨_, _, hhydrated, rfl⟩⟩⟩⟩⟩

end Sample

/-- The young team is listed. Once it is too old the list fails, and the team is
still there for whoever does not insist on a list. Of two teams a user is shown the
one that has the user as a member. -/
theorem old_team_is_not_listed :
    (∃ tool ∈ all, tool.listing? [] = some .teams ∧
      (∃ text t m, Tools.listTeams Resolver.Sample.remote (Sample.withTeam (.int 10)) =
          (.ok text, t) ∧
        Tools.Listing.teams.Lists Resolver.Sample.remote m (m.cacheOf .teams).values t text) ∧
      ∃ fault t, Tools.listTeams Resolver.Sample.remote (Sample.withTeam (.int 1000)) =
          (.error fault, t) ∧
        ∃ v, Resolver.referenceValues .teams false Resolver.Sample.remote
          (Sample.withTeam (.int 1000)) = (.ok [Sample.loneTeam], v)) ∧
    ∃ tool ∈ all, tool.listing? [] = some .ownTeams ∧
      ∃ text m, Tools.getCurrentUserTeams Resolver.Sample.remote Sample.ofAnn =
          (.ok text, Sample.ofAnn) ∧
        (Sample.ofAnn.cacheOf .teams).values = [Resolver.Sample.core, Resolver.Sample.side] ∧
        Tools.Listing.ownTeams.Lists Resolver.Sample.remote m [Resolver.Sample.core]
          Sample.ofAnn text := by
  constructor
  · have hmem : reader "teams_list" [] (fun _ => Tools.listTeams) ∈ all := by simp [all]
    have hlisting : (reader "teams_list" [] fun _ => Tools.listTeams).listing? [] =
        some .teams := rfl
    obtain ⟨run, -, -, hall⟩ := lists_nothing_stale hmem hlisting
    refine ⟨_, hmem, hlisting, ?_, ?_⟩
    · obtain ⟨text, t, hlisted⟩ := Sample.exists_listTeams
      obtain ⟨m, -, hlists⟩ := (hall _ _).1 text t hlisted
      exact ⟨text, t, m, hlisted, hlists⟩
    · obtain ⟨fault, hfault⟩ : ∃ fault, Ask.snapshot Resolver.Sample.remote
          (Sample.withTeam (.int 1000)).client [] .teams = .error fault := ⟨_, rfl⟩
      obtain ⟨t, hfailed, hkept, hserved⟩ := (hall _ _).2 _ _ fault rfl rfl hfault
      have hsame : (Sample.withTeam (.int 1000)).cacheOf .teams = t.cacheOf .teams :=
        (Session.cacheOf_congr hkept .teams).symm
      have hrefuses : (Sample.withTeam (.int 1000)).Refuses Resolver.Sample.remote .teams :=
        fun _ _ => ⟨_, rfl⟩
      obtain ⟨v, hread, -⟩ := (hserved _ _ hsame hrefuses).read true rfl
      exact ⟨fault, t, hfailed, v, hread⟩
  · have hmem : reader "users_get_current_teams" [] (fun _ => Tools.getCurrentUserTeams) ∈ all := by
      simp [all]
    have hlisting : (reader "users_get_current_teams" [] fun _ =>
        Tools.getCurrentUserTeams).listing? [] = some .ownTeams := rfl
    obtain ⟨run, -, -, hall⟩ := lists_nothing_stale hmem hlisting
    obtain ⟨text, hlisted⟩ := Sample.exists_getCurrentUserTeams
    obtain ⟨m, hcurrent, hlists⟩ := (hall _ _).1 text _ hlisted
    have hvalues : (m.cacheOf .teams).values = [Resolver.Sample.core, Resolver.Sample.side] := by
      cases hcurrent with
      | fresh age hage hyoung hcache =>
        rw [Tools.Listing.kind] at hcache
        rw [hcache]
        rfl
      | loaded hstale received hreceived hloaded => cases hstale
    have hcore : Tools.HasMember Resolver.Sample.ann Resolver.Sample.core :=
      .listed rfl rfl rfl rfl List.mem_cons_self rfl
    have hside : ¬Tools.HasMember Resolver.Sample.ann Resolver.Sample.side := by decide
    have hchosen : Tools.Listing.ownTeams.chosen Resolver.Sample.ann
        [Resolver.Sample.core, Resolver.Sample.side] = [Resolver.Sample.core] := by
      simp [Tools.Listing.chosen, hcore, hside]
    refine ⟨_, hmem, hlisting, text, m, hlisted, rfl, ?_⟩
    rw [← hchosen, ← hvalues]
    exact hlists

end Server.Tool

end Backlog
