import Backlog.Proofs.ServerRun
import Backlog.Proofs.Shape
/-!
# The current user over a run

A client asks for the current user when they are needed, until the tracker names
them, and from then on serves whom it was given. What a run has asked is told by
its look-ups (`Session.lookUps`): the exchanges that a call sends because it
needs the current user. A client knows the user that a look-up named, and nobody
when none did (`Session.Knows`). So a call that comes to need the current user
asks for them if and only if no look-up before has named them
(`Session.asks_until_named`).

An answer to `/member` that an id leads to, such as `../member`, is no look-up.
Nobody is known by it, and the next need asks.
-/

namespace Backlog

open Backlog.Action (Uses)

/-- Whether a deed leaves the current user alone. -/
def Session.Deed.Forgetful (deed : Session.Deed) : Prop := deed ≠ .remember

theorem Session.Deed.forgetful_send (method : Http.Method) : Forgetful (.send method) :=
  fun h => by cases h

/-- Work that leaves the current user alone leaves all of the client alone. -/
theorem Action.Uses.client_eq {α : Type} {work : Action α} (h : Uses Session.Deed.Forgetful work)
    (remote : Remote) (s : Session) : (work remote s).2.client = s.client :=
  (h remote s).client_eq_self fun hforgetful => hforgetful rfl

theorem Action.Uses.client_eq_of_run {α : Type} {work : Action α}
    (h : Uses Session.Deed.Forgetful work) {remote : Remote} {s t : Session}
    {outcome : Except Fault α} (hrun : work remote s = (outcome, t)) : t.client = s.client :=
  (h.steps hrun).client_eq_self fun hforgetful => hforgetful rfl

/-! ## Asking once -/

/-- **Whether an exchange names the current user**: it was answered with success,
by a body that is the user and not null, from an address that answers are taken
from. -/
structure Http.Exchange.NamesUser (exchange : Http.Exchange) (user : Value) : Prop where
  /-- The answer is one of success with the user in its body. -/
  answer : ∃ status body, exchange.reply = .answer status body ∧ Http.isSuccess status = true ∧
    Json.ofBytes body = .ok user
  /-- The address has a scheme. -/
  address : Http.checkAnswered exchange.request.url = .ok ()
  /-- The body is not null. -/
  notNull : user.isNull = false

namespace Api

/-- The request that the current user is asked for with. -/
def memberRequest (client : Client) : Except Fault Http.Request :=
  outgoing client .get "/member" [] none

/-- The exchange that comes of asking for the current user, if the client can
ask. -/
def memberAsked (remote : Remote) (s : Session) : List Http.Exchange :=
  match memberRequest s.client with
  | .ok request => [⟨s.client.serial, request, remote s.exchanges request⟩]
  | .error _ => []

/-- What an answer to the question for the current user brings. -/
def memberOf (exchange : Http.Exchange) : Except Fault Value :=
  exchange.reply.value .get exchange.request.url "/member" true

/-- **An exchange brings a user if and only if it names them.** -/
theorem memberOf_eq_ok_iff {exchange : Http.Exchange} {user : Value} (huser : user.isNull = false) :
    memberOf exchange = .ok user ↔ exchange.NamesUser user := by
  constructor
  · intro h
    obtain ⟨status, body, hreply, hsuccess, hbody⟩ := Http.Reply.of_value_eq_ok h huser
    refine ⟨⟨status, body, hreply, hsuccess, hbody⟩, ?_, huser⟩
    rw [memberOf, hreply] at h
    obtain ⟨⟨⟩, haddress, -⟩ := Except.bind_eq_ok.1 h
    exact haddress
  · rintro ⟨⟨status, body, hreply, hsuccess, hbody⟩, haddress, -⟩
    rw [memberOf, hreply]
    refine Except.bind_eq_ok.2 ⟨(), haddress, ?_⟩
    -- neither a missing page nor an empty one, so the body is read
    have hfound : ¬ (true && decide (status = 404)) = true := by
      rintro h
      cases of_decide_eq_true ((Bool.true_and _).symm.trans h)
      cases hsuccess
    have hsome : ¬ body.isEmpty = true := by
      intro h
      rw [List.isEmpty_iff.1 h] at hbody
      cases hbody
    rw [Http.valueOf, if_neg hfound, hsuccess, if_neg (by decide), if_neg hsome, hbody]

variable {remote : Remote} {s : Session}

/-- A user who is not known is not asked for by a client that cannot ask. -/
theorem currentUser_of_unsendable (h : s.client.currentUser.isNull = true) {fault : Fault}
    (hrequest : memberRequest s.client = .error fault) :
    currentUser remote s = (.error fault, s) := by
  have hasked : getIfThere "/member" remote s = (.error fault, s) := by
    rw [getIfThere, request_apply, ← memberRequest, hrequest]
  rw [currentUser_of_unknown h, Run.bind_apply, hasked]

/-- **A user who is not known is asked for once**, and who is named is
remembered. -/
theorem currentUser_of_sendable (h : s.client.currentUser.isNull = true) {request : Http.Request}
    (hrequest : memberRequest s.client = .ok request) :
    currentUser remote s =
      (memberOf ⟨s.client.serial, request, remote s.exchanges request⟩,
        { s.received request (remote s.exchanges request) with
          client := { s.client with
            currentUser := ((memberOf ⟨s.client.serial, request,
              remote s.exchanges request⟩).toOption).getD .null } }) := by
  have hasked : getIfThere "/member" remote s =
      (memberOf ⟨s.client.serial, request, remote s.exchanges request⟩,
        s.received request (remote s.exchanges request)) := by
    rw [getIfThere, request_apply, ← memberRequest, hrequest]
    rfl
  rw [currentUser_of_unknown h, Run.bind_apply, hasked]
  cases memberOf ⟨s.client.serial, request, remote s.exchanges request⟩ with
  | error fault =>
    have hnull : s.client.currentUser = .null := Value.eq_null_of_isNull h
    dsimp only [Except.toOption, Option.getD]
    rw [← hnull]
    rfl
  | ok user => rfl

/-- The need for the current user leaves caches and clock alone, and who it is
served with is known from then on. -/
theorem of_currentUser {outcome : Except Fault Value} {t : Session}
    (h : currentUser remote s = (outcome, t)) :
    t.caches = s.caches ∧ t.clock = s.clock ∧ s.exchanges <+: t.exchanges ∧
      ∀ user, outcome = .ok user → t.client.currentUser = user := by
  cases hunknown : s.client.currentUser.isNull with
  | false =>
    rw [currentUser_of_known hunknown] at h
    cases h
    exact ⟨rfl, rfl, List.prefix_rfl, fun user => Except.ok.inj⟩
  | true =>
    cases hrequest : memberRequest s.client with
    | error fault =>
      rw [currentUser_of_unsendable hunknown hrequest] at h
      cases h
      exact ⟨rfl, rfl, List.prefix_rfl, fun user hno => by cases hno⟩
    | ok request =>
      rw [currentUser_of_sendable hunknown hrequest, Prod.mk.injEq] at h
      obtain ⟨rfl, rfl⟩ := h
      refine ⟨rfl, rfl, List.prefix_append _ _, fun user huser => ?_⟩
      dsimp only
      rw [huser]
      rfl

/-- What the need for the current user sends. -/
theorem exchanges_currentUser (remote : Remote) (s : Session) :
    (currentUser remote s).2.exchanges =
      s.exchanges ++ if s.client.currentUser.isNull then memberAsked remote s else [] := by
  rw [memberAsked]
  cases hunknown : s.client.currentUser.isNull with
  | false =>
    rw [currentUser_of_known hunknown, if_neg Bool.false_ne_true, List.append_nil]
  | true =>
    rw [if_pos rfl]
    cases hrequest : memberRequest s.client with
    | error fault =>
      rw [currentUser_of_unsendable hunknown hrequest, List.append_nil]
    | ok request =>
      rw [currentUser_of_sendable hunknown hrequest]
      rfl

/-- The need for a user who is not known is served with what the answer
brings. -/
theorem currentUser_fst (h : s.client.currentUser.isNull = true) {exchange : Http.Exchange}
    (hasked : exchange ∈ memberAsked remote s) :
    (currentUser remote s).1 = memberOf exchange := by
  rw [memberAsked] at hasked
  split at hasked
  · next request hrequest =>
    cases List.mem_singleton.1 hasked
    rw [currentUser_of_sendable h hrequest]
  · cases hasked

/-- Who is known behind the need for the current user, if nobody was before:
whom the answer names. -/
theorem currentUser_eq_iff (h : s.client.currentUser.isNull = true) {user : Value}
    (huser : user.isNull = false) :
    (currentUser remote s).2.client.currentUser = user ↔
      ∃ exchange ∈ memberAsked remote s, exchange.NamesUser user := by
  have hnull : s.client.currentUser ≠ user := by
    rintro rfl
    rw [h] at huser
    cases huser
  rw [memberAsked]
  cases hrequest : memberRequest s.client with
  | error fault =>
    rw [currentUser_of_unsendable h hrequest]
    exact ⟨fun heq => absurd heq hnull, fun ⟨_, hnil, _⟩ => absurd hnil List.not_mem_nil⟩
  | ok request =>
    rw [currentUser_of_sendable h hrequest]
    simp only [List.mem_singleton, exists_eq_left, ← memberOf_eq_ok_iff huser]
    cases memberOf ⟨s.client.serial, request, remote s.exchanges request⟩ with
    | error fault =>
      have hnone : Value.null ≠ user := by
        rintro rfl
        cases huser
      exact ⟨fun heq => absurd heq hnone, fun heq => by cases heq⟩
    | ok named => exact ⟨congrArg Except.ok, Except.ok.inj⟩

end Api

/-! ## Work that may need the current user -/

namespace Tools

namespace Consultation

/-- What comes before the need for the current user, and whether there is one. -/
def before : Consultation → Action Bool
  | search kind params _ _ =>
    match kind.searchFields? with
    | none => Run.fail (.missingKey (.text kind.name))
    | some fields => do
      Query.checkDates fields params
      pure (Query.needsCurrentUser fields params)
  | assign story | unassign story => do
    let _ ← requireEntity .stories story
    pure true
  | branchName _ | showUser | showTeams => pure true

/-- The session in which the current user is needed, if they are. -/
def needAt? (remote : Remote) (s : Session) (consult : Consultation) : Option Session :=
  match consult.before remote s with
  | (.ok true, m) => some m
  | _ => none

end Consultation

end Tools

/-- How work goes on from a session, of which it may be said where it comes to
need the current user. -/
inductive Session.Course {α : Type} (remote : Remote) (s : Session) (work : Action α) :
    Option Session → Prop where
  /-- The current user is needed, and everything else leaves them alone. -/
  | needs {m : Session} {next : Value → Action α} (hclient : m.client = s.client)
      (hearlier : s.exchanges <+: m.exchanges)
      (hnext : ∀ user, Uses Session.Deed.Forgetful (next user))
      (hwork : work remote s = (Api.currentUser >>= next) remote m) : Course remote s work (some m)
  /-- The current user is not needed, and is left alone. -/
  | unneeded (huser : (work remote s).2.client.currentUser = s.client.currentUser) :
      Course remote s work none

namespace Session.Course

variable {α β : Type} {remote : Remote} {s m : Session} {at? : Option Session}

theorem of_uses {work : Action α} (h : Uses Deed.Forgetful work) : Course remote s work none :=
  .unneeded (congrArg Client.currentUser (h.client_eq remote s))

theorem currentUser {next : Value → Action α} (h : ∀ user, Uses Deed.Forgetful (next user)) :
    Course remote s (Api.currentUser >>= next) (some s) :=
  .needs rfl List.prefix_rfl h rfl

/-- Work that leaves the current user alone may follow. -/
theorem bind_after {work : Action α} {next : α → Action β} (h : Course remote s work at?)
    (hnext : ∀ a, Uses Deed.Forgetful (next a)) : Course remote s (work >>= next) at? := by
  cases h with
  | needs hclient hearlier hfirst hwork =>
    refine .needs hclient hearlier (fun user => (hfirst user).bind hnext) ?_
    rw [Run.bind_apply, hwork, ← Run.bind_apply, Run.bind_assoc_apply]
  | unneeded huser =>
    refine .unneeded ?_
    rw [Run.bind_apply]
    rcases hwork : work remote s with ⟨_ | a, m⟩
    · rwa [hwork] at huser
    · rw [hwork] at huser
      exact (congrArg Client.currentUser ((hnext a).client_eq remote m)).trans huser

/-- Work that leaves the current user alone may come before. -/
theorem bind_before {work : Action α} {next : α → Action β} (h : Uses Deed.Forgetful work) {a : α}
    (hwork : work remote s = (.ok a, m)) (hnext : Course remote m (next a) at?) :
    Course remote s (work >>= next) at? := by
  have hclient := h.client_eq_of_run hwork
  obtain ⟨sent, hsent, -⟩ := (h.steps hwork).exists_received
  have hbind := Run.bind_of_ok next hwork
  cases hnext with
  | needs hclient' hearlier hafter hnext =>
    have hgrown : s.exchanges <+: m.exchanges := ⟨sent, hsent.symm⟩
    exact .needs (hclient'.trans hclient) (hgrown.trans hearlier) hafter (hbind.trans hnext)
  | unneeded huser =>
    refine .unneeded ?_
    rw [hbind, huser, hclient]

/-- Nothing follows work that ends in a fault. -/
theorem bind_of_error {work : Action α} {next : α → Action β} (h : Uses Deed.Forgetful work)
    {fault : Fault} (hwork : work remote s = (.error fault, m)) :
    Course remote s (work >>= next) none := by
  refine .unneeded ?_
  rw [Run.bind_of_error _ hwork]
  exact congrArg Client.currentUser (h.client_eq_of_run hwork)

end Session.Course

namespace Tools

open Session (Course)
open Session.Deed (Forgetful forgetful_send)

variable {remote : Remote} {s : Session}

/-- A look-up of a story, and work that needs the current user behind it. -/
theorem course_requireEntity {story : Value} {next : Value → Action α}
    (h : ∀ entity m, Course remote m (next entity) (some m)) :
    Course remote s (requireEntity .stories story >>= next)
      (match (requireEntity .stories story >>= fun _ => (pure true : Action Bool)) remote s with
        | (.ok true, m) => some m
        | _ => none) := by
  have hlook : Uses Forgetful (requireEntity .stories story) :=
    uses_requireEntity (forgetful_send .get) .stories story
  rw [Run.bind_apply]
  rcases hfound : requireEntity .stories story remote s with ⟨fault | entity, m⟩
  · exact .bind_of_error hlook hfound
  · exact .bind_before hlook hfound (h entity m)

theorem course_requireUser {next : Value → Action α} (h : ∀ user, Uses Forgetful (next user)) :
    Course remote s (requireUser >>= next) (some s) := by
  refine Course.bind_after (Course.currentUser fun user => ?_) h
  split
  · exact .pure _
  · exact .fail _

/-- Compiling a search needs the current user if its dates are right and its
filters name them. -/
theorem course_compile (kind : Kind) (params : Table String Value) (negate token : Value) :
    Course remote s (compile kind params negate)
      ((Consultation.search kind params negate token).needAt? remote s) := by
  rw [Consultation.needAt?, Consultation.before, compile]
  cases kind.searchFields? with
  | none => exact .of_uses (.fail _)
  | some fields =>
    have hrest : ∀ user, Uses Forgetful (teamIdsForQuery fields params >>= fun ids => do
        let negated ← Query.namesIn negate.orNoItems
        Query.compile fields params negated user (.object ids)) := by
      intro user
      refine Uses.bind ?_ fun ids => (Uses.lift _).bind fun negated => .lift _
      rw [teamIdsForQuery]
      split
      · exact (Resolver.uses_referenceValues (forgetful_send .get) .teams false).bind fun _ =>
          .lift _
      · exact .pure _
    dsimp only
    rw [Run.bind_apply, Run.lift_apply]
    cases hdates : Query.checkDates fields params with
    | error fault => exact .bind_of_error (.lift _) (Run.lift_apply _ remote s)
    | ok _ =>
      refine .bind_before (.lift _) (Run.lift_apply _ remote s) ?_
      rw [userForQuery]
      cases Query.needsCurrentUser fields params with
      | true => exact .currentUser hrest
      | false => exact .of_uses ((Uses.pure _).bind hrest)

/-- **What becomes of work that may need the current user.** -/
theorem course_consultation (remote : Remote) (s : Session) (consult : Consultation) :
    Course remote s consult.run (consult.needAt? remote s) := by
  have howners : ∀ story, Course remote s (ownersAndUser story)
      ((Consultation.assign story).needAt? remote s) := fun story =>
    course_requireEntity fun entity m => course_requireUser fun user =>
      (Uses.lift _).bind fun _ => (Uses.lift _).bind fun _ => .pure _
  cases consult with
  | search kind params negate token =>
    refine (course_compile kind params negate token).bind_after fun query => ?_
    refine (Api.uses_search (forgetful_send .get) kind _ _ token).bind fun page => ?_
    split
    · exact .pure _
    · exact (Resolver.uses_resolveMany (forgetful_send .get) kind _ _).bind fun _ => .pure _
  | branchName story =>
    refine course_requireUser fun user => ?_
    exact (uses_requireEntity (forgetful_send .get) .stories story).bind fun entity =>
      (Uses.lift _).bind fun _ => .pure _
  | assign story =>
    refine (howners story).bind_after ?_
    rintro ⟨owners, user⟩
    dsimp only
    split
    · exact .pure _
    · exact (uses_setOwners forgetful_send story _).bind fun _ => .pure _
  | unassign story =>
    refine (howners story).bind_after ?_
    rintro ⟨owners, user⟩
    dsimp only
    split
    · exact .pure _
    · exact (uses_setOwners forgetful_send story _).bind fun _ => .pure _
  | showUser => exact course_requireUser fun user => .pure _
  | showTeams =>
    refine course_requireUser fun user => ?_
    refine (Resolver.uses_referenceValues (forgetful_send .get) .teams true).bind fun teams => ?_
    refine (Uses.lift _).bind fun mine => ?_
    split
    · exact .pure _
    · exact (Resolver.uses_resolveMany (forgetful_send .get) .teams mine _).bind fun _ => .pure _

end Tools

/-! ## Calls on one client -/

namespace Session

/-- What may be called over one client, and what else may happen to it. -/
inductive Call where
  /-- The client or the resolver does a job. -/
  | work (job : Job)
  /-- Work that may need the current user is done. -/
  | consult (consultation : Tools.Consultation)
  /-- A tool does its work with any arguments at all. -/
  | perform (tool : Server.Tool) (htool : tool ∈ Server.Tool.all) (args : Server.Arguments)
  /-- The client is closed. -/
  | close
  /-- The clock moves, forward or back. -/
  | setClock (now : Number)

namespace Call

/-- What a call does. -/
def run : Call → Action Unit
  | work job => job.run
  | consult consultation => Job.effectOf consultation.run
  | perform tool _ args =>
    match tool.work with
    | .session act => Job.effectOf (act args)
    | .health => pure ()
  | close => Run.modify fun s => { s with client := { s.client with isOpen := false } }
  | setClock now => Run.modify fun s => { s with clock := now }

/-- The session in which a call comes to need the current user, if it does. -/
def needAt? (remote : Remote) (s : Session) : Call → Option Session
  | work .currentUser => some s
  | consult consultation => consultation.needAt? remote s
  | perform tool _ args =>
    match Server.Tool.consultations.get? tool.name with
    | some asked => (asked args).needAt? remote s
    | none => none
  | _ => none

/-- **The look-up of the current user in a call**: what the need for them
sends. -/
def lookUp (remote : Remote) (s : Session) (call : Call) : List Http.Exchange :=
  match call.needAt? remote s with
  | some m => (Api.currentUser remote m).2.exchanges.drop m.exchanges.length
  | none => []

theorem lookUp_of_need {remote : Remote} {s m : Session} {call : Call}
    (h : call.needAt? remote s = some m) :
    call.lookUp remote s =
      if m.client.currentUser.isNull then Api.memberAsked remote m else [] := by
  rw [lookUp, h]
  dsimp only
  rw [Api.exchanges_currentUser, List.drop_left]

/-- **What becomes of a call.** -/
theorem course (remote : Remote) (s : Session) (call : Call) :
    Course remote s call.run (call.needAt? remote s) := by
  have hread := Deed.forgetful_send .get
  cases call with
  | work job =>
    have hother : job ≠ .currentUser → Course remote s job.run none := fun hne =>
      .of_uses (job.uses_run hread (fun _ method => Deed.forgetful_send method)
        fun hjob => absurd hjob hne)
    cases job with
    | currentUser => exact .currentUser fun _ => .pure _
    | _ => exact hother nofun
  | consult consultation =>
    exact (Tools.course_consultation remote s consultation).bind_after fun _ => .pure _
  | perform tool htool args =>
    rw [run, needAt?]
    -- a tool that is none of the consultations never needs the current user
    cases hconsults : tool.consults with
    | true =>
      obtain ⟨consult, hnamed, hwork⟩ := Server.Tool.exists_consultation htool hconsults
      rw [hnamed, hwork]
      have hcourse := Tools.course_consultation remote s (consult args)
      exact (hcourse.bind_after fun _ => .pure _).bind_after fun _ => .pure _
    | false =>
      have huses := Server.Tool.uses_of_mem_all hread htool
        (fun _ method => Deed.forgetful_send method) (by rw [hconsults]; nofun)
      rw [Option.not_isSome_iff_eq_none.1 (Bool.eq_false_iff.1 hconsults)]
      rw [Server.Tool.Uses] at huses
      cases hwork : tool.work with
      | health => exact .of_uses (.pure _)
      | session act =>
        rw [hwork] at huses
        exact .of_uses ((huses args).bind fun _ => .pure _)
  | close => exact .unneeded rfl
  | setClock now => exact .unneeded rfl

end Call

/-- The session after some calls, one after the other. -/
def afterCalls (remote : Remote) (s : Session) (calls : List Call) : Session :=
  calls.foldl (fun s call => (call.run remote s).2) s

/-- **The look-ups of the current user in a run of calls**, in order. -/
def lookUps (remote : Remote) (s : Session) : List Call → List Http.Exchange
  | [] => []
  | call :: rest => call.lookUp remote s ++ lookUps remote (call.run remote s).2 rest

/-- Whether a session knows whom some look-ups named, and nobody else. -/
def Knows (s : Session) (lookUps : List Http.Exchange) : Prop :=
  ∀ user, user.isNull = false →
    (s.client.currentUser = user ↔ ∃ exchange ∈ lookUps, exchange.NamesUser user)

/-- Whether some look-ups named a user. -/
def SomeoneNamed (lookUps : List Http.Exchange) : Prop :=
  ∃ exchange ∈ lookUps, ∃ user, exchange.NamesUser user

variable {remote : Remote} {s : Session} {earlier : List Http.Exchange}

/-- A client that knows nobody at first. -/
theorem knows_nil (h : s.client.currentUser = .null) : s.Knows [] := by
  intro user huser
  refine ⟨fun heq => ?_, fun ⟨_, hnil, _⟩ => absurd hnil List.not_mem_nil⟩
  rw [← heq, h] at huser
  cases huser

namespace Knows

/-- A user was named if and only if somebody is known. -/
theorem isNull_eq_false_iff (h : s.Knows earlier) :
    s.client.currentUser.isNull = false ↔ SomeoneNamed earlier := by
  constructor
  · intro hknown
    obtain ⟨exchange, hmem, hnames⟩ := (h _ hknown).1 rfl
    exact ⟨exchange, hmem, _, hnames⟩
  · rintro ⟨exchange, hmem, user, hnames⟩
    rw [(h user hnames.notNull).2 ⟨exchange, hmem, hnames⟩]
    exact hnames.notNull

/-- **A call keeps what is known in step with the look-ups.** -/
theorem call (h : s.Knows earlier) (call : Call) :
    (call.run remote s).2.Knows (earlier ++ call.lookUp remote s) := by
  have hcourse := call.course remote s
  cases hneed : call.needAt? remote s with
  | none =>
    rw [hneed] at hcourse
    cases hcourse with
    | unneeded huser =>
      intro user hnull
      rw [Call.lookUp, hneed, List.append_nil, huser]
      exact h user hnull
  | some m =>
    rw [hneed] at hcourse
    cases hcourse with
    | needs hclient hearlier hnext hrun =>
      -- what the call does with the user leaves the client as the need left it
      have hafter : (call.run remote s).2.client = (Api.currentUser remote m).2.client := by
        rw [hrun, Run.bind_apply]
        rcases Api.currentUser remote m with ⟨_ | user, t⟩
        · rfl
        · exact (hnext user).client_eq remote t
      intro user hnull
      rw [hafter, Call.lookUp_of_need hneed]
      cases hknown : m.client.currentUser.isNull with
      | false =>
        rw [Api.currentUser_of_known hknown, if_neg Bool.false_ne_true, List.append_nil, hclient]
        exact h user hnull
      | true =>
        -- nobody is known, so no look-up before named anyone
        have hnobody : ∀ exchange ∈ earlier, ¬ exchange.NamesUser user := by
          intro exchange hmem hnames
          rw [hclient, h.isNull_eq_false_iff.2 ⟨exchange, hmem, user, hnames⟩] at hknown
          cases hknown
        rw [if_pos rfl, Api.currentUser_eq_iff hknown hnull]
        constructor
        · rintro ⟨exchange, hmem, hnames⟩
          exact ⟨exchange, List.mem_append_right _ hmem, hnames⟩
        · rintro ⟨exchange, hmem, hnames⟩
          rcases List.mem_append.1 hmem with hmem | hmem
          · exact absurd hnames (hnobody exchange hmem)
          · exact ⟨exchange, hmem, hnames⟩

/-- **A run of calls keeps what is known in step with the look-ups.** -/
theorem afterCalls (h : s.Knows earlier) (calls : List Call) :
    (s.afterCalls remote calls).Knows (earlier ++ s.lookUps remote calls) := by
  induction calls generalizing s earlier with
  | nil => exact (List.append_nil earlier).symm ▸ h
  | cons call rest ih =>
    rw [lookUps, ← List.append_assoc]
    exact ih (h.call call)

end Knows

/-- **How a call that needs the current user gets them**, after the look-ups
before it. -/
structure UserServed (remote : Remote) (s : Session) (earlier : List Http.Exchange) (call : Call)
    (m : Session) : Prop where
  /-- The need comes up with the same client, after what was exchanged before. -/
  need : m.client = s.client ∧ s.exchanges <+: m.exchanges
  /-- If a look-up before named a user, the need sends nothing. -/
  silent : SomeoneNamed earlier → call.lookUp remote s = []
  /-- It is served with the same user. -/
  same : ∀ exchange ∈ earlier, ∀ user, exchange.NamesUser user →
    Api.currentUser remote m = (.ok user, m)
  /-- If none did, the need asks for the user by one request, if the client can
  send that. -/
  asks : ¬ SomeoneNamed earlier → call.lookUp remote s = Api.memberAsked remote m
  /-- It is served with what the answer brings. -/
  fresh : ∀ exchange ∈ call.lookUp remote s,
    (Api.currentUser remote m).1 = Api.memberOf exchange
  /-- The call goes on from there and leaves the current user alone. -/
  goesOn : ∃ next : Value → Action Unit, (∀ user, Uses Deed.Forgetful (next user)) ∧
    call.run remote s = (Api.currentUser >>= next) remote m

theorem Knows.served (h : s.Knows earlier) {call : Call} {m : Session}
    (hneed : call.needAt? remote s = some m) : UserServed remote s earlier call m := by
  have hcourse := call.course remote s
  rw [hneed] at hcourse
  cases hcourse with
  | needs hclient hearlier hnext hrun =>
    have hlookUp := Call.lookUp_of_need hneed
    have hknown := h.isNull_eq_false_iff
    rw [← hclient] at hknown
    refine ⟨⟨hclient, hearlier⟩, fun hsome => ?_, fun exchange hmem user hnames => ?_,
      fun hnone => ?_, fun exchange hmem => ?_, ⟨_, hnext, hrun⟩⟩
    · rw [hlookUp, hknown.2 hsome, if_neg Bool.false_ne_true]
    · have huser := (h user hnames.notNull).2 ⟨exchange, hmem, hnames⟩
      rw [← hclient] at huser
      rw [Api.currentUser_of_known (huser ▸ hnames.notNull), huser]
    · rw [hlookUp, if_pos (Bool.of_not_eq_false (mt hknown.1 hnone))]
    · rw [hlookUp] at hmem
      split at hmem
      · next hunknown => exact Api.currentUser_fst hunknown hmem
      · cases hmem

/-- **The current user is asked for until the tracker names them.** Over any run
of calls on a client that knows nobody at first, with any replies, the client
knows whom a look-up has named, and nobody while none has. A call that comes to
need the current user asks for them if and only if no look-up before has named
them, and is served with whom a look-up has named. -/
theorem asks_until_named (remote : Remote) {start : Session}
    (hstart : start.client.currentUser = .null) (calls : List Call) :
    (start.afterCalls remote calls).Knows (start.lookUps remote calls) ∧
      ∀ call m, call.needAt? remote (start.afterCalls remote calls) = some m →
        UserServed remote (start.afterCalls remote calls) (start.lookUps remote calls) call m := by
  have hknows : (start.afterCalls remote calls).Knows ([] ++ start.lookUps remote calls) :=
    (knows_nil hstart).afterCalls calls
  rw [List.nil_append] at hknows
  exact ⟨hknows, fun call m hneed => hknows.served hneed⟩

/-! ### A tracker that names the user late -/

namespace Sample

/-- A session with an open client. -/
def start : Session where
  client :=
    { serial := 0, settings := ⟨.text "token", "https://tracker", .int 30⟩, token := "token",
      base :=
        { scheme := "https".toList, userinfo := [], host := "tracker".toList, port := none,
          path := "/".toList, query := none, fragment := none } }
  caches := {}
  clock := .int 0

/-- The current user. -/
def user : Value := .object [("id", .text "u")]

/-- What names them. -/
def named : Http.Reply := .answer 200 [123, 34, 105, 100, 34, 58, 34, 117, 34, 125]

/-- A tracker that knows nothing at first. -/
def late : Remote := fun past _ => if past.isEmpty then .answer 404 [] else named

/-- The user is needed twice. -/
def calls : List Call := [.consult .showUser, .work .currentUser]

/-- Then a story is to be assigned to them. -/
def assigning : Call := .consult (.assign (.int 5))

/-- The session in which they are needed for that. -/
def assigned : Session := (assigning.needAt? late (start.afterCalls late calls)).get rfl

end Sample

/-- A user that the tracker names at the second request is served from then
on. -/
theorem late_user_is_served :
    (Sample.start.lookUps Sample.late Sample.calls).map (·.reply) =
        [.answer 404 [], Sample.named] ∧
      Sample.assigning.lookUp Sample.late (Sample.start.afterCalls Sample.late Sample.calls) = [] ∧
      Api.currentUser Sample.late Sample.assigned = (.ok Sample.user, Sample.assigned) := by
  have hstart : Sample.start.client.currentUser = .null := rfl
  have hserved := (asks_until_named Sample.late hstart Sample.calls).2 Sample.assigning
    Sample.assigned rfl
  have hnames : ∃ exchange ∈ Sample.start.lookUps Sample.late Sample.calls,
      exchange.NamesUser Sample.user :=
    ⟨_, List.mem_cons_of_mem _ List.mem_cons_self, ⟨_, _, rfl, rfl, rfl⟩, rfl, rfl⟩
  obtain ⟨exchange, hmem, hnames⟩ := hnames
  exact ⟨rfl, hserved.silent ⟨exchange, hmem, _, hnames⟩, hserved.same exchange hmem _ hnames⟩

/-! ### Answers that are no look-ups -/

/-- Whether a client was told a user by a request for `/member`, for whatever
reason that was sent. -/
def Told (s : Session) : Prop :=
  ∃ exchange ∈ s.exchanges, exchange.client = s.client.serial ∧
    exchange.request.method = .get ∧ Api.address s.client "/member" [] = .ok exchange.request.url ∧
      ∃ user, exchange.NamesUser user

namespace Sample

/-- A tracker that names the user whatever it is asked. -/
def prompt : Remote := fun _ _ => named

/-- A team has been asked for by an id that leads to `/member`. -/
def strayed : Session := start.afterCalls prompt [.work (.getEntity .teams (.text "../member"))]

/-- The client has been closed. -/
def closed : Session := start.afterCalls prompt [.close]

end Sample

/-- **It does not only depend on the answers to `/member`** whether the user is
asked for: they are although such an answer has named them, when an id led to it,
and they are not although none has, when the client is closed. -/
theorem not_asks_iff_not_told :
    ¬ ((Call.work .currentUser).lookUp Sample.prompt Sample.strayed ≠ [] ↔
        ¬ Told Sample.strayed) ∧
      ¬ ((Call.work .currentUser).lookUp Sample.prompt Sample.closed ≠ [] ↔
        ¬ Told Sample.closed) := by
  have htold : Told Sample.strayed :=
    ⟨_, List.mem_cons_self, rfl, rfl, rfl, Sample.user, ⟨_, _, rfl, rfl, rfl⟩, rfl, rfl⟩
  have hasks : (Call.work .currentUser).lookUp Sample.prompt Sample.strayed ≠ [] :=
    List.cons_ne_nil _ _
  have hnone : (Call.work .currentUser).lookUp Sample.prompt Sample.closed = [] := rfl
  have huntold : ¬ Told Sample.closed := fun ⟨_, hmem, _⟩ => absurd hmem List.not_mem_nil
  exact ⟨fun h => h.1 hasks htold, fun h => h.2 huntold hnone⟩

end Session

end Backlog
