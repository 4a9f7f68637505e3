import Backlog.Proofs.ReadOnly
/-!
# Writing last

Each tool that writes first checks its arguments and looks up what it needs,
and then writes once (`Tools.Write.prepare`, `Tools.Write.follows_prepare`). When a
check or a look-up ends in a fault, the tool ends in the same fault and has
not written. So whatever a tool is called with and whatever the tracker
replies, a write is the last request of a call, and every request before it
read something that is there (`Server.WritesLast`).
-/

namespace Backlog

/-- Whether what was asked for came: the answer is one of success, and its body
is a value that is not null. -/
def Http.Exchange.Brings (exchange : Http.Exchange) : Prop :=
  ∃ status body v, exchange.reply = .answer status body ∧ Http.isSuccess status = true ∧
    Json.ofBytes body = .ok v ∧ v.isNull = false

namespace Action

variable {α β γ : Type}

/-! ## Work that sends at most one request -/

/-- Whether work sends nothing. -/
def Quiet (work : Action α) : Prop := ∀ remote s, (work remote s).2.exchanges = s.exchanges

/-- Whether work sends at most one request. -/
def SendsOnce (work : Action α) : Prop :=
  ∀ remote s, ∃ last : List Http.Exchange, (work remote s).2.exchanges = s.exchanges ++ last ∧
    last.length ≤ 1

theorem Quiet.pure (a : α) : Quiet (Pure.pure a : Action α) := fun _ _ => rfl

theorem Quiet.fail (fault : Fault) : Quiet (Run.fail fault : Action α) := fun _ _ => rfl

theorem Quiet.lift (result : Except Fault α) : Quiet (liftM result : Action α) := fun _ _ => rfl

theorem Quiet.log (level : Level) (text : String) : Quiet (Action.log level text) :=
  fun _ _ => rfl

theorem Quiet.sendsOnce {work : Action α} (h : Quiet work) : SendsOnce work :=
  fun remote s => ⟨[], by rw [h, List.append_nil], Nat.zero_le 1⟩

theorem Quiet.bind {work : Action α} {next : α → Action β} (h : Quiet work)
    (hnext : ∀ a, Quiet (next a)) : Quiet (work >>= next) := by
  intro remote s
  have hfirst := h remote s
  rw [Run.bind_apply]
  rcases hrun : work remote s with ⟨fault | a, m⟩
  · rw [hrun] at hfirst
    exact hfirst
  · rw [hrun] at hfirst
    exact (hnext a remote m).trans hfirst

/-- One request at the end. -/
theorem Quiet.bind_sendsOnce {work : Action α} {next : α → Action β} (h : Quiet work)
    (hnext : ∀ a, SendsOnce (next a)) : SendsOnce (work >>= next) := by
  intro remote s
  have hfirst := h remote s
  rw [Run.bind_apply]
  rcases hrun : work remote s with ⟨fault | a, m⟩
  · rw [hrun] at hfirst
    exact ⟨[], by rw [List.append_nil]; exact hfirst, Nat.zero_le 1⟩
  · rw [hrun] at hfirst
    obtain ⟨last, hlast, hone⟩ := hnext a remote m
    exact ⟨last, by rw [← hfirst]; exact hlast, hone⟩

/-- One request, and nothing behind it. -/
theorem SendsOnce.bind_quiet {work : Action α} {next : α → Action β} (h : SendsOnce work)
    (hnext : ∀ a, Quiet (next a)) : SendsOnce (work >>= next) := by
  intro remote s
  obtain ⟨last, hlast, hone⟩ := h remote s
  rw [Run.bind_apply]
  rcases hrun : work remote s with ⟨fault | a, m⟩
  · rw [hrun] at hlast
    exact ⟨last, hlast, hone⟩
  · rw [hrun] at hlast
    exact ⟨last, (hnext a remote m).trans hlast, hone⟩

/-! ## Work that looks things up -/

/-- Whether work only looks things up: it reads, and if it ends in a value that
counts as found, every request has brought something. -/
def LooksUp (found : α → Prop) (work : Action α) : Prop :=
  ∀ remote s, ∃ sent, (work remote s).2.exchanges = s.exchanges ++ sent ∧
    Server.AllGets sent ∧
      ∀ a, (work remote s).1 = .ok a → found a → ∀ exchange ∈ sent, exchange.Brings

/-- Whatever a look-up ends in counts as found. -/
def Anything (_ : α) : Prop := True

variable {found : α → Prop} {found' : β → Prop}

/-- Work that asks for nothing. -/
theorem Quiet.looksUp {work : Action α} (h : Quiet work) : LooksUp found work :=
  fun remote s => ⟨[], by rw [h, List.append_nil], Server.allGets_nil,
    fun _ _ _ _ he => absurd he List.not_mem_nil⟩

/-- Whether work sends nothing, and ends in nothing that counts as found. -/
def FindsNothing (found : α → Prop) (work : Action α) : Prop :=
  Quiet work ∧ ∀ remote s a, (work remote s).1 = .ok a → ¬ found a

theorem FindsNothing.fail (fault : Fault) : FindsNothing found (Run.fail fault) :=
  ⟨.fail fault, fun _ _ _ h => by cases h⟩

/-- **Two look-ups in a row.** Nothing may be found behind a first look-up that
finds nothing. -/
theorem LooksUp.bind {work : Action α} {next : α → Action β} (h : LooksUp found work)
    (hnone : ∀ a, ¬ found a → FindsNothing found' (next a))
    (hnext : ∀ a, found a → LooksUp found' (next a)) : LooksUp found' (work >>= next) := by
  intro remote s
  obtain ⟨first, hfirst, hgets, hbrings⟩ := h remote s
  rw [Run.bind_apply]
  rcases hrun : work remote s with ⟨fault | a, m⟩
  · rw [hrun] at hfirst
    exact ⟨first, hfirst, hgets, fun b hb => by cases hb⟩
  · rw [hrun] at hfirst hbrings
    by_cases hfound : found a
    · -- all has been found if both look-ups found something
      obtain ⟨second, hsecond, hgets', hbrings'⟩ := hnext a hfound remote m
      refine ⟨first ++ second, ?_, hgets.append hgets', fun b hb hb' exchange he => ?_⟩
      · rw [← List.append_assoc, ← hfirst]
        exact hsecond
      · rcases List.mem_append.1 he with he | he
        · exact hbrings a rfl hfound exchange he
        · exact hbrings' b hb hb' exchange he
    · obtain ⟨hquiet, hmissed⟩ := hnone a hfound
      refine ⟨first, (hquiet remote m).trans hfirst, hgets, fun b hb hb' => ?_⟩
      exact absurd hb' (hmissed remote m b hb)

/-- Two look-ups in a row, the first of which finds something if it ends in a
value. -/
theorem LooksUp.bind_anything {work : Action α} {next : α → Action β}
    (h : LooksUp Anything work) (hnext : ∀ a, LooksUp found' (next a)) :
    LooksUp found' (work >>= next) :=
  h.bind (fun _ hnot => absurd trivial hnot) fun a _ => hnext a

/-! ## Work after a preparation -/

/-- Whether work goes on from a preparation: it ends as the preparation does
when that fails, and else sends at most one request more. -/
def Follows (preparation : Action α) (work : Action β) : Prop :=
  ∀ remote s,
    (∀ fault t, preparation remote s = (.error fault, t) → work remote s = (.error fault, t)) ∧
    ∀ a t, preparation remote s = (.ok a, t) →
      ∃ last : List Http.Exchange, (work remote s).2.exchanges = t.exchanges ++ last ∧
        last.length ≤ 1

namespace Follows

theorem fail (fault : Fault) : Follows (Run.fail fault : Action α) (Run.fail fault : Action β) := by
  intro remote s
  refine ⟨fun fault' t h => ?_, fun a t h => ?_⟩
  · cases h
    rfl
  · cases h

/-- Work for which nothing has to be prepared. -/
theorem of_sendsOnce {work : Action β} (h : SendsOnce work) (a : α) :
    Follows (Pure.pure a : Action α) work := by
  intro remote s
  refine ⟨fun fault t h' => ?_, fun b t h' => ?_⟩
  · cases h'
  · cases h'
    exact h remote s

/-- What preparation and work have in common at their start. -/
theorem bind {work : Action γ} {preparation : γ → Action α} {next : γ → Action β}
    (h : ∀ c, Follows (preparation c) (next c)) :
    Follows (work >>= preparation) (work >>= next) := by
  intro remote s
  rw [Run.bind_apply, Run.bind_apply]
  rcases work remote s with ⟨fault | c, m⟩
  · refine ⟨fun fault' t h' => ?_, fun a t h' => ?_⟩
    · cases h'
      rfl
    · cases h'
  · exact h c remote m

end Follows

end Action

open Backlog.Action

/-! ## Single requests -/

namespace Api

theorem sendsOnce_request (method : Http.Method) (path : String) (params : Params)
    (body : Option Value) (allowMissing : Bool) :
    SendsOnce (request method path params body allowMissing) := by
  intro remote s
  rw [request_apply]
  cases outgoing s.client method path params body with
  | error fault => exact ⟨[], (List.append_nil _).symm, Nat.zero_le 1⟩
  | ok r => exact ⟨_, rfl, Nat.le_refl 1⟩

theorem sendsOnce_createEntity (kind : Kind) (payload : Value) :
    SendsOnce (createEntity kind payload) :=
  (Quiet.lift _).bind_sendsOnce fun _ =>
    (sendsOnce_request _ _ _ _ _).bind_quiet fun _ => .lift _

theorem sendsOnce_updateEntity (kind : Kind) (id payload : Value) :
    SendsOnce (updateEntity kind id payload) :=
  (Quiet.lift _).bind_sendsOnce fun _ =>
    (sendsOnce_request _ _ _ _ _).bind_quiet fun _ => .lift _

theorem sendsOnce_commentOnStory (story text : Value) : SendsOnce (commentOnStory story text) :=
  (sendsOnce_request _ _ _ _ _).bind_quiet fun _ => .lift _

/-- Reading from a path finds what is not null. -/
theorem looksUp_getIfThere (path : String) :
    LooksUp (fun v => v.isNull = false) (getIfThere path) := by
  intro remote s
  rw [getIfThere, request_apply]
  cases hout : outgoing s.client .get path [] none with
  | error fault =>
    exact ⟨[], (List.append_nil _).symm, Server.allGets_nil, fun _ h => by cases h⟩
  | ok request =>
    refine ⟨_, rfl, fun exchange he => ?_, fun v hv hsome exchange he => ?_⟩
    · cases List.mem_singleton.1 he
      exact (of_outgoing hout).1
    · cases List.mem_singleton.1 he
      obtain ⟨status, body, hreply, hsuccess, hbody⟩ := Http.Reply.of_value_eq_ok hv hsome
      exact ⟨status, body, v, hreply, hsuccess, hbody, hsome⟩

theorem looksUp_getEntity (kind : Kind) (id : Value) :
    LooksUp (fun v => v.isNull = false) (getEntity kind id) :=
  (Quiet.lift _).looksUp.bind_anything fun path => looksUp_getIfThere path

/-- The current user who is remembered has been found before. -/
theorem looksUp_currentUser : LooksUp (fun v => v.isNull = false) currentUser := by
  have hstate : Quiet (Run.state : Action Session) := fun _ _ => rfl
  refine hstate.looksUp.bind_anything fun s => ?_
  split
  · have hquiet : ∀ user, Quiet (do rememberUser user; Pure.pure user) :=
      fun user => Quiet.bind (fun _ _ => rfl) fun _ => .pure user
    -- a user who is null is remembered as well, which asks for nothing
    refine (looksUp_getIfThere "/member").bind (fun user hnull => ⟨hquiet user, ?_⟩)
      fun user _ => (hquiet user).looksUp
    intro remote m v hv
    cases hv
    exact hnull
  · exact (Quiet.pure _).looksUp

end Api

namespace Tools

/-! ## Look-ups -/

theorem looksUp_requireEntity (kind : Kind) (id : Value) :
    LooksUp Anything (requireEntity kind id) := by
  refine (Api.looksUp_getEntity kind id).bind (fun entity hnull => ?_) fun entity hsome => ?_
  · rw [if_pos (by simpa using hnull)]
    exact .fail _
  · rw [if_neg (by simp [hsome])]
    exact (Quiet.pure _).looksUp

theorem looksUp_requireUser : LooksUp Anything requireUser := by
  refine Api.looksUp_currentUser.bind (fun user hnull => ?_) fun user hsome => ?_
  · have hnothing : user.truthy = false := by
      cases user with
      | atom a => cases a <;> simp_all [Value.isNull, Value.truthy]
      | list items => simp [Value.isNull] at hnull
      | object fields => simp [Value.isNull] at hnull
    rw [hnothing, if_neg Bool.false_ne_true]
    exact .fail _
  · split
    · exact (Quiet.pure _).looksUp
    · exact (Quiet.fail _).looksUp

theorem looksUp_ownersAndUser (story : Value) : LooksUp Anything (ownersAndUser story) := by
  refine (looksUp_requireEntity .stories story).bind_anything fun entity => ?_
  refine looksUp_requireUser.bind_anything fun user => Quiet.looksUp ?_
  exact (Quiet.lift _).bind fun owners => (Quiet.lift _).bind fun id => .pure _

theorem looksUp_workflowId (draft : StoryDraft) : LooksUp Anything draft.workflowId := by
  rw [StoryDraft.workflowId]
  split
  · exact (Quiet.pure _).looksUp
  · refine (looksUp_requireEntity .teams draft.team).bind_anything fun team => ?_
    exact (Quiet.lift _).looksUp

/-! ## The writes -/

/-- What the tools write. -/
inductive Write where
  /-- A new story. -/
  | createStory (draft : StoryDraft)
  /-- An update of a story. -/
  | updateStory (story updates : Value)
  /-- A comment on a story. -/
  | createStoryComment (story text : Value)
  /-- The current user as an owner of a story. -/
  | assignCurrentUser (story : Value)
  /-- The current user as no owner of a story. -/
  | unassignCurrentUser (story : Value)
  /-- A new epic. -/
  | createEpic (name team description : Value)

namespace Write

/-- Does what a tool that writes does. -/
def run : Write → Action String
  | createStory draft => Tools.createStory draft
  | updateStory story updates => Tools.updateStory story updates
  | createStoryComment story text => Tools.createStoryComment story text
  | assignCurrentUser story => Tools.assignCurrentUser story
  | unassignCurrentUser story => Tools.unassignCurrentUser story
  | createEpic name team description => Tools.createEpic name team description

/-- The checks of the arguments and the look-ups that come before a write, in
their order, and nothing else. -/
def prepare : Write → Action Unit
  | createStory draft => do
    draft.check
    let workflow ← draft.workflowId
    if !workflow.truthy then Run.fail (.refused .noWorkflowOfTeam)
    else Job.effectOf (requireEntity .workflows workflow)
  | updateStory story updates => do
    checkNames updates
    let _ ← requireEntity .stories story
    let updates ← updates.fields?
    if updates.isEmpty then Run.fail (.refused .nothingToUpdate) else pure ()
  | createStoryComment story text => do
    if !text.truthy then Run.fail (.refused .emptyComment)
    else Job.effectOf (requireEntity .stories story)
  | assignCurrentUser story => Job.effectOf (ownersAndUser story)
  | unassignCurrentUser story => Job.effectOf (ownersAndUser story)
  | createEpic .. => pure ()

/-- **What comes before a write only looks things up.** -/
theorem looksUp_prepare (write : Write) : LooksUp Anything write.prepare := by
  have heffect : ∀ {α : Type} {work : Action α}, LooksUp Anything work →
      LooksUp Anything (Job.effectOf work) :=
    fun h => h.bind_anything fun _ => (Quiet.pure _).looksUp
  cases write with
  | createStory draft =>
    refine (Quiet.lift _).looksUp.bind_anything fun _ => ?_
    refine (looksUp_workflowId draft).bind_anything fun workflow => ?_
    split
    · exact (Quiet.fail _).looksUp
    · exact heffect (looksUp_requireEntity .workflows workflow)
  | updateStory story updates =>
    refine (Quiet.lift _).looksUp.bind_anything fun _ => ?_
    refine (looksUp_requireEntity .stories story).bind_anything fun _ => ?_
    refine (Quiet.lift _).looksUp.bind_anything fun fields => ?_
    split
    · exact (Quiet.fail _).looksUp
    · exact (Quiet.pure _).looksUp
  | createStoryComment story text =>
    rw [prepare]
    split
    · exact (Quiet.fail _).looksUp
    · exact heffect (looksUp_requireEntity .stories story)
  | assignCurrentUser story => exact heffect (looksUp_ownersAndUser story)
  | unassignCurrentUser story => exact heffect (looksUp_ownersAndUser story)
  | createEpic name team description => exact (Quiet.pure _).looksUp

theorem sendsOnce_setOwners (story : Value) (owners : List Value) :
    SendsOnce (setOwners story owners) :=
  (Api.sendsOnce_updateEntity _ _ _).bind_quiet fun _ => .pure _

/-- **A write follows what comes before it**: it ends in the fault of a check or
a look-up that fails, and else sends at most one request more. -/
theorem follows_prepare (write : Write) : Follows write.prepare write.run := by
  cases write with
  | createStory draft =>
    refine Follows.bind fun _ => Follows.bind fun workflow => ?_
    split
    · exact .fail _
    · refine Follows.bind fun entity => Follows.of_sendsOnce ?_ ()
      refine (Quiet.lift _).bind_sendsOnce fun state => ?_
      refine (Api.sendsOnce_createEntity _ _).bind_quiet fun story => ?_
      refine (Quiet.lift _).bind fun _ => ?_
      exact (Quiet.log _ _).bind fun _ => (Quiet.lift _).bind fun _ => .pure _
  | updateStory story updates =>
    refine Follows.bind fun _ => Follows.bind fun _ => Follows.bind fun fields => ?_
    split
    · exact .fail _
    · refine Follows.of_sendsOnce ?_ ()
      refine (Api.sendsOnce_updateEntity _ _ _).bind_quiet fun _ => ?_
      exact (Quiet.lift _).bind fun _ => .pure _
  | createStoryComment story text =>
    rw [prepare, run, Tools.createStoryComment]
    split
    · exact .fail _
    · refine Follows.bind fun _ => Follows.of_sendsOnce ?_ ()
      refine (Api.sendsOnce_commentOnStory _ _).bind_quiet fun _ => ?_
      exact (Quiet.lift _).bind fun _ => .pure _
  | assignCurrentUser story =>
    refine Follows.bind ?_
    rintro ⟨owners, user⟩
    refine Follows.of_sendsOnce ?_ ()
    dsimp only
    split
    · exact (Quiet.pure _).sendsOnce
    · exact (sendsOnce_setOwners _ _).bind_quiet fun _ => .pure _
  | unassignCurrentUser story =>
    refine Follows.bind ?_
    rintro ⟨owners, user⟩
    refine Follows.of_sendsOnce ?_ ()
    dsimp only
    split
    · exact (Quiet.pure _).sendsOnce
    · exact (sendsOnce_setOwners _ _).bind_quiet fun _ => .pure _
  | createEpic name team description =>
    refine Follows.of_sendsOnce ?_ ()
    exact (Api.sendsOnce_createEntity _ _).bind_quiet fun _ => (Quiet.lift _).bind fun _ => .pure _

/-- What a tool that writes does to the log of exchanges, from one session to
another. -/
inductive Course (write : Write) (remote : Remote) (s t : Session) : Prop where
  /-- It has not written. -/
  | unwritten (sent : List Http.Exchange) (hsent : t.exchanges = s.exchanges ++ sent)
      (hgets : Server.AllGets sent)
  /-- It has written, in its last request, and all checks and look-ups before
  have ended well. -/
  | written (m : Session) (hprepared : write.prepare remote s = (.ok (), m))
      (looked : List Http.Exchange) (hlooked : m.exchanges = s.exchanges ++ looked)
      (hgets : Server.AllGets looked) (hbrings : ∀ exchange ∈ looked, exchange.Brings)
      (exchange : Http.Exchange) (hwrite : exchange.request.method ≠ .get)
      (hlast : t.exchanges = m.exchanges ++ [exchange])

/-- **A write is the last request** of its tool, and comes after all checks and
look-ups. -/
theorem course_run (write : Write) (remote : Remote) (s : Session) :
    write.Course remote s (write.run remote s).2 := by
  obtain ⟨looked, hlooked, hgets, hbrings⟩ := write.looksUp_prepare remote s
  obtain ⟨hfail, hok⟩ := write.follows_prepare remote s
  rcases hprepared : write.prepare remote s with ⟨fault | ⟨⟩, m⟩
  · rw [hprepared] at hlooked
    rw [hfail fault m hprepared]
    exact .unwritten looked hlooked hgets
  · rw [hprepared] at hlooked hbrings
    obtain ⟨last, hlast, hone⟩ := hok () m hprepared
    -- behind the look-ups comes a write, or another reading request, or nothing
    match last, hone with
    | [], _ =>
      rw [List.append_nil] at hlast
      exact .unwritten looked (hlast.trans hlooked) hgets
    | [exchange], _ =>
      by_cases hget : exchange.request.method = .get
      · refine .unwritten (looked ++ [exchange]) ?_ (hgets.append fun e he => ?_)
        · rw [hlast, ← List.append_assoc]
          exact congrArg (· ++ [exchange]) hlooked
        · cases List.mem_singleton.1 he
          exact hget
      · exact .written m hprepared looked hlooked hgets (hbrings () rfl trivial) exchange hget hlast

end Write

end Tools

/-! ## Calls of tools -/

namespace Server

/-- Whether a write among some exchanges can only be the last, and everything
before it has been read and was there. -/
inductive WritesLast : List Http.Exchange → Prop where
  /-- Nothing is written. -/
  | reads {sent : List Http.Exchange} (hgets : AllGets sent) : WritesLast sent
  /-- One write, at the end. -/
  | write {looked : List Http.Exchange} (hgets : AllGets looked)
      (hbrings : ∀ exchange ∈ looked, exchange.Brings) (exchange : Http.Exchange)
      (hwrite : exchange.request.method ≠ .get) : WritesLast (looked ++ [exchange])

/-- Every tool that writes does one of the writes. -/
theorem Tool.exists_write {tool : Tool} (h : tool ∈ Tool.all) (hwrites : tool.writes = true) :
    ∃ write : Arguments → Tools.Write, tool.work = Tool.reporting fun args => (write args).run := by
  have hevery : ∀ tool ∈ all, tool.writes = true → ∃ write : Arguments → Tools.Write,
      tool.work = reporting fun args => (write args).run := by
    simp only [all, List.forall_mem_cons]
    have hreader : ∀ {p : Prop}, false = true → p := fun h => absurd h Bool.false_ne_true
    refine ⟨hreader, hreader, hreader, fun _ => ⟨fun args => .createStory (draftOf args), rfl⟩,
      fun _ => ⟨fun args =>
        .updateStory (args.get "story_public_id") (.object (updatesOf args)), rfl⟩,
      fun _ => ⟨fun args =>
        .createStoryComment (args.get "story_public_id") (args.get "text"), rfl⟩,
      fun _ => ⟨fun args => .assignCurrentUser (args.get "story_public_id"), rfl⟩,
      fun _ => ⟨fun args => .unassignCurrentUser (args.get "story_public_id"), rfl⟩,
      hreader, hreader,
      fun _ => ⟨fun args =>
        .createEpic (args.get "name") (args.get "team_id") (args.get "description"), rfl⟩,
      hreader, hreader, hreader, hreader, hreader, hreader, hreader, hreader, hreader, hreader,
      hreader, hreader, hreader, hreader, hreader, fun _ hnone => absurd hnone List.not_mem_nil⟩
  exact hevery tool h hwrites

/-- Putting a report into a value leaves the session as it is. -/
theorem Tool.snd_of_reporting {run : Arguments → Action String} {work : Arguments → Action Value}
    (h : Tool.reporting run = .session work) (args : Arguments) (remote : Remote) (s : Session) :
    (work args remote s).2 = (run args remote s).2 := by
  cases h
  have hbind := Run.bind_apply (run args) (fun report => Pure.pure (Value.text report)) remote s
  refine (congrArg Prod.snd hbind).trans ?_
  rcases run args remote s with ⟨_ | _, t⟩ <;> rfl

/-- **What a tool sends**, whatever it is called with: a write is the last of
it. -/
theorem perform_writesLast {tool : Tool} (h : tool ∈ Tool.all) (args : Arguments)
    (remote : Remote) (server : Server) :
    Sends WritesLast server (perform tool.work args remote server).2 := by
  cases hwrites : tool.writes with
  | false =>
    have hoffered := mem_offered_readOnly.2 ⟨h, hwrites⟩
    obtain ⟨hsame, sent, hsent, hgets⟩ := perform_sends_gets hoffered args remote server
    exact ⟨hsame, sent, hsent, .reads hgets⟩
  | true =>
    obtain ⟨write, hwork⟩ := Tool.exists_write h hwrites
    refine perform_sends (.reads allGets_nil) args (fun run hrun s => ?_) server
    rw [Tool.snd_of_reporting (hwork.symm.trans hrun)]
    cases (write args).course_run remote s with
    | unwritten sent hsent hgets => exact ⟨sent, hsent, .reads hgets⟩
    | written m hprepared looked hlooked hgets hbrings exchange hwrite hlast =>
      refine ⟨looked ++ [exchange], ?_, .write hgets hbrings exchange hwrite⟩
      rw [hlast, hlooked, List.append_assoc]

/-- **Writing comes last, and once.** Whatever the tracker replies: each of the
writes, from any session, ends in the fault of the check or look-up that fails
before it, and else may send one request more, its last; every tool that writes
does one of the writes; and whatever is called, with any arguments and from any
state of the server, a write is the last request of the call and all requests
before it have brought something. -/
theorem writes_once_and_last (remote : Remote) :
    (∀ (write : Tools.Write) (s : Session),
      write.Course remote s (write.run remote s).2 ∧
        ∀ fault t, write.prepare remote s = (.error fault, t) →
          write.run remote s = (.error fault, t)) ∧
      (∀ tool ∈ Tool.all, tool.writes = true → ∃ write : Arguments → Tools.Write,
        tool.work = Tool.reporting fun args => (write args).run) ∧
      (∀ tool ∈ Tool.all, ∀ args server,
        Sends WritesLast server (perform tool.work args remote server).2) ∧
      ∀ name given server, Sends WritesLast server (Server.call remote server name given).2 := by
  refine ⟨fun write s => ⟨write.course_run remote s, (write.follows_prepare remote s).1⟩,
    fun tool htool => Tool.exists_write htool,
    fun tool htool args server => perform_writesLast htool args remote server,
    fun name given server => ?_⟩
  refine call_sends (.reads allGets_nil) (fun tool htool _ args => ?_) given
  exact perform_writesLast (List.mem_filter.1 htool).1 args remote server

namespace Sample

/-- A server that offers all tools. -/
def writer : Server := { reader with readOnly := false }

/-- A comment on a story. -/
def comment : Arguments := [("story_public_id", .int 5), ("text", .text "Done.")]

end Sample

/-- A comment is posted after its story was read, and nothing after it, be it
by a call or by the tool itself. -/
theorem comment_is_posted_last :
    (Server.call Sample.lister Sample.writer "stories_create_comment"
          Sample.comment).2.exchanges.map (·.request.method) = [.get, .post] ∧
      Sends WritesLast Sample.writer
        (Server.call Sample.lister Sample.writer "stories_create_comment" Sample.comment).2 ∧
      ∃ tool ∈ Tool.all, tool.name = "stories_create_comment" ∧ Sends WritesLast Sample.writer
        (perform tool.work Sample.comment Sample.lister Sample.writer).2 := by
  obtain ⟨-, -, htools, hcalls⟩ := writes_once_and_last Sample.lister
  have hmem : Tool.all[5] ∈ Tool.all := List.getElem_mem _
  exact ⟨by decide +kernel, hcalls _ _ _, _, hmem, rfl, htools _ hmem _ _⟩

end Server

end Backlog
