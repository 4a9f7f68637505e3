import Backlog.Proofs.Request
/-!
# What hydration asks

Hydration asks the tracker two things: for the whole list of a kind, and for
one entity. What an ask leads to is a function of the tracker, the client and
what was exchanged before: its answer, and the exchanges it adds, which are
one, or none when the client has no request to send for it. A run of asks
extends the log by the exchanges of each in turn (`Ask.run`).
-/

namespace Backlog

/-- Something that hydration asks the tracker. -/
inductive Ask where
  /-- The whole list of a kind. -/
  | list (kind : Kind)
  /-- One entity. -/
  | fetch (kind : Kind) (id : Atom)
  deriving DecidableEq

namespace Ask

/-- The path that an ask is about. -/
def path : Ask → Except Fault String
  | .list kind => kind.require kind.listPath?
  | .fetch kind id => Api.entityPath kind (.atom id)

/-- Whether nothing at the path is an answer too. -/
def allowsMissing : Ask → Bool
  | .list _ => false
  | .fetch .. => true

/-- The request that a client sends for an ask, or what keeps it from sending
one. -/
def request (client : Client) (ask : Ask) : Except Fault Http.Request := do
  let path ← ask.path
  Api.outgoing client .get path [] none

/-- What an ask brings, after what was exchanged before. -/
def answer (remote : Remote) (client : Client) (past : List Http.Exchange) (ask : Ask) :
    Except Fault Value := do
  let path ← ask.path
  let request ← Api.outgoing client .get path [] none
  (remote past request).value .get request.url path ask.allowsMissing

/-- The exchanges that an ask adds: one, or none when nothing can be sent. -/
def exchanges (remote : Remote) (client : Client) (past : List Http.Exchange) (ask : Ask) :
    List Http.Exchange :=
  match ask.request client with
  | .ok request => [⟨client.serial, request, remote past request⟩]
  | .error _ => []

/-- What has been exchanged after asking one thing after the other. -/
def run (remote : Remote) (client : Client) (past : List Http.Exchange) : List Ask →
    List Http.Exchange
  | [] => past
  | ask :: rest => run remote client (past ++ ask.exchanges remote client past) rest

/-- The id that is fetched, if an entity of the kind is. -/
def fetchedId? (k : Kind) : Ask → Option Atom
  | .list _ => none
  | .fetch kind id => if kind == k then some id else none

variable {remote : Remote} {client : Client} {past : List Http.Exchange}

theorem run_append (asks others : List Ask) :
    run remote client past (asks ++ others) =
      run remote client (run remote client past asks) others := by
  induction asks generalizing past with
  | nil => rfl
  | cons ask rest ih => exact ih

/-- Asking only adds to the log. -/
theorem prefix_run (asks : List Ask) : past <+: run remote client past asks := by
  induction asks generalizing past with
  | nil => exact List.prefix_rfl
  | cons ask rest ih => exact (List.prefix_append _ _).trans ih

/-- **The requests of a run of asks** are those of each ask, in turn. -/
theorem map_request_run (asks : List Ask) :
    (run remote client past asks).map (·.request) =
      past.map (·.request) ++ asks.filterMap fun ask => (ask.request client).toOption := by
  induction asks generalizing past with
  | nil => simp [run]
  | cons ask rest ih =>
    rw [run, ih, List.map_append, List.filterMap_cons, exchanges]
    cases ask.request client with
    | error fault => simp [Except.toOption]
    | ok request => simp [Except.toOption]

/-- The exchange of an ask is that of a reading request by an open client. -/
theorem of_mem_exchanges {ask : Ask} {exchange : Http.Exchange}
    (h : exchange ∈ ask.exchanges remote client past) :
    exchange.client = client.serial ∧ exchange.request.method = .get ∧ client.isOpen = true := by
  rw [exchanges] at h
  split at h
  · next request hrequest =>
    cases List.mem_singleton.1 h
    obtain ⟨path, -, hout⟩ := Except.bind_eq_ok.1 hrequest
    obtain ⟨hmethod, hopen⟩ := Api.of_outgoing hout
    exact ⟨rfl, hmethod, hopen⟩
  · cases h

/-! ## Lists and entities -/

/-- The list that asking for a kind brings. -/
def listed (remote : Remote) (client : Client) (past : List Http.Exchange) (kind : Kind) :
    Except Fault (List Value) := do
  match ← (Ask.list kind).answer remote client past with
  | .list entities => pure entities
  | _ => throw (.api (.notAList kind))

/-- **A list that was brought stands in an exchange**: the kind's list was
asked for, and the answer is one of success whose body is the list. -/
theorem exchange_of_listed {kind : Kind} {entities : List Value}
    (h : listed remote client past kind = .ok entities) :
    ∃ request status body, (Ask.list kind).request client = .ok request ∧
      remote past request = .answer status body ∧ Http.isSuccess status = true ∧
      Json.ofBytes body = .ok (.list entities) := by
  obtain ⟨v, hv, h⟩ := Except.bind_eq_ok.1 h
  obtain ⟨path, hpath, hv⟩ := Except.bind_eq_ok.1 hv
  obtain ⟨request, hrequest, hv⟩ := Except.bind_eq_ok.1 hv
  have hlist : v = .list entities := by
    cases v with
    | list _ => cases h; rfl
    | atom _ => cases h
    | object _ => cases h
  subst hlist
  have hsent : (Ask.list kind).request client = .ok request :=
    Except.bind_eq_ok.2 ⟨path, hpath, hrequest⟩
  obtain ⟨status, body, hreply, hsuccess, hbody⟩ := Http.Reply.of_value_eq_ok hv rfl
  exact ⟨request, status, body, hsent, hreply, hsuccess, hbody⟩

end Ask

/-- The session after an ask. -/
def Session.asked (remote : Remote) (ask : Ask) (s : Session) : Session :=
  { s with exchanges := s.exchanges ++ ask.exchanges remote s.client s.exchanges }

namespace Api

/-- Reading from the path of an ask, in terms of the ask. -/
theorem request_ask_apply (ask : Ask) {path : String} (hpath : ask.path = .ok path)
    (remote : Remote) (s : Session) :
    request .get path [] none ask.allowsMissing remote s =
      (ask.answer remote s.client s.exchanges, s.asked remote ask) := by
  rw [request_apply, Ask.answer, Session.asked, Ask.exchanges, Ask.request, hpath]
  simp only [bind, Except.bind]
  cases outgoing s.client .get path [] none with
  | error fault => simp only [List.append_nil]
  | ok request => rfl

/-- **Getting an entity is an ask.** -/
theorem getEntity_apply (kind : Kind) (id : Atom) (remote : Remote) (s : Session) :
    getEntity kind (.atom id) remote s =
      ((Ask.fetch kind id).answer remote s.client s.exchanges,
        s.asked remote (.fetch kind id)) := by
  rw [getEntity, Run.bind_apply, Run.lift_apply]
  cases hpath : entityPath kind (.atom id) with
  | error fault =>
    simp [Ask.answer, Session.asked, Ask.exchanges, Ask.request, Ask.path, hpath, bind, Except.bind]
  | ok path => exact request_ask_apply (.fetch kind id) hpath remote s

/-- **Getting the list of a kind is an ask.** -/
theorem listEntities_apply (kind : Kind) (remote : Remote) (s : Session) :
    listEntities kind remote s =
      (Ask.listed remote s.client s.exchanges kind, s.asked remote (.list kind)) := by
  rw [listEntities, Run.bind_apply, Run.lift_apply]
  cases hpath : kind.require kind.listPath? with
  | error fault =>
    simp [Ask.listed, Ask.answer, Session.asked, Ask.exchanges, Ask.request, Ask.path, hpath, bind,
      Except.bind]
  | ok path =>
    have hget := request_ask_apply (.list kind) hpath remote s
    dsimp only
    rw [Run.bind_apply, get, Ask.listed]
    simp only [Ask.allowsMissing] at hget
    rw [hget]
    cases (Ask.list kind).answer remote s.client s.exchanges with
    | error fault => rfl
    | ok v => cases v <;> rfl

end Api

end Backlog
