import Backlog.Api
import Backlog.Proofs.Run
/-!
# What a request does

A request is first made up from the client's settings, which may fail
(`Api.outgoing`), and then sent and answered. The session changes by the one
exchange, and by nothing when there was nothing to send
(`Api.request_apply`). The two questions that hydration asks, for the list of
a kind and for one entity, are named by `Ask`, and what they lead to is a
function of the tracker, the client and what was exchanged before.
-/

namespace Backlog

/-- The session after a request was sent and answered. -/
def Session.received (s : Session) (request : Http.Request) (reply : Http.Reply) : Session :=
  { s with exchanges := s.exchanges ++ [⟨s.client.serial, request, reply⟩] }

namespace Api

/-- Checks that a client can still send. -/
def checkOpen (client : Client) : Except Fault Unit :=
  if client.isOpen then .ok () else .error .closed

/-- The request that a client sends for a path, or what keeps it from sending
one. -/
def outgoing (client : Client) (method : Http.Method) (path : String) (params : Params)
    (body : Option Value) : Except Fault Http.Request := do
  let url ← address client path params
  checkBody body
  checkHost url
  checkOpen client
  let _ ← url.plainHost.mapError .hostName
  pure { method, url, body, token := client.token }

/-- What is sent has the method that was asked for, and only an open client
sends. -/
theorem of_outgoing {client : Client} {method : Http.Method} {path : String}
    {params : Params} {body : Option Value} {request : Http.Request}
    (h : outgoing client method path params body = .ok request) :
    request.method = method ∧ client.isOpen = true := by
  obtain ⟨url, -, h⟩ := Except.bind_eq_ok.1 h
  obtain ⟨-, -, h⟩ := Except.bind_eq_ok.1 h
  obtain ⟨-, -, h⟩ := Except.bind_eq_ok.1 h
  obtain ⟨_, hopen, h⟩ := Except.bind_eq_ok.1 h
  obtain ⟨-, -, h⟩ := Except.bind_eq_ok.1 h
  cases h
  refine ⟨rfl, ?_⟩
  cases hc : client.isOpen with
  | true => rfl
  | false => simp [checkOpen, hc] at hopen

/-- What is sent for a path goes to its address. -/
theorem address_of_outgoing {client : Client} {method : Http.Method} {path : String}
    {params : Params} {body : Option Value} {request : Http.Request}
    (h : outgoing client method path params body = .ok request) :
    address client path params = .ok request.url := by
  obtain ⟨url, haddress, h⟩ := Except.bind_eq_ok.1 h
  obtain ⟨-, -, h⟩ := Except.bind_eq_ok.1 h
  obtain ⟨-, -, h⟩ := Except.bind_eq_ok.1 h
  obtain ⟨-, -, h⟩ := Except.bind_eq_ok.1 h
  obtain ⟨-, -, h⟩ := Except.bind_eq_ok.1 h
  cases h
  exact haddress

/-- Sending, with the checks that come before it. -/
theorem send_apply (request : Http.Request) (remote : Remote) (s : Session) :
    Action.send request remote s =
      if s.client.isOpen then
        match request.url.plainHost with
        | .error fault => (.error (.hostName fault), s)
        | .ok _ =>
          (.ok (remote s.exchanges request), s.received request (remote s.exchanges request))
      else (.error .closed, s) := by
  rw [Action.send]
  cases s.client.isOpen <;> rfl

/-- **A request changes the session by its exchange alone**, and by nothing
when it could not be sent. -/
theorem request_apply (method : Http.Method) (path : String) (params : Params)
    (body : Option Value) (allowMissing : Bool) (remote : Remote) (s : Session) :
    request method path params body allowMissing remote s =
      match outgoing s.client method path params body with
      | .error fault => (.error fault, s)
      | .ok r =>
        ((remote s.exchanges r).value method r.url path allowMissing,
          s.received r (remote s.exchanges r)) := by
  rw [request, outgoing, Run.bind_apply, Run.state_apply]
  dsimp only
  rw [Run.bind_apply, Run.lift_apply]
  cases address s.client path params with
  | error fault => rfl
  | ok url =>
    dsimp only
    rw [Run.bind_apply, Run.lift_apply]
    cases checkBody body with
    | error fault => simp only [bind, Except.bind]
    | ok _ =>
      dsimp only
      rw [Run.bind_apply, Run.lift_apply]
      cases hhost : checkHost url with
      | error fault => simp only [hhost, bind, Except.bind]
      | ok _ =>
        dsimp only
        rw [Run.bind_apply, send_apply]
        dsimp only
        simp only [hhost, checkOpen, bind, Except.bind]
        cases s.client.isOpen with
        | false => rfl
        | true =>
          cases hp : url.plainHost with
          | error fault => rfl
          | ok _ => rfl

/-! ## The current user -/

/-- A user who is known is not asked for. -/
theorem currentUser_of_known {remote : Remote} {s : Session}
    (h : s.client.currentUser.isNull = false) :
    currentUser remote s = (.ok s.client.currentUser, s) := by
  rw [currentUser, Run.bind_apply, Run.state_apply]
  dsimp only
  rw [h, if_neg Bool.false_ne_true]
  rfl

/-- A user who is not known is asked for, and remembered if there is an
answer. -/
theorem currentUser_of_unknown {remote : Remote} {s : Session}
    (h : s.client.currentUser.isNull = true) :
    currentUser remote s =
      (getIfThere "/member" >>= fun user => rememberUser user >>= fun _ => pure user) remote s := by
  rw [currentUser, Run.bind_apply, Run.state_apply]
  dsimp only
  rw [if_pos h]

end Api

/-- **A value that is not null came in an answer** of success, whose body it
is. -/
theorem Http.Reply.of_value_eq_ok {reply : Http.Reply} {method : Http.Method} {url : Http.Url}
    {path : String} {allowMissing : Bool} {v : Value}
    (h : reply.value method url path allowMissing = .ok v) (hv : v.isNull = false) :
    ∃ status body, reply = .answer status body ∧ Http.isSuccess status = true ∧
      Json.ofBytes body = .ok v := by
  cases reply with
  | unreachable reason => cases h
  | broken text => cases h
  | answer status body =>
    obtain ⟨_, -, h⟩ := Except.bind_eq_ok.1 h
    refine ⟨status, body, rfl, ?_⟩
    rw [Http.valueOf] at h
    split at h
    · cases h
      cases hv
    · split at h
      · cases h
      · next hstatus =>
        split at h
        · cases h
          cases hv
        · split at h
          · next hbody =>
            cases h
            exact ⟨by simpa using hstatus, hbody⟩
          · cases h
          · cases h

end Backlog
