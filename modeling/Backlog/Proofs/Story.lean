import Backlog.Proofs.Found
import Backlog.Tools.Story
/-!
# Stories that are there

Before a tool does something to a story it asks for it. The story is there when
the answer brings something (`Tools.StoryFound`), and else the tool ends
(`Tools.StoryMissing`); there is no third way (`Tools.found_or_missing`). Where a
client could ask for a story it can send a change of it, to the same address,
unless the body keeps it from that (`Tools.StoryFound.update`).
-/

namespace Backlog

namespace Api

/-- **Where one request goes another goes**, with another method and another body,
if that body can be sent. -/
theorem outgoing_of_outgoing {client : Client} {method other : Http.Method} {path : String}
    {params : Params} {body otherBody : Option Value} {request : Http.Request}
    (h : outgoing client method path params body = .ok request) :
    outgoing client other path params otherBody =
      (checkBody otherBody).map fun _ => { request with method := other, body := otherBody } := by
  obtain ⟨url, haddress, h⟩ := Except.bind_eq_ok.1 h
  obtain ⟨⟨⟩, -, h⟩ := Except.bind_eq_ok.1 h
  obtain ⟨⟨⟩, hhost, h⟩ := Except.bind_eq_ok.1 h
  obtain ⟨⟨⟩, hopen, h⟩ := Except.bind_eq_ok.1 h
  obtain ⟨name, hname, h⟩ := Except.bind_eq_ok.1 h
  cases h
  rw [outgoing, haddress]
  simp only [bind, Except.bind]
  cases checkBody otherBody with
  | error fault => rfl
  | ok checked =>
    dsimp only
    rw [hhost, hopen, hname]
    rfl

/-- A client sends the same, whoever it knows. -/
theorem outgoing_currentUser (client : Client) (user : Value) (method : Http.Method)
    (path : String) (params : Params) (body : Option Value) :
    outgoing { client with currentUser := user } method path params body =
      outgoing client method path params body := rfl

end Api

namespace Tools

/-- Where a story is. -/
def storyPath (story : Value) : String := "/stories" ++ "/" ++ story.display

section

variable (remote : Remote) (story : Value) (s : Session)

/-- A story is asked for, and it is there. -/
structure StoryFound (request : Http.Request) (entity : Value) : Prop where
  /-- The request for it. -/
  asked : Api.outgoing s.client .get (storyPath story) [] none = .ok request
  /-- What the tracker answers. -/
  answered : (remote s.exchanges request).value .get request.url (storyPath story) true =
    .ok entity
  /-- That is something. -/
  there : entity.isNull = false

/-- A story is not there: what a look for it ends in, and what it leaves of a
session. -/
inductive StoryMissing : Fault → Session → Prop where
  /-- It cannot be asked for. -/
  | unasked {fault : Fault}
      (hasked : Api.outgoing s.client .get (storyPath story) [] none = .error fault) :
      StoryMissing fault s
  /-- The answer is of no use. -/
  | failed {request : Http.Request} {fault : Fault}
      (hasked : Api.outgoing s.client .get (storyPath story) [] none = .ok request)
      (hanswered : (remote s.exchanges request).value .get request.url (storyPath story) true =
        .error fault) :
      StoryMissing fault (s.received request (remote s.exchanges request))
  /-- The tracker has no such story. -/
  | absent {request : Http.Request}
      (hasked : Api.outgoing s.client .get (storyPath story) [] none = .ok request)
      (hanswered : (remote s.exchanges request).value .get request.url (storyPath story) true =
        .ok .null) :
      StoryMissing (.api (.missingEntity Kind.stories.singular story))
        (s.received request (remote s.exchanges request))

end

variable {remote : Remote} {story : Value} {s m : Session} {request : Http.Request}
variable {entity : Value} {fault : Fault}

/-- Asking for a story. -/
theorem requireStory_apply (remote : Remote) (story : Value) (s : Session) :
    requireEntity .stories story remote s =
      ((Api.getIfThere (storyPath story)) >>= fun entity =>
        if entity.isNull then Run.fail (.api (.missingEntity Kind.stories.singular story))
        else pure entity) remote s := requireEntity_apply rfl remote s

/-- **A story that is there is found.** -/
theorem StoryFound.require (h : StoryFound remote story s request entity) :
    requireEntity .stories story remote s =
      (.ok entity, s.received request (remote s.exchanges request)) :=
  FoundAt.require ⟨h.asked, h.answered, h.there⟩ rfl

/-- A story that is not there ends the look for it. -/
theorem StoryMissing.require (h : StoryMissing remote story s fault m) :
    requireEntity .stories story remote s = (.error fault, m) := by
  rw [requireStory_apply, Run.bind_apply, Api.getIfThere, Api.request_apply]
  cases h with
  | unasked hasked => rw [hasked]
  | failed hasked hanswered =>
    rw [hasked]
    dsimp only
    rw [hanswered]
  | absent hasked hanswered =>
    rw [hasked]
    dsimp only
    rw [hanswered]
    rfl

/-- **A story is there or it is not.** -/
theorem found_or_missing (remote : Remote) (story : Value) (s : Session) :
    (∃ request entity, StoryFound remote story s request entity) ∨
      ∃ fault m, StoryMissing remote story s fault m := by
  cases hasked : Api.outgoing s.client .get (storyPath story) [] none with
  | error fault => exact .inr ⟨fault, s, .unasked hasked⟩
  | ok request =>
    cases hanswered :
        (remote s.exchanges request).value .get request.url (storyPath story) true with
    | error fault => exact .inr ⟨fault, _, .failed hasked hanswered⟩
    | ok entity =>
      cases hnull : entity.isNull with
      | false => exact .inl ⟨request, entity, hasked, hanswered, hnull⟩
      | true =>
        rw [Value.eq_null_of_isNull hnull] at hanswered
        exact .inr ⟨_, _, .absent hasked hanswered⟩

/-! ## Changing a story -/

/-- The request that changes what a request asks for. -/
def changing (request : Http.Request) (body : Value) : Http.Request :=
  { request with method := .put, body := some body }

@[simp] theorem changing_url (request : Http.Request) (body : Value) :
    (changing request body).url = request.url := rfl

/-- What a change of a story ends in, given the reply to it. -/
def changed (story : Value) (url : Http.Url) (reply : Http.Reply) : Except Fault Value := do
  let updated ← reply.value .put url (storyPath story) false
  Api.expect updated (.updateFailed .stories story)

/-- **A story that is there is changed by one request**, to the address that it was
found at. It does not matter whom the client has come to know since. -/
theorem StoryFound.update (h : StoryFound remote story s request entity)
    (hclient : m.client = { s.client with currentUser := m.client.currentUser })
    {body : Table String Value} (hbody : Api.checkBody (some (.object body)) = .ok ()) :
    Api.updateEntity .stories story (.object body) remote m =
      (changed story request.url (remote m.exchanges (changing request (.object body))),
        m.received (changing request (.object body))
          (remote m.exchanges (changing request (.object body)))) := by
  have hput : Api.outgoing m.client .put (storyPath story) [] (some (.object body)) =
      .ok (changing request (.object body)) := by
    rw [hclient, Api.outgoing_currentUser, Api.outgoing_of_outgoing h.asked, hbody]
    rfl
  have hrequest := Api.request_apply .put (storyPath story) [] (some (.object body)) false remote m
  rw [hput] at hrequest
  dsimp only at hrequest
  rw [changing_url] at hrequest
  have hupdate : Api.updateEntity .stories story (.object body) remote m =
      (Api.request .put (storyPath story) [] (some (.object body)) false >>= fun updated =>
        liftM (Api.expect updated (.updateFailed .stories story))) remote m := rfl
  rw [hupdate, Run.bind_apply, hrequest, changed]
  cases (remote m.exchanges (changing request (.object body))).value .put request.url
      (storyPath story) false with
  | error fault => rfl
  | ok updated => rfl

/-- A change whose body cannot be sent is not. -/
theorem StoryFound.update_of_error (h : StoryFound remote story s request entity)
    (hclient : m.client = { s.client with currentUser := m.client.currentUser })
    {body : Table String Value} (hbody : Api.checkBody (some (.object body)) = .error fault) :
    Api.updateEntity .stories story (.object body) remote m = (.error fault, m) := by
  have hput : Api.outgoing m.client .put (storyPath story) [] (some (.object body)) =
      .error fault := by
    rw [hclient, Api.outgoing_currentUser, Api.outgoing_of_outgoing h.asked, hbody]
    rfl
  have hrequest := Api.request_apply .put (storyPath story) [] (some (.object body)) false remote m
  rw [hput] at hrequest
  have hupdate : Api.updateEntity .stories story (.object body) remote m =
      (Api.request .put (storyPath story) [] (some (.object body)) false >>= fun updated =>
        liftM (Api.expect updated (.updateFailed .stories story))) remote m := rfl
  rw [hupdate, Run.bind_of_error _ hrequest]

end Tools

end Backlog
