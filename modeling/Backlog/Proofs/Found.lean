import Backlog.Proofs.Request
import Backlog.Proofs.Shape
import Backlog.Tools.Entity
/-!
# What is there

A tool that needs an entity asks for it where it is, and what it asks for is there when
the answer brings something (`Tools.FoundAt`). Then the tool goes on with it, and else it
ends, having sent nothing but that one question (`Tools.requireEntity_goes`).
-/

namespace Backlog

namespace Tools

section

variable (remote : Remote) (path : String) (s : Session)

/-- Something is asked for at a path, and it is there. -/
structure FoundAt (request : Http.Request) (entity : Value) : Prop where
  /-- The request for it. -/
  asked : Api.outgoing s.client .get path [] none = .ok request
  /-- What the tracker answers. -/
  answered : (remote s.exchanges request).value .get request.url path true = .ok entity
  /-- That is something. -/
  there : entity.isNull = false

end

variable {remote : Remote} {path : String} {s : Session} {kind : Kind} {id : Value}

/-- A path has one thing at most. -/
theorem FoundAt.unique {request other : Http.Request} {entity value : Value}
    (h : FoundAt remote path s request entity) (hother : FoundAt remote path s other value) :
    other = request ∧ value = entity := by
  cases h.asked.symm.trans hother.asked
  exact ⟨rfl, Except.ok.inj (hother.answered.symm.trans h.answered)⟩

/-- Asking for an entity of a kind that has a path. -/
theorem requireEntity_apply (hpath : Api.entityPath kind id = .ok path) (remote : Remote)
    (s : Session) :
    requireEntity kind id remote s =
      (Api.getIfThere path >>= fun entity =>
        if entity.isNull then Run.fail (.api (.missingEntity kind.singular id))
        else pure entity) remote s := by
  rw [requireEntity, Run.bind_apply, Api.getEntity, Run.bind_apply, Run.lift_apply, hpath]
  rfl

/-- **An entity that is there is found.** -/
theorem FoundAt.require {request : Http.Request} {entity : Value}
    (h : FoundAt remote path s request entity) (hpath : Api.entityPath kind id = .ok path) :
    requireEntity kind id remote s =
      (.ok entity, s.received request (remote s.exchanges request)) := by
  rw [requireEntity_apply hpath, Run.bind_apply, Api.getIfThere, Api.request_apply, h.asked]
  dsimp only
  rw [h.answered]
  dsimp only
  rw [h.there, if_neg Bool.false_ne_true]
  rfl

/-- Requests that only ask, for what is at a path. -/
def Asks (client : Client) (path : String) (sent : List Http.Exchange) : Prop :=
  sent.length ≤ 1 ∧ ∀ exchange ∈ sent, exchange.request.method = .get ∧
    Api.address client path [] = .ok exchange.request.url

theorem Asks.nil (client : Client) (path : String) : Asks client path [] :=
  ⟨Nat.zero_le 1, List.forall_mem_nil _⟩

/-- What a client sends to read what is at a path. -/
theorem asks_of_outgoing {client : Client} {request : Http.Request}
    (h : Api.outgoing client .get path [] none = .ok request) (reply : Http.Reply) :
    Asks client path [⟨client.serial, request, reply⟩] := by
  refine ⟨Nat.le_refl 1, fun exchange hmem => ?_⟩
  rw [List.mem_singleton.1 hmem]
  exact ⟨(Api.of_outgoing h).1, Api.address_of_outgoing h⟩

/-- **An entity that is not there ends the tool**, which has asked for it at most. -/
theorem requireEntity_of_missing (hpath : Api.entityPath kind id = .ok path)
    (h : ∀ request entity, ¬ FoundAt remote path s request entity) :
    ∃ fault sent, requireEntity kind id remote s =
        (.error fault, { s with exchanges := s.exchanges ++ sent }) ∧
      Asks s.client path sent := by
  rw [requireEntity_apply hpath, Run.bind_apply, Api.getIfThere, Api.request_apply]
  cases hasked : Api.outgoing s.client .get path [] none with
  | error fault =>
    refine ⟨fault, [], ?_, .nil _ _⟩
    rw [List.append_nil]
  | ok request =>
    have hasks := asks_of_outgoing hasked (remote s.exchanges request)
    dsimp only
    cases hanswered : (remote s.exchanges request).value .get request.url path true with
    | error fault => exact ⟨fault, _, rfl, hasks⟩
    | ok entity =>
      cases hnull : entity.isNull with
      | false => exact absurd ⟨hasked, hanswered, hnull⟩ (h request entity)
      | true =>
        dsimp only
        rw [hnull, if_pos rfl]
        exact ⟨_, _, rfl, hasks⟩

/-- **A tool that needs an entity** finds it and goes on, or ends. -/
theorem requireEntity_goes (hpath : Api.entityPath kind id = .ok path) (remote : Remote)
    (s : Session) :
    (∃ request entity, FoundAt remote path s request entity ∧ requireEntity kind id remote s =
        (.ok entity, s.received request (remote s.exchanges request))) ∨
      (∀ request entity, ¬ FoundAt remote path s request entity) ∧
        ∃ fault sent, requireEntity kind id remote s =
          (.error fault, { s with exchanges := s.exchanges ++ sent }) ∧
          Asks s.client path sent := by
  by_cases h : ∃ request entity, FoundAt remote path s request entity
  · obtain ⟨request, entity, hfound⟩ := h
    exact .inl ⟨request, entity, hfound, hfound.require hpath⟩
  · have hmissing : ∀ request entity, ¬ FoundAt remote path s request entity :=
      fun request entity hfound => h ⟨request, entity, hfound⟩
    exact .inr ⟨hmissing, requireEntity_of_missing hpath hmissing⟩

end Tools

end Backlog
