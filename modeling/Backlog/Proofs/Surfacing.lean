import Backlog.Proofs.ServerRun
/-!
# Which failures are the tracker's

A method of the client asks the tracker one thing and reads the value that
comes back (`Api.Inquiry`). Most of what can go wrong surfaces as a fault of
the tracker's answer, with one of three codes (`Fault.Surfaces`). What does not
is listed by `Job.Escapes`: a request that cannot be made up, a breakdown
outside of the transport, an answer from an address without a scheme, JSON
nested too deeply, and a page of search results whose count or next address
cannot be read. `Job.fails_otherwise_iff` says that the list is complete and
that everything on it does get out.
-/

namespace Backlog

/-- Whether a fault is one of the tracker's answer, with the code of a request
without an answer, of a status or of an answer that is of no use. -/
def Fault.Surfaces : Fault → Prop
  | .api fault => fault.code ∈ ["unavailable", "http_error", "invalid_response"]
  | _ => False

/-- Whether a fault is none of the tracker's answer. -/
def Fault.IsOther (fault : Fault) : Prop := ¬ fault.Surfaces

namespace Api

/-- What a method of the client asks the tracker, and how it reads the value
that comes back. -/
structure Inquiry where
  /-- The method. -/
  method : Http.Method
  /-- What is asked for. -/
  path : String
  /-- The named values of the query. -/
  params : Params := []
  /-- The body, if there is one. -/
  body : Option Value := none
  /-- Whether nothing at the path is an answer too. -/
  allowsMissing : Bool := false
  /-- Checks the value that comes back. -/
  check : Value → Except Fault Unit := fun _ => .ok ()

namespace Inquiry

variable (q : Inquiry)

/-- The request that a client sends for an inquiry, or what keeps it from
sending one. -/
def request (client : Client) : Except Fault Http.Request :=
  outgoing client q.method q.path q.params q.body

/-- What an inquiry brings. -/
def answer (remote : Remote) (s : Session) : Except Fault Value := do
  let request ← q.request s.client
  (remote s.exchanges request).value q.method request.url q.path q.allowsMissing

/-- **The ways in which an inquiry gets lost**, with a fault that is none of the
tracker's answer. -/
inductive Lost (remote : Remote) (s : Session) (q : Inquiry) : Fault → Prop where
  /-- There is no request to send. -/
  | unsent {fault : Fault} (hrequest : q.request s.client = .error fault) : Lost remote s q fault
  /-- Something other than the transport breaks down. -/
  | broken {request : Http.Request} {text : String} (hrequest : q.request s.client = .ok request)
      (hreply : remote s.exchanges request = .broken text) : Lost remote s q (.broken text)
  /-- There is an answer, from an address without a scheme or with loose
  brackets. -/
  | unaddressed {request : Http.Request} {status : Nat} {body : List UInt8} {fault : Fault}
      (hrequest : q.request s.client = .ok request)
      (hreply : remote s.exchanges request = .answer status body)
      (haddress : Http.checkAnswered request.url = .error fault) : Lost remote s q fault
  /-- The body of an answer of success is nested too deeply. -/
  | tooDeep {request : Http.Request} {status : Nat} {body : List UInt8} {inList : Bool}
      (hrequest : q.request s.client = .ok request)
      (hreply : remote s.exchanges request = .answer status body)
      (haddress : Http.checkAnswered request.url = .ok ())
      (hstatus : Http.isSuccess status = true) (hsome : body.isEmpty = false)
      (hbody : Json.ofBytes body = .error (.tooDeep inList)) :
      Lost remote s q (.tooDeep inList)

end Inquiry

/-- Checks that a value is a list. -/
def checkList (kind : Kind) : Value → Except Fault Unit
  | .list _ => .ok ()
  | _ => .error (.api (.notAList kind))

/-- Checks that a value counts as something. -/
def checkTruthy (fault : ApiFault) (v : Value) : Except Fault Unit :=
  (expect v fault).map fun _ => ()

/-- Checks that a value is a page of search results. -/
def checkPage (kind : Kind) (query v : Value) : Except Fault Unit :=
  (readPage kind query v).map fun _ => ()

end Api

open Backlog.Api (Inquiry)

namespace Job

/-- What a job asks the tracker. Nothing is known of the resolver's jobs here,
and a kind that has no such path cannot be asked about. -/
def inquiry? : Job → Option Inquiry
  | listEntities kind => kind.listPath?.map fun path =>
      { method := .get, path, check := Api.checkList kind }
  | getEntity kind id => kind.entityPath?.map fun path =>
      { method := .get, path := path ++ "/" ++ id.display, allowsMissing := true }
  | searchPage kind query pageSize token => kind.searchPath?.map fun path =>
      { method := .get, path, params := Api.searchParams query pageSize token,
        check := Api.checkPage kind query }
  | currentUser => some { method := .get, path := "/member", allowsMissing := true }
  | createEntity kind payload => kind.entityPath?.map fun path =>
      { method := .post, path, body := Api.bodyOf payload,
        check := Api.checkTruthy (.createFailed kind) }
  | updateEntity kind id payload => kind.entityPath?.map fun path =>
      { method := .put, path := path ++ "/" ++ id.display, body := Api.bodyOf payload,
        check := Api.checkTruthy (.updateFailed kind id) }
  | commentOnStory story text => some
      { method := .post, path := "/stories/" ++ story.display ++ "/comments",
        body := some (.object [("text", text)]), check := Api.checkTruthy (.commentFailed story) }
  | iterationStories iteration => some
      { method := .get, path := "/iterations/" ++ iteration.display ++ "/stories",
        params := [("includes_description", .text "false")] }
  | _ => none

/-- Whether a job asks at all. A current user who is known is not asked for. -/
def asks (s : Session) : Job → Bool
  | currentUser => s.client.currentUser.isNull
  | _ => true

/-- Whether a page of search results cannot be read, for the fault given: its
count is no integer, or its next address is none. -/
def Unreadable (fields : List (String × Value)) (fault : Fault) : Prop :=
  ((Value.fieldOf fields "total").orElse (.int 0)).toInteger = .error fault ∨
    (∃ total, ((Value.fieldOf fields "total").orElse (.int 0)).toInteger = .ok total) ∧
      Http.pageToken? (Value.fieldOf fields "next") = .error fault

/-- **The failures of a job of the client that are none of the tracker's
answer.** -/
inductive Escapes (remote : Remote) (s : Session) (job : Job) (q : Inquiry) : Fault → Prop where
  /-- The inquiry is lost. -/
  | lost {fault : Fault} (hlost : q.Lost remote s fault) : Escapes remote s job q fault
  /-- A page of search results cannot be read. -/
  | unreadable {kind : Kind} {query pageSize token : Value} {fields : List (String × Value)}
      {items : List Value} {fault : Fault} (hjob : job = .searchPage kind query pageSize token)
      (hanswer : q.answer remote s = .ok (.object fields))
      (hdata : Value.fieldOf fields "data" = .list items) (hpage : Unreadable fields fault) :
      Escapes remote s job q fault

end Job

/-! ## What is asked and read -/

namespace Api

variable {remote : Remote} {s : Session}

/-- Asking, in terms of the inquiry. -/
theorem request_fst (q : Inquiry) (remote : Remote) (s : Session) :
    (request q.method q.path q.params q.body q.allowsMissing remote s).1 = q.answer remote s := by
  rw [request_apply, Inquiry.answer, Inquiry.request]
  cases outgoing s.client q.method q.path q.params q.body <;> rfl

/-- What becomes of an inquiry and of work with the value that it brings, when
only the effect counts. -/
theorem effect_fst {α : Type} {q : Inquiry} {work : Action α} {next : Value → Action α}
    (hwork : work = request q.method q.path q.params q.body q.allowsMissing >>= next)
    (hnext : ∀ v t, ((next v) remote t).1.map (fun _ => ()) = q.check v) :
    (Job.effectOf work remote s).1 = q.answer remote s >>= q.check := by
  rw [hwork, Job.effectOf, Run.bind_apply, Run.bind_apply, ← request_fst]
  rcases request q.method q.path q.params q.body q.allowsMissing remote s with ⟨_ | v, t⟩
  · rfl
  · have hv := hnext v t
    dsimp only
    rcases hend : next v remote t with ⟨_ | a, u⟩
    · rw [hend] at hv
      exact hv
    · rw [hend] at hv
      exact hv

/-- A path that is there. -/
theorem effect_lift {α β : Type} {result : Except Fault α} {a : α} (h : result = .ok a)
    (next : α → Action β) :
    Job.effectOf (liftM result >>= next) remote s = Job.effectOf (next a) remote s := by
  rw [h]
  rfl

/-- A kind's path, if the kind has one. -/
theorem require_of_eq {kind : Kind} {path? : Option String} {path : String}
    (h : path? = some path) : kind.require path? = .ok path := by
  rw [h]
  rfl

theorem entityPath_of_eq {kind : Kind} {path : String} (h : kind.entityPath? = some path)
    (id : Value) : entityPath kind id = .ok (path ++ "/" ++ id.display) := by
  rw [entityPath, require_of_eq h]
  rfl

end Api

namespace Job

variable {job : Job} {q : Inquiry} {remote : Remote} {s : Session} {fault : Fault}

/-- Work that ends with what it asks for. -/
theorem bind_pure_self {α : Type} (work : Action α) : work = work >>= fun a => pure a := by
  funext remote s
  rw [Run.bind_apply]
  rcases work remote s with ⟨_ | a, t⟩ <;> rfl

/-- **A job of the client asks once and checks what comes back**, if it asks at
all. -/
theorem run_fst (h : job.inquiry? = some q) (hasks : job.asks s = true) :
    (job.run remote s).1 = q.answer remote s >>= q.check := by
  cases job with
  | listEntities kind =>
    obtain ⟨path, hpath, rfl⟩ := Option.map_eq_some_iff.1 h
    rw [run, Api.listEntities, Api.effect_lift (Api.require_of_eq hpath)]
    refine Api.effect_fst rfl fun v t => ?_
    cases v <;> rfl
  | getEntity kind id =>
    obtain ⟨path, hpath, rfl⟩ := Option.map_eq_some_iff.1 h
    rw [run, Api.getEntity, Api.effect_lift (Api.entityPath_of_eq hpath id)]
    exact Api.effect_fst (bind_pure_self _) fun v t => rfl
  | searchPage kind query pageSize token =>
    obtain ⟨path, hpath, rfl⟩ := Option.map_eq_some_iff.1 h
    rw [run, Api.search, Api.effect_lift (Api.require_of_eq hpath)]
    exact Api.effect_fst rfl fun v t => rfl
  | currentUser =>
    cases h
    -- while nobody is remembered, the current user is an inquiry as well
    rw [run, effectOf, Run.bind_apply, Api.currentUser_of_unknown hasks, ← Run.bind_apply]
    exact Api.effect_fst rfl fun v t => rfl
  | createEntity kind payload =>
    obtain ⟨path, hpath, rfl⟩ := Option.map_eq_some_iff.1 h
    rw [run, Api.createEntity, Api.effect_lift (Api.require_of_eq hpath)]
    exact Api.effect_fst rfl fun v t => rfl
  | updateEntity kind id payload =>
    obtain ⟨path, hpath, rfl⟩ := Option.map_eq_some_iff.1 h
    rw [run, Api.updateEntity, Api.effect_lift (Api.entityPath_of_eq hpath id)]
    exact Api.effect_fst rfl fun v t => rfl
  | commentOnStory story text =>
    cases h
    exact Api.effect_fst rfl fun v t => rfl
  | iterationStories iteration =>
    cases h
    exact Api.effect_fst rfl fun v t => rfl
  | resolveMany _ _ _ => cases h
  | resolveOne _ _ _ => cases h
  | resolveGiven _ => cases h
  | referenceValues _ _ => cases h
  | referenceMap _ _ => cases h
  | refresh _ => cases h

/-- A job that does not ask ends well. -/
theorem run_fst_of_not_asks (hasks : job.asks s = false) : (job.run remote s).1 = .ok () := by
  cases job with
  | currentUser =>
    rw [run, effectOf, Run.bind_apply, Api.currentUser_of_known hasks]
    rfl
  | _ => cases hasks

end Job

/-! ## What surfaces and what does not -/

/-- Whether a computation can fail only in the way given. -/
def FailsOnly {α : Type} (allowed : Fault → Prop) (x : Except Fault α) : Prop :=
  ∀ fault, x = .error fault → allowed fault

namespace FailsOnly

variable {α β ε : Type} {allowed : Fault → Prop}

theorem ok (a : α) : FailsOnly allowed (.ok a) := fun _ h => by cases h

theorem error {fault : Fault} (h : allowed fault) :
    FailsOnly allowed (.error fault : Except Fault α) :=
  fun _ h' => by cases h'; exact h

theorem bind {x : Except Fault α} {next : α → Except Fault β} (h : FailsOnly allowed x)
    (hnext : ∀ a, FailsOnly allowed (next a)) : FailsOnly allowed (x >>= next) := by
  intro fault hfault
  cases x with
  | error fault' =>
    cases hfault
    exact h fault rfl
  | ok a => exact hnext a fault hfault

/-- A failure of another type, told as a fault. -/
theorem mapError {f : ε → Fault} (h : ∀ e, allowed (f e)) (x : Except ε α) :
    FailsOnly allowed (x.mapError f) := by
  cases x with
  | error e => exact error (h e)
  | ok a => exact ok a

theorem forM {f : α → Except Fault PUnit} (h : ∀ a, FailsOnly allowed (f a)) (l : List α) :
    FailsOnly allowed (l.forM f) := by
  induction l with
  | nil => exact ok _
  | cons a l ih => exact (h a).bind fun _ => ih

end FailsOnly

namespace Api

open FailsOnly

theorem failsOnly_checkText (text : String) : FailsOnly Fault.IsOther (checkText text) := by
  rw [checkText]
  split
  · exact error id
  · exact .ok ()

theorem failsOnly_address (client : Client) (path : String) (params : Params) :
    FailsOnly Fault.IsOther (address client path params) := by
  have hquery : FailsOnly Fault.IsOther (queryOf params) := by
    refine (forM (fun pair => ?_) _).bind fun _ => .ok _
    exact (failsOnly_checkText _).bind fun _ => failsOnly_checkText _
  refine (mapError (fun _ => id) _).bind fun reference => ?_
  refine (mapError (fun _ => id) _).bind fun url => ?_
  split
  · exact .ok url
  · exact hquery.bind fun query => mapError (fun _ => id) _

theorem failsOnly_checkBody (body : Option Value) : FailsOnly Fault.IsOther (checkBody body) := by
  cases body with
  | none => exact .ok ()
  | some v =>
    rw [checkBody]
    split
    · exact error id
    · split
      · exact error id
      · exact .ok ()

/-- **What keeps a client from sending** is none of the tracker's answer. -/
theorem failsOnly_outgoing (client : Client) (method : Http.Method) (path : String)
    (params : Params) (body : Option Value) :
    FailsOnly Fault.IsOther (outgoing client method path params body) := by
  refine (failsOnly_address client path params).bind fun url => ?_
  refine (failsOnly_checkBody body).bind fun _ => FailsOnly.bind ?_ fun _ => FailsOnly.bind ?_
    fun _ => (mapError (fun _ => id) _).bind fun _ => .ok _
  · rw [checkHost]
    split
    · exact .ok ()
    · exact error id
  · rw [checkOpen]
    split
    · exact .ok ()
    · exact error id

end Api

theorem Http.failsOnly_checkAnswered (url : Http.Url) :
    FailsOnly Fault.IsOther (Http.checkAnswered url) := by
  rw [checkAnswered]
  split
  · exact .mapError (fun _ => id) _
  · exact .error id

theorem Value.failsOnly_toInteger (v : Value) : FailsOnly Fault.IsOther v.toInteger := by
  unfold Value.toInteger
  split
  · exact .ok _
  · exact .ok _
  · rw [Double.truncate]
    split
    · exact .error id
    · exact .error id
    · exact .ok _
  · refine .mapError (fun fault => ?_) _
    cases fault <;> exact id
  · exact .error id

theorem Http.failsOnly_pageToken? (address : Value) :
    FailsOnly Fault.IsOther (Http.pageToken? address) := by
  unfold pageToken?
  split
  · exact .ok _
  · split
    · exact (FailsOnly.mapError (fun _ => id) _).bind fun _ => .ok _
    · exact .error id

/-- **An answer that brings no value** is one of the tracker's faults, unless
it is one of success that is nested too deeply. -/
theorem Http.valueOf_eq_error (method : Method) (path : String) (allowMissing : Bool)
    (status : Nat) (body : List UInt8) {fault : Fault} :
    valueOf method path allowMissing status body = .error fault ∧ fault.IsOther ↔
      isSuccess status = true ∧ body.isEmpty = false ∧
        ∃ inList, Json.ofBytes body = .error (.tooDeep inList) ∧ fault = .tooDeep inList := by
  rw [valueOf]
  split
  · next hmissing =>
    -- the status of what is missing is none of success
    have hstatus : status = 404 := by simp at hmissing; exact hmissing.2
    simp [hstatus, isSuccess]
  · split
    · next hstatus =>
      have hother : ¬ Fault.IsOther (.api (.status status method path (detail body))) :=
        fun hnot => hnot (by simp [Fault.Surfaces, ApiFault.code])
      constructor
      · rintro ⟨⟨⟩, hfault⟩
        exact absurd hfault hother
      · rintro ⟨hsuccess, -⟩
        simp [hsuccess] at hstatus
    · next hstatus =>
      have hsuccess : isSuccess status = true := by simpa using hstatus
      split
      · next hempty => simp [hempty]
      · next hempty =>
        have hsome : body.isEmpty = false := by simpa using hempty
        cases hbody : Json.ofBytes body with
        | ok v => simp
        | error reason =>
          cases reason with
          | malformed =>
            have hother : ¬ Fault.IsOther (.api (.notJson method path)) :=
              fun hnot => hnot (by simp [Fault.Surfaces, ApiFault.code])
            constructor
            · rintro ⟨⟨⟩, hfault⟩
              exact absurd hfault hother
            · rintro ⟨-, -, inList, ⟨⟩, -⟩
          | tooDeep inList =>
            constructor
            · rintro ⟨⟨⟩, -⟩
              exact ⟨hsuccess, hsome, inList, rfl, rfl⟩
            · rintro ⟨-, -, inList, ⟨⟩, rfl⟩
              exact ⟨rfl, id⟩

/-- **An inquiry that fails otherwise** got lost in one of the ways listed. -/
theorem Api.Inquiry.answer_eq_error (q : Inquiry) (remote : Remote) (s : Session) {fault : Fault} :
    q.answer remote s = .error fault ∧ fault.IsOther ↔ q.Lost remote s fault := by
  constructor
  · rintro ⟨hanswer, hother⟩
    rcases Except.bind_eq_error.1 hanswer with hrequest | ⟨request, hrequest, hanswer⟩
    · exact .unsent hrequest
    · cases hreply : remote s.exchanges request with
      | unreachable reason =>
        rw [hreply] at hanswer
        cases hanswer
        exact absurd (by simp [Fault.Surfaces, ApiFault.code]) hother
      | broken text =>
        rw [hreply] at hanswer
        cases hanswer
        exact .broken hrequest hreply
      | answer status body =>
        rw [hreply] at hanswer
        rcases Except.bind_eq_error.1 hanswer with haddress | ⟨_, haddress, hvalue⟩
        · exact .unaddressed hrequest hreply haddress
        · obtain ⟨hstatus, hsome, inList, hbody, rfl⟩ :=
            (Http.valueOf_eq_error ..).1 ⟨hvalue, hother⟩
          exact .tooDeep hrequest hreply haddress hstatus hsome hbody
  · intro hlost
    rw [Inquiry.answer]
    cases hlost with
    | unsent hrequest =>
      rw [hrequest]
      exact ⟨rfl, failsOnly_outgoing _ _ _ _ _ fault hrequest⟩
    | broken hrequest hreply =>
      simp only [hrequest, bind, Except.bind, hreply]
      exact ⟨rfl, id⟩
    | unaddressed hrequest hreply haddress =>
      simp only [hrequest, bind, Except.bind, hreply, Http.Reply.value, haddress]
      exact ⟨trivial, Http.failsOnly_checkAnswered _ fault haddress⟩
    | tooDeep hrequest hreply haddress hstatus hsome hbody =>
      simp only [hrequest, bind, Except.bind, hreply, Http.Reply.value, haddress]
      exact (Http.valueOf_eq_error ..).2 ⟨hstatus, hsome, _, hbody, rfl⟩

namespace Api

/-- **The values that a page of search results cannot be read from**, when the
fault is none of the tracker's answer. -/
theorem checkPage_eq_error (kind : Kind) (query v : Value) {fault : Fault} :
    checkPage kind query v = .error fault ∧ fault.IsOther ↔
      ∃ fields items, v = .object fields ∧ Value.fieldOf fields "data" = .list items ∧
        Job.Unreadable fields fault := by
  have hother : ¬ Fault.IsOther (.api (.searchFailed kind query)) :=
    fun hnot => hnot (by simp [Fault.Surfaces, ApiFault.code])
  constructor
  · rintro ⟨hcheck, hfault⟩
    have hread : readPage kind query v = .error fault := by
      rw [checkPage] at hcheck
      cases hread : readPage kind query v with
      | ok page => rw [hread] at hcheck; cases hcheck
      | error fault' => rw [hread] at hcheck; cases hcheck; rfl
    unfold readPage at hread
    dsimp only at hread
    split at hread
    · next fields =>
      split at hread
      · next items hdata =>
        refine ⟨fields, items, rfl, hdata, ?_⟩
        rcases Except.bind_eq_error.1 hread with htotal | ⟨total, htotal, hread⟩
        · exact .inl htotal
        · rcases Except.bind_eq_error.1 hread with hnext | ⟨_, -, hread⟩
          · exact .inr ⟨⟨total, htotal⟩, hnext⟩
          · cases hread
      · cases hread
        exact absurd hfault hother
    · cases hread
      exact absurd hfault hother
  · rintro ⟨fields, items, rfl, hdata, hpage⟩
    have hread : checkPage kind query (.object fields) = .error fault := by
      rw [checkPage, readPage]
      rcases hpage with htotal | ⟨⟨total, htotal⟩, hnext⟩
      · simp only [hdata, htotal, bind, Except.bind, Except.map]
      · simp only [hdata, htotal, hnext, bind, Except.bind, Except.map]
    refine ⟨hread, ?_⟩
    rcases hpage with htotal | ⟨-, hnext⟩
    · exact Value.failsOnly_toInteger _ fault htotal
    · exact Http.failsOnly_pageToken? _ fault hnext

/-- A value that is no list, or counts as nothing, is a fault of the tracker's
answer. -/
theorem surfaces_of_checkList {kind : Kind} {v : Value} {fault : Fault}
    (h : checkList kind v = .error fault) : fault.Surfaces := by
  cases v with
  | list _ => cases h
  | atom _ => cases h; simp [Fault.Surfaces, ApiFault.code]
  | object _ => cases h; simp [Fault.Surfaces, ApiFault.code]

theorem surfaces_of_checkTruthy {reason : ApiFault} (hreason : (Fault.api reason).Surfaces)
    {v : Value} {fault : Fault} (h : checkTruthy reason v = .error fault) : fault.Surfaces := by
  rw [checkTruthy, expect] at h
  split at h
  · cases h
  · cases h
    exact hreason

end Api

namespace Job

variable {job : Job} {q : Inquiry} {remote : Remote} {s : Session} {fault : Fault}

/-- A value that a job without a page of search results does not take is a
fault of the tracker's answer. -/
theorem surfaces_of_check (h : job.inquiry? = some q)
    (hjob : ∀ kind query pageSize token, job ≠ .searchPage kind query pageSize token) {v : Value}
    (hcheck : q.check v = .error fault) : fault.Surfaces := by
  cases job with
  | listEntities kind =>
    obtain ⟨path, -, rfl⟩ := Option.map_eq_some_iff.1 h
    exact Api.surfaces_of_checkList hcheck
  | getEntity kind id =>
    obtain ⟨path, -, rfl⟩ := Option.map_eq_some_iff.1 h
    cases hcheck
  | searchPage kind query pageSize token => exact absurd rfl (hjob kind query pageSize token)
  | currentUser =>
    cases h
    cases hcheck
  | createEntity kind payload =>
    obtain ⟨path, -, rfl⟩ := Option.map_eq_some_iff.1 h
    exact Api.surfaces_of_checkTruthy (by simp [Fault.Surfaces, ApiFault.code]) hcheck
  | updateEntity kind id payload =>
    obtain ⟨path, -, rfl⟩ := Option.map_eq_some_iff.1 h
    exact Api.surfaces_of_checkTruthy (by simp [Fault.Surfaces, ApiFault.code]) hcheck
  | commentOnStory story text =>
    cases h
    exact Api.surfaces_of_checkTruthy (by simp [Fault.Surfaces, ApiFault.code]) hcheck
  | iterationStories iteration =>
    cases h
    cases hcheck
  | resolveMany _ _ _ => cases h
  | resolveOne _ _ _ => cases h
  | resolveGiven _ => cases h
  | referenceValues _ _ => cases h
  | referenceMap _ _ => cases h
  | refresh _ => cases h

/-- **Only a page of search results** can be checked with a fault that is none
of the tracker's answer. -/
theorem check_eq_error (h : job.inquiry? = some q) (v : Value) :
    q.check v = .error fault ∧ fault.IsOther ↔
      ∃ kind query pageSize token fields items, job = .searchPage kind query pageSize token ∧
        v = .object fields ∧ Value.fieldOf fields "data" = .list items ∧
          Unreadable fields fault := by
  by_cases hsearch : ∃ kind query pageSize token, job = .searchPage kind query pageSize token
  · obtain ⟨kind, query, pageSize, token, rfl⟩ := hsearch
    obtain ⟨path, -, rfl⟩ := Option.map_eq_some_iff.1 h
    constructor
    · intro hcheck
      obtain ⟨fields, items, hpage⟩ := (Api.checkPage_eq_error kind query v).1 hcheck
      exact ⟨kind, query, pageSize, token, fields, items, rfl, hpage⟩
    · rintro ⟨-, -, -, -, fields, items, -, hpage⟩
      exact (Api.checkPage_eq_error kind query v).2 ⟨fields, items, hpage⟩
  · constructor
    · rintro ⟨hcheck, hother⟩
      have hjob : ∀ kind query pageSize token, job ≠ .searchPage kind query pageSize token :=
        fun kind query pageSize token hjob => hsearch ⟨kind, query, pageSize, token, hjob⟩
      exact absurd (surfaces_of_check h hjob hcheck) hother
    · rintro ⟨kind, query, pageSize, token, -, -, hjob, -⟩
      exact absurd ⟨kind, query, pageSize, token, hjob⟩ hsearch

/-- **What fails otherwise.** A job of the client, for a kind that has the path
and with any arguments, fails with a fault that is none of the tracker's answer
exactly when it asks and one of the cases listed is there. In all other cases
it ends well or with one of the three codes. -/
theorem fails_otherwise_iff (h : job.inquiry? = some q) :
    (job.run remote s).1 = .error fault ∧ ¬ fault.Surfaces ↔
      job.asks s = true ∧ job.Escapes remote s q fault := by
  cases hasks : job.asks s with
  | false =>
    rw [run_fst_of_not_asks hasks]
    constructor
    · rintro ⟨⟨⟩, -⟩
    · rintro ⟨⟨⟩, -⟩
  | true =>
    rw [run_fst h hasks]
    constructor
    · rintro ⟨hrun, hother⟩
      refine ⟨rfl, ?_⟩
      rcases Except.bind_eq_error.1 hrun with hanswer | ⟨v, hanswer, hcheck⟩
      · exact .lost ((q.answer_eq_error remote s).1 ⟨hanswer, hother⟩)
      · obtain ⟨kind, query, pageSize, token, fields, items, hjob, rfl, hdata, hpage⟩ :=
          (check_eq_error h v).1 ⟨hcheck, hother⟩
        exact .unreadable hjob hanswer hdata hpage
    · rintro ⟨-, hescapes⟩
      cases hescapes with
      | lost hlost =>
        obtain ⟨hanswer, hother⟩ := (q.answer_eq_error remote s).2 hlost
        exact ⟨Except.bind_eq_error.2 (.inl hanswer), hother⟩
      | unreadable hjob hanswer hdata hpage =>
        obtain ⟨hcheck, hother⟩ :=
          (check_eq_error h _).2 ⟨_, _, _, _, _, _, hjob, rfl, hdata, hpage⟩
        exact ⟨Except.bind_eq_error.2 (.inr ⟨_, hanswer, hcheck⟩), hother⟩

/-! ### A count in words -/

namespace Sample

/-- A tracker that answers everything with no results and a count in words,
which is `"many"`. -/
def inWords : Remote := fun _ _ =>
  .answer 200
    [123, 34, 100, 97, 116, 97, 34, 58, 91, 93, 44, 34, 116, 111, 116, 97, 108, 34, 58, 34, 109,
      97, 110, 121, 34, 125]

/-- A session with an open client. -/
def session : Session where
  client :=
    { serial := 0, settings := ⟨.text "token", "https://tracker", .int 30⟩, token := "token",
      base :=
        { scheme := "https".toList, userinfo := [], host := "tracker".toList, port := none,
          path := "/".toList, query := none, fragment := none } }
  caches := {}
  clock := .int 0

/-- A search for stories. -/
def searching : Job := .searchPage .stories (.text "q") Api.defaultPageSize .null

/-- What the search asks. -/
def inquiry : Inquiry where
  method := .get
  path := "/search/stories"
  params := Api.searchParams (.text "q") Api.defaultPageSize .null
  check := Api.checkPage .stories (.text "q")

theorem run_searching :
    (searching.run inWords session).1 = .error (.refused (.notAnInteger "many")) := by
  rfl

end Sample

/-- The search escapes by its count, and it does ask. -/
theorem count_in_words_escapes :
    Sample.searching.inquiry? = some Sample.inquiry ∧
      Sample.searching.asks Sample.session = true ∧
      Sample.searching.Escapes Sample.inWords Sample.session Sample.inquiry
        (.refused (.notAnInteger "many")) :=
  ⟨rfl, (fails_otherwise_iff rfl).1 ⟨Sample.run_searching, id⟩⟩

/-- **Not every failure surfaces**: an answer of success with a count in words
fails the search with a fault that is none of the tracker's answer. -/
theorem count_in_words_does_not_surface :
    (Sample.searching.run Sample.inWords Sample.session).1 =
        .error (.refused (.notAnInteger "many")) ∧
      ¬ (Fault.refused (.notAnInteger "many")).Surfaces :=
  ⟨Sample.run_searching, id⟩

end Job

end Backlog
