import Backlog.Proofs.Body
import Backlog.Proofs.CurrentUser
import Backlog.Proofs.Story
/-!
# Becoming an owner and ceasing to be one

The current user is made an owner of a story, and taken out again, by calls that
each read the owners first and write them only if something is to change. Against
a tracker that keeps the owners it is sent (`Tools.StoresOwners`), one call does
what `Tools.OwnerStep` says, and over any run of calls the owners follow them
(`Tools.owners_follow_calls`).
-/

namespace Backlog

namespace Tools

/-! ## Lists of owners -/

/-- Whether a user is among the owners. -/
def isOwner (id : Value) (owners : List Value) : Bool := owners.any (· == id)

/-- The owners but for one user. -/
def otherOwners (id : Value) (owners : List Value) : List Value :=
  owners.filter fun owner => !(owner == id)

/-- The owners in a field: null stands for none. -/
def ownersIn : Value → List Value
  | .list owners => owners
  | _ => []

/-- A call for the current user. -/
inductive OwnerCall where
  /-- To make them an owner. -/
  | assign
  /-- To take them out of the owners. -/
  | unassign

namespace OwnerCall

/-- What a call does. -/
def action (story : Value) : OwnerCall → Action String
  | assign => assignCurrentUser story
  | unassign => unassignCurrentUser story

/-- Whether the current user is to be an owner. -/
def wanted : OwnerCall → Bool
  | assign => true
  | unassign => false

/-- The owners that a call is to lead to. -/
def owners (id : Value) (before : List Value) : OwnerCall → List Value
  | assign => if isOwner id before then before else before ++ [id]
  | unassign => otherOwners id before

end OwnerCall

variable {id : Value} {owners : List Value} {call : OwnerCall}

/-- Among the other owners the user is not. -/
theorem isOwner_otherOwners (id : Value) (owners : List Value) :
    isOwner id (otherOwners id owners) = false := by
  rw [isOwner, List.any_eq_false]
  intro owner hmem
  simpa using (List.mem_filter.1 hmem).2

/-- Where the user is no owner, the other owners are all. -/
theorem otherOwners_eq_self (h : isOwner id owners = false) : otherOwners id owners = owners := by
  refine List.filter_eq_self.2 fun owner hmem => ?_
  simpa using List.any_eq_false.1 h owner hmem

/-- **A call leads to owners among which the user is, or is not, as wanted.** -/
theorem isOwner_owners (hself : (id == id) = true) (call : OwnerCall) (owners : List Value) :
    isOwner id (call.owners id owners) = call.wanted := by
  cases call with
  | assign =>
    rw [OwnerCall.owners, OwnerCall.wanted]
    split
    · next howner => exact howner
    · rw [isOwner, List.any_append, List.any_cons, hself, Bool.true_or, Bool.or_true]
  | unassign => exact isOwner_otherOwners id owners

/-- **A call leaves the other owners as they are**, in their order. -/
theorem otherOwners_owners (hself : (id == id) = true) (call : OwnerCall) (owners : List Value) :
    otherOwners id (call.owners id owners) = otherOwners id owners := by
  cases call with
  | assign =>
    rw [OwnerCall.owners]
    split
    · rfl
    · rw [otherOwners, List.filter_append, List.filter_singleton, hself]
      exact List.append_nil _
  | unassign => exact otherOwners_eq_self (isOwner_otherOwners id owners)

/-- A call whose end is reached leads to the owners that there are. -/
theorem owners_eq_self (h : isOwner id owners = call.wanted) :
    call.owners id owners = owners := by
  cases call with
  | assign => exact if_pos h
  | unassign => exact otherOwners_eq_self h

/-- **Who becomes an owner and ceases to be one** leaves the owners as they were. -/
theorem owners_restored (hself : (id == id) = true) (h : isOwner id owners = false) :
    OwnerCall.unassign.owners id (OwnerCall.assign.owners id owners) = owners := by
  have hothers := otherOwners_owners hself .assign owners
  rw [otherOwners_eq_self h] at hothers
  exact hothers

/-- A value that is NaN is no finite number. -/
theorem isNaN_eq_false_of_numbersFinite {v : Value} (h : v.numbersFinite = true) :
    v.isNaN = false := by
  cases v with
  | list items => rfl
  | object fields => rfl
  | atom a =>
    cases a with
    | null => rfl
    | text text => rfl
    | num n =>
      cases n with
      | int n => rfl
      | flag b => rfl
      | float d =>
        rw [Value.numbersFinite, Number.isFinite, Double.isFinite] at h
        rw [Value.isNaN, Number.magnitude]
        split at h
        · next hshape =>
          rw [hshape]
          rfl
        · cases h

/-- What is left in a list without a user, if it can be sent, are the other owners. -/
theorem filter_equals
    (h : ∀ owner ∈ owners.filter fun owner => !owner.equals id, owner.numbersFinite = true) :
    (owners.filter fun owner => !owner.equals id) = otherOwners id owners := by
  -- the two comparisons part at NaN alone, and a list with NaN in it cannot be sent
  refine List.filter_congr fun owner hmem => ?_
  cases hequals : owner.equals id with
  | true =>
    rw [Value.equals, Bool.and_eq_true] at hequals
    rw [hequals.1]
  | false =>
    have hfinite := h owner (List.mem_filter.2 ⟨hmem, by rw [hequals]; rfl⟩)
    rw [Value.equals, isNaN_eq_false_of_numbersFinite hfinite, Bool.not_false,
      Bool.and_true] at hequals
    rw [hequals]

/-! ## A tracker that keeps the owners -/

/-- Whether a request goes to a story. -/
def GoesTo (client : Client) (story : Value) (request : Http.Request) : Prop :=
  Api.address client (storyPath story) [] = .ok request.url

/-- **A tracker that keeps the owners of a story**: `held` is what it holds after some
exchanges. -/
structure StoresOwners (remote : Remote) (client : Client) (story : Value)
    (held : List Http.Exchange → Value) : Prop where
  /-- What it brings for the story has the owners that it holds. -/
  reads : ∀ past request path entity, request.method = .get → GoesTo client story request →
    (remote past request).value .get request.url path true = .ok entity →
    entity.isNull = false → entity.field "owner_ids" = .ok (held past)
  /-- It holds the owners that a change of the story has, or fails to change it. -/
  writes : ∀ past serial request fields owners, request.method = .put →
    GoesTo client story request → request.body = some (.object fields) →
    Table.get? fields "owner_ids" = some owners →
    held (past ++ [⟨serial, request, remote past request⟩]) = owners ∨
      held (past ++ [⟨serial, request, remote past request⟩]) = held past ∧
        ∀ path updated, (remote past request).value .put request.url path false ≠ .ok updated
  /-- Nothing else changes what it holds. -/
  keeps : ∀ past exchange,
    ¬ (exchange.request.method = .put ∧ GoesTo client story exchange.request) →
    held (past ++ [exchange]) = held past

/-- **Who the current user is**: the client knows them or knows nobody yet, and the
tracker names nobody else. -/
structure IsCurrentUser (remote : Remote) (client : Client) (user : Value) : Prop where
  /-- Whom the client knows. -/
  known : client.currentUser = .null ∨ client.currentUser = user
  /-- Whom the tracker names. -/
  named : ∀ past serial request entity, Api.memberRequest client = .ok request →
    Api.memberOf ⟨serial, request, remote past request⟩ = .ok entity →
    entity.isNull = false → entity = user

variable {remote : Remote} {client : Client} {story user : Value}
variable {held : List Http.Exchange → Value} {s m t : Session}

/-- What only reads leaves the owners as they are. -/
theorem StoresOwners.held_append (h : StoresOwners remote client story held)
    (past : List Http.Exchange) {reads : List Http.Exchange}
    (hreads : ∀ exchange ∈ reads, exchange.request.method = .get) :
    held (past ++ reads) = held past := by
  induction reads generalizing past with
  | nil => rw [List.append_nil]
  | cons exchange reads ih =>
    obtain ⟨hfirst, hrest⟩ := List.forall_mem_cons.1 hreads
    rw [List.append_cons, ih _ hrest, h.keeps]
    rintro ⟨hput, -⟩
    rw [hfirst] at hput
    cases hput

/-! ## One call -/

/-- What stays over a run of calls: the client is as before but for whom it knows,
and the tracker holds a list of owners or null. -/
structure OwnersKept (remote : Remote) (client : Client) (user : Value)
    (held : List Http.Exchange → Value) (s : Session) : Prop where
  /-- The client is as before but for whom it knows. -/
  client : s.client = { client with currentUser := s.client.currentUser }
  /-- That is the current user, if anyone. -/
  user : IsCurrentUser remote s.client user
  /-- The owners are a list, or null. -/
  held : held s.exchanges = .null ∨ ∃ owners, held s.exchanges = .list owners

/-- **What one call does.** -/
inductive OwnerStep (held : List Http.Exchange → Value) (id : Value) (call : OwnerCall)
    (s : Session) : Except Fault String → Session → Prop where
  /-- It only reads: it fails, or the current user is an owner or not as wanted. -/
  | read {result : Except Fault String} {t : Session} {reads : List Http.Exchange}
      (hexchanges : t.exchanges = s.exchanges ++ reads)
      (hreads : ∀ exchange ∈ reads, exchange.request.method = .get)
      (hdone : ∀ report, result = .ok report →
        isOwner id (ownersIn (held s.exchanges)) = call.wanted) :
      OwnerStep held id call s result t
  /-- The current user is to become an owner or to cease to be one, and one request
  says so. -/
  | written {result : Except Fault String} {t : Session} {reads : List Http.Exchange}
      {change : Http.Exchange} (hexchanges : t.exchanges = s.exchanges ++ reads ++ [change])
      (hreads : ∀ exchange ∈ reads, exchange.request.method = .get)
      (hchange : change.request.method = .put)
      (hwanted : isOwner id (ownersIn (held s.exchanges)) ≠ call.wanted)
      (hbody : change.request.body = some (.object
        [("owner_ids", .list (call.owners id (ownersIn (held s.exchanges))))]))
      (hheld : held t.exchanges = .list (call.owners id (ownersIn (held s.exchanges))) ∨
        held t.exchanges = held s.exchanges ∧ ∀ report, result ≠ .ok report) :
      OwnerStep held id call s result t

/-- The owners in an entity, read as the tools read them. -/
theorem ownerIds_eq {entity owners : Value} (h : entity.field "owner_ids" = .ok owners)
    (hplain : owners = .null ∨ ∃ items, owners = .list items) :
    ownerIds entity = .ok (ownersIn owners) := by
  rw [ownerIds, h]
  rcases hplain with rfl | ⟨items, rfl⟩
  · rfl
  · cases items <;> rfl

/-! ### Reading -/

/-- **Work that only reads**: it sends no changes, and comes to know the current user
at most. -/
structure OnlyReads (remote : Remote) (user : Value) (s m : Session) : Prop where
  /-- What it sends. -/
  sent : ∃ reads, m.exchanges = s.exchanges ++ reads ∧
    ∀ exchange ∈ reads, exchange.request.method = .get
  /-- The client is as before but for whom it knows. -/
  client : m.client = { s.client with currentUser := m.client.currentUser }
  /-- That is the current user, if anyone. -/
  user : IsCurrentUser remote m.client user

namespace OnlyReads

theorem refl (h : IsCurrentUser remote s.client user) : OnlyReads remote user s s where
  sent := ⟨[], (List.append_nil _).symm, fun _ hmem => absurd hmem List.not_mem_nil⟩
  client := rfl
  user := h

theorem trans (h : OnlyReads remote user s m) (h' : OnlyReads remote user m t) :
    OnlyReads remote user s t where
  sent := by
    obtain ⟨reads, hsent, hreads⟩ := h.sent
    obtain ⟨others, hsent', hothers⟩ := h'.sent
    refine ⟨reads ++ others, by rw [hsent', hsent, List.append_assoc], fun exchange hmem => ?_⟩
    exact (List.mem_append.1 hmem).elim (hreads exchange) (hothers exchange)
  client := by
    rw [h'.client, h.client]
  user := h'.user

/-- Reading once. -/
theorem received (h : IsCurrentUser remote s.client user) {request : Http.Request}
    (hrequest : request.method = .get) (reply : Http.Reply) :
    OnlyReads remote user s (s.received request reply) where
  sent := ⟨_, rfl, fun exchange hmem => by rw [List.mem_singleton.1 hmem]; exact hrequest⟩
  client := rfl
  user := h

/-- Coming to know the current user. -/
theorem remembered (h : OnlyReads remote user s m) {entity : Value}
    (hentity : entity = .null ∨ entity = user) :
    OnlyReads remote user s { m with client := { m.client with currentUser := entity } } where
  sent := h.sent
  client := by
    dsimp only
    rw [h.client]
  user := ⟨hentity, h.user.named⟩

end OnlyReads

/-- The owners stay while there is only reading. -/
theorem OwnersKept.of_reads (h : OwnersKept remote client user held s)
    (hstores : StoresOwners remote client story held) (hreads : OnlyReads remote user s m) :
    OwnersKept remote client user held m ∧ held m.exchanges = held s.exchanges := by
  obtain ⟨reads, hsent, hgets⟩ := hreads.sent
  have hheld : held m.exchanges = held s.exchanges := by
    rw [hsent]
    exact hstores.held_append _ hgets
  refine ⟨⟨?_, hreads.user, hheld ▸ h.held⟩, hheld⟩
  rw [hreads.client, h.client]

/-- Asking who the current user is. -/
theorem currentUser_goes (h : IsCurrentUser remote s.client user) :
    ∃ result m, Api.currentUser remote s = (result, m) ∧ OnlyReads remote user s m ∧
      ∀ found, result = .ok found → found = .null ∨ found = user := by
  cases hunknown : s.client.currentUser.isNull with
  | false =>
    refine ⟨_, s, Api.currentUser_of_known hunknown, .refl h, fun found hfound => ?_⟩
    cases hfound
    exact h.known
  | true =>
    cases hrequest : Api.memberRequest s.client with
    | error fault =>
      exact ⟨_, s, Api.currentUser_of_unsendable hunknown hrequest, .refl h,
        fun found hfound => by cases hfound⟩
    | ok request =>
      have hnamed : ∀ found,
          Api.memberOf ⟨s.client.serial, request, remote s.exchanges request⟩ = .ok found →
          found = .null ∨ found = user := by
        intro found hfound
        cases hnull : found.isNull with
        | true => exact .inl (Value.eq_null_of_isNull hnull)
        | false => exact .inr (h.named _ _ _ _ hrequest hfound hnull)
      have hreads := OnlyReads.received h (Api.of_outgoing hrequest).1 (remote s.exchanges request)
      refine ⟨_, _, Api.currentUser_of_sendable hunknown hrequest, hreads.remembered ?_, hnamed⟩
      cases hmember : Api.memberOf ⟨s.client.serial, request, remote s.exchanges request⟩ with
      | error fault => exact .inl rfl
      | ok found => exact hnamed found hmember

/-- The need for the current user. -/
theorem requireUser_goes (h : IsCurrentUser remote s.client user) :
    ∃ result m, requireUser remote s = (result, m) ∧ OnlyReads remote user s m ∧
      ∀ found, result = .ok found → found = user := by
  obtain ⟨result, m, hasked, hreads, hnamed⟩ := currentUser_goes h
  rw [requireUser, Run.bind_apply, hasked]
  cases result with
  | error fault => exact ⟨_, m, rfl, hreads, fun found hfound => by cases hfound⟩
  | ok named =>
    dsimp only
    split
    · next htruthy =>
      refine ⟨_, m, rfl, hreads, fun found hfound => ?_⟩
      cases hfound
      refine (hnamed named rfl).resolve_left fun hnull => ?_
      rw [hnull] at htruthy
      cases htruthy
    · exact ⟨_, m, rfl, hreads, fun found hfound => by cases hfound⟩

/-- A story that is found is where the client finds it. -/
theorem OwnersKept.goesTo (hs : OwnersKept remote client user held s) {request : Http.Request}
    {entity : Value} (hfound : StoryFound remote story s request entity) :
    GoesTo client story request := by
  have hasked := hfound.asked
  rw [hs.client] at hasked
  exact Api.address_of_outgoing hasked

/-- A look for a story. -/
theorem requireStory_goes (hstores : StoresOwners remote client story held)
    (hs : OwnersKept remote client user held s) :
    ∃ result m, requireEntity .stories story remote s = (result, m) ∧
      OnlyReads remote user s m ∧ ∀ entity, result = .ok entity →
        ownerIds entity = .ok (ownersIn (held s.exchanges)) ∧
          ∃ request, StoryFound remote story s request entity := by
  rcases found_or_missing remote story s with ⟨request, entity, hfound⟩ | ⟨fault, m, hmissing⟩
  · have hget := (Api.of_outgoing hfound.asked).1
    refine ⟨_, _, hfound.require, .received hs.user hget _, fun found hok => ?_⟩
    cases hok
    have howners := hstores.reads _ _ _ _ hget (hs.goesTo hfound) hfound.answered hfound.there
    exact ⟨ownerIds_eq howners hs.held, request, hfound⟩
  · refine ⟨_, m, hmissing.require, ?_, fun found hok => by cases hok⟩
    cases hmissing with
    | unasked hasked => exact .refl hs.user
    | failed hasked hanswered => exact .received hs.user (Api.of_outgoing hasked).1 _
    | absent hasked hanswered => exact .received hs.user (Api.of_outgoing hasked).1 _

/-- **Reading the owners and the current user.** -/
theorem ownersAndUser_goes (hstores : StoresOwners remote client story held)
    (hs : OwnersKept remote client user held s) (hid : user.required "id" = .ok id) :
    ∃ result m, ownersAndUser story remote s = (result, m) ∧ OnlyReads remote user s m ∧
      ∀ found, result = .ok found → found = (ownersIn (held s.exchanges), id) ∧
        ∃ request entity, StoryFound remote story s request entity := by
  obtain ⟨result, m, hrequire, hreads, hentity⟩ := requireStory_goes hstores hs
  rw [ownersAndUser, Run.bind_apply, hrequire]
  cases result with
  | error fault => exact ⟨_, m, rfl, hreads, fun found hfound => by cases hfound⟩
  | ok entity =>
    obtain ⟨howners, request, hfound⟩ := hentity entity rfl
    obtain ⟨result, t, hneed, hmore, huser⟩ := requireUser_goes hreads.user
    dsimp only
    rw [Run.bind_apply, hneed]
    cases result with
    | error fault => exact ⟨_, t, rfl, hreads.trans hmore, fun found hno => by cases hno⟩
    | ok named =>
      cases huser named rfl
      dsimp only
      rw [howners, hid]
      refine ⟨_, t, rfl, hreads.trans hmore, fun found hok => ?_⟩
      cases hok
      exact ⟨rfl, request, entity, hfound⟩

/-! ### Writing -/

/-- **Replacing the owners of a story**: the list cannot be sent, or one request has
it. -/
theorem setOwners_goes {request : Http.Request} {entity : Value}
    (hfound : StoryFound remote story s request entity)
    (hclient : m.client = { s.client with currentUser := m.client.currentUser })
    (new : List Value) (report : String) :
    ∃ result t, (setOwners story new >>= fun _ => pure report) remote m = (result, t) ∧
      ((∃ fault, result = .error fault) ∧ t = m ∨
        (∀ owner ∈ new, owner.numbersFinite = true) ∧
        ∃ change, change = changing request (.object [("owner_ids", .list new)]) ∧
          t = m.received change (remote m.exchanges change) ∧
          ∀ text, result = .ok text → ∃ updated,
            (remote m.exchanges change).value .put request.url (storyPath story) false =
              .ok updated) := by
  have hset : (setOwners story new >>= fun _ => pure report) remote m =
      (Api.updateEntity .stories story (.object [("owner_ids", .list new)]) >>= fun _ =>
        pure report) remote m := by
    rw [Run.bind_apply, Run.bind_apply, setOwners, Run.bind_apply]
    rcases Api.updateEntity .stories story (.object [("owner_ids", .list new)]) remote m with
      ⟨_ | updated, t⟩ <;> rfl
  rw [hset]
  cases hbody : Api.checkBody (some (.object [("owner_ids", .list new)])) with
  | error fault =>
    exact ⟨_, m, Run.bind_of_error _ (hfound.update_of_error hclient hbody), .inl ⟨⟨_, rfl⟩, rfl⟩⟩
  | ok checked =>
    have hfinite : (Value.list new).numbersFinite = true :=
      Api.numbersFinite_of_checkBody hbody ("owner_ids", .list new) List.mem_cons_self
    rw [Value.numbersFinite, Value.itemsFinite_eq_all] at hfinite
    have hall := List.all_eq_true.1 hfinite
    rw [Run.bind_apply, hfound.update hclient hbody, changed]
    cases hvalue : (remote m.exchanges
        (changing request (.object [("owner_ids", .list new)]))).value
          .put request.url (storyPath story) false with
    | error fault =>
      exact ⟨_, _, rfl, .inr ⟨hall, _, rfl, rfl, fun text hno => by cases hno⟩⟩
    | ok updated =>
      cases hexpect : Api.expect updated (.updateFailed .stories story) with
      | error fault =>
        refine ⟨.error fault, _, ?_, .inr ⟨hall, _, rfl, rfl, fun text hno => by cases hno⟩⟩
        simp only [bind, Except.bind, hexpect]
      | ok _ =>
        refine ⟨.ok report, _, ?_, .inr ⟨hall, _, rfl, rfl, fun text _ => ⟨updated, hvalue⟩⟩⟩
        simp only [bind, Except.bind, hexpect]
        rfl

/-- A call that writes does what it is to do. -/
theorem OwnerStep.of_write {request : Http.Request} {entity : Value}
    (hstores : StoresOwners remote client story held)
    (hs : OwnersKept remote client user held s) (hreads : OnlyReads remote user s m)
    (hfound : StoryFound remote story s request entity)
    (hwanted : isOwner id (ownersIn (held s.exchanges)) ≠ call.wanted) {new : List Value}
    (hnew : (∀ owner ∈ new, owner.numbersFinite = true) →
      new = call.owners id (ownersIn (held s.exchanges))) (report : String) :
    ∃ result t, (setOwners story new >>= fun _ => pure report) remote m = (result, t) ∧
      OwnersKept remote client user held t ∧ OwnerStep held id call s result t := by
  obtain ⟨hm, hheld⟩ := hs.of_reads hstores hreads
  obtain ⟨reads, hsent, hgets⟩ := hreads.sent
  obtain ⟨result, t, hrun, ⟨⟨fault, rfl⟩, rfl⟩ | ⟨hfinite, change, hchange, ht, hok⟩⟩ :=
    setOwners_goes hfound hreads.client new report
  · exact ⟨_, t, hrun, hm, .read hsent hgets fun report hno => by cases hno⟩
  · rw [hnew hfinite] at hchange
    have hput : change.method = .put := hchange ▸ rfl
    have hurl : change.url = request.url := hchange ▸ rfl
    have hbody : change.body = some (.object
        [("owner_ids", .list (call.owners id (ownersIn (held s.exchanges))))]) := hchange ▸ rfl
    have hgoes : GoesTo client story change := (hs.goesTo hfound).trans (congrArg _ hurl.symm)
    have hwritten := hstores.writes m.exchanges m.client.serial change _ _ hput hgoes hbody rfl
    have hexchanges : t.exchanges =
        s.exchanges ++ reads ++ [⟨m.client.serial, change, remote m.exchanges change⟩] := by
      rw [ht, ← hsent]
      rfl
    subst ht
    refine ⟨result, _, hrun, ⟨hm.client, hm.user, ?_⟩,
      .written hexchanges hgets hput hwanted hbody ?_⟩
    · rcases hwritten with hlist | ⟨hsame, -⟩
      · exact .inr ⟨_, hlist⟩
      · exact hsame ▸ hm.held
    · refine hwritten.imp_right fun ⟨hsame, hfailed⟩ => ⟨hsame.trans hheld, fun text htext => ?_⟩
      obtain ⟨updated, hupdated⟩ := hok text htext
      rw [hurl] at hfailed
      exact hfailed _ _ hupdated

/-- **One call, step by step**: it reads, and then writes if something is to change. -/
theorem OwnerCall.goes (hstores : StoresOwners remote client story held)
    (hid : user.required "id" = .ok id) (call : OwnerCall)
    (hs : OwnersKept remote client user held s) :
    ∃ result t, call.action story remote s = (result, t) ∧
      OwnersKept remote client user held t ∧ OwnerStep held id call s result t := by
  obtain ⟨result, m, hrun, hreads, hok⟩ := ownersAndUser_goes hstores hs hid
  obtain ⟨hm, -⟩ := hs.of_reads hstores hreads
  obtain ⟨reads, hsent, hgets⟩ := hreads.sent
  cases result with
  | error fault =>
    refine ⟨.error fault, m, ?_, hm, .read hsent hgets fun report hno => by cases hno⟩
    cases call <;> exact Run.bind_of_error _ hrun
  | ok found =>
    obtain ⟨rfl, request, entity, hfound⟩ := hok found rfl
    -- nothing is written if the current user is what they are to be
    have hread : ∀ report, isOwner id (ownersIn (held s.exchanges)) = call.wanted →
        OwnerStep held id call s (.ok report) m := fun report hdone =>
      .read hsent hgets fun _ _ => hdone
    cases call with
    | assign =>
      rw [OwnerCall.action, assignCurrentUser, Run.bind_of_ok _ hrun]
      dsimp only
      cases howner : (ownersIn (held s.exchanges)).any (· == id) with
      | true => exact ⟨_, m, rfl, hm, hread _ howner⟩
      | false =>
        have hwanted : isOwner id (ownersIn (held s.exchanges)) ≠ OwnerCall.assign.wanted :=
          fun hno => Bool.false_ne_true (howner.symm.trans hno)
        rw [if_neg Bool.false_ne_true]
        refine OwnerStep.of_write hstores hs hreads hfound hwanted (fun _ => ?_) _
        rw [OwnerCall.owners, isOwner, howner, if_neg Bool.false_ne_true]
    | unassign =>
      rw [OwnerCall.action, unassignCurrentUser, Run.bind_of_ok _ hrun]
      dsimp only
      cases howner : (ownersIn (held s.exchanges)).any (· == id) with
      | false => exact ⟨_, m, rfl, hm, hread _ howner⟩
      | true =>
        have hwanted : isOwner id (ownersIn (held s.exchanges)) ≠ OwnerCall.unassign.wanted :=
          fun hno => Bool.false_ne_true (hno.symm.trans howner)
        rw [Bool.not_true, if_neg Bool.false_ne_true]
        exact OwnerStep.of_write hstores hs hreads hfound hwanted filter_equals _

/-! ## What a call leaves of the owners -/

namespace OwnerStep

variable {result : Except Fault String}

/-- The owners after a call are those before, or those that it leads to. -/
theorem ownersIn_eq (hstores : StoresOwners remote client story held)
    (h : OwnerStep held id call s result t) :
    ownersIn (held t.exchanges) = ownersIn (held s.exchanges) ∧
        (∀ report, result = .ok report →
          isOwner id (ownersIn (held s.exchanges)) = call.wanted) ∨
      ownersIn (held t.exchanges) = call.owners id (ownersIn (held s.exchanges)) := by
  cases h with
  | read hexchanges hreads hdone =>
    rw [hexchanges, hstores.held_append _ hreads]
    exact .inl ⟨rfl, hdone⟩
  | written hexchanges hreads hchange hwanted hbody hheld =>
    rcases hheld with hlist | ⟨hsame, hfailed⟩
    · rw [hlist]
      exact .inr rfl
    · rw [hsame]
      exact .inl ⟨rfl, fun report hok => absurd hok (hfailed report)⟩

/-- **After a call that succeeds the owners are those that it leads to.** -/
theorem ownersIn_of_ok (hstores : StoresOwners remote client story held)
    {report : String} (h : OwnerStep held id call s (.ok report) t) :
    ownersIn (held t.exchanges) = call.owners id (ownersIn (held s.exchanges)) := by
  rcases h.ownersIn_eq hstores with ⟨hsame, hdone⟩ | howners
  · rw [hsame, owners_eq_self (hdone report rfl)]
  · exact howners

/-- **A call leaves the other owners as they are**, whatever comes of it. -/
theorem otherOwners_eq (hstores : StoresOwners remote client story held)
    (hself : (id == id) = true) (h : OwnerStep held id call s result t) :
    otherOwners id (ownersIn (held t.exchanges)) =
      otherOwners id (ownersIn (held s.exchanges)) := by
  rcases h.ownersIn_eq hstores with ⟨hsame, -⟩ | howners
  · rw [hsame]
  · rw [howners, otherOwners_owners hself]

/-- Nothing is written, and the owners stay, where the current user is what they are
to be. -/
theorem of_done (hstores : StoresOwners remote client story held)
    (h : OwnerStep held id call s result t)
    (hdone : isOwner id (ownersIn (held s.exchanges)) = call.wanted) :
    held t.exchanges = held s.exchanges ∧ ∃ reads, t.exchanges = s.exchanges ++ reads ∧
      ∀ exchange ∈ reads, exchange.request.method = .get := by
  cases h with
  | read hexchanges hreads =>
    exact ⟨by rw [hexchanges, hstores.held_append _ hreads], _, hexchanges, hreads⟩
  | written hexchanges hreads hchange hwanted => exact absurd hdone hwanted

/-- **A call changes the story once at most**, and only if the current user is to become
an owner or to cease to be one. -/
theorem changes (h : OwnerStep held id call s result t) :
    ∃ sent, t.exchanges = s.exchanges ++ sent ∧
      (sent.filter fun exchange => exchange.request.method = .put).length ≤ 1 ∧
      ∀ exchange ∈ sent, exchange.request.method ≠ .get →
        exchange.request.method = .put ∧
        isOwner id (ownersIn (held s.exchanges)) ≠ call.wanted ∧
        exchange.request.body = some (.object
          [("owner_ids", .list (call.owners id (ownersIn (held s.exchanges))))]) := by
  have hnone : ∀ {reads : List Http.Exchange},
      (∀ exchange ∈ reads, exchange.request.method = .get) →
      (reads.filter fun exchange => exchange.request.method = .put) = [] := by
    intro reads hreads
    refine List.filter_eq_nil_iff.2 fun exchange hmem => ?_
    rw [hreads exchange hmem]
    decide
  cases h with
  | read hexchanges hreads =>
    refine ⟨_, hexchanges, by rw [hnone hreads]; exact Nat.zero_le 1, fun exchange hmem hno => ?_⟩
    exact absurd (hreads exchange hmem) hno
  | written hexchanges hreads hchange hwanted hbody =>
    rw [List.append_assoc] at hexchanges
    refine ⟨_, hexchanges, ?_, fun exchange hmem hno => ?_⟩
    · rw [List.filter_append, hnone hreads, List.nil_append]
      exact List.length_filter_le _ _
    · rcases List.mem_append.1 hmem with hmem | hmem
      · exact absurd (hreads exchange hmem) hno
      · rw [List.mem_singleton.1 hmem]
        exact ⟨hchange, hwanted, hbody⟩

end OwnerStep

/-! ## Runs -/

/-- What a run of calls leaves of a session. A call that fails is followed by the next
one all the same. -/
def afterCalls (remote : Remote) (story : Value) (s : Session) (calls : List OwnerCall) :
    Session :=
  calls.foldl (fun s call => (call.action story remote s).2) s

/-- **Over a run of calls the other owners stay.** -/
theorem OwnersKept.afterCalls (hstores : StoresOwners remote client story held)
    (hid : user.required "id" = .ok id) (hself : (id == id) = true)
    (hs : OwnersKept remote client user held s) (calls : List OwnerCall) :
    OwnersKept remote client user held (afterCalls remote story s calls) ∧
      otherOwners id (ownersIn (held (Tools.afterCalls remote story s calls).exchanges)) =
        otherOwners id (ownersIn (held s.exchanges)) := by
  induction calls generalizing s with
  | nil => exact ⟨hs, rfl⟩
  | cons call calls ih =>
    obtain ⟨result, t, hrun, ht, hstep⟩ := call.goes hstores hid hs
    have hnext : Tools.afterCalls remote story s (call :: calls) =
        Tools.afterCalls remote story t calls := by
      rw [Tools.afterCalls, List.foldl_cons, hrun]
      rfl
    rw [hnext, ← hstep.otherOwners_eq hstores hself]
    exact ih ht

/-- **What a call makes of the owners**, in a run of calls that began at some
session. -/
structure OwnersFollow (held : List Http.Exchange → Value) (id : Value) (start : Session)
    (call : OwnerCall) (m : Session) (result : Except Fault String) (t : Session) : Prop where
  /-- If it succeeds, the current user is an owner or not, as wanted. -/
  owner : ∀ report, result = .ok report → isOwner id (ownersIn (held t.exchanges)) = call.wanted
  /-- The other owners are those at the start, in their order. -/
  others : otherOwners id (ownersIn (held t.exchanges)) =
    otherOwners id (ownersIn (held start.exchanges))
  /-- It changes the story once at most, and only if the current user is to become an
  owner or to cease to be one. -/
  changes : ∃ sent, t.exchanges = m.exchanges ++ sent ∧
    (sent.filter fun exchange => exchange.request.method = .put).length ≤ 1 ∧
    ∀ exchange ∈ sent, exchange.request.method ≠ .get →
      exchange.request.method = .put ∧
      isOwner id (ownersIn (held m.exchanges)) ≠ call.wanted ∧
      exchange.request.body = some (.object
        [("owner_ids", .list (call.owners id (ownersIn (held m.exchanges))))])

/-- **The owners follow the calls.** Against a tracker that keeps the owners of a story,
whatever else it replies, and over any run of calls for one current user, whose id equals
itself as every atom does:
- after a call that succeeds the current user is an owner if and only if the call was
  to make them one; the other owners stay throughout; and a change is sent only if the
  current user is to become an owner or to cease to be one;
- a call that is repeated after it has succeeded changes nothing and sends no change;
- who was no owner, is made one and is taken out again leaves the owners as they
  were. -/
theorem owners_follow_calls (hstores : StoresOwners remote s.client story held)
    (huser : IsCurrentUser remote s.client user)
    (hheld : held s.exchanges = .null ∨ ∃ owners, held s.exchanges = .list owners)
    (hid : user.required "id" = .ok id) (hself : (id == id) = true)
    {calls : List OwnerCall} (hcalls : afterCalls remote story s calls = m) :
    (∀ call : OwnerCall, OwnersFollow held id s call m (call.action story remote m).1
      (call.action story remote m).2) ∧
    (∀ (call : OwnerCall) (report : String) (t : Session) (again : Except Fault String)
      (t' : Session), call.action story remote m = (.ok report, t) →
      call.action story remote t = (again, t') →
      held t'.exchanges = held t.exchanges ∧ ∃ reads, t'.exchanges = t.exchanges ++ reads ∧
        ∀ exchange ∈ reads, exchange.request.method = .get) ∧
    ∀ (report report' : String) (t t' : Session),
      isOwner id (ownersIn (held m.exchanges)) = false →
      OwnerCall.assign.action story remote m = (.ok report, t) →
      OwnerCall.unassign.action story remote t = (.ok report', t') →
      ownersIn (held t'.exchanges) = ownersIn (held m.exchanges) := by
  have hs : OwnersKept remote s.client user held s := ⟨rfl, huser, hheld⟩
  obtain ⟨hm, hothers⟩ := hs.afterCalls hstores hid hself calls
  rw [hcalls] at hm hothers
  -- one call after another, from the end of the run
  have hgoes : ∀ (call : OwnerCall) {m t : Session} {result : Except Fault String},
      OwnersKept remote s.client user held m → call.action story remote m = (result, t) →
      OwnersKept remote s.client user held t ∧ OwnerStep held id call m result t := by
    intro call m t result hm hrun
    obtain ⟨result', t', hrun', hkept, hstep⟩ := call.goes hstores hid hm
    cases hrun.symm.trans hrun'
    exact ⟨hkept, hstep⟩
  refine ⟨fun call => ?_, fun call report t again t' hrun hagain => ?_,
    fun report report' t t' hno hassign hunassign => ?_⟩
  · rcases hrun : call.action story remote m with ⟨result, t⟩
    obtain ⟨-, hstep⟩ := hgoes call hm hrun
    refine ⟨fun report hok => ?_, (hstep.otherOwners_eq hstores hself).trans hothers, ?_⟩
    · dsimp only at hok
      rw [hok] at hstep
      rw [hstep.ownersIn_of_ok hstores, isOwner_owners hself]
    · exact hstep.changes
  · obtain ⟨ht, hstep⟩ := hgoes call hm hrun
    obtain ⟨-, hagain⟩ := hgoes call ht hagain
    refine hagain.of_done hstores ?_
    rw [hstep.ownersIn_of_ok hstores, isOwner_owners hself]
  · obtain ⟨ht, hstep⟩ := hgoes .assign hm hassign
    obtain ⟨-, hback⟩ := hgoes .unassign ht hunassign
    rw [hback.ownersIn_of_ok hstores, hstep.ownersIn_of_ok hstores, owners_restored hself hno]

/-! ### A story with one owner and none -/

namespace Sample

/-- A client that knows nobody yet. -/
def asker : Client where
  serial := 0
  settings := ⟨.text "token", "https://tracker", .int 30⟩
  token := "token"
  base :=
    { scheme := "https".toList, userinfo := [], host := "tracker".toList, port := none,
      path := "/".toList, query := none, fragment := none }

/-- A session of that client. -/
def asking : Session := { client := asker, caches := {}, clock := .int 0 }

/-- Where the story is. -/
def storyUrl : Http.Url := { asker.base with path := "/stories/5".toList }

deriving instance DecidableEq for Http.Url

/-- The owners in a body. -/
def ownersOfBody : Option Value → Value
  | some (.object fields) => (Table.get? fields "owner_ids").getD .null
  | _ => .null

/-- The owners that a tracker holds after some exchanges: none at first. -/
def heldOwners (past : List Http.Exchange) : Value :=
  past.foldl (fun held exchange =>
    if exchange.request.method = .put ∧ exchange.request.url = storyUrl then
      ownersOfBody exchange.request.body
    else held) .null

/-- What a tracker answers for the story that it holds these owners of. Lists that
the calls of one user do not lead to are not told. -/
def storyPage : Value → Http.Reply
  | .null => .answer 200 [123, 125]
  | .list [] =>
    .answer 200 [123, 34, 111, 119, 110, 101, 114, 95, 105, 100, 115, 34, 58, 91, 93, 125]
  | .list [.text "u"] =>
    .answer 200 [123, 34, 111, 119, 110, 101, 114, 95, 105, 100, 115, 34, 58, 91, 34, 117, 34, 93,
      125]
  | _ => .answer 500 []

/-- A tracker that keeps the owners of the story. Where it is asked for anything else
it names the user `u`. -/
def ownersTracker : Remote := fun past request =>
  if request.url = storyUrl ∧ request.method = .get then storyPage (heldOwners past)
  else .answer 200 [123, 34, 105, 100, 34, 58, 34, 117, 34, 125]

/-- The user. -/
def ownUser : Value := .object [("id", .text "u")]

theorem goesTo_iff {request : Http.Request} :
    GoesTo asker (.int 5) request ↔ request.url = storyUrl := by
  have haddress : Api.address asker (storyPath (.int 5)) [] = .ok storyUrl := by rfl
  rw [GoesTo, haddress]
  exact ⟨fun h => (Except.ok.inj h).symm, fun h => congrArg _ h.symm⟩

theorem field_of_storyPage {held entity : Value} {path : String}
    (h : (storyPage held).value .get storyUrl path true = .ok entity) :
    entity.field "owner_ids" = .ok held := by
  unfold storyPage at h
  split at h
  · cases h
    rfl
  · cases h
    rfl
  · cases h
    rfl
  · cases h

theorem storesOwners : StoresOwners ownersTracker asker (.int 5) heldOwners where
  reads := by
    intro past request path entity hget hgoes h hthere
    rw [goesTo_iff] at hgoes
    rw [ownersTracker, if_pos ⟨hgoes, hget⟩, hgoes] at h
    exact field_of_storyPage h
  writes := by
    intro past serial request fields owners hput hgoes hbody howners
    refine .inl ?_
    rw [heldOwners, List.foldl_append, List.foldl_cons, List.foldl_nil]
    rw [if_pos ⟨hput, goesTo_iff.1 hgoes⟩]
    rw [hbody, ownersOfBody, howners]
    rfl
  keeps := by
    intro past exchange hno
    rw [goesTo_iff] at hno
    rw [heldOwners, List.foldl_append, List.foldl_cons, List.foldl_nil, if_neg hno]
    rfl

theorem isCurrentUser : IsCurrentUser ownersTracker asker ownUser where
  known := .inl rfl
  named := by
    intro past serial request entity hrequest h hthere
    have hmember : Api.memberRequest asker =
        .ok ⟨.get, { asker.base with path := "/member".toList }, none, "token"⟩ := by rfl
    cases hmember.symm.trans hrequest
    cases h
    rfl

end Sample

/-- Of three calls the first and the last change the story; behind them the user is no
owner, as before. -/
theorem assigned_twice_and_unassigned :
    ((afterCalls Sample.ownersTracker (.int 5) Sample.asking
        [.assign, .assign, .unassign]).exchanges.map (·.request.method)) =
      [.get, .get, .put, .get, .get, .put] ∧
      OwnersFollow Sample.heldOwners (.text "u") Sample.asking .unassign
        (afterCalls Sample.ownersTracker (.int 5) Sample.asking [.assign, .assign])
        (unassignCurrentUser (.int 5) Sample.ownersTracker
          (afterCalls Sample.ownersTracker (.int 5) Sample.asking [.assign, .assign])).1
        (afterCalls Sample.ownersTracker (.int 5) Sample.asking [.assign, .assign, .unassign]) := by
  have hid : Sample.ownUser.required "id" = .ok (.text "u") := rfl
  have hself : (Value.text "u" == .text "u") = true := by decide
  have hcalls : afterCalls Sample.ownersTracker (.int 5) Sample.asking [.assign, .assign] =
      afterCalls Sample.ownersTracker (.int 5) Sample.asking [.assign, .assign] := rfl
  exact ⟨by decide +kernel,
    (owners_follow_calls Sample.storesOwners Sample.isCurrentUser (.inl rfl) hid hself
      hcalls).1 .unassign⟩

end Tools

end Backlog
