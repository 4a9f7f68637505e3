import Backlog.Proofs.Refill
import Mathlib.Logic.Relation
/-!
# Steps of work

Work with the tracker changes a session in four ways and no others: a line is
logged, a request is sent and answered, the current user is remembered, and
the list of a kind is asked for and its snapshot installed (`Session.Step`).
`Action.Uses` says of work that it is made up of such steps, whatever the
tracker replies, and which request methods it may use. What a step keeps, a
whole piece of work keeps: the clock, all of the client but the current user
(`Steps.client_eq`), and the log of exchanges, which only grows
(`Steps.exists_received`).
-/

namespace Backlog

namespace Session

/-- What a step may do that not every piece of work does. -/
inductive Deed where
  /-- A request is sent with a method. -/
  | send (method : Http.Method)
  /-- The current user is remembered. -/
  | remember

/-- One step of work. `may` tells what it may do. -/
inductive Step (remote : Remote) (may : Deed → Prop) : Session → Session → Prop where
  /-- A line is logged. -/
  | log (s : Session) (line : LogLine) : Step remote may s { s with log := s.log ++ [line] }
  /-- An open client sends a request, and what that leads to comes back. -/
  | send (s : Session) (request : Http.Request) (hopen : s.client.isOpen = true)
      (hmay : may (.send request.method)) :
      Step remote may s (s.received request (remote s.exchanges request))
  /-- The current user, who is not known, is asked for and remembered. -/
  | remember (s t : Session) (user : Value) (hmay : may (.send .get)) (hremember : may .remember)
      (hunknown : s.client.currentUser.isNull = true)
      (hasked : Api.getIfThere "/member" remote s = (.ok user, t)) :
      Step remote may s { t with client := { t.client with currentUser := user } }
  /-- The list of a kind is asked for, and its snapshot installed. -/
  | refill (s : Session) (kind : Kind) (table : Table Atom Value) (hmay : may (.send .get))
      (hkind : kind ∈ Kind.cached)
      (hsnapshot : Ask.snapshot remote s.client s.exchanges kind = .ok table) :
      Step remote may s (s.refilled remote kind)

/-- Any number of steps. -/
def Steps (remote : Remote) (may : Deed → Prop) : Session → Session → Prop :=
  Relation.ReflTransGen (Step remote may)

/-! ## What steps keep -/

variable {remote : Remote} {may : Deed → Prop} {s t u : Session}

theorem Steps.refl (s : Session) : Steps remote may s s := Relation.ReflTransGen.refl

theorem Step.steps (h : Step remote may s t) : Steps remote may s t :=
  Relation.ReflTransGen.single h

theorem Steps.trans (h : Steps remote may s t) (h' : Steps remote may t u) :
    Steps remote may s u :=
  Relation.ReflTransGen.trans h h'

/-- An answer to the question for the current user came from an open client's
request. -/
theorem received_of_getIfThere {path : String} {user : Value}
    (h : Api.getIfThere path remote s = (.ok user, t)) :
    ∃ request, request.method = .get ∧ s.client.isOpen = true ∧
      t = s.received request (remote s.exchanges request) := by
  rw [Api.getIfThere, Api.request_apply] at h
  cases hout : Api.outgoing s.client .get path [] none with
  | error fault =>
    rw [hout] at h
    cases h
  | ok request =>
    rw [hout, Prod.mk.injEq] at h
    obtain ⟨hmethod, hopen⟩ := Api.of_outgoing hout
    exact ⟨request, hmethod, hopen, h.2.symm⟩

/-- A step keeps the clock. -/
theorem Step.clock_eq (h : Step remote may s t) : t.clock = s.clock := by
  cases h with
  | log line => rfl
  | send request hopen hmay => rfl
  | remember m user hmay hremember hunknown hasked =>
    obtain ⟨request, -, -, rfl⟩ := received_of_getIfThere hasked
    rfl
  | refill kind table hmay hkind hsnapshot => exact clock_refilled remote kind s

theorem Steps.clock_eq (h : Steps remote may s t) : t.clock = s.clock := by
  induction h with
  | refl => rfl
  | tail _ hstep ih => exact hstep.clock_eq.trans ih

/-- A step keeps all of the client but the current user. -/
theorem Step.client_eq (h : Step remote may s t) :
    t.client = { s.client with currentUser := t.client.currentUser } := by
  cases h with
  | log line => rfl
  | send request hopen hmay => rfl
  | remember m user hmay hremember hunknown hasked =>
    obtain ⟨request, -, -, rfl⟩ := received_of_getIfThere hasked
    rfl
  | refill kind table hmay hkind hsnapshot => rw [client_refilled]

/-- **Work keeps all of the client but the current user.** -/
theorem Steps.client_eq (h : Steps remote may s t) :
    t.client = { s.client with currentUser := t.client.currentUser } := by
  induction h with
  | refl => rfl
  | tail _ hstep ih => rw [hstep.client_eq, ih]

/-- A step that may not remember the current user keeps the client. -/
theorem Step.client_eq_self (h : Step remote may s t) (hmay : ¬ may .remember) :
    t.client = s.client := by
  cases h with
  | log line => rfl
  | send request hopen hsend => rfl
  | remember m user hsend hremember hunknown hasked => exact absurd hremember hmay
  | refill kind table hsend hkind hsnapshot => exact client_refilled remote kind s

/-- **Work that may not remember the current user keeps the client.** -/
theorem Steps.client_eq_self (h : Steps remote may s t) (hmay : ¬ may .remember) :
    t.client = s.client := by
  induction h with
  | refl => rfl
  | tail _ hstep ih => exact (hstep.client_eq_self hmay).trans ih

/-- A step adds to the log of exchanges what an open client sent and may
send. -/
theorem Step.exists_received (h : Step remote may s t) :
    ∃ received, t.exchanges = s.exchanges ++ received ∧ ∀ exchange ∈ received,
      exchange.client = s.client.serial ∧ may (.send exchange.request.method) ∧
        s.client.isOpen = true := by
  cases h with
  | log line => exact ⟨[], (List.append_nil _).symm, fun _ he => absurd he List.not_mem_nil⟩
  | send request hopen hmay =>
    refine ⟨_, rfl, fun exchange he => ?_⟩
    cases List.mem_singleton.1 he
    exact ⟨rfl, hmay, hopen⟩
  | remember m user hmay hremember hunknown hasked =>
    obtain ⟨request, hmethod, hopen, rfl⟩ := received_of_getIfThere hasked
    refine ⟨_, rfl, fun exchange he => ?_⟩
    cases List.mem_singleton.1 he
    exact ⟨rfl, hmethod ▸ hmay, hopen⟩
  | refill kind table hmay hkind hsnapshot =>
    refine ⟨_, exchanges_refilled remote kind s, fun exchange he => ?_⟩
    obtain ⟨hclient, hmethod, hopen⟩ := Ask.of_mem_exchanges he
    exact ⟨hclient, hmethod ▸ hmay, hopen⟩

/-- **Work adds to the log of exchanges** what an open client sent and may
send, and takes nothing from it. -/
theorem Steps.exists_received (h : Steps remote may s t) :
    ∃ received, t.exchanges = s.exchanges ++ received ∧ ∀ exchange ∈ received,
      exchange.client = s.client.serial ∧ may (.send exchange.request.method) ∧
        s.client.isOpen = true := by
  induction h with
  | refl => exact ⟨[], (List.append_nil _).symm, fun _ he => absurd he List.not_mem_nil⟩
  | @tail m n hsteps hstep ih =>
    obtain ⟨first, hfirst, hsent⟩ := ih
    obtain ⟨second, hsecond, hsent'⟩ := hstep.exists_received
    have hclient := Steps.client_eq hsteps
    refine ⟨first ++ second, by rw [hsecond, hfirst, List.append_assoc], fun exchange he => ?_⟩
    rcases List.mem_append.1 he with he | he
    · exact hsent exchange he
    · have hnew := hsent' exchange he
      rw [hclient] at hnew
      exact hnew

end Session

/-! ## Work that is made up of steps -/

namespace Action

variable {α β : Type} {may : Session.Deed → Prop}

/-- Whether work is made up of steps, whatever the tracker replies. -/
def Uses (may : Session.Deed → Prop) (work : Action α) : Prop :=
  ∀ remote s, Session.Steps remote may s (work remote s).2

namespace Uses

/-- What a run has come to is reached by steps. -/
theorem steps {work : Action α} (h : Uses may work) {remote : Remote} {s t : Session}
    {outcome : Except Fault α} (hrun : work remote s = (outcome, t)) :
    Session.Steps remote may s t := by
  have hsteps := h remote s
  rwa [hrun] at hsteps

theorem pure (a : α) : Uses may (Pure.pure a : Action α) := fun _ s => .refl s

theorem fail (fault : Fault) : Uses may (Run.fail fault : Action α) := fun _ s => .refl s

theorem lift (result : Except Fault α) : Uses may (liftM result : Action α) := fun _ s => .refl s

theorem ofExcept (result : Except Fault α) : Uses may (Run.ofExcept result : Action α) :=
  fun _ s => .refl s

theorem state : Uses may (Run.state : Action Session) := fun _ s => .refl s

theorem attempt {work : Action α} (h : Uses may work) : Uses may work.attempt :=
  fun remote s => h remote s

/-- Work of two parts. -/
theorem bind {work : Action α} {next : α → Action β} (h : Uses may work)
    (hnext : ∀ a, Uses may (next a)) : Uses may (work >>= next) := by
  intro remote s
  rw [Run.bind_apply]
  have hfirst := h remote s
  rcases hrun : work remote s with ⟨_ | a, m⟩
  · rw [hrun] at hfirst
    exact hfirst
  · rw [hrun] at hfirst
    exact hfirst.trans (hnext a remote m)

theorem log (level : Level) (text : String) : Uses may (Action.log level text) :=
  fun _ s => (Session.Step.log s ⟨level, text⟩).steps

end Uses

end Action

end Backlog
