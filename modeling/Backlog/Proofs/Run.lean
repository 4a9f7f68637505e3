import Backlog.Run
import Mathlib.Data.List.Forall2
/-!
# Reading a run backwards

A run that ends in a value went through every step of it. These lemmas take
such a run apart, one step at a time, and carry an invariant through the
loops that may stop with a fault.
-/

namespace Backlog

/-- A chain that ends in a value has a first link that does. -/
theorem Except.bind_eq_ok {ε α β : Type} {x : Except ε α} {next : α → Except ε β} {b : β} :
    x >>= next = .ok b ↔ ∃ a, x = .ok a ∧ next a = .ok b := by
  cases x with
  | error fault =>
    constructor
    · intro h
      cases h
    · rintro ⟨a, ha, -⟩
      cases ha
  | ok a =>
    constructor
    · intro h
      exact ⟨a, rfl, h⟩
    · rintro ⟨a', ha, h⟩
      cases ha
      exact h

/-- A chain that ends in a fault has a link that does. -/
theorem Except.bind_eq_error {ε α β : Type} {x : Except ε α} {next : α → Except ε β} {fault : ε} :
    x >>= next = .error fault ↔ x = .error fault ∨ ∃ a, x = .ok a ∧ next a = .error fault := by
  cases x with
  | error fault' =>
    constructor
    · intro h
      cases h
      exact .inl rfl
    · rintro (h | ⟨a, ha, -⟩)
      · cases h
        rfl
      · cases ha
  | ok a =>
    constructor
    · intro h
      exact .inr ⟨a, rfl, h⟩
    · rintro (h | ⟨a', ha, h⟩)
      · cases h
      · cases ha
        exact h

/-- Two steps that both give something. -/
theorem Except.exists_bind_eq_ok {ε α β : Type} {x : Except ε α} {next : α → Except ε β} {a : α}
    (hx : x = .ok a) (hnext : ∃ b, next a = .ok b) : ∃ b, (x >>= next) = .ok b := by
  obtain ⟨b, hb⟩ := hnext
  exact ⟨b, Except.bind_eq_ok.2 ⟨a, hx, hb⟩⟩

/-- Mapping what the second of two steps gives. -/
theorem Except.map_bind {ε α β γ : Type} (x : Except ε α) (next : α → Except ε β) (f : β → γ) :
    (x >>= next).map f = x >>= fun a => (next a).map f := by
  cases x <;> rfl

/-- What was mapped was a value. -/
theorem Except.map_eq_ok_iff {ε α β : Type} {f : α → β} {x : Except ε α} {b : β} :
    x.map f = .ok b ↔ ∃ a, x = .ok a ∧ f a = b := by
  cases x <;> simp [Except.map]

theorem Except.map_toOption_eq_some_iff {ε α β : Type} {f : α → β} {x : Except ε α} {b : β} :
    x.toOption.map f = some b ↔ ∃ a, x = .ok a ∧ f a = b := by
  cases x <;> simp [Except.toOption]

/-- Faults said in other words are faults all the same. -/
theorem Except.mapError_eq_ok_iff {ε ε' α : Type} {f : ε → ε'} {x : Except ε α} {a : α} :
    x.mapError f = .ok a ↔ x = .ok a := by
  cases x with
  | error fault => exact ⟨fun h => (by cases h), fun h => (by cases h)⟩
  | ok b =>
    constructor
    · rintro ⟨⟩
      rfl
    · rintro ⟨⟩
      rfl

/-- **What every step of a loop keeps holds when the loop ends in a value.**
The invariant speaks of the elements that are done. -/
theorem Except.foldlM_invariant {ε α γ : Type} {step : γ → α → Except ε γ}
    (motive : List α → γ → Prop)
    (hstep : ∀ done c x c', motive done c → step c x = .ok c' → motive (done ++ [x]) c')
    {l : List α} {c c' : γ} (h : l.foldlM step c = .ok c') (hc : motive [] c) : motive l c' := by
  have hall : ∀ (rest done : List α) (d : γ), motive done d → rest.foldlM step d = .ok c' →
      motive (done ++ rest) c' := by
    intro rest
    induction rest with
    | nil =>
      intro done d hd h
      cases h
      rwa [List.append_nil]
    | cons x rest ih =>
      intro done d hd h
      rw [List.foldlM_cons] at h
      obtain ⟨d', hd', h⟩ := Except.bind_eq_ok.1 h
      have hrest := ih (done ++ [x]) d' (hstep done d x d' hd hd') h
      rwa [List.append_assoc, List.singleton_append] at hrest
  exact hall l [] c hc h

/-- A loop that ends in a value made each of its steps. -/
theorem Except.exists_of_foldlM_eq_ok {ε α γ : Type} {step : γ → α → Except ε γ} {l : List α}
    {c c' : γ} (h : l.foldlM step c = .ok c') {x : α} (hx : x ∈ l) :
    ∃ d d', step d x = .ok d' := by
  induction l generalizing c with
  | nil => cases hx
  | cons y l ih =>
    rw [List.foldlM_cons] at h
    obtain ⟨d, hd, h⟩ := Except.bind_eq_ok.1 h
    rcases List.mem_cons.1 hx with rfl | hx
    · exact ⟨c, d, hd⟩
    · exact ih h hx

/-- A loop whose steps change nothing. -/
theorem Except.foldlM_eq_self {ε α γ : Type} {step : γ → α → Except ε γ} {l : List α} {c : γ}
    (h : ∀ x ∈ l, step c x = .ok c) : l.foldlM step c = .ok c := by
  induction l with
  | nil => rfl
  | cons x l ih =>
    rw [List.foldlM_cons, h x List.mem_cons_self]
    exact ih fun y hy => h y (List.mem_cons_of_mem _ hy)

/-- A loop whose steps all end in values ends in one. -/
theorem Except.exists_foldlM_eq_ok {ε α γ : Type} {step : γ → α → Except ε γ} {l : List α}
    (h : ∀ c, ∀ x ∈ l, ∃ c', step c x = .ok c') (c : γ) : ∃ c', l.foldlM step c = .ok c' := by
  induction l generalizing c with
  | nil => exact ⟨c, rfl⟩
  | cons x l ih =>
    obtain ⟨d, hd⟩ := h c x List.mem_cons_self
    obtain ⟨c', hc'⟩ := ih (fun e y hy => h e y (List.mem_cons_of_mem x hy)) d
    exact ⟨c', by rw [List.foldlM_cons, hd]; exact hc'⟩

/-- **A loop over a list gives one value for each element.** -/
theorem Except.mapM_eq_ok_iff {ε α β : Type} {f : α → Except ε β} {l : List α} {l' : List β} :
    l.mapM f = .ok l' ↔ l.Forall₂ (fun a b => f a = .ok b) l' := by
  induction l generalizing l' with
  | nil => simp [pure, Except.pure, eq_comm]
  | cons a l ih =>
    rw [List.mapM_cons, Except.bind_eq_ok, List.forall₂_cons_left_iff]
    refine exists_congr fun b => ?_
    rw [Except.bind_eq_ok]
    constructor
    · rintro ⟨ha, rest, hrest, ⟨⟩⟩
      exact ⟨rest, ha, ih.1 hrest, rfl⟩
    · rintro ⟨rest, ha, hrest, rfl⟩
      exact ⟨ha, rest, ih.2 hrest, rfl⟩

/-- A loop whose steps all give values gives a value. -/
theorem Except.exists_mapM_eq_ok {ε α β : Type} {f : α → Except ε β} {l : List α}
    (h : ∀ a ∈ l, ∃ b, f a = .ok b) : ∃ l', l.mapM f = .ok l' := by
  induction l with
  | nil => exact ⟨[], rfl⟩
  | cons a l ih =>
    obtain ⟨b, hb⟩ := h a List.mem_cons_self
    obtain ⟨rest, hrest⟩ := ih fun a' ha' => h a' (List.mem_cons_of_mem a ha')
    exact ⟨b :: rest, by rw [List.mapM_cons, hb, hrest]; rfl⟩

/-- **A loop that picks from a list** and ends in a value could decide on each
element, and gives those it decided for. -/
theorem Except.filterM_eq_ok {ε α : Type} {p : α → Except ε Bool} {l l' : List α}
    (h : l.filterM p = .ok l') :
    (∀ a ∈ l, ∃ b, p a = .ok b) ∧ l' = l.filter fun a => (p a).toOption.getD false := by
  have hall : ∀ (l done picked : List α), l.filterAuxM p done = .ok picked →
      (∀ a ∈ l, ∃ b, p a = .ok b) ∧
        picked = (l.filter fun a => (p a).toOption.getD false).reverse ++ done := by
    intro l
    induction l with
    | nil =>
      intro done picked h
      cases h
      exact ⟨fun a ha => absurd ha List.not_mem_nil, rfl⟩
    | cons a l ih =>
      intro done picked h
      obtain ⟨b, hb, h⟩ := Except.bind_eq_ok.1 h
      obtain ⟨hrest, rfl⟩ := ih _ picked h
      refine ⟨List.forall_mem_cons.2 ⟨⟨b, hb⟩, hrest⟩, ?_⟩
      rw [List.filter_cons, hb]
      cases b with
      | false => rfl
      | true => simp [Except.toOption]
  obtain ⟨picked, hpicked, h⟩ := Except.bind_eq_ok.1 h
  obtain ⟨hdecided, rfl⟩ := hall l [] picked hpicked
  cases h
  exact ⟨hdecided, by rw [List.append_nil, List.reverse_reverse]⟩

/-- A loop of checks passes when each check does. -/
theorem Except.forM_eq_ok_iff {ε α : Type} {check : α → Except ε Unit} {l : List α} :
    l.forM check = .ok () ↔ ∀ x ∈ l, check x = .ok () := by
  induction l with
  | nil => simp [List.forM, pure, Except.pure]
  | cons x l ih =>
    rw [List.forM, Except.bind_eq_ok, List.forall_mem_cons, ← ih]
    constructor
    · rintro ⟨⟨⟩, hx, hrest⟩
      exact ⟨hx, hrest⟩
    · rintro ⟨hx, hrest⟩
      exact ⟨(), hx, hrest⟩

/-- A loop of checks that does not pass has a check that does not. -/
theorem Except.exists_of_forM_eq_error {ε α : Type} {check : α → Except ε Unit} {l : List α}
    {fault : ε} (h : l.forM check = .error fault) : ∃ x ∈ l, check x = .error fault := by
  induction l with
  | nil => cases h
  | cons x l ih =>
    rcases Except.bind_eq_error.1 h with hx | ⟨-, -, hrest⟩
    · exact ⟨x, List.mem_cons_self, hx⟩
    · obtain ⟨y, hy, hcheck⟩ := ih hrest
      exact ⟨y, List.mem_cons_of_mem x hy, hcheck⟩

/-- A loop depends on its steps at the elements only. -/
theorem Except.foldlM_congr {ε α γ : Type} {step step' : γ → α → Except ε γ} {l : List α}
    (h : ∀ c, ∀ x ∈ l, step c x = step' c x) (c : γ) : l.foldlM step c = l.foldlM step' c := by
  induction l generalizing c with
  | nil => rfl
  | cons x l ih =>
    rw [List.foldlM_cons, List.foldlM_cons, h c x List.mem_cons_self]
    exact congrArg _ (funext fun d => ih (fun e y hy => h e y (List.mem_cons_of_mem x hy)) d)

/-- A loop over a list depends on what it does with the elements only. -/
theorem Except.mapM_congr {ε α β : Type} {f g : α → Except ε β} {l : List α}
    (h : ∀ a ∈ l, f a = g a) : l.mapM f = l.mapM g := by
  induction l with
  | nil => rfl
  | cons a l ih =>
    rw [List.mapM_cons, List.mapM_cons, h a List.mem_cons_self,
      ih fun b hb => h b (List.mem_cons_of_mem a hb)]

/-- What a loop gave for one of the elements. -/
theorem Except.exists_of_mem_mapM {ε α β : Type} {f : α → Except ε β} {l : List α} {l' : List β}
    (h : l.mapM f = .ok l') {b : β} (hb : b ∈ l') : ∃ a ∈ l, f a = .ok b := by
  have hall := Except.mapM_eq_ok_iff.1 h
  clear h
  induction hall with
  | nil => cases hb
  | cons hfirst _ ih =>
    rcases List.mem_cons.1 hb with rfl | hb
    · exact ⟨_, List.mem_cons_self, hfirst⟩
    · obtain ⟨a, ha, hfa⟩ := ih hb
      exact ⟨a, List.mem_cons_of_mem _ ha, hfa⟩

namespace Run

variable {σ α β : Type}

theorem lift_apply (result : Except Fault α) (remote : Remote) (s : σ) :
    (liftM result : Run σ α) remote s = (result, s) := rfl

/-- **A run of two parts ends in a value** when the first part does and the
second, from there, does. -/
theorem bind_eq_ok {run : Run σ α} {next : α → Run σ β} {remote : Remote} {s t : σ} {b : β} :
    (run >>= next) remote s = (.ok b, t) ↔
      ∃ a m, run remote s = (.ok a, m) ∧ next a remote m = (.ok b, t) := by
  rw [bind_apply]
  rcases run remote s with ⟨_ | a, m⟩
  · constructor
    · intro h
      cases h
    · rintro ⟨a, m', h, -⟩
      cases h
  · constructor
    · intro h
      exact ⟨a, m, rfl, h⟩
    · rintro ⟨a', m', h, h'⟩
      cases h
      exact h'

/-- Going on after a value. -/
theorem bind_of_ok {run : Run σ α} (next : α → Run σ β) {remote : Remote} {s m : σ} {a : α}
    (h : run remote s = (.ok a, m)) : (run >>= next) remote s = next a remote m := by
  rw [bind_apply, h]

/-- Nothing follows a fault. -/
theorem bind_of_error {run : Run σ α} (next : α → Run σ β) {remote : Remote} {s m : σ}
    {fault : Fault} (h : run remote s = (.error fault, m)) :
    (run >>= next) remote s = (.error fault, m) := by
  rw [bind_apply, h]

/-- Going on twice. -/
theorem bind_assoc_apply {γ : Type} (run : Run σ α) (next : α → Run σ β) (last : β → Run σ γ)
    (remote : Remote) (s : σ) :
    ((run >>= next) >>= last) remote s = (run >>= fun a => next a >>= last) remote s := by
  rw [bind_apply, bind_apply, bind_apply]
  rcases run remote s with ⟨_ | a, m⟩
  · rfl
  · exact (bind_apply (next a) last remote m).symm

/-- A computation that does not touch the state, at the front of a run. -/
theorem lift_bind_eq_ok {result : Except Fault α} {next : α → Run σ β} {remote : Remote}
    {s t : σ} {b : β} :
    ((liftM result : Run σ α) >>= next) remote s = (.ok b, t) ↔
      ∃ a, result = .ok a ∧ next a remote s = (.ok b, t) := by
  rw [bind_eq_ok]
  constructor
  · rintro ⟨a, m, h, h'⟩
    rw [lift_apply, Prod.mk.injEq] at h
    exact ⟨a, h.1, h.2 ▸ h'⟩
  · rintro ⟨a, h, h'⟩
    exact ⟨a, s, by rw [lift_apply, h], h'⟩

end Run

end Backlog
