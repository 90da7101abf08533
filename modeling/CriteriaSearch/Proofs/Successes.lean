import CriteriaSearch.Proofs.Outcomes
import Mathlib.Data.List.Forall2

/-!
# Success, step by step

What succeeds in several steps succeeds in each of them.  `bind_eq_ok_iff` says so of results, and
`Session.yields_bind_iff` of sessions, where `Session.Yields` stands for the success of a session
that is carried out against a client: it ends with a value and leaves a state.  With these what an
operation did is taken apart in the order of its steps.  `Session.result_bind` tells the result of a
session in steps also where a step fails; both are read off `Session.run_bind`.
-/

namespace CriteriaSearch

/-- A result in steps is a success through a success of its first step. -/
lemma bind_eq_ok_iff {ε α β : Type} {x : Except ε α} {f : α → Except ε β} {b : β} :
    (x >>= f) = .ok b ↔ ∃ a, x = .ok a ∧ f a = .ok b := by
  cases x with
  | error e => simp [bind, Except.bind]
  | ok a => simp [bind, Except.bind]

lemma pure_eq_ok_iff {ε α : Type} {a b : α} : (pure a : Except ε α) = .ok b ↔ a = b := by
  simp [pure, Except.pure]

lemma exists_of_map_eq_ok {ε α β : Type} {x : Except ε α} {f : α → β} {b : β}
    (h : x.map f = .ok b) : ∃ a, x = .ok a ∧ f a = b := by
  cases x with
  | error e => cases h
  | ok a => exact ⟨a, rfl, Except.ok.inj h⟩

/-- A list of results is one result where every one of them is. -/
lemma map_eq_map_some_of_mapM {α β : Type} {f : α → Option β} {l : List α} {bs : List β}
    (h : l.mapM f = some bs) : l.map f = bs.map some := by
  induction l generalizing bs with
  | nil =>
    obtain rfl := Option.some.inj h
    rfl
  | cons a rest ih =>
    rw [List.mapM_cons] at h
    obtain ⟨b, hb, h⟩ := Option.bind_eq_some_iff.1 h
    obtain ⟨others, hothers, h⟩ := Option.bind_eq_some_iff.1 h
    obtain rfl := Option.some.inj h
    rw [List.map_cons, List.map_cons, hb, ih hothers]

lemma mapM_eq_pure_map {m : Type → Type} [Monad m] [LawfulMonad m] {α β : Type} {f : α → m β}
    {g : α → β} {l : List α} (h : ∀ a ∈ l, f a = pure (g a)) : l.mapM f = pure (l.map g) := by
  induction l with
  | nil => rw [List.mapM_nil, List.map_nil]
  | cons a rest ih =>
    rw [List.forall_mem_cons] at h
    rw [List.mapM_cons, h.1, ih h.2, pure_bind, pure_bind, List.map_cons]

/-- Where one result is missing, there is no list of results. -/
lemma mapM_eq_none {α β : Type} {f : α → Option β} {l : List α} {a : α} (ha : a ∈ l)
    (hnone : f a = none) : l.mapM f = none := by
  cases hresults : l.mapM f with
  | none => rfl
  | some bs =>
    have hmem : f a ∈ bs.map some := map_eq_map_some_of_mapM hresults ▸ List.mem_map_of_mem ha
    rw [hnone] at hmem
    obtain ⟨b, -, hb⟩ := List.mem_map.1 hmem
    cases hb

/-- A successful fold goes on with what it came to. -/
lemma foldlM_append_of_ok {ε σ α : Type} {f : σ → α → Except ε σ} {l k : List α} {s s' : σ}
    (h : l.foldlM f s = .ok s') : (l ++ k).foldlM f s = k.foldlM f s' := by
  rw [List.foldlM_append, h]
  rfl

/-- What every step of a fold keeps, a successful fold keeps. -/
lemma foldlM_keeps {ε σ α : Type} {P : σ → Prop} {f : σ → α → Except ε σ}
    (hstep : ∀ s a s', P s → f s a = .ok s' → P s') {l : List α} {s s' : σ} (hs : P s)
    (h : l.foldlM f s = .ok s') : P s' := by
  induction l generalizing s with
  | nil => exact pure_eq_ok_iff.1 h ▸ hs
  | cons a rest ih =>
    rw [List.foldlM_cons, bind_eq_ok_iff] at h
    obtain ⟨next, hnext, hrest⟩ := h
    exact ih (hstep s a next hs hnext) hrest

/-- A successful fold succeeds at each of its members. -/
lemma exists_step_of_foldlM {ε σ α : Type} {f : σ → α → Except ε σ} {l : List α} {s s' : σ}
    (h : l.foldlM f s = .ok s') : ∀ a ∈ l, ∃ t t', f t a = .ok t' := by
  induction l generalizing s with
  | nil => simp
  | cons a rest ih =>
    rw [List.foldlM_cons, bind_eq_ok_iff] at h
    obtain ⟨next, hnext, hrest⟩ := h
    exact List.forall_mem_cons.2 ⟨⟨s, next, hnext⟩, ih hrest⟩

/-- A fold fails with the failure of a step. -/
lemma exists_error_of_foldlM {ε σ α : Type} {f : σ → α → Except ε σ} {l : List α} {s : σ} {e : ε}
    (h : l.foldlM f s = .error e) : ∃ a ∈ l, ∃ t, f t a = .error e := by
  induction l generalizing s with
  | nil => cases h
  | cons a rest ih =>
    rw [List.foldlM_cons] at h
    cases hfirst : f s a with
    | error failure =>
      rw [hfirst] at h
      exact ⟨a, List.mem_cons_self, s, hfirst.trans h⟩
    | ok next =>
      rw [hfirst] at h
      obtain ⟨b, hb, hstep⟩ := ih h
      exact ⟨b, List.mem_cons_of_mem _ hb, hstep⟩

/-- **A traversal succeeds at each of its members, or fails at the first where it can.** -/
theorem mapM_cases {ε α β : Type} (f : α → Except ε β) (l : List α) :
    (∃ bs, l.mapM f = .ok bs ∧ List.Forall₂ (fun a b => f a = .ok b) l bs) ∨
      ∃ before a after e, l = before ++ a :: after ∧ (∀ x ∈ before, ∃ b, f x = .ok b) ∧
        f a = .error e ∧ l.mapM f = .error e := by
  induction l with
  | nil => exact .inl ⟨[], rfl, .nil⟩
  | cons a rest ih =>
    rw [List.mapM_cons]
    cases ha : f a with
    | error e => exact .inr ⟨[], a, rest, e, rfl, List.forall_mem_nil _, ha, rfl⟩
    | ok b =>
      obtain ⟨bs, hrest, hpairs⟩ | ⟨before, x, after, e, rfl, hbefore, hx, hrest⟩ := ih
      · exact .inl ⟨b :: bs, by rw [hrest]; rfl, .cons ha hpairs⟩
      · refine .inr ⟨a :: before, x, after, e, rfl, ?_, hx, by rw [hrest]; rfl⟩
        exact List.forall_mem_cons.2 ⟨⟨b, ha⟩, hbefore⟩

/-- The results of a successful traversal are those of its members. -/
lemma forall₂_of_mapM {ε α β : Type} {f : α → Except ε β} {l : List α} {bs : List β}
    (h : l.mapM f = .ok bs) : List.Forall₂ (fun a b => f a = .ok b) l bs := by
  obtain ⟨bs', hok, hpairs⟩ | ⟨-, -, -, e, -, -, -, herror⟩ := mapM_cases f l
  · rwa [Except.ok.inj (h.symm.trans hok)]
  · rw [h] at herror
    cases herror

/-- A successful traversal succeeds at each of its members. -/
lemma exists_ok_of_mapM {ε α β : Type} {f : α → Except ε β} {l : List α} {bs : List β}
    (h : l.mapM f = .ok bs) : ∀ a ∈ l, ∃ b, f a = .ok b := by
  have hpairs := forall₂_of_mapM h
  clear h
  induction hpairs with
  | nil => exact List.forall_mem_nil _
  | cons hfirst _ ih => exact List.forall_mem_cons.2 ⟨⟨_, hfirst⟩, ih⟩

/-- A traversal fails with the failure of one of its members. -/
lemma exists_error_of_mapM {ε α β : Type} {f : α → Except ε β} {l : List α} {e : ε}
    (h : l.mapM f = .error e) : ∃ a ∈ l, f a = .error e := by
  obtain ⟨bs, hok, -⟩ | ⟨before, a, after, failure, rfl, -, ha, herror⟩ := mapM_cases f l
  · rw [h] at hok
    cases hok
  · have hsame : failure = e := Except.error.inj (herror.symm.trans h)
    exact ⟨a, by simp, hsame ▸ ha⟩

/-- Every result of a successful traversal is the result of one of its members. -/
lemma exists_of_mem_of_mapM {ε α β : Type} {f : α → Except ε β} {l : List α} {bs : List β}
    (h : l.mapM f = .ok bs) : ∀ b ∈ bs, ∃ a ∈ l, f a = .ok b := by
  have hpairs := forall₂_of_mapM h
  clear h
  induction hpairs with
  | nil => exact List.forall_mem_nil _
  | cons hfirst _ ih =>
    refine List.forall_mem_cons.2 ⟨⟨_, List.mem_cons_self, hfirst⟩, fun b hb => ?_⟩
    obtain ⟨a, ha, hfa⟩ := ih b hb
    exact ⟨a, List.mem_cons_of_mem _ ha, hfa⟩

namespace Session

variable {σ α β : Type} {client : Client σ}

/-- Whether a session ends with a value and leaves a state. -/
def Yields (client : Client σ) (s : Session α) (before : σ) (a : α) (after : σ) : Prop :=
  (s.run client before).result = .ok a ∧ (s.run client before).state = after

lemma yields_of_result_eq_ok {s : Session α} {before : σ} {a : α}
    (h : (s.run client before).result = .ok a) :
    s.Yields client before a (s.run client before).state :=
  ⟨h, rfl⟩

lemma yields_pure_iff {before after : σ} {a b : α} :
    (pure a : Session α).Yields client before b after ↔ a = b ∧ before = after := by
  simp [Yields, pure, run]

lemma yields_ofExcept_iff {r : Except SearchError α} {before after : σ} {a : α} :
    (ofExcept r).Yields client before a after ↔ r = .ok a ∧ before = after := by
  simp [Yields, ofExcept, run]

lemma yields_request_iff {address : Address} {r : Request} {before after : σ} {a : r.Answer} :
    (request address r).Yields client before a after ↔
      client.answer address r before = (.ok a, after) := by
  rw [Yields, run_request]
  rcases client.answer address r before with ⟨answer | answer, state⟩ <;> simp [Except.mapError]

lemma yields_attempt_iff {address : Address} {r : Request} {before after : σ}
    {answer : Except StoreFailure r.Answer} :
    (attempt address r).Yields client before answer after ↔
      client.answer address r before = (answer, after) := by
  simp [Yields, run_attempt, Prod.ext_iff]

/-- **A session in steps yields through what its first step yields.** -/
theorem yields_bind_iff {s : Session α} {f : α → Session β} {before after : σ} {b : β} :
    (s >>= f).Yields client before b after ↔
      ∃ a between, s.Yields client before a between ∧ (f a).Yields client between b after := by
  unfold Yields
  rw [run_bind, Outcome.andThen]
  cases (s.run client before).result with
  | error e => simp
  | ok a =>
    constructor
    · exact fun h => ⟨a, _, ⟨rfl, rfl⟩, h⟩
    · rintro ⟨a', between, ⟨ha, rfl⟩, h⟩
      obtain rfl := Except.ok.inj ha
      exact h

/-- The result of a session in steps, also where its first step fails. -/
lemma result_bind (s : Session α) (f : α → Session β) (before : σ) :
    ((s >>= f).run client before).result = (s.run client before).result.bind fun a =>
      ((f a).run client (s.run client before).state).result := by
  rw [run_bind, Outcome.andThen]
  cases (s.run client before).result <;> rfl

lemma result_request (address : Address) (r : Request) (before : σ) :
    ((request address r).run client before).result =
      (client.answer address r before).1.mapError .store :=
  congrArg Outcome.result (run_request address r before)

end Session

end CriteriaSearch
