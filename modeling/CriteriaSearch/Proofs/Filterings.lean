import CriteriaSearch.Proofs.Successes

/-!
# Filterings that may fail

A filtering decides the members of a list one after another and keeps those that pass.  It fails
with the first member that is not decided (`filterM_eq_error_iff`); where every member is decided it
is a plain filtering (`filterM_eq_ok_iff`).
-/

namespace CriteriaSearch

variable {ε α : Type} {p : α → Except ε Bool}

/-- A list is cut at its first member, or at a later one. -/
lemma exists_cut_cons_iff {P Q : α → Prop} (a : α) (l : List α) :
    (∃ before b after, a :: l = before ++ b :: after ∧ (∀ x ∈ before, P x) ∧ Q b) ↔
      Q a ∨ P a ∧ ∃ before b after, l = before ++ b :: after ∧ (∀ x ∈ before, P x) ∧ Q b := by
  constructor
  · rintro ⟨before, b, after, hcut, hbefore, hb⟩
    cases before with
    | nil =>
      obtain ⟨rfl, -⟩ := List.cons.inj hcut
      exact .inl hb
    | cons first others =>
      obtain ⟨rfl, hrest⟩ := List.cons.inj hcut
      rw [List.forall_mem_cons] at hbefore
      exact .inr ⟨hbefore.1, others, b, after, hrest, hbefore.2, hb⟩
  · rintro (ha | ⟨ha, before, b, after, rfl, hbefore, hb⟩)
    · exact ⟨[], a, l, rfl, List.forall_mem_nil _, ha⟩
    · exact ⟨a :: before, b, after, rfl, List.forall_mem_cons.2 ⟨ha, hbefore⟩, hb⟩

/-- What was kept before only goes behind what is kept. -/
lemma filterAuxM_eq (l acc : List α) :
    List.filterAuxM p l acc = (List.filterAuxM p l []).map (· ++ acc) := by
  induction l generalizing acc with
  | nil => rfl
  | cons a rest ih =>
    rw [List.filterAuxM, List.filterAuxM]
    cases p a with
    | error e => rfl
    | ok b =>
      have hstep : ∀ kept : List α, List.filterAuxM p rest (kept ++ acc) =
          (List.filterAuxM p rest kept).map (· ++ acc) := by
        intro kept
        rw [ih (kept ++ acc), ih kept]
        cases List.filterAuxM p rest [] with
        | error e => rfl
        | ok found => exact congrArg Except.ok (List.append_assoc found kept acc).symm
      cases b with
      | true => exact hstep [a]
      | false => exact hstep []

/-- A filtering decides the first member and then the others. -/
lemma filterM_cons (a : α) (l : List α) :
    (a :: l).filterM p = do
      let b ← p a
      let kept ← l.filterM p
      return if b then a :: kept else kept := by
  rw [List.filterM, List.filterM, List.filterAuxM]
  cases p a with
  | error e => rfl
  | ok b =>
    change (List.filterAuxM p l (bif b then [a] else []) >>= fun found =>
      pure found.reverse) = _
    rw [filterAuxM_eq]
    cases List.filterAuxM p l [] with
    | error e => rfl
    | ok found => cases b <;> simp [Except.map, bind, Except.bind, pure, Except.pure]

/-- **A filtering fails exactly where it meets a member that is not decided, with the failure of the
first one.** -/
theorem filterM_eq_error_iff {l : List α} {e : ε} :
    l.filterM p = .error e ↔ ∃ before a after, l = before ++ a :: after ∧
      (∀ b ∈ before, ∃ decided, p b = .ok decided) ∧ p a = .error e := by
  induction l with
  | nil => simp [List.filterM, List.filterAuxM, pure, Except.pure, bind, Except.bind]
  | cons a rest ih =>
    rw [exists_cut_cons_iff, filterM_cons, ← ih]
    cases p a with
    | error failure => simp [bind, Except.bind]
    | ok b => cases rest.filterM p <;> simp [bind, Except.bind, pure, Except.pure]

/-- **A filtering succeeds exactly where every member is decided, and keeps what passes.** -/
theorem filterM_eq_ok_iff {l kept : List α} :
    l.filterM p = .ok kept ↔ kept = (l.filter fun a => (p a).toOption == some true) ∧
      ∀ a ∈ l, ∃ decided, p a = .ok decided := by
  induction l generalizing kept with
  | nil =>
    have hnil : [].filterM p = .ok [] := rfl
    rw [hnil, Except.ok.injEq]
    simp [eq_comm]
  | cons a rest ih =>
    rw [filterM_cons, List.forall_mem_cons]
    cases ha : p a with
    | error e => simp [bind, Except.bind]
    | ok b =>
      have hkept : ((a :: rest).filter fun a => (p a).toOption == some true) =
          if b then a :: rest.filter (fun a => (p a).toOption == some true)
          else rest.filter fun a => (p a).toOption == some true := by
        cases b <;> simp [ha, Except.toOption]
      change (rest.filterM p >>= fun others => pure (if b then a :: others else others)) =
        .ok kept ↔ _
      simp only [bind_eq_ok_iff, pure_eq_ok_iff, ih, hkept]
      constructor
      · rintro ⟨others, ⟨rfl, hrest⟩, rfl⟩
        exact ⟨rfl, ⟨b, rfl⟩, hrest⟩
      · rintro ⟨rfl, -, hrest⟩
        exact ⟨_, ⟨rfl, hrest⟩, rfl⟩

end CriteriaSearch
