import CriteriaSearch.Criteria.Build
import CriteriaSearch.Proofs.FailingDecisions
import CriteriaSearch.Proofs.QueryRequests
import CriteriaSearch.Query.OfCriteria

/-!
# Operators that are passed through

An operator that is passed through has no meaning in the in-memory store, but the store only learns
of it when deciding a filter on a document gets there: a conjunction stops at its first part that
does not hold, a disjunction at its first part that does, and without documents there is nothing to
decide.

So whether a query is refused depends on what is stored (`Memory.refused_iff_met`), and the same
goes for a pattern that is refused.  A removal by a filter that passes an operator through may well
go ahead (`Memory.answers_unmet_operator`).
-/

namespace CriteriaSearch

namespace Memory

variable {m : Memory} {address : Address} {q : Query}

/-- A refused query meets a part on a stored document that cannot be decided, and fails with it. -/
lemma exists_met_of_refuses {failure : StoreFailure} (h : m.Refuses address q failure) :
    ∃ id body, (m.documents address)[id]? = some body ∧
      q.filter.Meets m.patterns id body failure := by
  obtain ⟨before, d, after, hcut, -, hd⟩ :=
    Documents.matching_eq_error_iff.1 (refuses_iff_matching.1 h)
  have hmem : d ∈ (m.documents address).toDocuments := by
    rw [hcut]
    exact List.mem_append_right before List.mem_cons_self
  exact ⟨d.id, d.body, (Documents.mem_toDocuments _ d).1 hmem, Filter.holds_eq_error_iff.1 hd⟩

/-- A query that meets such a part on a stored document is refused. -/
lemma exists_refuses_of_met {id : String} {body : Record} {failure : StoreFailure}
    (hstored : (m.documents address)[id]? = some body)
    (hmeets : q.filter.Meets m.patterns id body failure) :
    ∃ failure, m.Refuses address q failure := by
  cases hmatching : (m.documents address).matching m.patterns q.filter with
  | error failure => exact ⟨failure, refuses_of_matching hmatching⟩
  | ok matched =>
    obtain ⟨-, hdecided⟩ := Documents.matching_eq_ok_iff.1 hmatching
    obtain ⟨b, hb⟩ := hdecided ⟨id, body⟩ ((Documents.mem_toDocuments _ ⟨id, body⟩).2 hstored)
    cases hb.symm.trans hmeets.holds_eq_error

/-- **A query is refused exactly where deciding its filter on some stored document gets to an
operator that is passed through or to a pattern that is refused, and the failure is that of such a
part of the filter.** -/
theorem refused_iff_met (m : Memory) (address : Address) (q : Query) :
    ((∃ failure, m.Refuses address q failure) ↔
      ∃ id body, (m.documents address)[id]? = some body ∧
        ∃ failure, q.filter.Meets m.patterns id body failure) ∧
    ∀ failure, m.Refuses address q failure → q.filter.MayFail m.patterns failure := by
  refine ⟨⟨?_, ?_⟩, ?_⟩
  · rintro ⟨failure, hrefuses⟩
    obtain ⟨id, body, hstored, hmeets⟩ := exists_met_of_refuses hrefuses
    exact ⟨id, body, hstored, failure, hmeets⟩
  · rintro ⟨id, body, hstored, failure, hmeets⟩
    exact exists_refuses_of_met hstored hmeets
  · intro failure hrefuses
    obtain ⟨id, body, -, hmeets⟩ := exists_met_of_refuses hrefuses
    exact hmeets.mayFail

/-- An operator under a negation, behind a part that holds. -/
theorem refused_iff_met_behind_term :
    let address : Address := ⟨"app", "item"⟩
    let m := ({} : Memory).put address "a" [("n", .str "1")]
    let f : Filter := .and [.term "n" (.str "1"), .not (.passThrough "n" "exists" (.bool true))]
    let q : Query := { typeName := "item", filter := f }
    f.Meets m.patterns "a" [("n", .str "1")] (.unsupportedOperator "exists" "n") ∧
      ∃ failure, m.Refuses address q failure ∧ f.MayFail m.patterns failure := by
  intro address m f q
  have hterm : ∀ g ∈ [Filter.term "n" (.str "1")],
      g.holds m.patterns "a" [("n", .str "1")] = .ok true := by
    rw [List.forall_mem_singleton]
    cbv
  have hmeets : f.Meets m.patterns "a" [("n", .str "1")] (.unsupportedOperator "exists" "n") :=
    .and hterm (.not (.passThrough "n" "exists" (.bool true)))
  have hstored : (m.documents address)["a"]? = some [("n", .str "1")] := by
    cbv
  obtain ⟨hrefused, hnamed⟩ := refused_iff_met m address q
  obtain ⟨failure, hrefuses⟩ := hrefused.2 ⟨"a", _, hstored, _, hmeets⟩
  exact ⟨hmeets, failure, hrefuses, hnamed failure hrefuses⟩

/-- Behind a part of a disjunction that holds, an operator that is passed through does not keep a
removal from going ahead, and without documents nothing does. -/
theorem answers_unmet_operator :
    let address : Address := ⟨"app", "item"⟩
    let m := ({} : Memory).put address "a" [("n", .str "1")]
    let criteria : Criteria :=
      { clause := some (.or
          [.eq "n" (.str "1"), .ofModifier "n" (.other "exists" (.bool true))]) }
    let q : Query :=
      { typeName := "item",
        filter := .or [.term "n" (.str "1"), .passThrough "n" "exists" (.bool true)] }
    Query.ofCriteria {} "item" criteria = .ok q ∧ q.filter.PassesThrough "exists" "n" ∧
      client.answer address (.count q) m = (.ok 1, m) ∧
      ("a" ∈ m.documents address ∧
        "a" ∉ (client.answer address (.deleteByQuery q) m).2.documents address) ∧
      client.answer address (.count q) {} = (.ok 0, {}) := by
  intro address m criteria q
  have hcompile : Query.ofCriteria {} "item" criteria = .ok q := rfl
  have hpasses : q.filter.PassesThrough "exists" "n" :=
    ⟨.bool true, .or (List.mem_cons_of_mem _ (List.mem_singleton_self _)) (.self _)⟩
  have hgone : ((client.answer address (.deleteByQuery q) m).2.documents address).contains "a" =
      false := by
    cbv
  refine ⟨hcompile, hpasses, ?_, ⟨by decide, Bool.eq_false_iff.1 hgone⟩, ?_⟩
  · cbv
  · cbv

end Memory

end CriteriaSearch
