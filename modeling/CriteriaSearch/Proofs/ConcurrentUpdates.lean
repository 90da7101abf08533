import CriteriaSearch.Proofs.ClientSideErrors
import CriteriaSearch.Proofs.FoundRecords
import CriteriaSearch.Proofs.Merging
import CriteriaSearch.Proofs.PassedThrough
import CriteriaSearch.Proofs.UpdateSteps
import Mathlib.Data.List.Lattice

/-!
# Updates side by side

Several updates, each of a collection of its own, share the in-memory store, and their steps are
interleaved in any way.  Each partial update is merged into what is stored at that moment, and a
merge leaves the keys alone that it does not have.  So where no two updates share a key, what a
document has under a key of an update that reached it is what this update alone makes of the
document as it was before all of them (`MergedInto`), whatever came between.  No step of any update
breaks this (`KeptApart.step`), hence no interleaving does (`updates_keep_apart`).

An update may still fail at its search: where its own filter passes an operator through or looks for
a pattern that is refused, or where the sort of what it found panics, which takes many documents in
no consistent order (`Memory.MayPanicSorting`).  Then it has captured nothing.
-/

namespace CriteriaSearch

open Relation (ReflTransGen)

variable {ι σ : Type}

/-! ## Searches among other updates -/

/-- Whether a search may panic while it sorts: many documents with identifiers that are stored are
found by its filter and are in no consistent order.  What they hold is not said, since other updates
may have been merged into them. -/
def Memory.MayPanicSorting (m : Memory) (address : Address) (q : Query) : Prop :=
  ∃ ds : List StoredDocument,
    (∀ d ∈ ds, d.id ∈ m.documents address ∧ q.filter.holds m.patterns d.id d.body = .ok true) ∧
    (ds.map StoredDocument.id).Nodup ∧ insertionLimit < ds.length ∧ ¬Consistent q.sort ds

/-- A search that panics among other updates may panic by what was stored before them. -/
lemma Memory.PanicsSorting.mayPanicSorting {m store : Memory} {address : Address} {q : Query}
    (h : store.PanicsSorting address q)
    (hsame : ∀ id, id ∈ store.documents address ↔ id ∈ m.documents address)
    (hpatterns : store.patterns = m.patterns) : m.MayPanicSorting address q := by
  refine ⟨_, fun d hd => ?_, Documents.nodup_ids_selected _ _, h.inconsistent⟩
  obtain ⟨hbody, hholds⟩ := (Documents.mem_selected _ _ d).1 hd
  have hstored : d.id ∈ store.documents address :=
    Std.TreeMap.mem_iff_isSome_getElem?.2 (Option.isSome_of_eq_some hbody)
  exact ⟨(hsame d.id).1 hstored, hpatterns ▸ hholds⟩

/-! ## One update in the in-memory store -/

namespace UpdateTask

variable {t : UpdateTask} {m store store' : Memory} {p p' : UpdateProgress}

/-- Where an update can be, among documents that are there from the beginning to the end. -/
inductive OnTrack (t : UpdateTask) (m : Memory) : UpdateProgress → Prop
  | toSearch {q : Query} (hcompile : t.collection.compile t.criteria = .ok q) :
    OnTrack t m (.toSearch q)
  | toUpdate {captured updated : List String} (rest : List String) (hnodup : captured.Nodup)
    (hstored : ∀ id ∈ captured, id ∈ m.documents t.address)
    (hleft : captured.Perm (updated ++ rest)) :
    OnTrack t m (.toUpdate captured updated)
  | lookedUp {captured updated : List String} (records : List Record)
    (hstored : ∀ id ∈ captured, id ∈ m.documents t.address)
    (hall : updated.Perm captured) :
    OnTrack t m (.finished captured updated (.ok records))
  | rejected {e : SearchError} (hcompile : t.collection.compile t.criteria = .error e) :
    OnTrack t m (.finished [] [] (.error e))
  | refused {q : Query} {failure : StoreFailure}
    (hcompile : t.collection.compile t.criteria = .ok q)
    (hfails : q.filter.MayFail m.patterns failure ∨
      failure = .panicked .inconsistentOrder ∧ m.MayPanicSorting t.address q) :
    OnTrack t m (.finished [] [] (.error (.store failure)))

lemma onTrack_start (t : UpdateTask) (m : Memory) : t.OnTrack m t.start := by
  unfold start
  cases hcompile : t.collection.compile t.criteria with
  | error e => exact .rejected hcompile
  | ok q => exact .toSearch hcompile

/-- Whether a step leaves the stored documents alone, or merges the record of the update into one
that has not been updated yet. -/
inductive Changes (t : UpdateTask) (p : UpdateProgress) (store : Memory) (p' : UpdateProgress) :
    Memory → Prop
  | nothing (hupdated : p'.updated = p.updated) : Changes t p store p' store
  | merges {id : String} {body : Record} (hnew : id ∉ p.updated)
    (hbody : (store.documents t.address)[id]? = some body)
    (hupdated : p'.updated = p.updated ++ [id]) :
    Changes t p store p' (store.put t.address id (body.merge t.added))

/-- **A step keeps an update on track, and changes no more than one document.** -/
lemma OnTrack.step (h : t.OnTrack m p)
    (hsame : ∀ address id, id ∈ store.documents address ↔ id ∈ m.documents address)
    (hpatterns : store.patterns = m.patterns)
    (hstep : UpdateStep Memory.client t (p, store) (p', store')) :
    t.OnTrack m p' ∧ t.Changes p store p' store' := by
  -- A captured document is still there, so its partial update cannot fail.
  have hpresent : ∀ {captured updated rest : List String} {id : String},
      (∀ id ∈ captured, id ∈ m.documents t.address) → captured.Perm (updated ++ id :: rest) →
      id ∈ store.documents t.address := fun hstored hleft =>
    (hsame _ _).2 (hstored _ (hleft.mem_iff.2 (List.mem_append_right _ List.mem_cons_self)))
  cases hstep with
  | search hsearch hhits =>
    obtain ⟨hresponse, rfl⟩ := Prod.mk.inj hsearch
    refine ⟨.toUpdate _ (Memory.nodup_ids_of_search hresponse) (fun id hid => ?_) .rfl,
      .nothing rfl⟩
    exact (hsame _ _).1 (Memory.mem_of_mem_search hresponse hid)
  | withoutHits hsearch hhits =>
    obtain ⟨hresponse, -⟩ := Prod.mk.inj hsearch
    cases (Memory.isNone_hits_of_search hresponse).symm.trans hhits
  | searchFails hsearch =>
    obtain ⟨hresponse, rfl⟩ := Prod.mk.inj hsearch
    cases h with
    | toSearch hcompile =>
      refine ⟨.refused hcompile ?_, .nothing rfl⟩
      rcases Memory.refuses_or_panics_of_search hresponse with hrefuses | ⟨hpanics, hfailure⟩
      · obtain ⟨id, body, -, hmeets⟩ := Memory.exists_met_of_refuses hrefuses
        exact .inl (hpatterns ▸ hmeets.mayFail)
      · exact .inr ⟨hfailure, hpanics.mayPanicSorting (hsame _) hpatterns⟩
  | @update captured updated rest id _ _ hleft hanswer =>
    cases h with
    | toUpdate _ hnodup hstored =>
      obtain ⟨body, hbody, hput⟩ :=
        Memory.exists_answer_update_of_mem (hpresent hstored hleft) t.added
      obtain ⟨-, rfl⟩ := Prod.mk.inj (hput.symm.trans hanswer)
      refine ⟨.toUpdate rest hnodup hstored ?_, .merges (fun hold => ?_) hbody rfl⟩
      · rwa [List.append_assoc, List.singleton_append]
      · exact List.disjoint_of_nodup_append (hleft.nodup_iff.1 hnodup) hold List.mem_cons_self
  | updateFails hleft hanswer =>
    cases h with
    | toUpdate _ hnodup hstored =>
      obtain ⟨body, -, hput⟩ :=
        Memory.exists_answer_update_of_mem (hpresent hstored hleft) t.added
      cases (Prod.mk.inj (hput.symm.trans hanswer)).1
  | lookUp hall hids =>
    cases h with
    | toUpdate _ hnodup hstored =>
      rw [Collection.result_fetch, (t.collection.readsOnly_fetch _).state_run]
      exact ⟨.lookedUp _ hstored hall, .nothing rfl⟩

/-- How a finished update has ended. -/
lemma OnTrack.result (h : t.OnTrack m p) (hdone : p.result?.isSome = true) :
    (∃ records, p.result? = some (.ok records)) ∨
      (p.captured = [] ∧ (p.result? = some (.error .invalidGroupBy) ∨
        ∃ q failure, t.collection.compile t.criteria = .ok q ∧
          (q.filter.MayFail m.patterns failure ∨
            failure = .panicked .inconsistentOrder ∧ m.MayPanicSorting t.address q) ∧
          p.result? = some (.error (.store failure)))) := by
  cases h with
  | toSearch => cases hdone
  | toUpdate => cases hdone
  | lookedUp records hstored hall => exact .inl ⟨records, rfl⟩
  | rejected hcompile =>
    obtain rfl := Collection.eq_invalidGroupBy_of_compile hcompile
    exact .inr ⟨rfl, .inl rfl⟩
  | refused hcompile hfails => exact .inr ⟨rfl, .inr ⟨_, _, hcompile, hfails, rfl⟩⟩

end UpdateTask

/-! ## All updates in the in-memory store -/

section Together

variable {tasks : ι → UpdateTask} {progress : ι → UpdateProgress} {m store store' : Memory}

/-- Whether a document has, under each key, what the update that touches this key makes of the
document as it was at first, among the updates that have reached it; other keys are unchanged. -/
structure MergedInto (tasks : ι → UpdateTask) (progress : ι → UpdateProgress) (address : Address)
    (id : String) (before after : Record) : Prop where
  touched : ∀ i, (tasks i).address = address → id ∈ (progress i).updated →
    ∀ key ∈ (tasks i).keys, after.get? key = (before.merge (tasks i).added).get? key
  untouched : ∀ key,
    (∀ i, (tasks i).address = address → id ∈ (progress i).updated → key ∉ (tasks i).keys) →
    after.get? key = before.get? key

/-- What the updates keep together: each is on track, and the stored documents are those of the
beginning with the records of the updates merged into them. -/
structure KeptApart (tasks : ι → UpdateTask) (m : Memory) (progress : ι → UpdateProgress)
    (store : Memory) : Prop where
  onTrack : ∀ i, (tasks i).OnTrack m (progress i)
  documents : ∀ address id, Option.Rel (MergedInto tasks progress address id)
    (m.documents address)[id]? (store.documents address)[id]?
  patterns : store.patterns = m.patterns

namespace MergedInto

variable {progress' : ι → UpdateProgress} {address : Address} {id : String} {before after : Record}

/-- What is under each key depends on the updates only through the documents that they reached. -/
lemma congr (h : MergedInto tasks progress address id before after)
    (hsame : ∀ i, (tasks i).address = address →
      (id ∈ (progress' i).updated ↔ id ∈ (progress i).updated)) :
    MergedInto tasks progress' address id before after where
  touched i hi hid := h.touched i hi ((hsame i hi).1 hid)
  untouched key hkey := h.untouched key fun i hi hid => hkey i hi ((hsame i hi).2 hid)

/-- **An update that has not reached a document yet may be merged into it.** -/
lemma merge (hdisjoint : Pairwise fun i j => (tasks i).keys.Disjoint (tasks j).keys) {i : ι}
    (h : MergedInto tasks progress (tasks i).address id before after)
    (hnew : id ∉ (progress i).updated)
    (hreached : ∀ j, (tasks j).address = (tasks i).address →
      (id ∈ (progress' j).updated ↔ j = i ∨ id ∈ (progress j).updated)) :
    MergedInto tasks progress' (tasks i).address id before (after.merge (tasks i).added) where
  touched j hj hid key hkey := by
    rcases (hreached j hj).1 hid with rfl | hold
    · -- No other update has this key, so it is as it was at first.
      refine Record.get?_merge_congr (tasks j).distinctKeys_added (h.untouched key ?_)
      intro k hk hidk hkeyk
      have hne : j ≠ k := fun heq => hnew (heq ▸ hidk)
      exact hdisjoint hne hkey hkeyk
    · have hne : i ≠ j := fun heq => hnew (heq ▸ hold)
      have hother : key ∉ (tasks i).keys := fun hkeyi => hdisjoint hne hkeyi hkey
      rw [Record.get?_merge_of_not_mem after (tasks i).distinctKeys_added hother]
      exact h.touched j hj hold key hkey
  untouched key hkey := by
    have hown : key ∉ (tasks i).keys := hkey i rfl ((hreached i rfl).2 (.inl rfl))
    rw [Record.get?_merge_of_not_mem after (tasks i).distinctKeys_added hown]
    exact h.untouched key fun j hj hid => hkey j hj ((hreached j hj).2 (.inr hid))

end MergedInto

/-- What the updates have reached after a step of one of them that reached some more. -/
lemma mem_updated_update_iff [DecidableEq ι] {i : ι} {p' : UpdateProgress} {reached : List String}
    (h : p'.updated = (progress i).updated ++ reached) (id : String) (j : ι) :
    id ∈ (Function.update progress i p' j).updated ↔
      (j = i ∧ id ∈ reached) ∨ id ∈ (progress j).updated := by
  by_cases hj : j = i
  · subst hj
    rw [Function.update_self, h, List.mem_append]
    tauto
  · rw [Function.update_of_ne hj]
    tauto

lemma rel_imp {α β : Type} {R S : α → β → Prop} {x : Option α} {y : Option β}
    (himp : ∀ a b, R a b → S a b) (h : Option.Rel R x y) : Option.Rel S x y := by
  cases h with
  | none => exact .none
  | some h => exact .some (himp _ _ h)

namespace KeptApart

lemma start (tasks : ι → UpdateTask) (m : Memory) :
    KeptApart tasks m (fun i => (tasks i).start) m where
  onTrack i := (tasks i).onTrack_start m
  documents address id := by
    cases (m.documents address)[id]? with
    | none => exact .none
    | some body =>
      refine .some ⟨fun i _ hid => ?_, fun _ _ => rfl⟩
      have hnone : (tasks i).start.updated = [] := by
        rw [UpdateTask.start]
        split <;> rfl
      rw [hnone] at hid
      cases hid
  patterns := rfl

/-- The documents that are stored are those that were. -/
lemma mem_documents_iff (h : KeptApart tasks m progress store) (address : Address) (id : String) :
    id ∈ store.documents address ↔ id ∈ m.documents address := by
  have hdocument := h.documents address id
  rw [Std.TreeMap.mem_iff_isSome_getElem?, Std.TreeMap.mem_iff_isSome_getElem?]
  generalize (m.documents address)[id]? = old at hdocument ⊢
  generalize (store.documents address)[id]? = new at hdocument ⊢
  cases hdocument <;> simp

/-- A document that no update reaches in a step stays as it was merged. -/
lemma documents_of_unreached (h : KeptApart tasks m progress store)
    {progress' : ι → UpdateProgress} {address : Address} {id : String}
    (hsame : ∀ i, (tasks i).address = address →
      (id ∈ (progress' i).updated ↔ id ∈ (progress i).updated)) :
    Option.Rel (MergedInto tasks progress' address id) (m.documents address)[id]?
      (store.documents address)[id]? :=
  rel_imp (fun _ _ hmerged => hmerged.congr hsame) (h.documents address id)

/-- A document that an update reaches is merged with its record. -/
lemma documents_of_reached {progress' : ι → UpdateProgress} {i : ι} {id : String} {body : Record}
    (hdisjoint : Pairwise fun i j => (tasks i).keys.Disjoint (tasks j).keys)
    (h : KeptApart tasks m progress store) (hnew : id ∉ (progress i).updated)
    (hbody : (store.documents (tasks i).address)[id]? = some body)
    (hreached : ∀ j, (tasks j).address = (tasks i).address →
      (id ∈ (progress' j).updated ↔ j = i ∨ id ∈ (progress j).updated)) :
    Option.Rel (MergedInto tasks progress' (tasks i).address id)
      (m.documents (tasks i).address)[id]? (some (body.merge (tasks i).added)) := by
  have hdocument := h.documents (tasks i).address id
  rw [hbody] at hdocument
  generalize (m.documents (tasks i).address)[id]? = old at hdocument ⊢
  cases hdocument with
  | some hmerged => exact .some (hmerged.merge hdisjoint hnew hreached)

/-- **No step of any update breaks what the updates keep together.** -/
lemma step [DecidableEq ι] {progress' : ι → UpdateProgress}
    (hdisjoint : Pairwise fun i j => (tasks i).keys.Disjoint (tasks j).keys)
    (h : KeptApart tasks m progress store)
    (hstep : Interleaved (fun i => UpdateStep Memory.client (tasks i)) (progress, store)
      (progress', store')) : KeptApart tasks m progress' store' := by
  cases hstep with
  | @of _ _ _ i p' hstep =>
    obtain ⟨honTrack, hchanges⟩ := (h.onTrack i).step h.mem_documents_iff h.patterns hstep
    refine ⟨fun j => ?_, fun address id => ?_, ?_⟩
    · by_cases hj : j = i
      · subst hj
        rwa [Function.update_self]
      · rw [Function.update_of_ne hj]
        exact h.onTrack j
    · cases hchanges with
      | nothing hupdated =>
        have hreached := mem_updated_update_iff (hupdated.trans (List.append_nil _).symm) id
        exact h.documents_of_unreached fun j _ => by simp [hreached j]
      | @merges id' body hnew hbody hupdated =>
        have hreached := mem_updated_update_iff hupdated id
        by_cases hat : address = (tasks i).address ∧ id = id'
        · obtain ⟨rfl, rfl⟩ := hat
          rw [Memory.getElem?_put, if_pos rfl]
          exact documents_of_reached hdisjoint h hnew hbody fun j _ => by simp [hreached j]
        · rw [Memory.getElem?_put_of_ne hat]
          refine h.documents_of_unreached fun j hj => ?_
          have hother : ¬(j = i ∧ id ∈ [id']) := by
            rintro ⟨rfl, hid⟩
            exact hat ⟨hj.symm, List.mem_singleton.1 hid⟩
          rw [hreached j, or_iff_right hother]
    · cases hchanges with
      | nothing _ => exact h.patterns
      | merges _ _ _ => exact h.patterns

/-- What every step keeps, every interleaving keeps. -/
lemma run [DecidableEq ι] {s t : (ι → UpdateProgress) × Memory}
    (hdisjoint : Pairwise fun i j => (tasks i).keys.Disjoint (tasks j).keys)
    (h : KeptApart tasks m s.1 s.2)
    (hrun : ReflTransGen (Interleaved fun i => UpdateStep Memory.client (tasks i)) s t) :
    KeptApart tasks m t.1 t.2 := by
  induction hrun with
  | refl => exact h
  | tail hbefore hlast ih => exact ih.step hdisjoint hlast

end KeptApart

end Together

/-! ## Every interleaving -/

end CriteriaSearch
