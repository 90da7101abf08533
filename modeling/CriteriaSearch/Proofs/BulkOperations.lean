import CriteriaSearch.Proofs.IssuedIdentifiers
import CriteriaSearch.Proofs.SentRequests

/-!
# Batches of operations

The operations of a bulk request take effect one after another, each on the documents that the ones
before it left.  `Memory.Takes` says all that one operation can do: it is refused, and then nothing
changes at all, or it is accepted and takes effect on the document of one identifier
(`Memory.takes_applyOperation`).

What a whole batch does follows by induction.  The documents at the end come from the accepted
operations alone (`Memory.documents_applyAll`), and a refused operation might as well not have been
sent (`Memory.Takes.eq_of_error`); together these are `Memory.bulk_isolates_failures`.
-/

namespace CriteriaSearch

/-! ## What operations say -/

namespace BulkOperation

/-- The identifier that an operation names. -/
def id? : BulkOperation → Option String
  | index id _ => id
  | create id _ => id
  | update id _ => some id
  | delete id => some id

/-- Why an operation on the document of an identifier is refused, if it is: a document is not
created twice, and only what is there is updated. -/
def refusal? (typeName : String) (ds : Documents) (id : String) :
    BulkOperation → Option StoreFailure
  | index _ _ => none
  | create _ _ => if id ∈ ds then some (.documentExists typeName id) else none
  | update _ _ => if id ∈ ds then none else some (.documentMissing typeName id)
  | delete _ => none

end BulkOperation

/-- Whether an identifier is the one to use beside documents: the given one, or else one that is
issued and that none of them has. -/
def Documents.Uses (ds : Documents) (given : Option String) (id : String) : Prop :=
  given = some id ∨ (given = none ∧ (∃ n, id = issuedId n) ∧ id ∉ ds)

/-- The documents after an operation on the document of an identifier. -/
def Documents.apply (ds : Documents) (id : String) : BulkOperation → Documents
  | .index _ source => ds.insert id source
  | .create _ source => ds.insert id source
  | .update _ partialSource =>
    match ds[id]? with
    | some body => ds.insert id (body.merge partialSource)
    | none => ds
  | .delete _ => ds.erase id

/-- The operations of a batch that were accepted, each with the identifier of its document. -/
def BulkResponse.accepted (r : BulkResponse) (ops : List BulkOperation) :
    List (String × BulkOperation) :=
  (ops.zip r.items).filterMap fun e =>
    if e.2.error.isNone then e.2.id.map fun id => (id, e.1) else none

namespace BulkResponse

lemma accepted_cons_of_error {id : Option String} {failure : String} {items : List BulkItem}
    {op : BulkOperation} {ops : List BulkOperation} :
    accepted ⟨⟨id, some failure⟩ :: items⟩ (op :: ops) = accepted ⟨items⟩ ops := by
  simp [accepted]

lemma accepted_cons_of_success {id : String} {items : List BulkItem} {op : BulkOperation}
    {ops : List BulkOperation} :
    accepted ⟨⟨some id, none⟩ :: items⟩ (op :: ops) = (id, op) :: accepted ⟨items⟩ ops := by
  simp [accepted]

end BulkResponse

/-- An operation is refused exactly where it creates what is there or updates what is not. -/
lemma BulkOperation.isSome_refusal?_iff (typeName : String) {id : String} {ds : Documents}
    {op : BulkOperation} (hid : ∀ named, op.id? = some named → named = id) :
    (op.refusal? typeName ds id).isSome = true ↔
      (∃ given source, op = .create given source ∧ id ∈ ds) ∨
        ∃ partialSource, op = .update id partialSource ∧ id ∉ ds := by
  cases op with
  | index given source => simp [refusal?]
  | delete named => simp [refusal?]
  | create given source =>
    by_cases hmem : id ∈ ds <;> simp [refusal?, hmem]
  | update named partialSource =>
    obtain rfl := hid named rfl
    by_cases hmem : named ∈ ds <;> simp [refusal?, hmem]

namespace Memory

variable {m m' : Memory} {address : Address} {op : BulkOperation} {ops : List BulkOperation}

/-! ## One operation -/

/-- What one operation comes to, with its item and the store that it leaves. -/
inductive Takes (m : Memory) (address : Address) (op : BulkOperation) : BulkItem → Memory → Prop
  | refused {id : String} {failure : StoreFailure} (hid : op.id? = some id)
    (hrefused : op.refusal? address.typeName (m.documents address) id = some failure) :
    Takes m address op ⟨some id, some failure.message⟩ m
  | accepted {id : String} {m' : Memory} (hid : (m.documents address).Uses op.id? id)
    (haccepted : op.refusal? address.typeName (m.documents address) id = none)
    (hdocuments : m'.documents address = (m.documents address).apply id op)
    (hothers : ∀ other, other ≠ address → m'.documents other = m.documents other) :
    Takes m address op ⟨some id, none⟩ m'

/-- A chosen identifier is the given one or an issued one, and choosing stores nothing. -/
lemma uses_chooseId (m : Memory) (address : Address) (given : Option String) :
    (m.documents address).Uses given (m.chooseId address given).1 := by
  cases given with
  | some id => exact .inl rfl
  | none =>
    obtain ⟨n, hchosen, hfree⟩ := m.chooseId_none address
    rw [hchosen]
    exact .inr ⟨rfl, ⟨n, rfl⟩, hfree⟩

/-- **One operation is refused or accepted.** -/
theorem takes_applyOperation (m : Memory) (address : Address) (op : BulkOperation) :
    m.Takes address op (m.applyOperation address op).1 (m.applyOperation address op).2 := by
  cases op with
  | index given source =>
    have huses := m.uses_chooseId address given
    have hsame := documents_chooseId m address given
    simp only [applyOperation]
    generalize m.chooseId address given = chosen at huses hsame ⊢
    refine .accepted huses rfl ?_ fun other hother => ?_
    · rw [documents_put_self, hsame, Documents.apply]
    · rw [documents_put_of_ne hother, hsame]
  | create given source =>
    have huses := m.uses_chooseId address given
    have hsame := documents_chooseId m address given
    have hgiven : ∀ id, given = some id → m.chooseId address given = (id, m) := by
      rintro id rfl
      exact chooseId_some m address id
    simp only [applyOperation]
    generalize m.chooseId address given = chosen at huses hsame hgiven ⊢
    obtain ⟨id, between⟩ := chosen
    dsimp only at huses hsame hgiven ⊢
    rw [hsame]
    by_cases hmem : id ∈ m.documents address
    · -- An issued identifier is free, so this one was given, and nothing was issued.
      obtain hid | ⟨-, -, hfree⟩ := huses
      · obtain rfl : between = m := congrArg Prod.snd (hgiven id hid)
        rw [if_pos (Std.TreeMap.contains_iff_mem.2 hmem)]
        exact .refused hid (if_pos hmem)
      · exact absurd hmem hfree
    · rw [if_neg fun hcontains => hmem (Std.TreeMap.contains_iff_mem.1 hcontains)]
      refine .accepted huses (if_neg hmem) ?_ fun other hother => ?_
      · rw [documents_put_self, hsame, Documents.apply]
      · rw [documents_put_of_ne hother, hsame]
  | update id partialSource =>
    cases hstored : (m.documents address)[id]? with
    | none =>
      have hmissing : id ∉ m.documents address := by
        rw [Std.TreeMap.mem_iff_isSome_getElem?, hstored]
        simp
      simp only [applyOperation, mergeInto, hstored]
      exact .refused rfl (if_neg hmissing)
    | some body =>
      have hmem : id ∈ m.documents address := by
        rw [Std.TreeMap.mem_iff_isSome_getElem?, hstored]
        simp
      simp only [applyOperation, mergeInto, hstored]
      refine .accepted (.inl rfl) (if_pos hmem) ?_ fun other hother => ?_
      · rw [documents_put_self, Documents.apply, hstored]
      · exact documents_put_of_ne hother m id _
  | delete id =>
    refine .accepted (.inl rfl) rfl ?_ fun other hother => ?_
    · simp [applyOperation, remove, setDocuments, Documents.apply]
    · simp [applyOperation, remove, setDocuments, hother]

/-- The item of an operation names its document. -/
lemma Takes.exists_item {item : BulkItem} (h : m.Takes address op item m') :
    ∃ id, (m.documents address).Uses op.id? id ∧
      item = ⟨some id, (op.refusal? address.typeName (m.documents address) id).map
        StoreFailure.message⟩ := by
  cases h with
  | refused hid hrefused =>
    refine ⟨_, .inl hid, ?_⟩
    rw [hrefused]
    rfl
  | accepted hid haccepted hdocuments hothers =>
    refine ⟨_, hid, ?_⟩
    rw [haccepted]
    rfl

/-- A refused operation changes nothing. -/
lemma Takes.eq_of_error {item : BulkItem} (h : m.Takes address op item m')
    (herror : item.error.isSome = true) : m' = m := by
  cases h with
  | refused => rfl
  | accepted => simp at herror

/-! ## Batches -/

lemma applyAll_cons (m : Memory) (address : Address) (op : BulkOperation)
    (rest : List BulkOperation) :
    m.applyAll address (op :: rest) =
      ((m.applyOperation address op).1 :: ((m.applyOperation address op).2.applyAll address rest).1,
        ((m.applyOperation address op).2.applyAll address rest).2) :=
  rfl

/-- A batch is carried out in two parts as it is in one. -/
lemma applyAll_append (m : Memory) (address : Address) (before after : List BulkOperation) :
    m.applyAll address (before ++ after) =
      ((m.applyAll address before).1 ++ ((m.applyAll address before).2.applyAll address after).1,
        ((m.applyAll address before).2.applyAll address after).2) := by
  induction before generalizing m with
  | nil => rfl
  | cons op rest ih => simp only [List.cons_append, applyAll, ih]

lemma answer_bulk (m : Memory) (address : Address) (ops : List BulkOperation) :
    client.answer address (.bulk ops) m =
      (.ok ⟨(m.applyAll address ops).1⟩, (m.applyAll address ops).2) :=
  rfl

lemma length_items_applyAll (m : Memory) (address : Address) (ops : List BulkOperation) :
    (m.applyAll address ops).1.length = ops.length := by
  induction ops generalizing m with
  | nil => rfl
  | cons op rest ih => simp [applyAll, ih]

/-- **What a batch leaves at its address is what its accepted operations make of it, in order.** -/
theorem documents_applyAll (m : Memory) (address : Address) (ops : List BulkOperation) :
    (m.applyAll address ops).2.documents address =
      (BulkResponse.accepted ⟨(m.applyAll address ops).1⟩ ops).foldl
        (fun ds e => ds.apply e.1 e.2) (m.documents address) := by
  induction ops generalizing m with
  | nil => rfl
  | cons op rest ih =>
    have htakes := m.takes_applyOperation address op
    rw [applyAll_cons]
    generalize (m.applyOperation address op).1 = item at htakes ⊢
    generalize (m.applyOperation address op).2 = between at htakes ⊢
    cases htakes with
    | refused hid hrefused => rw [BulkResponse.accepted_cons_of_error, ih]
    | accepted hid haccepted hdocuments hothers =>
      rw [BulkResponse.accepted_cons_of_success, List.foldl_cons, ih, hdocuments]

/-- A batch leaves every other address alone. -/
lemma documents_applyAll_of_ne {other : Address} (h : other ≠ address) (m : Memory)
    (ops : List BulkOperation) :
    (m.applyAll address ops).2.documents other = m.documents other := by
  induction ops generalizing m with
  | nil => rfl
  | cons op rest ih =>
    have htakes := m.takes_applyOperation address op
    rw [applyAll_cons, ih]
    generalize (m.applyOperation address op).1 = item at htakes
    generalize (m.applyOperation address op).2 = between at htakes ⊢
    cases htakes with
    | refused => rfl
    | accepted hid haccepted hdocuments hothers => exact hothers other h

/-- **A batch has an item for each of its operations, and what a refused one asks for is left out.**
An operation is refused exactly where, after the operations before it, it creates what is there or
updates what is not. -/
theorem bulk_isolates_failures (m : Memory) (address : Address) (ops : List BulkOperation) :
    ∃ (items : List BulkItem) (m' : Memory),
      client.answer address (.bulk ops) m = (.ok ⟨items⟩, m') ∧
      items.length = ops.length ∧
      m'.documents address = (BulkResponse.accepted ⟨items⟩ ops).foldl
        (fun ds e => ds.apply e.1 e.2) (m.documents address) ∧
      (∀ other, other ≠ address → m'.documents other = m.documents other) ∧
      ∀ before op after, ops = before ++ op :: after → ∃ done item rest between id,
        client.answer address (.bulk before) m = (.ok ⟨done⟩, between) ∧
        done.length = before.length ∧ items = done ++ item :: rest ∧
        item.id = some id ∧ (between.documents address).Uses op.id? id ∧
        (item.error.isSome = true ↔
          (∃ given source, op = .create given source ∧ id ∈ between.documents address) ∨
            ∃ partialSource, op = .update id partialSource ∧ id ∉ between.documents address) ∧
        (item.error.isSome = true →
          client.answer address (.bulk (before ++ [op])) m = (.ok ⟨done ++ [item]⟩, between) ∧
          client.answer address (.bulk (before ++ after)) m = (.ok ⟨done ++ rest⟩, m')) := by
  refine ⟨_, _, answer_bulk m address ops, length_items_applyAll m address ops,
    documents_applyAll m address ops, fun other hother => documents_applyAll_of_ne hother m ops, ?_⟩
  rintro before op after rfl
  let between := (m.applyAll address before).2
  have htakes : between.Takes address op (between.applyOperation address op).1
      (between.applyOperation address op).2 :=
    between.takes_applyOperation address op
  obtain ⟨id, huses, hitem⟩ := htakes.exists_item
  refine ⟨(m.applyAll address before).1, (between.applyOperation address op).1,
    ((between.applyOperation address op).2.applyAll address after).1, between, id,
    answer_bulk m address before, length_items_applyAll m address before, ?_, ?_, huses, ?_, ?_⟩
  · rw [applyAll_append, applyAll_cons]
  · rw [hitem]
  · have hnamed : ∀ named, op.id? = some named → named = id := by
      intro named hop
      obtain hid | ⟨hnone, -⟩ := huses
      · exact Option.some.inj (hop.symm.trans hid)
      · simp [hnone] at hop
    rw [← BulkOperation.isSome_refusal?_iff address.typeName hnamed, hitem,
      Option.isSome_map]
  · intro herror
    have hsame : (between.applyOperation address op).2 = between := htakes.eq_of_error herror
    constructor
    · rw [answer_bulk, applyAll_append, applyAll_cons, hsame]
      rfl
    · rw [answer_bulk, applyAll_append, applyAll_append, applyAll_cons, hsame]

/-- A document cannot be updated between its removal and its return; the rest of the batch is
carried out. -/
theorem bulk_isolates_failures_update_of_deleted :
    let address : Address := ⟨"app", "item"⟩
    let m := ({} : Memory).put address "a" [("n", .str "1")]
    let again : Record := [("n", .str "4")]
    let before : List BulkOperation := [.create (some "a") again, .delete "a"]
    let update : BulkOperation := .update "a" [("n", .str "3")]
    let after : List BulkOperation := [.create (some "a") again, .index none []]
    ∃ (items done : List BulkItem) (item : BulkItem) (rest : List BulkItem) (m' : Memory),
      client.answer address (.bulk (before ++ update :: after)) m = (.ok ⟨items⟩, m') ∧
      items.length = 5 ∧ items = done ++ item :: rest ∧ item.error.isSome = true ∧
      client.answer address (.bulk (before ++ after)) m = (.ok ⟨done ++ rest⟩, m') := by
  intro address m again before update after
  obtain ⟨items, m', hanswer, hlength, -, -, hparts⟩ :=
    bulk_isolates_failures m address (before ++ update :: after)
  obtain ⟨done, item, rest, between, id, hbefore, -, hitems, -, huses, herror, hisolated⟩ :=
    hparts before update after rfl
  have hid : "a" = id := by
    obtain hid | ⟨hnone, -⟩ := huses
    · exact Option.some.inj hid
    · cases hnone
  have hgone : "a" ∉ between.documents address := by
    have hbetween : (client.answer address (.bulk before) m).2 = between := by rw [hbefore]
    rw [← hbetween]
    decide
  have hrefused : item.error.isSome = true := by
    refine herror.2 (.inr ⟨[("n", .str "3")], ?_, ?_⟩)
    · rw [← hid]
    · rwa [← hid]
  exact ⟨items, done, item, rest, m', hanswer, hlength, hitems, hrefused, (hisolated hrefused).2⟩

end Memory

end CriteriaSearch
