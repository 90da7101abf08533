import CriteriaSearch.Proofs.ClauseReading
import CriteriaSearch.Proofs.EntryReading
import CriteriaSearch.Proofs.KeyOrder
import Mathlib.Data.List.Forall2

/-!
# Clauses with their keys in another order

A clause that says nothing twice matches the same documents however the keys of its JSON form are
ordered, at any depth (`Clause.readingsAgree_of_reordered`).  Where a map of modifiers says
something twice the last entry wins, so there the order does matter; `Clause.isUnambiguous` leaves
these out, and with them the modifiers that are left to the store, whose place decides whether they
are met.

The order shows in what is read: fields, combinators, modifiers and bounds keep it.  It does not
show in what that says, and two clauses *agree* when they say the same of every document.  Agreement
goes from modifiers to expressions (`Expression.agree_ofJson`), from the parts of an object to its
clause (`Clause.Parts.Agree.toClause`), and from members to combinators (`Clause.agree_lists`).
-/

namespace CriteriaSearch

/-! ## Clauses that say nothing twice -/

mutual

/-- Whether no map of modifiers sets a bound twice. -/
def Expression.setsBoundsOnce : Expression → Bool
  | .literal _ => true
  | .oneOf _ => true
  | .modifiers ms =>
    decide ((ms.filterMap Modifier.bound?).map Prod.fst).Nodup && Modifier.setBoundsOnce ms

/-- Whether no negated expression among modifiers sets a bound twice. -/
def Modifier.setBoundsOnce : List Modifier → Bool
  | [] => true
  | .not e :: rest => e.setsBoundsOnce && Modifier.setBoundsOnce rest
  | _ :: rest => Modifier.setBoundsOnce rest

end

mutual

/-- Whether no expression of a clause sets a bound twice. -/
def Clause.setsBoundsOnce : Clause → Bool
  | .fields fs => fs.all fun e => e.2.setsBoundsOnce
  | .and cs => setBoundsOnce cs
  | .or cs => setBoundsOnce cs
  | .all cs => setBoundsOnce cs

/-- Whether no clause sets a bound twice. -/
def Clause.setBoundsOnce : List Clause → Bool
  | [] => true
  | c :: rest => c.setsBoundsOnce && setBoundsOnce rest

end

/-- Whether an expression is plain and says nothing twice. -/
def Expression.isUnambiguous (e : Expression) : Bool :=
  e.isPlain && e.setsBoundsOnce

/-- Whether a modifier is not left to the store, and what it negates is unambiguous. -/
def Modifier.isUnambiguous : Modifier → Bool
  | .not e => e.isUnambiguous
  | .range _ _ => true
  | .text _ (.str _) => true
  | _ => false

/-- Whether a clause is plain and says nothing twice. -/
def Clause.isUnambiguous (c : Clause) : Bool :=
  c.isPlain && c.setsBoundsOnce

lemma Modifier.all_isUnambiguous (ms : List Modifier) :
    (Modifier.arePlain ms && Modifier.setBoundsOnce ms) = ms.all Modifier.isUnambiguous := by
  induction ms with
  | nil => rfl
  | cons m rest ih =>
    rw [List.all_cons, ← ih]
    cases m with
    | not e =>
      simp only [arePlain, setBoundsOnce, isUnambiguous, Expression.isUnambiguous]
      ac_rfl
    | range bound v => rfl
    | text how v => cases v <;> simp [arePlain, setBoundsOnce, isUnambiguous]
    | other key v => simp [arePlain, isUnambiguous]

/-- When a map of modifiers is unambiguous. -/
lemma Expression.isUnambiguous_modifiers_iff (ms : List Modifier) :
    (Expression.modifiers ms).isUnambiguous = true ↔
      (ms.filterMap Modifier.negated?).length ≤ 1 ∧ (ms.filterMap Modifier.pattern?).length ≤ 1 ∧
        ((ms.filterMap Modifier.bound?).map Prod.fst).Nodup ∧
          ms.all Modifier.isUnambiguous = true := by
  rw [← Modifier.all_isUnambiguous]
  simp only [isUnambiguous, isPlain, setsBoundsOnce, Bool.and_eq_true, decide_eq_true_eq]
  tauto

lemma Clause.all_isUnambiguous (cs : List Clause) :
    (arePlain cs && setBoundsOnce cs) = cs.all isUnambiguous := by
  induction cs with
  | nil => rfl
  | cons c rest ih =>
    rw [List.all_cons, ← ih, arePlain, setBoundsOnce, isUnambiguous]
    ac_rfl

lemma Clause.isUnambiguous_fields (fs : List (String × Expression)) :
    (fields fs).isUnambiguous = fs.all fun e => e.2.isUnambiguous := by
  rw [isUnambiguous, isPlain, setsBoundsOnce]
  induction fs with
  | nil => rfl
  | cons e rest ih =>
    rw [List.all_cons, List.all_cons, List.all_cons, ← ih, Expression.isUnambiguous]
    ac_rfl

/-! ## Expressions that agree -/

/-- Where the first expression is unambiguous, so is the second, and they say the same on every
field of every document. -/
def Expression.Agree (e f : Expression) : Prop :=
  e.isUnambiguous = true → f.isUnambiguous = true ∧
    ∀ schema id body field, e.isTrueOf schema id body field = f.isTrueOf schema id body field

/-- Under distinct bounds their order does not matter. -/
lemma Filter.lookup_eq_of_perm {bounds others : List (RangeBound × Json)} (h : bounds.Perm others)
    (hnodup : (bounds.map Prod.fst).Nodup) (b : RangeBound) :
    bounds.lookup b = others.lookup b := by
  have hnodup' : (others.map Prod.fst).Nodup := (h.map Prod.fst).nodup_iff.1 hnodup
  refine Option.ext fun v => ⟨fun hv => ?_, fun hv => ?_⟩
  · exact lookup_eq_some_of_mem hnodup' (h.subset (mem_of_lookup_eq_some hv))
  · exact lookup_eq_some_of_mem hnodup (h.symm.subset (mem_of_lookup_eq_some hv))

lemma withinBounds_eq_of_perm {bounds others : List (RangeBound × Json)} (h : bounds.Perm others)
    (hnodup : (bounds.map Prod.fst).Nodup) (schema : Schema) (field : String) :
    withinBounds schema field bounds = withinBounds schema field others := by
  have hreverse : bounds.reverse.Perm others.reverse :=
    (List.reverse_perm bounds).trans (h.trans (List.reverse_perm others).symm)
  have hnodup' : (bounds.reverse.map Prod.fst).Nodup := by
    rw [List.map_reverse, List.nodup_reverse]
    exact hnodup
  funext item
  simp only [withinBounds, Filter.lookup_eq_of_perm hreverse hnodup']

lemma Expression.agree_of_perm {ms ns : List Modifier} (h : ms.Perm ns) :
    Agree (.modifiers ms) (.modifiers ns) := by
  intro hms
  obtain ⟨hnegations, hpatterns, hbounds, hall⟩ := (isUnambiguous_modifiers_iff ms).1 hms
  have hnegated := h.filterMap Modifier.negated?
  have hpattern := h.filterMap Modifier.pattern?
  have hbound := h.filterMap Modifier.bound?
  refine ⟨(isUnambiguous_modifiers_iff ns).2 ⟨?_, ?_, ?_, ?_⟩, fun schema id body field => ?_⟩
  · rwa [← hnegated.length_eq]
  · rwa [← hpattern.length_eq]
  · exact (hbound.map Prod.fst).nodup_iff.1 hbounds
  · rwa [← h.all_eq]
  · rw [isTrueOf, isTrueOf, Modifier.refutedBy_eq, Modifier.refutedBy_eq, hnegated.all_eq,
      hpattern.all_eq, withinBounds_eq_of_perm hbound hbounds, hbound.isEmpty_eq]

/-- From one modifier to another that can stand in its place. -/
inductive Modifier.Agree : Modifier → Modifier → Prop
  | not {e f : Expression} (h : e.Agree f) : Agree (.not e) (.not f)
  | range (bound : RangeBound) {v w : Json}
    (h : ∀ (type : Option AttributeType) (u : Json),
      u.order? (v.coerce type) = u.order? (w.coerce type)) :
    Agree (.range bound v) (.range bound w)
  | ambiguous {m : Modifier} (h : m.isUnambiguous = false) (n : Modifier) : Agree m n

/-- A bound at another value that compares alike. -/
lemma withinBounds_append_cons (schema : Schema) (field : String) {v w : Json}
    (h : ∀ (type : Option AttributeType) (u : Json),
      u.order? (v.coerce type) = u.order? (w.coerce type))
    (before behind : List (RangeBound × Json)) (bound : RangeBound) :
    withinBounds schema field (before ++ (bound, v) :: behind) =
      withinBounds schema field (before ++ (bound, w) :: behind) := by
  have hholds (b : RangeBound) (item : Json) :
      b.holds item (schema.coerce field v) = b.holds item (schema.coerce field w) := by
    rw [RangeBound.holds, RangeBound.holds, Schema.coerce, Schema.coerce, h]
  funext item
  simp only [withinBounds, List.reverse_append, List.reverse_cons, List.append_assoc,
    List.singleton_append, List.lookup_append, Filter.lookup_cons]
  congr 1
  funext b
  cases behind.reverse.lookup b with
  | some _ => rfl
  | none =>
    by_cases hb : b = bound
    · simp [hb, hholds]
    · simp [hb]

lemma Expression.agree_of_modifier {m n : Modifier} (h : m.Agree n)
    (before behind : List Modifier) :
    Agree (.modifiers (before ++ m :: behind)) (.modifiers (before ++ n :: behind)) := by
  intro hms
  have hparts := (isUnambiguous_modifiers_iff _).1 hms
  rw [isUnambiguous_modifiers_iff]
  cases h with
  | @not e f h =>
    have he : e.isUnambiguous = true := by
      have hall := hparts.2.2.2
      simp only [List.all_append, List.all_cons, Bool.and_eq_true] at hall
      exact hall.2.1
    obtain ⟨hf, hsame⟩ := h he
    simp only [isTrueOf, Modifier.refutedBy_eq, List.filterMap_append, List.filterMap_cons,
      Modifier.negated?, Modifier.bound?, Modifier.pattern?, Modifier.isUnambiguous,
      List.all_append, List.all_cons, List.length_append, List.length_cons, he, hf] at hparts ⊢
    exact ⟨hparts, fun schema id body field => by rw [hsame]⟩
  | @range bound v w h =>
    simp only [isTrueOf, Modifier.refutedBy_eq, List.filterMap_append, List.filterMap_cons,
      Modifier.negated?, Modifier.bound?, Modifier.pattern?, Modifier.isUnambiguous,
      List.all_append, List.all_cons, List.map_append, List.map_cons] at hparts ⊢
    have hset : ∀ set, (before.filterMap Modifier.bound? ++ set ::
        behind.filterMap Modifier.bound?).isEmpty = false := by simp
    exact ⟨hparts, fun schema id body field => by
      rw [withinBounds_append_cons schema field h, hset, hset]⟩
  | ambiguous h n =>
    obtain ⟨-, -, -, hall⟩ := hparts
    simp [h] at hall

lemma Json.Exchange.isUnambiguous_text {v w : Json} (h : Exchange v w) (how : TextMatch) :
    (Modifier.text how v).isUnambiguous = false := by
  cases h <;> rfl

lemma Modifier.agree_ofEntry {v w : Json} (h : v.Exchange w)
    (ih : (Expression.ofJson v).Agree (Expression.ofJson w)) (key : String) :
    (ofEntry (key, v)).Agree (ofEntry (key, w)) := by
  unfold ofEntry
  cases ModifierKind.ofKey key with
  | not => exact .not ih
  | range bound => exact .range bound fun type u => (h.coerce type).order?_eq u
  | text how => exact .ambiguous (h.isUnambiguous_text how) _
  | other => exact .ambiguous rfl _

lemma Expression.agree_oneOf {v w : Json} (h : v.Exchange w) (before behind : List Json) :
    Agree (.oneOf (before ++ v :: behind)) (.oneOf (before ++ w :: behind)) := by
  refine fun _ => ⟨rfl, fun schema id body field => ?_⟩
  have hcoerced := h.coerce (schema.declaredType? field)
  have halike : ∀ u : Json, u.alike (schema.coerce field v) = u.alike (schema.coerce field w) :=
    hcoerced.alike_eq
  have hid : (schema.coerce field v).idText? = (schema.coerce field w).idText? :=
    hcoerced.idText?_eq
  simp only [isTrueOf, List.map_append, List.map_cons, List.any_append, List.any_cons, halike, hid]

/-- **The reading of an expression agrees with the reading of the value after an exchange.** -/
theorem Expression.agree_ofJson {v w : Json} (h : v.Exchange w) :
    (Expression.ofJson v).Agree (Expression.ofJson w) := by
  induction h with
  | entries hkeys before v w behind =>
    rw [ofJson, ofJson, Modifier.ofEntries_eq_map, Modifier.ofEntries_eq_map]
    exact agree_of_perm (((List.Perm.swap _ _ behind).append_left before).map _)
  | underKey h before key behind ih =>
    rw [ofJson, ofJson, Modifier.ofEntries_eq_map, Modifier.ofEntries_eq_map, List.map_append,
      List.map_append, List.map_cons, List.map_cons]
    exact agree_of_modifier (Modifier.agree_ofEntry h ih key) _ _
  | item h before behind _ => exact agree_oneOf h before behind

namespace Clause

/-! ## Clauses that agree -/

/-- Where the first clause is unambiguous, so is the second, and they say the same of every
document. -/
def Agree (c d : Clause) : Prop :=
  c.isUnambiguous = true → d.isUnambiguous = true ∧
    ∀ schema id body, c.isTrueOf schema id body = d.isTrueOf schema id body

namespace Parts

/-- Whether all fields and all combinators pass. -/
def all (p : Parts) (field : String × Expression → Bool) (combinator : Clause → Bool) : Bool :=
  p.fields.all field && p.combinators.all combinator

@[simp] lemma all_append (a b : Parts) (field : String × Expression → Bool)
    (combinator : Clause → Bool) :
    (a.append b).all field combinator = (a.all field combinator && b.all field combinator) := by
  simp only [all, append, List.all_append]
  ac_rfl

/-- Whether the parts of an object are unambiguous. -/
def isUnambiguous (p : Parts) : Bool :=
  p.all (fun e => e.2.isUnambiguous) Clause.isUnambiguous

/-- Whether the parts of an object are true of a document. -/
def isTrueOf (schema : Schema) (id : String) (body : Record) (p : Parts) : Bool :=
  p.all (fun e => e.2.isTrueOf schema id body e.1) (Clause.isTrueOf schema id body)

/-- What is decided part by part is decided so of the clause of the parts. -/
lemma all_toClause {field : String × Expression → Bool} {clause : Clause → Bool}
    (hfields : ∀ fs, clause (.fields fs) = fs.all field)
    (hall : ∀ cs, clause (.all cs) = cs.all clause) (p : Parts) :
    clause p.toClause = p.all field clause := by
  obtain ⟨fs, cs⟩ := p
  match fs, cs with
  | fs, [] => simp [toClause, all, hfields]
  | [], [c] => simp [toClause, all]
  | [], c :: d :: rest => simp [toClause, all, hall]
  | f :: fs, c :: rest => simp [toClause, all, hfields, hall]

lemma isUnambiguous_toClause (p : Parts) : p.toClause.isUnambiguous = p.isUnambiguous :=
  all_toClause isUnambiguous_fields all_isUnambiguous p

lemma isTrueOf_toClause (schema : Schema) (id : String) (body : Record) (p : Parts) :
    p.toClause.isTrueOf schema id body = p.isTrueOf schema id body :=
  all_toClause (fun fs => by rw [Clause.isTrueOf])
    (fun cs => by rw [Clause.isTrueOf, Clause.allTrueOf_eq]) p

/-- Where the first parts are unambiguous, so are the second, and they say the same of every
document. -/
def Agree (p q : Parts) : Prop :=
  p.isUnambiguous = true → q.isUnambiguous = true ∧
    ∀ schema id body, p.isTrueOf schema id body = q.isTrueOf schema id body

variable {p q : Parts}

lemma Agree.toClause (h : p.Agree q) : p.toClause.Agree q.toClause := by
  intro hp
  rw [isUnambiguous_toClause] at hp
  obtain ⟨hq, hsame⟩ := h hp
  refine ⟨by rwa [isUnambiguous_toClause], fun schema id body => ?_⟩
  rw [isTrueOf_toClause, isTrueOf_toClause, hsame]

/-- Parts that pass the same checks agree. -/
lemma agree_of_all_eq (h : ∀ field combinator, p.all field combinator = q.all field combinator) :
    p.Agree q :=
  fun hp => ⟨(h _ _).symm.trans hp, fun _ _ _ => h _ _⟩

lemma Agree.refl (p : Parts) : p.Agree p :=
  fun h => ⟨h, fun _ _ _ => rfl⟩

lemma Agree.trans {r : Parts} (h : p.Agree q) (h' : q.Agree r) : p.Agree r := by
  intro hp
  obtain ⟨hq, hpq⟩ := h hp
  obtain ⟨hr, hqr⟩ := h' hq
  exact ⟨hr, fun schema id body => (hpq schema id body).trans (hqr schema id body)⟩

lemma Agree.append_left (a : Parts) (h : p.Agree q) : (a.append p).Agree (a.append q) := by
  intro hp
  rw [isUnambiguous, all_append, Bool.and_eq_true] at hp
  obtain ⟨hq, hsame⟩ := h hp.2
  refine ⟨?_, fun schema id body => ?_⟩
  · rw [isUnambiguous, all_append, Bool.and_eq_true]
    exact ⟨hp.1, hq⟩
  · have hall := hsame schema id body
    rw [isTrueOf, isTrueOf] at hall
    rw [isTrueOf, isTrueOf, all_append, all_append, hall]

lemma Agree.append_right (a : Parts) (h : p.Agree q) : (p.append a).Agree (q.append a) := by
  have hcomm : ∀ b : Parts, (b.append a).Agree (a.append b) := fun b =>
    agree_of_all_eq fun _ _ => by rw [all_append, all_append, Bool.and_comm]
  have hcomm' : ∀ b : Parts, (a.append b).Agree (b.append a) := fun b =>
    agree_of_all_eq fun _ _ => by rw [all_append, all_append, Bool.and_comm]
  exact (hcomm p).trans ((h.append_left a).trans (hcomm' q))

lemma agree_append_left_comm (a b c : Parts) :
    (a.append (b.append c)).Agree (b.append (a.append c)) :=
  agree_of_all_eq fun _ _ => by simp only [all_append, Bool.and_left_comm]

end Parts

/-! ## Reading -/

/-- Entries whose reading agrees with the reading of others. -/
def EntriesAgree (entries others : Record) : Prop :=
  ∀ p, partsOf entries = .ok p → ∃ q, partsOf others = .ok q ∧ p.Agree q

lemma EntriesAgree.append_left (before : Record) {entries others : Record}
    (h : EntriesAgree entries others) : EntriesAgree (before ++ entries) (before ++ others) := by
  induction before with
  | nil => exact h
  | cons entry rest ih =>
    intro p hp
    obtain ⟨here, behind, hhere, hbehind, rfl⟩ := partsOf_cons_eq_ok_iff.1 hp
    obtain ⟨behind', hbehind', hagree⟩ := ih behind hbehind
    exact ⟨_, partsOf_cons_eq_ok_iff.2 ⟨here, behind', hhere, hbehind', rfl⟩,
      hagree.append_left here⟩

lemma entriesAgree_swap (e f : String × Json) (behind : Record) :
    EntriesAgree (e :: f :: behind) (f :: e :: behind) := by
  intro p hp
  obtain ⟨a, _, ha, hrest, rfl⟩ := partsOf_cons_eq_ok_iff.1 hp
  obtain ⟨b, others, hb, hothers, rfl⟩ := partsOf_cons_eq_ok_iff.1 hrest
  have hfirst := partsOf_cons_eq_ok_iff.2 ⟨a, others, ha, hothers, rfl⟩
  exact ⟨_, partsOf_cons_eq_ok_iff.2 ⟨b, _, hb, hfirst, rfl⟩,
    Parts.agree_append_left_comm a b others⟩

lemma entriesAgree_cons {e f : String × Json} (behind : Record)
    (h : ∀ here, partOf e = .ok here → ∃ here', partOf f = .ok here' ∧ here.Agree here') :
    EntriesAgree (e :: behind) (f :: behind) := by
  intro p hp
  obtain ⟨here, others, hhere, hothers, rfl⟩ := partsOf_cons_eq_ok_iff.1 hp
  obtain ⟨here', hhere', hagree⟩ := h here hhere
  exact ⟨_, partsOf_cons_eq_ok_iff.2 ⟨here', others, hhere', hothers, rfl⟩,
    hagree.append_right others⟩

/-- Values that are read to clauses that agree. -/
def ReadingsAgree (v w : Json) : Prop :=
  ∀ c, ofJson? v = .ok c → ∃ d, ofJson? w = .ok d ∧ c.Agree d

lemma EntriesAgree.readingsAgree {entries others : Record}
    (h : EntriesAgree entries others) : ReadingsAgree (.obj entries) (.obj others) := by
  intro c hc
  obtain ⟨p, hp, rfl⟩ := ofJson?_obj_eq_ok_iff.1 hc
  obtain ⟨q, hq, hagree⟩ := h p hp
  exact ⟨q.toClause, ofJson?_obj_eq_ok_iff.2 ⟨q, hq, rfl⟩, hagree.toClause⟩

lemma Agree.refl (c : Clause) : c.Agree c :=
  fun h => ⟨h, fun _ _ _ => rfl⟩

lemma Agree.trans {c d e : Clause} (h : c.Agree d) (h' : d.Agree e) : c.Agree e := by
  intro hc
  obtain ⟨hd, hcd⟩ := h hc
  obtain ⟨he, hde⟩ := h' hd
  exact ⟨he, fun schema id body => (hcd schema id body).trans (hde schema id body)⟩

/-- Lists of clauses that agree one by one say the same, taken together or by choice. -/
lemma agree_lists {cs ds : List Clause} (h : List.Forall₂ Agree cs ds) :
    (Clause.and cs).Agree (.and ds) ∧ (Clause.or cs).Agree (.or ds) := by
  have hlist : cs.all isUnambiguous = true → ds.all isUnambiguous = true ∧ ∀ schema id body,
      cs.all (isTrueOf schema id body) = ds.all (isTrueOf schema id body) ∧
        cs.any (isTrueOf schema id body) = ds.any (isTrueOf schema id body) := by
    induction h with
    | nil => exact fun _ => ⟨rfl, fun _ _ _ => ⟨rfl, rfl⟩⟩
    | cons h _ ih =>
      simp only [List.all_cons, List.any_cons, Bool.and_eq_true]
      rintro ⟨hc, hcs⟩
      obtain ⟨hd, hsame⟩ := h hc
      obtain ⟨hds, hrest⟩ := ih hcs
      refine ⟨⟨hd, hds⟩, fun schema id body => ?_⟩
      rw [hsame, (hrest schema id body).1, (hrest schema id body).2]
      exact ⟨rfl, rfl⟩
  constructor
  · intro hcs
    obtain ⟨hds, hsame⟩ := hlist ((all_isUnambiguous cs).symm.trans hcs)
    refine ⟨(all_isUnambiguous ds).trans hds, fun schema id body => ?_⟩
    rw [isTrueOf, isTrueOf, allTrueOf_eq, allTrueOf_eq, (hsame schema id body).1]
  · intro hcs
    obtain ⟨hds, hsame⟩ := hlist ((all_isUnambiguous cs).symm.trans hcs)
    refine ⟨(all_isUnambiguous ds).trans hds, fun schema id body => ?_⟩
    rw [isTrueOf, isTrueOf, someTrueOf_eq, someTrueOf_eq, (hsame schema id body).2]

lemma ReadingsAgree.ofItems {v w : Json} (h : ReadingsAgree v w) (before behind : List Json)
    {cs : List Clause} (hcs : ofItems (before ++ v :: behind) = .ok cs) :
    ∃ ds, ofItems (before ++ w :: behind) = .ok ds ∧ List.Forall₂ Agree cs ds := by
  have hrefl : ∀ l : List Clause, List.Forall₂ Agree l l := fun l =>
    List.forall₂_same.2 fun c _ => Agree.refl c
  induction before generalizing cs with
  | nil =>
    obtain ⟨c, others, hc, hothers, rfl⟩ := ofItems_cons_eq_ok_iff.1 hcs
    obtain ⟨d, hd, hagree⟩ := h c hc
    exact ⟨d :: others, ofItems_cons_eq_ok_iff.2 ⟨d, others, hd, hothers, rfl⟩,
      .cons hagree (hrefl others)⟩
  | cons u rest ih =>
    obtain ⟨c, others, hc, hothers, rfl⟩ := ofItems_cons_eq_ok_iff.1 hcs
    obtain ⟨others', hothers', hagree⟩ := ih hothers
    exact ⟨c :: others', ofItems_cons_eq_ok_iff.2 ⟨c, others', hc, hothers', rfl⟩,
      .cons (.refl c) hagree⟩

/-! ## An exchange of keys -/

lemma Parts.agree_field {e f : Expression} (h : e.Agree f) (field : String) :
    Parts.Agree { fields := [(field, e)] } { fields := [(field, f)] } := by
  simpa [Parts.Agree, Parts.isUnambiguous, Parts.isTrueOf, Parts.all] using
    fun he => ⟨(h he).1, fun schema id body => (h he).2 schema id body field⟩

lemma Parts.agree_combinator {c d : Clause} (h : c.Agree d) :
    Parts.Agree { combinators := [c] } { combinators := [d] } := by
  simpa [Parts.Agree, Parts.isUnambiguous, Parts.isTrueOf, Parts.all, Clause.Agree] using h

/-- The patterns of a `like` entry may change places; one that holds an object is left to the
store. -/
lemma Parts.agree_likeFields {patterns others : Record}
    (h : (Json.obj patterns).Exchange (.obj others)) :
    Parts.Agree { fields := likeFields patterns } { fields := likeFields others } := by
  cases h with
  | @entries k l hkeys before v w behind =>
    have hperm := (List.Perm.swap (l, w) (k, v) behind).append_left before
    exact Parts.agree_of_all_eq fun field combinator => by
      rw [Parts.all, Parts.all, likeFields, likeFields, (hperm.map _).all_eq]
  | underKey h before key behind =>
    intro hlike
    have hnot := h.isUnambiguous_text .like
    have hfields := (Bool.and_eq_true_iff.1 hlike).1
    simp only [likeFields, List.map_append, List.map_cons, List.all_append, List.all_cons,
      Bool.and_eq_true] at hfields
    have hall := ((Expression.isUnambiguous_modifiers_iff _).1 hfields.2.1).2.2.2
    simp [hnot] at hall

/-- What an entry says before and after an exchange inside its value. -/
lemma exists_partOf {v w : Json} (h : v.Exchange w)
    (hitems : ∀ items others, v = .arr items → w = .arr others → ∀ cs, ofItems items = .ok cs →
      ∃ ds, ofItems others = .ok ds ∧ List.Forall₂ Agree cs ds)
    {key : String} {here : Parts} (hhere : partOf (key, v) = .ok here) :
    ∃ here', partOf (key, w) = .ok here' ∧ here.Agree here' := by
  unfold partOf at hhere ⊢
  dsimp only at hhere ⊢
  split at hhere
  · next hcombinator =>
    rw [if_pos hcombinator]
    cases h with
    | entries => exact ⟨here, hhere, .refl here⟩
    | underKey => exact ⟨here, hhere, .refl here⟩
    | item h before behind =>
      obtain ⟨cs, hcs, hhere⟩ := bind_eq_ok_iff.1 hhere
      obtain rfl := pure_eq_ok_iff.1 hhere
      obtain ⟨ds, hds, hagree⟩ := hitems _ _ rfl rfl cs hcs
      refine ⟨_, bind_eq_ok_iff.2 ⟨ds, hds, rfl⟩, Parts.agree_combinator ?_⟩
      split
      · exact (agree_lists hagree).1
      · exact (agree_lists hagree).2
  · next hcombinator =>
    rw [if_neg hcombinator]
    split at hhere
    · next hlike =>
      rw [if_pos hlike]
      cases h with
      | entries hkeys before v w behind =>
        obtain rfl := pure_eq_ok_iff.1 hhere
        exact ⟨_, rfl, Parts.agree_likeFields (.entries hkeys before v w behind)⟩
      | underKey h before key behind =>
        obtain rfl := pure_eq_ok_iff.1 hhere
        exact ⟨_, rfl, Parts.agree_likeFields (.underKey h before key behind)⟩
      | item => cases hhere
    · next hlike =>
      obtain rfl := pure_eq_ok_iff.1 hhere
      rw [if_neg hlike]
      exact ⟨_, rfl, Parts.agree_field (Expression.agree_ofJson h) key⟩

/-- **What is read agrees with what is read after an exchange of keys.** -/
theorem readingsAgree_of_exchange {v w : Json} (h : v.Exchange w) : ReadingsAgree v w := by
  -- A value is met as a clause and as the value of an entry, so both go through the induction.
  suffices ReadingsAgree v w ∧ ∀ key here, partOf (key, v) = .ok here →
      ∃ here', partOf (key, w) = .ok here' ∧ here.Agree here' from this.1
  induction h with
  | entries hkeys before v w behind =>
    refine ⟨((entriesAgree_swap _ _ behind).append_left before).readingsAgree, fun key here => ?_⟩
    exact exists_partOf (.entries hkeys before v w behind) (by rintro _ _ ⟨⟩)
  | underKey h before key behind ih =>
    have hentry := entriesAgree_cons behind (ih.2 key)
    refine ⟨(hentry.append_left before).readingsAgree, fun key' here => ?_⟩
    exact exists_partOf (.underKey h before key behind) (by rintro _ _ ⟨⟩)
  | item h before behind ih =>
    refine ⟨fun c hc => by simp [ofJson?] at hc, fun key here => ?_⟩
    refine exists_partOf (.item h before behind) ?_
    rintro _ _ ⟨⟩ ⟨⟩ cs hcs
    exact ih.1.ofItems before behind hcs

lemma ReadingsAgree.trans {u v w : Json} (h : ReadingsAgree u v) (h' : ReadingsAgree v w) :
    ReadingsAgree u w := by
  intro c hc
  obtain ⟨d, hd, hcd⟩ := h c hc
  obtain ⟨e, he, hde⟩ := h' d hd
  exact ⟨e, he, hcd.trans hde⟩

/-- **What is read agrees with what is read of the same value with its keys in another order.** -/
theorem readingsAgree_of_reordered {v w : Json} (h : v.Reordered w) : ReadingsAgree v w := by
  induction h with
  | refl => exact fun c hc => ⟨c, hc, .refl c⟩
  | tail _ h ih => exact ih.trans (readingsAgree_of_exchange h)

/-- Clauses that agree are compiled to filters with the same answer for every document, if any. -/
lemma Agree.exists_answersOrRefuses {c d : Clause} (h : c.Agree d) (hc : c.isUnambiguous = true)
    (library : PatternLibrary) (schema : Schema) (typeName id : String) (body : Record) :
    ∃ answer : Bool,
      (Filter.ofWhere schema typeName (some c)).AnswersOrRefuses library id body answer ∧
      (Filter.ofWhere schema typeName (some d)).AnswersOrRefuses library id body answer := by
  have hplain : ∀ {e : Clause}, e.isUnambiguous = true → e.isPlain = true := fun he =>
    (Bool.and_eq_true_iff.1 he).1
  obtain ⟨hd, hsame⟩ := h hc
  refine ⟨c.isTrueOf schema id body, Filter.answersOrRefuses_of_unlimited ?_,
    Filter.answersOrRefuses_of_unlimited ?_⟩
  · rw [Filter.ofWhere_some, Filter.holds_ofClause c (hplain hc)]
  · rw [Filter.ofWhere_some, Filter.holds_ofClause d (hplain hd), hsame]

end Clause

/-- **The order of keys does not change what a query matches.**  A clause that says nothing twice is
read with its keys in another order too, at any depth, and the two filters have one answer for every
document, except that deciding either of them may get to a pattern that is refused; and criteria are
read to the same criteria, or not at all, in every order of their keys. -/
theorem reading_ignores_key_order :
    (∀ (v w : Json) (c : Clause), v.Reordered w → Clause.ofJson? v = .ok c →
      c.isUnambiguous = true → ∃ d, Clause.ofJson? w = .ok d ∧
        ∀ library schema typeName id body, ∃ answer : Bool,
          (Filter.ofWhere schema typeName (some c)).AnswersOrRefuses library id body answer ∧
          (Filter.ofWhere schema typeName (some d)).AnswersOrRefuses library id body answer) ∧
    ∀ (entries others : Record) (criteria : Criteria), entries.Perm others → entries.DistinctKeys →
      (Criteria.ofJson? (.obj entries) = .ok criteria ↔
        Criteria.ofJson? (.obj others) = .ok criteria) := by
  refine ⟨fun v w c h hread hc => ?_, fun entries others criteria h hkeys => ?_⟩
  · obtain ⟨d, hd, hagree⟩ := Clause.readingsAgree_of_reordered h c hread
    exact ⟨d, hd, hagree.exists_answersOrRefuses hc⟩
  · exact Criteria.ofJson?_eq_ok_iff_of_perm h hkeys criteria

/-- Keys in another order at the top, in a map of modifiers and in the map it negates: the bounds
are compiled in another order, and so are the conditions. -/
theorem reading_ignores_key_order_nested :
    let title : Json := .obj [("contains", .str "x")]
    let within : Record := [(">", .num (.int 1)), ("<", .num (.int 5))]
    let n : Record := [("not", .obj within), (">=", .num (.int 0))]
    let n' : Record := [(">=", .num (.int 0)), ("not", .obj within.reverse)]
    let either (n : Record) : Json := .arr [.obj [("n", .obj n)], .obj [("id", .str "z")]]
    let v : Json := .obj [("or", either n), ("title", title)]
    let w : Json := .obj [("title", title), ("or", either n')]
    let body : Record := [("n", .num (.int 7)), ("title", .str "xy")]
    v.Reordered w ∧
      (∃ c, Clause.ofJson? v = .ok c ∧ c.isUnambiguous = true ∧
        ∃ d, Clause.ofJson? w = .ok d ∧
          (Filter.ofWhere {} "item" (some c)).holds .unlimited "a" body = .ok true ∧
          (Filter.ofWhere {} "item" (some d)).holds .unlimited "a" body = .ok true) ∧
      ∀ criteria, Criteria.ofJson? (.obj [("where", v), ("limit", .num (.int 2))]) = .ok criteria ↔
        Criteria.ofJson? (.obj [("limit", .num (.int 2)), ("where", v)]) = .ok criteria := by
  intro title within n n' either v w body
  have hwithin : Json.Reordered (.obj within) (.obj within.reverse) :=
    Json.reordered_of_perm within.reverse_perm.symm (by decide)
  have hn : Json.Reordered (.obj n) (.obj n') :=
    (hwithin.underKey [] "not" [(">=", .num (.int 0))]).trans
      (Json.reordered_of_perm (.swap _ _ []) (by decide))
  have heither : Json.Reordered (either n) (either n') :=
    (hn.underKey [] "n" []).item [] [.obj [("id", .str "z")]]
  have hvw : v.Reordered w :=
    (heither.underKey [] "or" [("title", title)]).trans
      (Json.reordered_of_perm (.swap _ _ []) (by decide))
  obtain ⟨hclauses, hcriteria⟩ := reading_ignores_key_order
  let either : Clause := .or [.fields [("n", .modifiers [
      .not (.modifiers [.range .gt (.num (.int 1)), .range .lt (.num (.int 5))]),
      .range .gte (.num (.int 0))])], .fields [("id", .literal (.str "z"))]]
  let c : Clause := .all [.fields [("title", .modifiers [.text .contains (.str "x")])], either]
  have hread : Clause.ofJson? v = .ok c := by
    rfl
  have hunambiguous : c.isUnambiguous = true := by
    rfl
  have hplain : c.isPlain = true := (Bool.and_eq_true_iff.1 hunambiguous).1
  have hheld : (Filter.ofWhere {} "item" (some c)).holds .unlimited "a" body = .ok true := by
    rw [Filter.ofWhere_some, Filter.holds_ofClause c hplain]
    exact congrArg Except.ok (by decide +kernel)
  obtain ⟨d, hd, hsame⟩ := hclauses v w c hvw hread hunambiguous
  obtain ⟨answer, hanswer, hanswer'⟩ := hsame .unlimited {} "item" "a" body
  obtain rfl : true = answer := Except.ok.inj (hheld.symm.trans hanswer.holds_unlimited)
  exact ⟨hvw, ⟨c, hread, hunambiguous, d, hd, hheld, hanswer'.holds_unlimited⟩,
    fun criteria => hcriteria _ _ criteria (.swap _ _ []) (by decide)⟩

/-- A condition that does not hold keeps a pattern that is too large from being compiled only where
it is in front of it. -/
lemma exists_readings_of_long {limit : Nat} {s : String} (h : limit < s.toList.length) :
    let n : String × Json := ("n", .num (.int 1))
    let t : String × Json := ("t", .obj [("contains", .str s)])
    let body : Record := [("n", .num (.int 2)), ("t", .str "x")]
    Json.Reordered (.obj [n, t]) (.obj [t, n]) ∧
      ∃ c d, Clause.ofJson? (.obj [n, t]) = .ok c ∧ Clause.ofJson? (.obj [t, n]) = .ok d ∧
        c.isUnambiguous = true ∧
        (Filter.ofWhere {} "item" (some c)).holds (.bounded limit) "a" body = .ok false ∧
        (Filter.ofWhere {} "item" (some d)).holds (.bounded limit) "a" body =
          .error (.patternRefused PatternLibrary.sizeReason) := by
  intro n t body
  let equal : String × Expression := ("n", .literal (.num (.int 1)))
  let long : String × Expression := ("t", .modifiers [.text .contains (.str s)])
  have hunequal : (Filter.ofExpression {} "item" "n" equal.2).holds (.bounded limit) "a" body =
      .ok false := by
    rw [Filter.ofExpression, Filter.holds_ofLiteral]
    exact congrArg Except.ok (by decide +kernel)
  have hrefused : (Filter.ofExpression {} "item" "t" long.2).holds (.bounded limit) "a" body =
      .error (.patternRefused PatternLibrary.sizeReason) :=
    Filter.holds_regexp_of_refused (Pattern.refusal?_contains h)
  refine ⟨Json.reordered_of_perm (.swap _ _ []) ?_, .fields [equal, long], .fields [long, equal],
    rfl, rfl, rfl, ?_, ?_⟩
  · show ["n", "t"].Nodup
    decide
  · rw [Filter.ofWhere_some, Filter.ofClause, Filter.holds_all, List.map_cons, Filter.allHold,
      hunequal]
    rfl
  · rw [Filter.ofWhere_some, Filter.ofClause, Filter.holds_all, List.map_cons, Filter.allHold,
      hrefused]
    rfl

/-- So the order decides whether there is an answer. -/
theorem reading_depends_on_key_order :
    let n : String × Json := ("n", .num (.int 1))
    let t : String × Json :=
      ("t", .obj [("contains", .str (String.ofList (List.replicate 200000 'k')))])
    let body : Record := [("n", .num (.int 2)), ("t", .str "x")]
    Json.Reordered (.obj [n, t]) (.obj [t, n]) ∧
      ∃ c d, Clause.ofJson? (.obj [n, t]) = .ok c ∧ Clause.ofJson? (.obj [t, n]) = .ok d ∧
        c.isUnambiguous = true ∧
        (Filter.ofWhere {} "item" (some c)).holds (.bounded 190000) "a" body = .ok false ∧
        (Filter.ofWhere {} "item" (some d)).holds (.bounded 190000) "a" body =
          .error (.patternRefused PatternLibrary.sizeReason) := by
  apply exists_readings_of_long
  rw [String.toList_ofList, List.length_replicate]
  decide

end CriteriaSearch
