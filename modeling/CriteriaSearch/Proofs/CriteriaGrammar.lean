import CriteriaSearch.Proofs.EntryReading
import CriteriaSearch.Proofs.Induction

/-!
# The grammar of criteria

Which values criteria can be read from (`Json.IsCriteria`), said of the values alone: what each key
that criteria know has to hold, and of a where-clause (`Json.IsClause`) that every list under a
combinator holds clauses again and that patterns come as an object.

What the grammar leaves out is a `Json.CriteriaFault`, one for each way of being wrong, at any depth
of combinators, with the error that stands for it.  Readers judge a value: they come to a success
within the grammar or to the error of a fault (`Judges`), and as no value has both
(`Json.CriteriaFault.not_isCriteria`), the accepted values are those of the grammar.
-/

namespace CriteriaSearch

/-- Whether a text is the word `like`, each of its letters small or capital. -/
def Text.SpellsLike (key : String) : Prop :=
  List.Forall₂ (fun c small => c = small ∨ c = small.toUpper) key.toList ['l', 'i', 'k', 'e']

/-- The keys of criteria that ask for a statistic. -/
def Metric.keys : List String :=
  ["sum", "average", "min", "max"]

namespace Json

/-! ## The grammar -/

/-- Whether a value is a where-clause. -/
inductive IsClause : Json → Prop
  | obj {entries : Record}
    (hmembers : ∀ key items, (key, Json.arr items) ∈ entries → key = "and" ∨ key = "or" →
      ∀ v ∈ items, IsClause v)
    (hlike : ∀ key v, (key, v) ∈ entries → Text.SpellsLike key → ∃ patterns, v = .obj patterns) :
    IsClause (.obj entries)

/-- Whether criteria can hold a value under a key.  Of a key that is none of those named here
nothing is asked. -/
structure FitsUnder (key : String) (v : Json) : Prop where
  clause : key = "where" → v = .null ∨ v.IsClause
  sort : key = "sort" → v = .null ∨ ∃ entries, v = .obj entries
  window : key = "limit" ∨ key = "skip" → v = .null ∨ ∃ n < 0x10000000000000000, v = .nat n
  statistic : key ∈ Metric.keys → ∀ items, v = .arr items → ∀ item ∈ items, ∃ s, item = .str s

/-- Whether a value is criteria: null, or an object whose values fit under their keys. -/
inductive IsCriteria : Json → Prop
  | null : IsCriteria .null
  | obj {entries : Record} (h : ∀ e ∈ entries, e.2.FitsUnder e.1) : IsCriteria (.obj entries)

/-! ## What the grammar leaves out -/

/-- What is wrong with a where-clause. -/
inductive ClauseFault : Json → CompilationError → Prop
  | notObject {v : Json} (h : ∀ entries, v ≠ .obj entries) : ClauseFault v (.clauseNotObject v)
  | like {entries : Record} {key : String} {v : Json} (hmem : (key, v) ∈ entries)
    (hkey : Text.SpellsLike key) (h : ∀ patterns, v ≠ .obj patterns) :
    ClauseFault (.obj entries) .likeNotObject
  | member {entries : Record} {key : String} {items : List Json} {v : Json}
    {cause : CompilationError} (hmem : (key, .arr items) ∈ entries)
    (hkey : key = "and" ∨ key = "or") (hv : v ∈ items) (h : ClauseFault v cause) :
    ClauseFault (.obj entries) cause

/-- What is wrong with the value of a key of criteria. -/
inductive EntryFault : String → Json → CompilationError → Prop
  | clause {v : Json} {cause : CompilationError} (hnull : v ≠ .null) (h : v.ClauseFault cause) :
    EntryFault "where" v cause
  | sort {v : Json} (hnull : v ≠ .null) (h : ∀ entries, v ≠ .obj entries) :
    EntryFault "sort" v (.sortNotObject v)
  | window {key : String} {v : Json} (hkey : key = "limit" ∨ key = "skip") (hnull : v ≠ .null)
    (h : ∀ n < 0x10000000000000000, v ≠ .nat n) : EntryFault key v (.windowNotUnsigned key v)
  | statistic {key : String} {items : List Json} {item : Json} (hkey : key ∈ Metric.keys)
    (hmem : item ∈ items) (h : ∀ s, item ≠ .str s) :
    EntryFault key (.arr items) (.notFieldName key item)

/-- What is wrong with criteria. -/
inductive CriteriaFault : Json → CompilationError → Prop
  | notObject {v : Json} (hnull : v ≠ .null) (h : ∀ entries, v ≠ .obj entries) :
    CriteriaFault v (.criteriaNotObject v)
  | entry {entries : Record} {key : String} {v : Json} {cause : CompilationError}
    (hmem : (key, v) ∈ entries) (h : EntryFault key v cause) : CriteriaFault (.obj entries) cause

lemma ClauseFault.not_isClause {v : Json} {cause : CompilationError} (h : v.ClauseFault cause) :
    ¬ v.IsClause := by
  induction h with
  | notObject h =>
    rintro ⟨-, -⟩
    exact h _ rfl
  | like hmem hkey h =>
    rintro ⟨-, hlike⟩
    obtain ⟨patterns, hv⟩ := hlike _ _ hmem hkey
    exact h patterns hv
  | member hmem hkey hv _ ih =>
    rintro ⟨hmembers, -⟩
    exact ih (hmembers _ _ hmem hkey _ hv)

lemma EntryFault.not_fitsUnder {key : String} {v : Json} {cause : CompilationError}
    (h : EntryFault key v cause) : ¬ v.FitsUnder key := by
  intro hfits
  cases h with
  | clause hnull h => exact (hfits.clause rfl).elim hnull h.not_isClause
  | sort hnull h =>
    obtain hv | ⟨entries, hv⟩ := hfits.sort rfl
    · exact hnull hv
    · exact h entries hv
  | window hkey hnull h =>
    obtain hv | ⟨n, hn, hv⟩ := hfits.window hkey
    · exact hnull hv
    · exact h n hn hv
  | statistic hkey hmem h =>
    obtain ⟨s, hs⟩ := hfits.statistic hkey _ rfl _ hmem
    exact h s hs

lemma CriteriaFault.not_isCriteria {v : Json} {cause : CompilationError}
    (h : v.CriteriaFault cause) : ¬ v.IsCriteria := by
  cases h with
  | notObject hnull h =>
    rintro (_ | _)
    · exact hnull rfl
    · exact h _ rfl
  | entry hmem h =>
    rintro (_ | hfits)
    exact h.not_fitsUnder (hfits _ hmem)

section FitsUnder

variable {key : String} {v : Json}

lemma fitsUnder_where_iff : v.FitsUnder "where" ↔ v = .null ∨ v.IsClause :=
  ⟨fun h => h.clause rfl, fun h => ⟨fun _ => h, by simp, by simp, by simp [Metric.keys]⟩⟩

lemma fitsUnder_sort_iff : v.FitsUnder "sort" ↔ v = .null ∨ ∃ entries, v = .obj entries :=
  ⟨fun h => h.sort rfl, fun h => ⟨by simp, fun _ => h, by simp, by simp [Metric.keys]⟩⟩

lemma fitsUnder_window_iff (hkey : key = "limit" ∨ key = "skip") :
    v.FitsUnder key ↔ v = .null ∨ ∃ n < 0x10000000000000000, v = .nat n := by
  refine ⟨fun h => h.window hkey, fun h => ?_⟩
  obtain rfl | rfl := hkey
  · exact ⟨by simp, by simp, fun _ => h, by simp [Metric.keys]⟩
  · exact ⟨by simp, by simp, fun _ => h, by simp [Metric.keys]⟩

lemma fitsUnder_statistic_iff (hkey : key ∈ Metric.keys) :
    v.FitsUnder key ↔ ∀ items, v = .arr items → ∀ item ∈ items, ∃ s, item = .str s := by
  refine ⟨fun h => h.statistic hkey, fun h => ⟨?_, ?_, ?_, fun _ => h⟩⟩
  · rintro rfl
    simp [Metric.keys] at hkey
  · rintro rfl
    simp [Metric.keys] at hkey
  · rintro (rfl | rfl) <;> simp [Metric.keys] at hkey

lemma fitsUnder_of_not_mem (hkey : key ∉ ["where", "sort", "limit", "skip"] ++ Metric.keys) :
    v.FitsUnder key := by
  simp only [List.mem_append, List.mem_cons, List.not_mem_nil, or_false, not_or] at hkey
  obtain ⟨⟨hwhere, hsort, hlimit, hskip⟩, hstatistic⟩ := hkey
  exact ⟨fun h => absurd h hwhere, fun h => absurd h hsort,
    fun h => absurd h (not_or.2 ⟨hlimit, hskip⟩), fun h => absurd h hstatistic⟩

end FitsUnder

lemma unsigned?_eq_some_iff {v : Json} {n : Nat} :
    v.unsigned? = some n ↔ n < 0x10000000000000000 ∧ v = .nat n := by
  unfold unsigned? nat
  split
  · next k =>
    cases k with
    | int k =>
      rw [JsonNumber.toUnsigned?]
      simp only [Option.ite_none_right_eq_some, Option.some.injEq, num.injEq, JsonNumber.int.injEq]
      omega
    | float x => simp [JsonNumber.toUnsigned?]
  · next hnum => simpa using fun _ => hnum _

end Json

/-! ## Keys -/

lemma Text.toNat_toLower (c : Char) :
    c.toLower.toNat = if 65 ≤ c.toNat ∧ c.toNat ≤ 90 then c.toNat + 32 else c.toNat := by
  delta Char.toLower
  simp only [← Char.toNat_val, UInt32.le_iff_toNat_le, ge_iff_le]
  split
  · next h =>
    change 65 ≤ c.val.toNat ∧ c.val.toNat ≤ 90 at h
    have hshift : ('a'.val - 'A'.val).toNat = 32 := rfl
    rw [if_pos h, UInt32.toNat_add, hshift]
    omega
  · next h => exact (if_neg h).symm

lemma Text.toNat_toUpper (c : Char) :
    c.toUpper.toNat = if 97 ≤ c.toNat ∧ c.toNat ≤ 122 then c.toNat - 32 else c.toNat := by
  delta Char.toUpper
  simp only [← Char.toNat_val, UInt32.le_iff_toNat_le]
  split
  · next h =>
    change 97 ≤ c.val.toNat ∧ c.val.toNat ≤ 122 at h
    have hshift : ('A'.val - 'a'.val).toNat = 2 ^ 32 - 32 := rfl
    rw [if_pos h, UInt32.toNat_add, hshift]
    omega
  · next h => exact (if_neg h).symm

lemma Text.toLower_eq_iff {c small : Char} (h : small.isLower = true) :
    c.toLower = small ↔ c = small ∨ c = small.toUpper := by
  have hbounds : 97 ≤ small.toNat ∧ small.toNat ≤ 122 := by
    delta Char.isLower at h
    simpa [UInt32.le_iff_toNat_le] using h
  rw [← Char.toNat_inj, ← Char.toNat_inj, ← Char.toNat_inj, toNat_toLower, toNat_toUpper,
    if_pos hbounds]
  split <;> omega

lemma Text.map_toLower_eq_iff {s small : List Char} (h : ∀ c ∈ small, c.isLower = true) :
    s.map Char.toLower = small ↔
      List.Forall₂ (fun c small => c = small ∨ c = small.toUpper) s small := by
  induction small generalizing s with
  | nil => simp
  | cons c rest ih =>
    rw [List.forall_mem_cons] at h
    cases s with
    | nil => simp
    | cons d s => simp [toLower_eq_iff h.1, ih h.2]

lemma Text.asciiLowercase_eq_like_iff {key : String} :
    asciiLowercase key = "like" ↔ SpellsLike key := by
  have hsmall : ∀ c ∈ ['l', 'i', 'k', 'e'], c.isLower = true := List.all_eq_true.1 rfl
  rw [asciiLowercase, ← String.toList_inj, String.toList_ofList]
  exact map_toLower_eq_iff hsmall

lemma Text.not_spellsLike_of_combinator {key : String} (h : key = "and" ∨ key = "or") :
    ¬ SpellsLike key := by
  rw [← asciiLowercase_eq_like_iff]
  obtain rfl | rfl := h <;> decide

lemma Metric.ofKey?_eq_none_iff {key : String} : ofKey? key = none ↔ key ∉ keys := by
  unfold ofKey? keys
  grind

/-! ## Judgements -/

/-- Whether a result is a success on what is `good`, and otherwise an error that is `bad`. -/
def Judges {ε α : Type} (r : Except ε α) (good : Prop) (bad : ε → Prop) : Prop :=
  (good ∧ ∃ a, r = .ok a) ∨ ∃ e, r = .error e ∧ bad e

namespace Judges

variable {ε α β : Type} {r : Except ε α} {f : α → Except ε β} {good good' : Prop}
  {bad bad' : ε → Prop}

lemma ok (a : α) (h : good) : Judges (.ok a) good bad :=
  .inl ⟨h, a, rfl⟩

lemma error {e : ε} (h : bad e) : Judges (.error e : Except ε α) good bad :=
  .inr ⟨e, rfl, h⟩

lemma mono (h : Judges r good bad) (hgood : good → good') (hbad : ∀ e, bad e → bad' e) :
    Judges r good' bad' :=
  h.imp (fun ⟨hg, ha⟩ => ⟨hgood hg, ha⟩) fun ⟨e, he, hb⟩ => ⟨e, he, hbad e hb⟩

/-- In steps what is good is what every step finds good, and the first error is reported. -/
lemma bind (h : Judges r good bad) (hf : ∀ a, Judges (f a) good' bad') :
    Judges (r >>= f) (good ∧ good') fun e => bad e ∨ bad' e := by
  obtain ⟨hgood, a, rfl⟩ | ⟨e, rfl, hbad⟩ := h
  · exact (hf a).mono (fun hgood' => ⟨hgood, hgood'⟩) fun _ => .inr
  · exact .error (.inl hbad)

lemma bind_pure (h : Judges r good bad) (g : α → β) :
    Judges (r >>= fun a => pure (g a)) good bad := by
  obtain ⟨hgood, a, rfl⟩ | ⟨e, rfl, hbad⟩ := h
  · exact .ok (g a) hgood
  · exact .error hbad

/-- Where nothing that is bad is good, success and what is good are the same. -/
lemma ok_iff (h : Judges r good bad) (hexcl : ∀ e, bad e → ¬ good) :
    (∃ a, r = .ok a) ↔ good := by
  obtain ⟨hgood, ha⟩ | ⟨e, rfl, hbad⟩ := h
  · exact iff_of_true ha hgood
  · refine iff_of_false ?_ (hexcl e hbad)
    rintro ⟨a, ha⟩
    cases ha

lemma exists_error (h : Judges r good bad) (hgood : ¬ good) : ∃ e, r = .error e ∧ bad e :=
  h.resolve_left fun hok => hgood hok.1

/-- A first member and the others, taken together. -/
lemma cons {good : β → Prop} {bad : β → ε → Prop} {b : β} {rest : List β}
    (h : Judges r (good b ∧ ∀ x ∈ rest, good x) fun e => bad b e ∨ ∃ x ∈ rest, bad x e) :
    Judges r (∀ x ∈ b :: rest, good x) fun e => ∃ x ∈ b :: rest, bad x e := by
  refine h.mono List.forall_mem_cons.2 ?_
  rintro e (hbad | ⟨x, hmem, hbad⟩)
  · exact ⟨b, List.mem_cons_self, hbad⟩
  · exact ⟨x, List.mem_cons_of_mem _ hmem, hbad⟩

lemma mapM {f : α → Except ε β} {good : α → Prop} {bad : α → ε → Prop} {l : List α}
    (h : ∀ a ∈ l, Judges (f a) (good a) (bad a)) :
    Judges (l.mapM f) (∀ a ∈ l, good a) fun e => ∃ a ∈ l, bad a e := by
  induction l with
  | nil => exact .ok [] (List.forall_mem_nil _)
  | cons a rest ih =>
    rw [List.forall_mem_cons] at h
    rw [List.mapM_cons]
    exact .cons (h.1.bind fun b => (ih h.2).bind_pure _)

end Judges

/-! ## Reading clauses -/

namespace Clause

open Json

lemma ofItems_eq_mapM (items : List Json) : ofItems items = items.mapM ofJson? := by
  induction items with
  | nil => rw [ofItems]; rfl
  | cons v rest ih => rw [ofItems, ih, List.mapM_cons]

lemma judges_ofItems {items : List Json}
    (h : ∀ v ∈ items, Judges (ofJson? v) v.IsClause v.ClauseFault) :
    Judges (ofItems items) (∀ v ∈ items, v.IsClause)
      fun cause => ∃ v ∈ items, v.ClauseFault cause := by
  rw [ofItems_eq_mapM]
  exact .mapM h

/-- Whether a clause can hold an entry. -/
structure FitsEntry (e : String × Json) : Prop where
  members : e.1 = "and" ∨ e.1 = "or" → ∀ items, e.2 = .arr items → ∀ v ∈ items, v.IsClause
  like : Text.SpellsLike e.1 → ∃ patterns, e.2 = .obj patterns

lemma judges_partOf {e : String × Json}
    (h : ∀ items, e.2 = .arr items → ∀ v ∈ items, Judges (ofJson? v) v.IsClause v.ClauseFault) :
    Judges (partOf e) (FitsEntry e) fun cause =>
      ∀ entries, e ∈ entries → ClauseFault (.obj entries) cause := by
  obtain ⟨key, v⟩ := e
  unfold partOf
  dsimp only at h ⊢
  split
  · next hkey =>
    rw [Bool.or_eq_true, decide_eq_true_eq, decide_eq_true_eq] at hkey
    have hlike := Text.not_spellsLike_of_combinator hkey
    split
    · next items =>
      refine ((judges_ofItems (h items rfl)).bind_pure _).mono ?_ ?_
      · intro hitems
        refine ⟨fun _ items' hv => ?_, fun hspells => absurd hspells hlike⟩
        rwa [← arr.inj hv]
      · rintro cause ⟨w, hw, hfault⟩ entries hmem
        exact .member hmem hkey hw hfault
    · next hv => exact .ok _ ⟨fun _ items hitems => absurd hitems (hv items),
        fun hspells => absurd hspells hlike⟩
  · next hkey =>
    rw [Bool.or_eq_true, decide_eq_true_eq, decide_eq_true_eq] at hkey
    split
    · next hlike =>
      rw [Text.asciiLowercase_eq_like_iff] at hlike
      split
      · next patterns => exact .ok _ ⟨fun hcombinator => absurd hcombinator hkey,
          fun _ => ⟨patterns, rfl⟩⟩
      · next hv => exact .error fun entries hmem => .like hmem hlike hv
    · next hlike =>
      rw [Text.asciiLowercase_eq_like_iff] at hlike
      exact .ok _ ⟨fun hcombinator => absurd hcombinator hkey,
        fun hspells => absurd hspells hlike⟩

lemma judges_partsOf {entries : Record}
    (h : ∀ e ∈ entries, ∀ items, e.2 = .arr items → ∀ v ∈ items,
      Judges (ofJson? v) v.IsClause v.ClauseFault) :
    Judges (partsOf entries) (∀ e ∈ entries, FitsEntry e) fun cause =>
      ∃ e ∈ entries, ∀ all, e ∈ all → ClauseFault (.obj all) cause := by
  induction entries with
  | nil =>
    rw [partsOf]
    exact .ok _ (List.forall_mem_nil _)
  | cons e rest ih =>
    rw [List.forall_mem_cons] at h
    rw [partsOf_cons]
    exact .cons ((judges_partOf h.1).bind fun here => (ih h.2).bind_pure _)

lemma judges_ofJson?_obj {entries : Record}
    (h : ∀ e ∈ entries, ∀ items, e.2 = .arr items → ∀ v ∈ items,
      Judges (ofJson? v) v.IsClause v.ClauseFault) :
    Judges (ofJson? (.obj entries)) (IsClause (.obj entries)) (ClauseFault (.obj entries)) := by
  rw [ofJson?]
  refine ((judges_partsOf h).bind_pure Parts.toClause).mono ?_ ?_
  · intro hfits
    refine .obj (fun key items hmem hkey => ?_) fun key v hmem => ?_
    · exact (hfits _ hmem).members hkey items rfl
    · exact (hfits _ hmem).like
  · rintro cause ⟨e, hmem, hfault⟩
    exact hfault entries hmem

lemma judges_ofJson?_of_ne_obj {v : Json} (h : ∀ entries, v ≠ .obj entries) :
    Judges (ofJson? v) v.IsClause v.ClauseFault := by
  rw [ofJson?]
  · exact .error (.notObject h)
  · exact h

/-- **A clause is read from a value of the grammar, and any other value has a fault that is
reported.** -/
theorem judges_ofJson? (v : Json) : Judges (ofJson? v) v.IsClause v.ClauseFault := by
  -- An entry of an object holds clauses one level down, so the members of a list come along.
  suffices Judges (ofJson? v) v.IsClause v.ClauseFault ∧
      ∀ items, v = .arr items → ∀ w ∈ items, Judges (ofJson? w) w.IsClause w.ClauseFault from this.1
  induction v with
  | obj entries ih =>
    refine ⟨judges_ofJson?_obj fun e he => (ih e he).2, fun items hv => ?_⟩
    cases hv
  | arr items ih =>
    refine ⟨judges_ofJson?_of_ne_obj fun entries hv => ?_, fun items' hv w hw => ?_⟩
    · cases hv
    · rw [← arr.inj hv] at hw
      exact (ih w hw).1
  | _ =>
    refine ⟨judges_ofJson?_of_ne_obj fun entries hv => ?_, fun items hv => ?_⟩
    · cases hv
    · cases hv

end Clause

/-! ## Reading criteria -/

namespace Criteria

open Json

lemma judges_sortOf (v : Json) : Judges (sortOf v) (v = .null ∨ ∃ entries, v = .obj entries)
    (EntryFault "sort" v) := by
  unfold sortOf
  split
  · exact .ok _ (.inl rfl)
  · next entries => exact .ok _ (.inr ⟨entries, rfl⟩)
  · next hnull hobj => exact .error (.sort hnull hobj)

lemma judges_windowOf {key : String} (hkey : key = "limit" ∨ key = "skip") (v : Json) :
    Judges (windowOf key v) (v = .null ∨ ∃ n < 0x10000000000000000, v = .nat n)
      (EntryFault key v) := by
  unfold windowOf
  split
  · exact .ok _ (.inl rfl)
  · next hnull =>
    split
    · next n hn => exact .ok _ (.inr ⟨n, unsigned?_eq_some_iff.1 hn⟩)
    · next hnone =>
      refine .error (.window hkey hnull fun n hn hv => ?_)
      rw [unsigned?_eq_some_iff.2 ⟨hn, hv⟩] at hnone
      cases hnone

lemma judges_fieldNameOf {key : String} (v : Json) :
    Judges (fieldNameOf key v) (∃ s, v = .str s)
      fun cause => cause = .notFieldName key v ∧ ∀ s, v ≠ .str s := by
  unfold fieldNameOf
  split
  · next s => exact .ok _ ⟨s, rfl⟩
  · next hstr => exact .error ⟨rfl, hstr⟩

lemma judges_fieldListOf {key : String} (hkey : key ∈ Metric.keys) (v : Json) :
    Judges (fieldListOf key v) (∀ items, v = .arr items → ∀ item ∈ items, ∃ s, item = .str s)
      (EntryFault key v) := by
  unfold fieldListOf
  split
  · next items =>
    refine ((Judges.mapM fun item _ => judges_fieldNameOf item).bind_pure some).mono ?_ ?_
    · rintro hitems items' hv
      rwa [← arr.inj hv]
    · rintro cause ⟨item, hmem, rfl, hitem⟩
      exact .statistic hkey hmem hitem
  · next harr => exact .ok _ fun items hv => absurd hv (harr items)

/-- The part of an entry is read where the value fits under its key. -/
lemma judges_partOf (e : String × Json) :
    Judges (partOf e) (e.2.FitsUnder e.1) (EntryFault e.1 e.2) := by
  obtain ⟨key, v⟩ := e
  unfold partOf
  dsimp only
  split
  · next hkey =>
    subst hkey
    split
    · exact .ok _ (fitsUnder_where_iff.2 (.inl rfl))
    · next hnull =>
      refine ((Clause.judges_ofJson? v).bind_pure _).mono ?_ fun cause => .clause hnull
      exact fun hclause => fitsUnder_where_iff.2 (.inr hclause)
  split
  · next hkey =>
    subst hkey
    exact ((judges_sortOf v).bind_pure _).mono fitsUnder_sort_iff.2 fun _ => id
  split
  · next hkey =>
    have hwindow := judges_windowOf (.inl hkey) v
    exact (hwindow.bind_pure _).mono (fitsUnder_window_iff (.inl hkey)).2 fun _ => id
  split
  · next hkey =>
    have hwindow := judges_windowOf (.inr hkey) v
    exact (hwindow.bind_pure _).mono (fitsUnder_window_iff (.inr hkey)).2 fun _ => id
  split
  · next hkey =>
    have hfits : v.FitsUnder key := fitsUnder_of_not_mem (hkey ▸ by decide)
    split
    · exact .ok _ hfits
    · exact .ok _ hfits
  · split
    · next metric hmetric =>
      have hkey : key ∈ Metric.keys := by
        by_contra hkey
        rw [Metric.ofKey?_eq_none_iff.2 hkey] at hmetric
        cases hmetric
      exact ((judges_fieldListOf hkey v).bind_pure _).mono (fitsUnder_statistic_iff hkey).2
        fun _ => id
    · next hmetric =>
      have hkey := Metric.ofKey?_eq_none_iff.1 hmetric
      exact .ok _ (fitsUnder_of_not_mem (by simp_all))

lemma judges_foldlM_readEntry (entries : Record) (c : Criteria) :
    Judges (entries.foldlM readEntry c) (∀ e ∈ entries, e.2.FitsUnder e.1)
      fun cause => ∃ e ∈ entries, EntryFault e.1 e.2 cause := by
  induction entries generalizing c with
  | nil => exact .ok c (List.forall_mem_nil _)
  | cons e rest ih =>
    rw [List.foldlM_cons, readEntry_eq]
    exact .cons (((judges_partOf e).bind_pure _).bind fun next => ih next)

/-- **Criteria are read from a value of the grammar, and any other value has a fault that is
reported.** -/
theorem judges_ofJson? (v : Json) : Judges (ofJson? v) v.IsCriteria v.CriteriaFault := by
  unfold ofJson?
  split
  · exact .ok _ .null
  · next entries =>
    refine (judges_foldlM_readEntry entries {}).mono .obj ?_
    rintro cause ⟨e, hmem, hfault⟩
    exact .entry hmem hfault
  · next hnull hobj => exact .error (.notObject hnull hobj)

/-! ## Statistics -/

lemma exists_statistic_of_partOf {key : String} {v : Json} {p : Part} (hkey : key ∈ Metric.keys)
    (h : partOf (key, v) = .ok p) : ∃ metric fields, p = .statistic metric fields := by
  simp only [Metric.keys, List.mem_cons, List.not_mem_nil, or_false] at hkey
  obtain rfl | rfl | rfl | rfl := hkey <;>
  · simp only [partOf, Metric.ofKey?, String.reduceEq, if_true, if_false, bind_eq_ok_iff,
      pure_eq_ok_iff] at h
    obtain ⟨fields, -, rfl⟩ := h
    exact ⟨_, fields, rfl⟩

/-- A part makes criteria ask for statistics where it stands under a statistic's key, and leaves
them as they are elsewhere. -/
lemma isSome_aggregate_into {e : String × Json} {p : Part} (h : partOf e = .ok p) (c : Criteria) :
    (p.into c).aggregate.isSome ↔ c.aggregate.isSome ∨ e.1 ∈ Metric.keys := by
  by_cases hkey : e.1 ∈ Metric.keys
  · obtain ⟨metric, fields, rfl⟩ := exists_statistic_of_partOf hkey h
    simp [Part.into, hkey]
  · have hsame : (p.into c).aggregate = c.aggregate := by
      obtain ⟨key, v⟩ := e
      cases under_of_partOf h with
      | statistic hmetric fields =>
        rw [Metric.ofKey?_eq_none_iff.2 hkey] at hmetric
        cases hmetric
      | _ => rfl
    rw [hsame, or_iff_left hkey]

lemma isSome_aggregate_of_foldlM {entries : Record} {c d : Criteria}
    (h : entries.foldlM readEntry c = .ok d) :
    d.aggregate.isSome ↔ c.aggregate.isSome ∨ ∃ e ∈ entries, e.1 ∈ Metric.keys := by
  induction entries generalizing c with
  | nil =>
    obtain rfl := pure_eq_ok_iff.1 h
    simp
  | cons e rest ih =>
    obtain ⟨p, hp, hrest⟩ := foldlM_readEntry_cons_eq_ok_iff.1 h
    rw [ih hrest, isSome_aggregate_into hp c, List.exists_mem_cons_iff, or_assoc]

lemma isSome_aggregate_of_ofJson? {v : Json} {c : Criteria} (h : ofJson? v = .ok c) :
    c.aggregate.isSome ↔ ∃ entries, v = .obj entries ∧ ∃ e ∈ entries, e.1 ∈ Metric.keys := by
  unfold ofJson? at h
  split at h
  · obtain rfl := Except.ok.inj h
    simp
  · next entries => simp [isSome_aggregate_of_foldlM h]
  · cases h

/-- **Criteria are read from exactly the values of their grammar**: null, and objects in which what
stands under a known key has the shape of that key, where-clauses through all their combinators.
Every other value comes to the error of a fault that it has.  What is read asks for statistics
exactly when a key of the object does, be the value under it a list of fields or not. -/
theorem ofJson?_accepts_iff (v : Json) :
    ((∃ c, ofJson? v = .ok c) ↔ v.IsCriteria) ∧
      (¬ v.IsCriteria → ∃ cause, ofJson? v = .error cause ∧ v.CriteriaFault cause) ∧
      ∀ c, ofJson? v = .ok c →
        (c.aggregate.isSome ↔
          ∃ entries, v = .obj entries ∧ ∃ e ∈ entries, e.1 ∈ Metric.keys) :=
  ⟨(judges_ofJson? v).ok_iff fun _ => CriteriaFault.not_isCriteria,
    (judges_ofJson? v).exists_error, fun _ => isSome_aggregate_of_ofJson?⟩

/-- A fault in a member of a combinator is found. -/
example : ofJson? (.obj [("where", .obj [("or", .arr [.obj [], .str "open"])])]) =
    .error (.clauseNotObject (.str "open")) := by
  rfl

end Criteria

end CriteriaSearch
