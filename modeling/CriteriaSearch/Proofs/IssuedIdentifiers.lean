import CriteriaSearch.Store.Memory
import CriteriaSearch.Text.Hexadecimal
import Mathlib.Data.List.Nodup
import Mathlib.Data.List.Perm.Subperm
import Mathlib.Tactic.Common

/-!
# Issued identifiers

The store issues identifiers by number.  The digits of an identifier can be read back, so no two
numbers have the same identifier (`issuedId_injective`).  Hence, of more identifiers in a row than
there are documents, one is free, and the search for a free one finds it
(`Memory.issuedId_freshFrom_not_mem`): what is issued is the identifier of no stored document
(`Memory.chooseId_none`).
-/

namespace CriteriaSearch

/-! ## Digits -/

namespace Text

/-- The number that hexadecimal digits denote. -/
def hexNumber (digits : List Char) : Nat :=
  digits.foldl (fun n c => 16 * n + (hexValue? c).getD 0) 0

lemma hexNumber_concat (digits : List Char) (c : Char) :
    hexNumber (digits ++ [c]) = 16 * hexNumber digits + (hexValue? c).getD 0 := by
  simp [hexNumber]

/-- Zeros in front do not count. -/
lemma hexNumber_replicate_append (k : Nat) (digits : List Char) :
    hexNumber (List.replicate k '0' ++ digits) = hexNumber digits := by
  have hzeros : hexNumber (List.replicate k '0') = 0 := by
    induction k with
    | zero => rfl
    | succ k ih =>
      have hzero : hexValue? '0' = some 0 := by decide
      rw [List.replicate_succ', hexNumber_concat, ih, hzero]
      rfl
  unfold hexNumber at hzeros ⊢
  rw [List.foldl_append, hzeros]

lemma hexValue?_digitChar : ∀ n < 16, hexValue? n.digitChar = some n := by
  decide

/-- The digits of a number denote it. -/
lemma hexNumber_toDigits (n : Nat) : hexNumber (Nat.toDigits 16 n) = n := by
  induction n using Nat.strongRecOn with
  | ind n ih =>
    by_cases hsmall : n < 16
    · rw [Nat.toDigits_of_lt_base hsmall]
      simp [hexNumber, hexValue?_digitChar n hsmall]
    · have hlarge : 16 ≤ n := Nat.le_of_not_lt hsmall
      have hlast := hexValue?_digitChar (n % 16) (Nat.mod_lt n (by decide))
      have hrest := ih (n / 16) (Nat.div_lt_self (by omega) (by decide))
      rw [Nat.toDigits_of_base_le (by decide) hlarge, hexNumber_concat, hrest, hlast,
        Option.getD_some]
      omega

lemma hexNumber_twelveHexDigits (n : Nat) : hexNumber (twelveHexDigits n) = n := by
  unfold twelveHexDigits
  rw [hexNumber_replicate_append, hexNumber_toDigits]

end Text

/-- **No two numbers have the same identifier.** -/
theorem issuedId_injective : Function.Injective issuedId := by
  intro a b h
  have hcharacters := String.ofList_injective h
  have ha := Text.hexNumber_twelveHexDigits a
  have hb := Text.hexNumber_twelveHexDigits b
  -- Nothing is to be computed of the digits themselves.
  generalize twelveHexDigits a = first at hcharacters ha
  generalize twelveHexDigits b = second at hcharacters hb
  have hdigits : first = second := (List.append_right_inj _).1 hcharacters
  calc
    a = Text.hexNumber first := ha.symm
    _ = Text.hexNumber second := by rw [hdigits]
    _ = b := hb

namespace Memory

variable {ds : Documents}

/-! ## Free numbers -/

/-- Where no number is found to be free, all that were tried are taken. -/
lemma issuedId_mem_of_freshFrom {n tries : Nat} (h : issuedId (freshFrom ds n tries) ∈ ds) :
    ∀ i ≤ tries, issuedId (n + i) ∈ ds := by
  induction tries generalizing n with
  | zero =>
    intro i hi
    obtain rfl : i = 0 := Nat.le_zero.1 hi
    exact h
  | succ tries ih =>
    rw [freshFrom] at h
    by_cases htaken : ds.contains (issuedId n) = true
    · rw [if_pos htaken] at h
      intro i hi
      cases i with
      | zero => exact htaken
      | succ i =>
        have hlater := ih h i (by omega)
        rwa [Nat.add_assoc, Nat.add_comm 1 i] at hlater
    · rw [if_neg htaken] at h
      exact absurd h htaken

/-- **The number that is found is free**, because there are fewer documents than numbers tried. -/
theorem issuedId_freshFrom_not_mem (ds : Documents) (n : Nat) :
    issuedId (freshFrom ds n ds.size) ∉ ds := by
  intro h
  let tried := (List.range (ds.size + 1)).map fun i => issuedId (n + i)
  have hnodup : tried.Nodup := by
    have hinjective : Function.Injective fun i => issuedId (n + i) := fun i j hij =>
      Nat.add_left_cancel (issuedId_injective hij)
    exact List.Nodup.map hinjective List.nodup_range
  have htaken : tried ⊆ ds.keys := by
    intro id hid
    obtain ⟨i, hi, rfl⟩ := List.mem_map.1 hid
    have hle : i ≤ ds.size := Nat.le_of_lt_succ (List.mem_range.1 hi)
    exact Std.TreeMap.mem_keys.2 (issuedId_mem_of_freshFrom h i hle)
  have hlength : tried.length ≤ ds.keys.length := (List.subperm_of_subset hnodup htaken).length_le
  simp only [tried, List.length_map, List.length_range, Std.TreeMap.length_keys] at hlength
  omega

variable (m : Memory) (address : Address)

/-! ## Chosen identifiers -/

lemma chooseId_some (id : String) : m.chooseId address (some id) = (id, m) :=
  rfl

/-- **Without an identifier a document gets one that no stored document has.** -/
theorem chooseId_none : ∃ n, m.chooseId address none = (issuedId n, { m with issued := n }) ∧
    issuedId n ∉ m.documents address :=
  ⟨_, rfl, issuedId_freshFrom_not_mem _ _⟩

end Memory

end CriteriaSearch
