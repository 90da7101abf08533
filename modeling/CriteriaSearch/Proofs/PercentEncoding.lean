import CriteriaSearch.Http.Octets
import Mathlib.Data.List.Basic
import Mathlib.Tactic.Common

/-!
# Percent-encoding

The octets of a text are those of its characters, one after another, and no two texts have the same
ones (`octets_injective`).  A text that is written with percent signs reads back as its octets
(`percentDecode_percentEncode`), as long as the percent sign itself is not kept.  A slash is no
digit, so a text is read in pieces between slashes (`percentDecode_append_slash`).
-/

namespace CriteriaSearch.Http

/-! ## Octets -/

lemma toList_byteArray (bytes : ByteArray) : bytes.toList = bytes.data.toList := by
  have hloop : ∀ i done, ByteArray.toList.loop bytes i done =
      done.reverse ++ bytes.data.toList.drop i := by
    intro i done
    fun_induction ByteArray.toList.loop bytes i done with
    | case1 i done hi ih =>
      have hi' : i < bytes.data.toList.length := by simpa using hi
      have hdrop : bytes.data.toList.drop i = bytes.get! i :: bytes.data.toList.drop (i + 1) := by
        rw [List.drop_eq_getElem_cons hi']
        simp [ByteArray.get!, hi]
      rw [ih, hdrop, List.reverse_cons, List.append_assoc]
      rfl
    | case2 i done hi =>
      have hi' : bytes.data.toList.length ≤ i := by simpa using hi
      rw [List.drop_of_length_le hi', List.append_nil]
  exact hloop 0 []

lemma octets_eq (s : String) : octets s = s.toByteArray.data.toList.map UInt8.toNat :=
  congrArg (List.map UInt8.toNat) (toList_byteArray _)

lemma octets_empty : octets "" = [] := by
  rw [octets_eq]
  rfl

/-- The octets of a text are those of its characters. -/
lemma octets_ofList (l : List Char) :
    octets (String.ofList l) = l.flatMap fun c => octets (String.singleton c) := by
  induction l with
  | nil => exact octets_empty
  | cons c rest ih =>
    have hcons : String.ofList (c :: rest) = String.singleton c ++ String.ofList rest := by simp
    rw [List.flatMap_cons, ← ih, hcons, octets_eq, octets_eq, octets_eq, ← List.map_append,
      ← ByteArray.toList_data_append, ← String.toByteArray_append]

/-- Texts of the same octets are the same. -/
lemma octets_injective : Function.Injective octets := by
  intro s t h
  rw [octets_eq, octets_eq] at h
  have hdata := List.map_injective_iff.2 (fun _ _ => UInt8.toNat_inj.1) h
  exact String.toByteArray_inj.1 (ByteArray.ext (Array.toList_inj.1 hdata))

lemma octets_lt {s : String} {n : Nat} (h : n ∈ octets s) : n < 256 := by
  obtain ⟨b, -, rfl⟩ := List.mem_map.1 h
  exact b.toNat_lt

/-- A character of the ASCII range is one octet. -/
lemma octets_ascii {c : Char} (h : c.toNat < 0x80) : octets (String.singleton c) = [c.toNat] := by
  have hsize : c.utf8Size = 1 := by
    rw [Char.utf8Size_eq_one_iff, UInt32.le_iff_toNat_le]
    exact Nat.le_of_lt_succ h
  rw [octets_eq, String.singleton_eq_ofList, String.toByteArray_ofList, List.utf8Encode_singleton,
    List.toList_data_toByteArray, String.utf8EncodeChar_eq_singleton hsize]
  have hoctet : c.toNat % 256 = c.toNat := Nat.mod_eq_of_lt (by omega)
  rw [List.map_singleton, UInt32.toNat_toUInt8]
  exact congrArg (fun n => [n]) hoctet

/-! ## Reading -/

lemma percentDecode_cons_of_ne {c : Char} (h : c ≠ '%') (rest : List Char) :
    percentDecode (c :: rest) = octets (String.singleton c) ++ percentDecode rest := by
  rw [percentDecode]
  rintro a b rest' rfl
  exact absurd rfl h

lemma percentDecode_slash (s : List Char) :
    percentDecode ('/' :: s) = '/'.toNat :: percentDecode s := by
  rw [percentDecode_cons_of_ne (by decide), octets_ascii (by decide)]
  rfl

/-- A percent sign that is not before two digits stands for itself. -/
lemma percentDecode_percent {a b : Char} (rest : List Char)
    (h : ∀ x y, Text.hexValue? a = some x → Text.hexValue? b = some y → False) :
    percentDecode ('%' :: a :: b :: rest) =
      octets (String.singleton '%') ++ percentDecode (a :: b :: rest) := by
  rw [octets_ascii (by decide), percentDecode]
  split
  · next hx hy => exact (h _ _ hx hy).elim
  · rfl

/-- An octet behind a percent sign reads back. -/
lemma percentDecode_percentOctet {n : Nat} (h : n < 256) (rest : List Char) :
    percentDecode (percentOctet n ++ rest) = n :: percentDecode rest := by
  have hhigh := Text.hexValue?_upperHexDigit (n / 16) (by omega)
  have hlow := Text.hexValue?_upperHexDigit (n % 16) (by omega)
  change percentDecode ('%' :: _ :: _ :: rest) = _
  rw [percentDecode, hhigh, hlow]
  dsimp only
  rw [Nat.div_add_mod']

lemma percentDecode_flatMap_percentOctet {ns : List Nat} (h : ∀ n ∈ ns, n < 256)
    (rest : List Char) :
    percentDecode (ns.flatMap percentOctet ++ rest) = ns ++ percentDecode rest := by
  induction ns with
  | nil => rfl
  | cons n ns ih =>
    rw [List.forall_mem_cons] at h
    rw [List.flatMap_cons, List.append_assoc, percentDecode_percentOctet h.1, ih h.2]
    rfl

/-- **What is percent-encoded reads back as the octets of the text.** -/
theorem percentDecode_percentEncode {keep : Char → Bool} (hkeep : keep '%' = false)
    (l : List Char) : percentDecode (percentEncode keep l) = octets (String.ofList l) := by
  rw [octets_ofList]
  induction l with
  | nil => rfl
  | cons c rest ih =>
    rw [percentEncode, List.flatMap_cons, List.flatMap_cons, ← ih]
    split
    · next hkept =>
      obtain ⟨-, hkept⟩ := Bool.and_eq_true_iff.1 hkept
      have hpercent : c ≠ '%' := by
        rintro rfl
        rw [hkeep] at hkept
        cases hkept
      exact percentDecode_cons_of_ne hpercent _
    · exact percentDecode_flatMap_percentOctet (fun n hn => octets_lt hn) _

/-- Reading goes on afresh behind a slash. -/
lemma percentDecode_append_slash (s t : List Char) :
    percentDecode (s ++ '/' :: t) = percentDecode s ++ percentDecode ('/' :: t) := by
  have hslash : ∀ x, Text.hexValue? '/' ≠ some x := by
    intro x hx
    cases hx
  fun_induction percentDecode s with
  | case1 => rfl
  | case2 a b rest x y hx hy ih =>
    rw [List.cons_append, List.cons_append, List.cons_append, percentDecode, hx, hy]
    dsimp only
    rw [ih]
    rfl
  | case3 a b rest h ih =>
    rw [List.cons_append, List.cons_append, List.cons_append, percentDecode_percent _ h]
    rw [octets_ascii (by decide)]
    exact congrArg ('%'.toNat :: ·) ih
  | case4 c rest hc ih =>
    by_cases hpercent : c = '%'
    · subst hpercent
      rw [List.append_assoc, ← ih]
      match rest with
      | [] =>
        cases t with
        | nil => rfl
        | cons b t =>
          exact percentDecode_percent t fun x _ hx => absurd hx (hslash x)
      | [a] => exact percentDecode_percent t fun _ y _ hy => absurd hy (hslash y)
      | a :: b :: rest => exact (hc a b rest rfl rfl).elim
    · rw [List.cons_append, percentDecode_cons_of_ne hpercent, ih, List.append_assoc]

/-! ## Characters of what is encoded -/

lemma mem_percentEncode {keep : Char → Bool} {l : List Char} {c : Char}
    (h : c ∈ percentEncode keep l) :
    keep c = true ∨ c = '%' ∨ ∃ n < 16, c = Text.upperHexDigit n := by
  obtain ⟨a, -, ha⟩ := List.mem_flatMap.1 h
  split at ha
  · next hkept =>
    rw [List.mem_singleton] at ha
    rw [ha]
    exact .inl (Bool.and_eq_true_iff.1 hkept).2
  · obtain ⟨n, hn, hc⟩ := List.mem_flatMap.1 ha
    have hlt : n < 256 := octets_lt hn
    simp only [percentOctet, List.mem_cons, List.not_mem_nil, or_false] at hc
    rcases hc with hc | hc | hc
    · exact .inr (.inl hc)
    · exact .inr (.inr ⟨n / 16, by omega, hc⟩)
    · exact .inr (.inr ⟨n % 16, by omega, hc⟩)

/-- Separators that are not kept do not occur in what is encoded. -/
lemma not_mem_percentEncode {keep : Char → Bool} {c : Char} (hkeep : keep c = false)
    (hpercent : c ≠ '%') (hdigit : ∀ n < 16, c ≠ Text.upperHexDigit n) (l : List Char) :
    c ∉ percentEncode keep l := by
  intro h
  rcases mem_percentEncode h with hkept | hc | ⟨n, hn, hc⟩
  · rw [hkeep] at hkept
    cases hkept
  · exact hpercent hc
  · exact hdigit n hn hc

end CriteriaSearch.Http
