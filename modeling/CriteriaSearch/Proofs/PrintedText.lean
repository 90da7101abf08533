import CriteriaSearch.Json.Lexer
import CriteriaSearch.Json.Printer
import CriteriaSearch.Proofs.Induction
import Mathlib.Data.Nat.Digits.Defs
import Mathlib.Tactic.Common

/-!
# Printed values

The compact text of a value holds no control character (`Json.printable_text`): those of the texts
inside it are escaped, at any depth, and nothing is put between its parts.  So a printed value is
one line.

A quoted text is read back as the one token that it is (`Json.lexes_quoted`), whatever characters it
holds.  `Json.Lexes` says so in a form that goes on with the rest of a line, so that the tokens of a
line are those of its parts.
-/

namespace CriteriaSearch.Json

/-! ## Control characters -/

/-- Whether there is no control character in a text. -/
def Printable (s : List Char) : Prop :=
  ∀ c ∈ s, 32 ≤ c.toNat

section Printable

variable {s t : List Char} {c : Char}

lemma printable_nil : Printable [] :=
  List.forall_mem_nil _

lemma printable_cons_iff : Printable (c :: s) ↔ 32 ≤ c.toNat ∧ Printable s :=
  List.forall_mem_cons

lemma printable_append_iff : Printable (s ++ t) ↔ Printable s ∧ Printable t :=
  List.forall_mem_append

lemma Printable.not_mem (h : Printable s) (hc : c.toNat < 32) : c ∉ s :=
  fun hmem => Nat.not_lt.2 (h c hmem) hc

lemma printable_toDigits (n : Nat) : Printable (Nat.toDigits 10 n) := by
  intro c hc
  have hdigit := Nat.isDigit_of_mem_toDigits (by decide) (by decide) hc
  have hbounds : 48 ≤ c.toNat ∧ c.toNat ≤ 57 := by
    simpa [Char.isDigit, UInt32.le_iff_toNat_le] using hdigit
  omega

lemma printable_toString (n : Int) : Printable (toString n).toList := by
  cases n with
  | ofNat n => simpa [Int.repr, toString, Nat.repr] using printable_toDigits n
  | negSucc n => simpa [Int.repr, toString, Nat.repr, printable_cons_iff] using printable_toDigits _

lemma printable_hexDigit : ∀ n < 16, 32 ≤ (Text.hexDigit n).toNat := by
  decide

lemma printable_escapeChar (c : Char) : Printable (escapeChar c) := by
  unfold escapeChar
  iterate 7
    split
    · simp [Printable]
  split
  · next hcontrol =>
    have hhigh := printable_hexDigit (c.toNat / 16) (by omega)
    have hlow := printable_hexDigit (c.toNat % 16) (by omega)
    simp [Printable, hhigh, hlow]
  · next hplain => simpa [Printable] using hplain

lemma printable_quoted (s : String) : Printable (quoted s).toList := by
  have hescaped : Printable (s.toList.flatMap escapeChar) := by
    intro c hc
    obtain ⟨d, -, hd⟩ := List.mem_flatMap.1 hc
    exact printable_escapeChar d c hd
  simp [quoted, printable_cons_iff, printable_append_iff, hescaped, printable_nil]

lemma printable_layout (h : Printable s) (point : Int) : Printable (Binary64.layout s point) := by
  have hzeros (n : Nat) : Printable (List.replicate n '0') := by
    intro c hc
    rw [List.eq_of_mem_replicate hc]
    decide
  unfold Binary64.layout
  split
  · refine printable_append_iff.2 ⟨printable_append_iff.2 ⟨?_, ?_⟩, printable_toDigits _⟩
    · split
      · exact printable_nil
      · exact h
      · simpa [printable_cons_iff] using h
    · split <;> simp [Printable]
  split
  · simp [printable_cons_iff, printable_append_iff, hzeros, h]
  · have hwhole : Printable (s.take point.toNat) := fun c hc => h c (List.mem_of_mem_take hc)
    have hfraction : Printable (if (s.drop point.toNat).isEmpty then ['0']
        else s.drop point.toNat) := by
      split
      · simp [Printable]
      · exact fun c hc => h c (List.mem_of_mem_drop hc)
    simp only [printable_append_iff, printable_cons_iff]
    exact ⟨⟨hwhole, hzeros _⟩, by decide, hfraction⟩

lemma printable_dropTrailingZeros (h : Printable s) : Printable (Binary64.dropTrailingZeros s) := by
  intro c hc
  rw [Binary64.dropTrailingZeros, List.mem_reverse] at hc
  exact h c (List.mem_reverse.1 (List.dropWhile_subset _ hc))

lemma printable_numberText (n : JsonNumber) : Printable n.text.toList := by
  cases n with
  | int n => exact printable_toString n
  | float x =>
    have hbody : Printable (if x.isZero then ['0', '.', '0'] else
        Binary64.layout (Binary64.dropTrailingZeros (Nat.toDigits 10 x.shortest.1))
          (x.shortest.2 + (Nat.toDigits 10 x.shortest.1).length)) := by
      split
      · simp [Printable]
      · exact printable_layout (printable_dropTrailingZeros (printable_toDigits _)) _
    rw [JsonNumber.text, Binary64.text, String.toList_ofList]
    split
    · exact printable_cons_iff.2 ⟨by decide, hbody⟩
    · exact hbody

lemma printable_textItems {items : List Json} (h : ∀ v ∈ items, Printable v.text.toList) :
    Printable (textItems items).toList := by
  induction items with
  | nil => simpa [textItems] using printable_nil
  | cons v rest ih =>
    rw [List.forall_mem_cons] at h
    cases rest with
    | nil => simpa [textItems] using h.1
    | cons w rest => simp [textItems, printable_append_iff, printable_cons_iff, h.1, ih h.2]

lemma printable_textEntries {entries : Record} (h : ∀ e ∈ entries, Printable e.2.text.toList) :
    Printable (textEntries entries).toList := by
  induction entries with
  | nil => simpa [textEntries] using printable_nil
  | cons e rest ih =>
    obtain ⟨k, v⟩ := e
    rw [List.forall_mem_cons] at h
    cases rest with
    | nil => simp [textEntries, printable_append_iff, printable_cons_iff, printable_quoted, h.1]
    | cons f rest =>
      simp [textEntries, printable_append_iff, printable_cons_iff, printable_quoted, h.1, ih h.2]

end Printable

/-- **A printed value has no control characters**, whatever its texts hold. -/
theorem printable_text (v : Json) : Printable v.text.toList := by
  induction v with
  | null => simp [text, Printable]
  | bool b => cases b <;> simp [text, Printable]
  | num n => exact printable_numberText n
  | str s => exact printable_quoted s
  | arr items ih =>
    simp [text, printable_cons_iff, printable_append_iff, printable_textItems ih, printable_nil]
  | obj entries ih =>
    simp [text, printable_cons_iff, printable_append_iff, printable_textEntries ih, printable_nil]

/-! ## Quoted texts read back -/

/-- Whether a part of a text is read as tokens of its own, whatever comes behind it. -/
def Lexes (s : List Char) (tokens : List Token) : Prop :=
  tokens.length ≤ s.length ∧
    ∀ fuel rest, lexAll (tokens.length + fuel) (s ++ rest) =
      (lexAll fuel rest).map (tokens ++ ·)

lemma lexes_append {s t : List Char} {tokens others : List Token} (hs : Lexes s tokens)
    (ht : Lexes t others) : Lexes (s ++ t) (tokens ++ others) := by
  refine ⟨?_, fun fuel rest => ?_⟩
  · rw [List.length_append, List.length_append]
    exact Nat.add_le_add hs.1 ht.1
  · rw [List.length_append, Nat.add_assoc, List.append_assoc, hs.2, ht.2, Option.map_map]
    simp [Function.comp_def]

/-- The first token of a text. -/
lemma lexes_of_lexToken {c : Char} {s : List Char} {token : Token} (hspace : isSpace c = false)
    (h : ∀ rest, lexToken c (s ++ rest) = some (token, rest)) : Lexes (c :: s) [token] := by
  refine ⟨by simp, fun fuel rest => ?_⟩
  rw [List.length_singleton, Nat.add_comm, List.cons_append, lexAll, hspace, h]
  rfl

/-- A whole text is read where its parts are. -/
lemma Lexes.tokens? {s : List Char} {tokens : List Token} (h : Lexes s tokens) :
    Json.tokens? s = some tokens := by
  have hread := h.2 (s.length - tokens.length) []
  rw [Nat.add_sub_cancel' h.1, List.append_nil] at hread
  rw [Json.tokens?, hread, lexAll, Option.map_some, List.append_nil]

lemma codeUnit?_hexDigit {n : Nat} (h : n < 32) :
    codeUnit? '0' '0' (Text.hexDigit (n / 16)) (Text.hexDigit (n % 16)) = some n := by
  have hzero : Text.hexValue? '0' = some 0 := by decide
  have hhigh := Text.hexValue?_hexDigit (n / 16) (by omega)
  have hlow := Text.hexValue?_hexDigit (n % 16) (by omega)
  simp only [codeUnit?, hzero, hhigh, hlow, Option.bind_eq_bind, Option.bind_some]
  congr 1
  omega

/-- An escaped character is read as the character. -/
lemma lexString_escapeChar (c : Char) (done rest : List Char) :
    lexString ⟨some done, none⟩ (escapeChar c ++ rest) =
      lexString ⟨some (c :: done), none⟩ rest := by
  -- The escapes of one character first, then the code of any other control character.
  unfold escapeChar
  split
  · next h => subst h; rfl
  split
  · next h => subst h; rfl
  split
  · next h =>
    obtain rfl : c = Char.ofNat 8 := by rw [← h, Char.ofNat_toNat]
    rfl
  split
  · next h => subst h; rfl
  split
  · next h => subst h; rfl
  split
  · next h =>
    obtain rfl : c = Char.ofNat 12 := by rw [← h, Char.ofNat_toNat]
    rfl
  split
  · next h => subst h; rfl
  split
  · next h =>
    have hunit : Draft.pushUnit ⟨some done, none⟩ c.toNat = ⟨some (c :: done), none⟩ := by
      have hhigh : ¬ 0xD800 ≤ c.toNat := by omega
      have hlow : ¬ 0xDC00 ≤ c.toNat := by omega
      simp [Draft.pushUnit, Draft.push, hhigh, hlow, Char.ofNat_toNat]
    simp only [List.cons_append, List.nil_append]
    rw [lexString, codeUnit?_hexDigit h, Option.bind_some, hunit]
  · next hquote hslash _ _ _ _ _ h =>
    rw [List.singleton_append, lexString, if_neg h]
    · rfl
    all_goals simp_all

lemma lexString_escaped (s done rest : List Char) :
    lexString ⟨some done, none⟩ (s.flatMap escapeChar ++ '"' :: rest) =
      some (some (String.ofList (done.reverse ++ s)), rest) := by
  induction s generalizing done with
  | nil => simp [lexString, Draft.text?]
  | cons c s ih =>
    rw [List.flatMap_cons, List.append_assoc, lexString_escapeChar, ih]
    simp

/-- **A quoted text is read back as the text**, whatever comes behind it. -/
theorem lexes_quoted (s : String) : Lexes (quoted s).toList [.text (some s)] := by
  have hquoted : (quoted s).toList = '"' :: (s.toList.flatMap escapeChar ++ ['"']) := by
    simp [quoted]
  rw [hquoted]
  refine lexes_of_lexToken (by decide) fun rest => ?_
  have hread := lexString_escaped s.toList [] rest
  rw [List.reverse_nil, List.nil_append, String.ofList_toList] at hread
  rw [List.append_assoc, List.singleton_append]
  change (lexString {} _).map _ = _
  rw [hread]
  rfl

end CriteriaSearch.Json
