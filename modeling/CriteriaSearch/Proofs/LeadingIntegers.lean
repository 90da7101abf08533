import CriteriaSearch.Coercion
import CriteriaSearch.Proofs.DigitOrder

/-!
# Texts that start with an integer

Under an integer type a text is read as the integer in front of it, whatever follows the digits.
The digits are read by themselves and have to be less than `2 ^ 63`; the sign comes after that.  So
no reading leaves the words of 64 bits (`natAbs_lt_of_leadingInteger?`), and each of them is read
from every text that starts with it but the least one, whose digits by themselves are too large
(`Schema.coerce_leadingInteger_iff`).
-/

namespace CriteriaSearch

/-- What stands in front of digits. -/
inductive WrittenSign where
  | absent
  | plus
  | minus
  deriving DecidableEq

/-- The characters of a sign. -/
def WrittenSign.chars : WrittenSign → List Char
  | absent => []
  | plus => ['+']
  | minus => ['-']

/-- A text that starts with an integer: blanks, a sign, digits, and anything that does not continue
them. -/
structure LeadingInteger where
  blanks : List Char
  sign : WrittenSign
  digits : List Char
  rest : List Char
  all_blanks : blanks.all Text.isBlank = true
  all_digits : digits.all Char.isDigit = true
  isEmpty_digits : digits.isEmpty = false
  any_head?_rest : rest.head?.any Char.isDigit = false

namespace LeadingInteger

/-- The text as it is written. -/
def text (t : LeadingInteger) : String :=
  String.ofList (t.blanks ++ (t.sign.chars ++ (t.digits ++ t.rest)))

/-- The integer that sign and digits denote. -/
def value (t : LeadingInteger) : Int :=
  match t.sign with
  | .minus => -(Nat.ofDigitChars 10 t.digits 0 : Int)
  | _ => Nat.ofDigitChars 10 t.digits 0

/-- The integer in front of the text where it is one of 64 bits, and else the text. -/
def wordOrText (t : LeadingInteger) : Json :=
  if -0x8000000000000000 ≤ t.value ∧ t.value < 0x8000000000000000 then .num (.int t.value)
  else .str t.text

end LeadingInteger

/-! ## Reading in steps -/

lemma Text.isBlank_of_isDigit {c : Char} (h : c.isDigit = true) : Text.isBlank c = false := by
  obtain ⟨hlow, hhigh⟩ := Binary64.toNat_of_isDigit h
  have hzero : '0'.toNat = 48 := rfl
  have hnine : '9'.toNat = 57 := rfl
  rw [Bool.eq_false_iff]
  simp only [Text.isBlank, ne_eq, Bool.or_eq_true, Bool.and_eq_true, decide_eq_true_eq, beq_iff_eq]
  omega

namespace LeadingInteger

variable (t : LeadingInteger)

/-- The digits begin with one of them. -/
lemma exists_digits_eq_cons :
    ∃ c ds, t.digits = c :: ds ∧ c.isDigit = true ∧ c ≠ '-' ∧ c ≠ '+' := by
  obtain ⟨c, ds, hdigits⟩ :=
    List.exists_cons_of_ne_nil (List.isEmpty_eq_false_iff.1 t.isEmpty_digits)
  have hc := List.all_eq_true.1 t.all_digits c (hdigits ▸ List.mem_cons_self)
  refine ⟨c, ds, hdigits, hc, ?_, ?_⟩
  · rintro rfl
    cases hc
  · rintro rfl
    cases hc

/-- The blanks are trimmed, and nothing else. -/
lemma trimStart_text :
    Text.trimStart t.text.toList = t.sign.chars ++ (t.digits ++ t.rest) := by
  obtain ⟨c, ds, hdigits, hc, -⟩ := t.exists_digits_eq_cons
  rw [text, String.toList_ofList, Text.trimStart,
    List.dropWhile_append_of_pos (List.all_eq_true.1 t.all_blanks), ← Text.trimStart]
  cases t.sign with
  | absent =>
    rw [WrittenSign.chars, List.nil_append, hdigits]
    exact Text.trimStart_of_not_blank (Text.isBlank_of_isDigit hc)
  | plus => exact Text.trimStart_of_not_blank (by decide)
  | minus => exact Text.trimStart_of_not_blank (by decide)

lemma splitSign_chars :
    Binary64.splitSign (t.sign.chars ++ (t.digits ++ t.rest)) =
      (decide (t.sign = .minus), t.digits ++ t.rest) := by
  cases t.sign with
  | absent =>
    obtain ⟨c, ds, hdigits, -, hminus, hplus⟩ := t.exists_digits_eq_cons
    rw [WrittenSign.chars, List.nil_append, hdigits, List.cons_append, Binary64.splitSign]
    · rfl
    · rintro _ ⟨⟩
      exact hminus rfl
    · rintro _ ⟨⟩
      exact hplus rfl
  | plus => rfl
  | minus => rfl

lemma takeWhile_digits : (t.digits ++ t.rest).takeWhile Char.isDigit = t.digits := by
  have hrest : t.rest.takeWhile Char.isDigit = [] := by
    cases hr : t.rest with
    | nil => rfl
    | cons c cs =>
      have hc : c.isDigit = false := by
        simpa only [hr, List.head?_cons, Option.any_some] using t.any_head?_rest
      rw [List.takeWhile_cons_of_neg (Bool.eq_false_iff.1 hc)]
  rw [List.takeWhile_append_of_pos (List.all_eq_true.1 t.all_digits), hrest, List.append_nil]

lemma value_eq :
    t.value = if t.sign = .minus then -(Nat.ofDigitChars 10 t.digits 0 : Int)
      else Nat.ofDigitChars 10 t.digits 0 := by
  rw [value]
  cases t.sign <;> rfl

lemma natAbs_value : t.value.natAbs = Nat.ofDigitChars 10 t.digits 0 := by
  rw [value_eq]
  split <;> simp

/-- **The integer in front of a text is read when its digits by themselves fit.** -/
lemma leadingInteger?_text :
    leadingInteger? t.text.toList =
      if t.value.natAbs < 0x8000000000000000 then some t.value else none := by
  rw [leadingInteger?, trimStart_text, splitSign_chars]
  simp only [takeWhile_digits, t.isEmpty_digits, Bool.false_or, decide_eq_true_eq,
    Binary64.natOfDigits_eq, ← value_eq, natAbs_value]
  split <;> split <;> first | rfl | omega

end LeadingInteger

/-- The digits of a text that is read are checked before the sign is applied, which keeps the result
within 64 bits. -/
lemma natAbs_lt_of_leadingInteger? {text : List Char} {n : Int}
    (h : leadingInteger? text = some n) : n.natAbs < 0x8000000000000000 := by
  unfold leadingInteger? at h
  simp only [Option.ite_none_left_eq_some, Option.some.injEq, Bool.or_eq_true, decide_eq_true_eq,
    not_or, not_le] at h
  obtain ⟨⟨-, hlt⟩, rfl⟩ := h
  split <;> omega

namespace Schema

/-- A text in front of which an integer stands becomes that integer or stays. -/
lemma coerce_text_of_integer {s : Schema} {field : String}
    (htype : s.declaredType? field = some .integer) (t : LeadingInteger) :
    s.coerce field (.str t.text) =
      if t.value.natAbs < 0x8000000000000000 then .num (.int t.value) else .str t.text := by
  rw [coerce, htype, Json.coerce, Option.bind_some, AttributeType.readText?, t.leadingInteger?_text]
  split <;> rfl

/-- **A text that starts with an integer of 64 bits is coerced to it, unless that is the least one,
and stays otherwise; nothing that is read is beyond 64 bits.** -/
theorem coerce_leadingInteger_iff {s : Schema} {field : String}
    (htype : s.declaredType? field = some .integer) (t : LeadingInteger) :
    (s.coerce field (.str t.text) = t.wordOrText ↔ t.value ≠ -0x8000000000000000) ∧
      (t.value = -0x8000000000000000 → s.coerce field (.str t.text) = .str t.text) ∧
      ∀ text n, leadingInteger? text = some n →
        -0x8000000000000000 < n ∧ n < 0x8000000000000000 := by
  have hcoerced := coerce_text_of_integer htype t
  refine ⟨?_, fun hleast => ?_, fun text n h => ?_⟩
  · rw [hcoerced, LeadingInteger.wordOrText]
    constructor
    · rintro heq hleast
      rw [if_neg (by omega), if_pos (by omega)] at heq
      cases heq
    · intro hne
      split <;> split <;> first | rfl | omega
  · rw [hcoerced, if_neg (by omega)]
  · have := natAbs_lt_of_leadingInteger? h
    omega

/-- The greatest integer behind blanks, a plus and zeros, with more text after it. -/
theorem coerce_leadingInteger_iff_greatest :
    let s := Schema.ofList [("age", { type := .integer })]
    let t : LeadingInteger :=
      { blanks := [' ', '\t'], sign := .plus, digits := "009223372036854775807".toList,
        rest := ['x', '1'], all_blanks := by decide, all_digits := by decide,
        isEmpty_digits := by decide, any_head?_rest := by decide }
    s.declaredType? "age" = some .integer ∧ t.text = " \t+009223372036854775807x1" ∧
      s.coerce "age" (.str t.text) = .num (.int 0x7fffffffffffffff) := by
  intro s t
  have htype : s.declaredType? "age" = some .integer := rfl
  have hvalue : t.value = 0x7fffffffffffffff := by
    decide
  obtain ⟨hread, -⟩ := coerce_leadingInteger_iff htype t
  refine ⟨htype, by decide, (hread.2 (by omega)).trans ?_⟩
  rw [LeadingInteger.wordOrText, hvalue]
  rfl

/-- The least integer stays text. -/
theorem coerce_least_integer :
    let s := Schema.ofList [("age", { type := .integer })]
    let t : LeadingInteger :=
      { blanks := [], sign := .minus, digits := "9223372036854775808".toList, rest := [],
        all_blanks := by decide, all_digits := by decide, isEmpty_digits := by decide,
        any_head?_rest := by decide }
    t.text = "-9223372036854775808" ∧ t.wordOrText = .num (.int (-0x8000000000000000)) ∧
      s.coerce "age" (.str t.text) = .str "-9223372036854775808" ∧
      s.coerce "age" (.str t.text) ≠ t.wordOrText := by
  intro s t
  have htype : s.declaredType? "age" = some .integer := rfl
  have hvalue : t.value = -0x8000000000000000 := by
    decide
  have htext : t.text = "-9223372036854775808" := by
    decide
  have hword : t.wordOrText = .num (.int (-0x8000000000000000)) := by
    rw [LeadingInteger.wordOrText, hvalue]
    rfl
  have hcoerced : s.coerce "age" (.str t.text) = .str "-9223372036854775808" := by
    rw [coerce_text_of_integer htype t, hvalue, htext]
    rfl
  refine ⟨htext, hword, hcoerced, ?_⟩
  rw [hcoerced, hword]
  rintro ⟨⟩

end Schema

end CriteriaSearch
