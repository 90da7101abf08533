import CriteriaSearch.Page
import Mathlib.Tactic.Common

/-!
# The numbers of pages

A page says where the next one and the one before it are.  Against a count of 64 bits the positions
that are held back decide as exact ones do (`next?_eq`).  The number of the next page is exact as
well as long as a page has room for something: then the pages up to it lie within the count, and so
does its number.

Pages without room are all alike.  The first of them leads to the second and so on, whatever the
count, until the greatest number is reached, which has none after it: making that page is a panic.
So a page is made except there, and following the pages ends exactly where they have room or there
is nothing to be listed (`pages_exact_and_end_iff`).
-/

namespace CriteriaSearch

namespace PageRequest

variable {α : Type} {perPage total : Nat}

/-! ## Positions -/

/-- A position that is held back is beyond every count of 64 bits. -/
lemma saturate_lt_iff (h : total ≤ maxPosition) (n : Nat) : saturate n < total ↔ n < total := by
  rw [saturate]
  omega

lemma saturate_of_le {n : Nat} (h : n ≤ maxPosition) : saturate n = n :=
  Nat.min_eq_left h

lemma successor_of_lt {n : Nat} (h : n < maxPosition) : successor n = .ok (n + 1) :=
  if_pos h

/-- A window ends before the total exactly where all pages up to it do. -/
lemma windowEnd_lt_iff (p : PageRequest) (h : total ≤ maxPosition) :
    saturate (p.offset + p.perPage) < total ↔ max p.page 1 * p.perPage < total := by
  have hpages : (p.page - 1) * p.perPage + p.perPage = max p.page 1 * p.perPage := by
    have hpage : max p.page 1 = p.page - 1 + 1 := by omega
    rw [hpage, Nat.succ_mul]
  rw [saturate_lt_iff h, ← hpages, offset, saturate]
  omega

/-! ## The page beside -/

/-- **A page leads on exactly where the pages up to it leave something.** -/
lemma next?_eq (p : PageRequest) (h : total ≤ maxPosition) :
    p.next? total =
      if max p.page 1 * p.perPage < total then (successor (max p.page 1)).map some
      else .ok none := by
  simp only [next?, p.windowEnd_lt_iff h]

/-- Where pages have room, a page that leads on does not have the greatest number. -/
lemma lt_of_mul_lt {n : Nat} (hperPage : 0 < perPage) (h : total ≤ maxPosition)
    (hmore : n * perPage < total) : n < maxPosition := by
  have hle : n ≤ n * perPage := Nat.le_mul_of_pos_right n hperPage
  omega

/-- The page that leads to the given one. -/
lemma toPage_of_next? {p : PageRequest} {items : List α} {next : Option Nat}
    (h : p.next? total = .ok next) :
    p.toPage items total = .ok ⟨items, total, next,
      if 1 < max p.page 1 then some (max p.page 1 - 1) else none⟩ := by
  rw [toPage, h]
  rfl

lemma toPage_of_next?_error {p : PageRequest} {items : List α} {cause : Panic}
    (h : p.next? total = .error cause) : p.toPage items total = .error cause := by
  rw [toPage, h]
  rfl

/-- Whether a page out of `total` items leads to the numbers beside its own. -/
structure IsExact (p : PageRequest) (items : List α) (total : Nat) (made : Page α) : Prop where
  items_eq : made.items = items
  count_eq : made.count = total
  nextPage_eq : made.nextPage =
    if max p.page 1 * p.perPage < total then some (max p.page 1 + 1) else none
  previousPage_eq : made.previousPage =
    if 1 < max p.page 1 then some (max p.page 1 - 1) else none

/-- A page that leads on below the greatest number is made, and exact. -/
lemma exists_isExact (p : PageRequest) (items : List α) (h : total ≤ maxPosition)
    (hnext : max p.page 1 * p.perPage < total → max p.page 1 < maxPosition) :
    ∃ made, p.toPage items total = .ok made ∧ p.IsExact items total made := by
  have heq : p.next? total =
      .ok (if max p.page 1 * p.perPage < total then some (max p.page 1 + 1) else none) := by
    rw [p.next?_eq h]
    split
    · next hmore =>
      rw [successor_of_lt (hnext hmore)]
      rfl
    · rfl
  exact ⟨_, toPage_of_next? heq, rfl, rfl, rfl, rfl⟩

/-- The greatest page without room is not made when something is counted. -/
lemma toPage_maxPosition {p : PageRequest} (items : List α) (h : total ≤ maxPosition)
    (hpage : p.page = maxPosition) (hroom : p.perPage = 0) (htotal : 0 < total) :
    p.toPage items total = .error .additionOverflow := by
  refine toPage_of_next?_error ?_
  rw [p.next?_eq h, hroom, Nat.mul_zero, if_pos htotal, hpage]
  rfl

/-! ## Following the pages -/

/-- The number of the page that is reached from page one in so many steps to the next page; none
behind the last one. -/
def reached (perPage total : Nat) : Nat → Except Panic (Option Nat)
  | 0 => .ok (some 1)
  | k + 1 => do
    match ← reached perPage total k with
    | some n =>
      let made ← (⟨n, perPage⟩ : PageRequest).toPage ([] : List Record) total
      return made.nextPage
    | none => return none

lemma reached_succ_of_some {k n : Nat} (h : reached perPage total k = .ok (some n)) :
    reached perPage total (k + 1) =
      ((⟨n, perPage⟩ : PageRequest).next? total) := by
  rw [reached, h]
  cases hnext : (⟨n, perPage⟩ : PageRequest).next? total with
  | ok next => simp only [bind, Except.bind, toPage_of_next? hnext, pure, Except.pure]
  | error cause => simp only [bind, Except.bind, toPage_of_next?_error hnext]

lemma reached_succ_of_none {k : Nat} (h : reached perPage total k = .ok none) :
    reached perPage total (k + 1) = .ok none := by
  rw [reached, h]
  rfl

lemma reached_succ_of_error {k : Nat} {cause : Panic}
    (h : reached perPage total k = .error cause) :
    reached perPage total (k + 1) = .error cause := by
  rw [reached, h]
  rfl

/-- Pages with room are numbered one by one until they hold the total. -/
lemma reached_of_pos (hperPage : 0 < perPage) (h : total ≤ maxPosition) (k : Nat) :
    reached perPage total k = .ok (if k = 0 ∨ k * perPage < total then some (k + 1) else none) := by
  induction k with
  | zero => rfl
  | succ k ih =>
    have hsucc : (k + 1) * perPage = k * perPage + perPage := Nat.succ_mul k perPage
    by_cases hstart : k = 0 ∨ k * perPage < total
    · rw [if_pos hstart] at ih
      rw [reached_succ_of_some ih, next?_eq _ h, Nat.max_eq_left (Nat.le_add_left 1 k)]
      by_cases hmore : (k + 1) * perPage < total
      · rw [if_pos hmore, if_pos (.inr hmore), successor_of_lt (lt_of_mul_lt hperPage h hmore)]
        rfl
      · have hstop : ¬(k + 1 = 0 ∨ (k + 1) * perPage < total) := by omega
        rw [if_neg hmore, if_neg hstop]
    · have hstop : ¬(k + 1 = 0 ∨ (k + 1) * perPage < total) := by omega
      rw [if_neg hstart] at ih
      rw [reached_succ_of_none ih, if_neg hstop]

/-- **Pages without room have no last one.** -/
lemma reached_ne_none_of_zero (h : total ≤ maxPosition) (htotal : 0 < total) (k : Nat) :
    reached 0 total k ≠ .ok none := by
  induction k with
  | zero => exact fun hnone => by cases hnone
  | succ k ih =>
    cases hk : reached 0 total k with
    | error cause =>
      rw [reached_succ_of_error hk]
      exact fun hnone => by cases hnone
    | ok number =>
      cases number with
      | none => exact absurd hk ih
      | some n =>
        rw [reached_succ_of_some hk, next?_eq _ h, Nat.mul_zero, if_pos htotal]
        cases successor (max n 1) <;> exact fun hnone => by cases hnone

/-- **Following the pages ends exactly where they have room or nothing is counted.** -/
lemma exists_reached_eq_none_iff (h : total ≤ maxPosition) :
    (∃ k, reached perPage total k = .ok none) ↔ 0 < perPage ∨ total = 0 := by
  constructor
  · rintro ⟨k, hk⟩
    by_contra hroom
    obtain ⟨rfl, htotal⟩ : perPage = 0 ∧ 0 < total := by omega
    exact reached_ne_none_of_zero h htotal k hk
  · rintro (hperPage | rfl)
    · -- After as many steps as there are items the pages hold them all.
      refine ⟨total + 1, ?_⟩
      rw [reached_of_pos hperPage h, if_neg]
      have hle : total + 1 ≤ (total + 1) * perPage := Nat.le_mul_of_pos_right _ hperPage
      omega
    · refine ⟨1, ?_⟩
      rw [reached_succ_of_some rfl, next?_eq _ h, if_neg (Nat.not_lt_zero _)]

/-- **A page is made, and exact, unless it has the greatest number and leads on without having room:
then its making panics.  Following the pages ends unless pages have no room for what is
counted.** -/
theorem pages_exact_and_end_iff (page perPage total : UInt64) (items : List α) :
    let p : PageRequest := ⟨page.toNat, perPage.toNat⟩
    let stuck : Prop := p.page = maxPosition ∧ p.perPage = 0 ∧ 0 < total.toNat
    (¬stuck ↔
      ∃ made, p.toPage items total.toNat = .ok made ∧ p.IsExact items total.toNat made) ∧
    (stuck → p.toPage items total.toNat = .error .additionOverflow) ∧
    ((∃ k, reached p.perPage total.toNat k = .ok none) ↔ 0 < p.perPage ∨ total.toNat = 0) := by
  intro p stuck
  have htotal : total.toNat ≤ maxPosition := Nat.le_of_lt_succ total.toNat_lt
  have hpage : p.page ≤ maxPosition := Nat.le_of_lt_succ page.toNat_lt
  have hstuck : stuck → p.toPage items total.toNat = .error .additionOverflow :=
    fun ⟨hgreatest, hroom, hcounted⟩ => toPage_maxPosition items htotal hgreatest hroom hcounted
  refine ⟨⟨fun hrare => ?_, ?_⟩, hstuck, exists_reached_eq_none_iff htotal⟩
  · refine p.exists_isExact items htotal fun hmore => ?_
    by_cases hroom : 0 < p.perPage
    · exact lt_of_mul_lt hroom htotal hmore
    · have hsmall : 1 < maxPosition := by decide
      have hcounted : 0 < total.toNat := Nat.zero_lt_of_lt hmore
      have hbelow : p.page ≠ maxPosition := fun hgreatest =>
        hrare ⟨hgreatest, Nat.eq_zero_of_not_pos hroom, hcounted⟩
      omega
  · rintro ⟨made, hmade, -⟩ hrare
    cases (hstuck hrare).symm.trans hmade

/-- The greatest page without room is not made, and no page before it is the last. -/
theorem greatest_page_without_room :
    let p : PageRequest := ⟨maxPosition, 0⟩
    p.toPage ([] : List Record) 1 = .error .additionOverflow ∧ ∀ k, reached 0 1 k ≠ .ok none := by
  have hcount : 1 ≤ maxPosition := by decide
  exact ⟨toPage_maxPosition [] hcount rfl rfl Nat.one_pos,
    reached_ne_none_of_zero hcount Nat.one_pos⟩

end PageRequest

end CriteriaSearch
