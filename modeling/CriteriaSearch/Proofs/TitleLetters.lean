import CriteriaSearch.Text.Case
import Mathlib.Tactic.Common

/-!
# Letters that are neither small nor capital

A letter with a lowercase form of its own is a capital, which is its own uppercase form, or a
title-case letter such as `ǅ`, whose first part is capital and whose second part is small
(`upper_of_lower_ne`).  The title-case letters are the only ones whose class of both cases, or
whose lack of one, leaves something out (`counterparts_subset_iff`).
-/

namespace CriteriaSearch.Text

/-- The code points of the title-case letters. -/
def titleLetters : List Nat :=
  [0x1C5, 0x1C8, 0x1CB, 0x1F2] ++ List.range' 0x1F88 8 ++ List.range' 0x1F98 8 ++
    List.range' 0x1FA8 8 ++ [0x1FBC, 0x1FCC, 0x1FFC]

/-- The lowercase form of a character, if that is a single character. -/
def lower? (c : Char) : Option Char :=
  if c = dottedCapitalI then none else some (lower c)

/-- The uppercase form of a character, if that is a single character. -/
def upper? (c : Char) : Option Char :=
  if inRanges expandingUpper c.toNat then none else some (upper c)

/-- A character and its other cases, as far as these are single characters. -/
def counterparts (c : Char) : List Char :=
  c :: ((lower? c).toList ++ (upper? c).toList)

/-- The characters that a written pattern takes for a character. -/
def caseClass (c : Char) : List Char :=
  match casePair? c with
  | some (l, u) => [l, u]
  | none => [c]

namespace CaseRun

variable {run other : CaseRun} {c : Nat}

/-- Whether two runs have no code point in common, by their ends or because they alternate. -/
def apart (run other : CaseRun) : Bool :=
  run.last.blt other.first || other.last.blt run.first ||
    (run.stride == 2 && (other.stride == 2 || other.first == other.last) &&
      (run.first + other.first) % 2 == 1)

lemma covers_iff : run.covers c = true ↔
    run.first ≤ c ∧ c ≤ run.last ∧ (c - run.first) % run.stride = 0 := by
  simp [covers, and_assoc]

lemma not_covers_of_apart (h : run.apart other = true) (hc : run.covers c = true) :
    other.covers c = false := by
  rw [← Bool.not_eq_true, covers_iff]
  rw [covers_iff] at hc
  obtain ⟨hfirst, hlast, hstride⟩ := hc
  rintro ⟨hfirst', hlast', hstride'⟩
  simp only [apart, Bool.or_eq_true, Bool.and_eq_true, Nat.blt_eq, beq_iff_eq] at h
  rcases h with (hbefore | hbehind) | ⟨⟨htwo, hother⟩, hodd⟩
  · omega
  · omega
  · rw [htwo] at hstride
    rcases hother with htwo' | hsingle
    · rw [htwo'] at hstride'
      omega
    · omega

lemma image_of_forall_not_covers {runs : List CaseRun} (h : ∀ run ∈ runs, run.covers c = false) :
    image runs c = c := by
  have hnone : runs.find? (·.covers c) = none := by
    rw [List.find?_eq_none]
    exact fun run hrun => Bool.not_eq_true _ ▸ h run hrun
  rw [image, hnone]

end CaseRun

/-! ## The tables -/

/-- Only title-case letters are in both tables. -/
lemma lowerRuns_apart : (lowerRuns.all fun run => upperRuns.all fun other =>
    run.apart other || other.first == other.last && titleLetters.contains other.first) = true := by
  decide +kernel

/-- Of the letters with an expanding uppercase form only title-case ones have a lowercase form. -/
lemma lowerRuns_expanding : (lowerRuns.all fun run => expandingUpper.all fun r =>
    run.last.blt r.1 || r.2.blt run.first ||
      (List.range' run.first (run.last - run.first + 1)).all titleLetters.contains) = true := by
  decide +kernel

variable {c : Char}

lemma exists_covers_of_lower_ne (h : lower c ≠ c) :
    ∃ run ∈ lowerRuns, run.covers c.toNat = true := by
  by_contra hnone
  push Not at hnone
  refine h ?_
  rw [lower, CaseRun.image_of_forall_not_covers fun run hrun => Bool.not_eq_true _ ▸ hnone run hrun,
    Char.ofNat_toNat]

/-- A letter with another lowercase form is its own uppercase form, or a title-case letter. -/
lemma upper_of_lower_ne (h : lower c ≠ c) (htitle : c.toNat ∉ titleLetters) : upper c = c := by
  obtain ⟨run, hrun, hcovers⟩ := exists_covers_of_lower_ne h
  have hapart := List.all_eq_true.1 (List.all_eq_true.1 lowerRuns_apart run hrun)
  rw [upper, CaseRun.image_of_forall_not_covers, Char.ofNat_toNat]
  intro other hother
  have hcase := hapart other hother
  rw [Bool.or_eq_true, Bool.and_eq_true, beq_iff_eq, List.contains_iff_mem] at hcase
  rcases hcase with hapart | ⟨hsingle, hmem⟩
  · exact CaseRun.not_covers_of_apart hapart hcovers
  · rw [← Bool.not_eq_true, CaseRun.covers_iff]
    rintro ⟨hfirst, hlast, -⟩
    have heq : other.first = c.toNat := by omega
    exact htitle (heq ▸ hmem)

/-- A letter with another lowercase form has no longer uppercase form, or is a title-case letter. -/
lemma not_expanding_of_lower_ne (h : lower c ≠ c) (htitle : c.toNat ∉ titleLetters) :
    inRanges expandingUpper c.toNat = false := by
  obtain ⟨run, hrun, hcovers⟩ := exists_covers_of_lower_ne h
  rw [CaseRun.covers_iff] at hcovers
  have hexpanding := List.all_eq_true.1 (List.all_eq_true.1 lowerRuns_expanding run hrun)
  rw [inRanges, List.any_eq_false]
  intro r hr hin
  have hcase := hexpanding r hr
  simp only [Bool.and_eq_true, decide_eq_true_iff] at hin
  simp only [Bool.or_eq_true, Nat.blt_eq, List.all_eq_true, List.contains_iff_mem,
    List.mem_range'_1] at hcase
  rcases hcase with (hbefore | hbehind) | htitles
  · omega
  · omega
  · exact htitle (htitles c.toNat (by omega))

/-! ## Classes of both cases -/

lemma lower_dottedCapitalI : lower dottedCapitalI = dottedCapitalI := by
  decide +kernel

lemma upper_dottedCapitalI : upper dottedCapitalI = dottedCapitalI := by
  decide +kernel

lemma mem_counterparts_iff {d : Char} : d ∈ counterparts c ↔
    d = c ∨ (c ≠ dottedCapitalI ∧ d = lower c) ∨
      (inRanges expandingUpper c.toNat = false ∧ d = upper c) := by
  have hlower : lower? c = some d ↔ c ≠ dottedCapitalI ∧ d = lower c := by
    simp [lower?, eq_comm]
  have hupper : upper? c = some d ↔ inRanges expandingUpper c.toNat = false ∧ d = upper c := by
    unfold upper?
    cases inRanges expandingUpper c.toNat with
    | true => simp
    | false => simpa using eq_comm
  rw [counterparts, List.mem_cons, List.mem_append, Option.mem_toList, Option.mem_toList, hlower,
    hupper]

/-- A class holds both cases of a character that has them, and otherwise the character. -/
lemma mem_caseClass_iff {d : Char} : d ∈ caseClass c ↔
    if c ≠ dottedCapitalI ∧ inRanges expandingUpper c.toNat = false ∧ lower c ≠ upper c then
      d = lower c ∨ d = upper c
    else d = c := by
  unfold caseClass casePair?
  by_cases hdotted : c = dottedCapitalI
  · simp [hdotted]
  cases hexpanding : inRanges expandingUpper c.toNat with
  | true => simp
  | false => by_cases hsame : lower c = upper c <;> simp [hdotted, hsame]

/-- A class has nothing but the character and its other cases. -/
lemma caseClass_subset (c : Char) : caseClass c ⊆ counterparts c := by
  intro d hd
  rw [mem_caseClass_iff] at hd
  rw [mem_counterparts_iff]
  split at hd
  · next hpair => exact .inr (hd.imp (fun h => ⟨hpair.1, h⟩) fun h => ⟨hpair.2.1, h⟩)
  · exact .inl hd

/-- No class of a title-case letter has the letter in all its cases. -/
lemma titleLetters_classes : (titleLetters.all fun n =>
    !(counterparts (Char.ofNat n)).all (caseClass (Char.ofNat n)).contains) = true := by
  decide +kernel

/-- **A class takes a character in all its cases unless the character is a title-case letter.** -/
theorem counterparts_subset_iff : counterparts c ⊆ caseClass c ↔ c.toNat ∉ titleLetters := by
  constructor
  · intro hsubset hmem
    have hnot := List.all_eq_true.1 titleLetters_classes _ hmem
    rw [Char.ofNat_toNat, Bool.not_eq_true', List.all_eq_false] at hnot
    obtain ⟨d, hd, hclass⟩ := hnot
    exact hclass (List.contains_iff_mem.2 (hsubset hd))
  intro htitle d hd
  rw [mem_counterparts_iff] at hd
  rw [mem_caseClass_iff]
  by_cases hlower : lower c = c
  · rw [hlower] at hd ⊢
    split
    · tauto
    · next hsingle =>
      -- What keeps the class from being one of both cases also keeps the uppercase form out.
      rcases hd with hself | ⟨-, hself⟩ | ⟨hexpanding, hupper⟩
      · exact hself
      · exact hself
      · by_contra hne
        refine hsingle ⟨?_, hexpanding, fun hsame => hne (hupper.trans hsame.symm)⟩
        rintro rfl
        exact hne (hupper.trans upper_dottedCapitalI)
  · have hupper := upper_of_lower_ne hlower htitle
    have hpair : c ≠ dottedCapitalI ∧ inRanges expandingUpper c.toNat = false ∧
        lower c ≠ upper c := by
      refine ⟨?_, not_expanding_of_lower_ne hlower htitle, hupper.symm ▸ hlower⟩
      rintro rfl
      exact hlower lower_dottedCapitalI
    rw [if_pos hpair, hupper]
    rw [hupper] at hd
    tauto

end CriteriaSearch.Text
