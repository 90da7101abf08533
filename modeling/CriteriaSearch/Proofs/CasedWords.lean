import CriteriaSearch.Declaration.Casing
import CriteriaSearch.Text.Split
import Mathlib.Tactic.Common

/-!
# Casings word by word

A rule for names says how the words between underscores are written and what stands between them:
each with a capital in front and nothing between, or hyphens between, or all letters as capitals.
`Casing.spell` says it word by word, and writing a name letter by letter comes to the same
(`Casing.apply_eq_spell`).
-/

namespace CriteriaSearch.Casing

/-- A word with a capital in front. -/
def capitalize : List Char → List Char
  | [] => []
  | c :: rest => c.toUpper :: rest

/-- A word with a small letter in front. -/
def uncapitalize : List Char → List Char
  | [] => []
  | c :: rest => c.toLower :: rest

/-- The words of a name. -/
def words (s : List Char) : List (List Char) :=
  Text.splitAt '_' s

/-- A name in words, in the writing of a rule. -/
def spell (casing : Casing) (s : List Char) : List Char :=
  match casing with
  | lower | snake => s
  | upper | screamingSnake => s.map Char.toUpper
  | pascal => ((words s).map capitalize).flatten
  | camel => uncapitalize ((words s).map capitalize).flatten
  | kebab => Text.joinWith ['-'] (words s)
  | screamingKebab => Text.joinWith ['-'] (words (s.map Char.toUpper))

lemma words_ne_nil (s : List Char) : words s ≠ [] :=
  Text.splitAt_ne_nil '_' s

lemma words_underscore (rest : List Char) : words ('_' :: rest) = [] :: words rest := by
  rw [words, Text.splitAt, if_pos rfl, words]

lemma words_cons {c : Char} {rest first : List Char} {others : List (List Char)} (hc : c ≠ '_')
    (h : words rest = first :: others) : words (c :: rest) = (c :: first) :: others := by
  change Text.splitAt '_' rest = first :: others at h
  rw [words, Text.splitAt, if_neg hc, h]

/-- Letters are capitals at the front of words; the first word begins with the text, or has begun
before. -/
lemma capitalizeWords_eq (starts : Bool) (s : List Char) :
    capitalizeWords starts s = match words s with
      | [] => []
      | first :: others =>
        (if starts then capitalize first else first) ++ (others.map capitalize).flatten := by
  induction s generalizing starts with
  | nil => cases starts <;> rfl
  | cons c rest ih =>
    cases hrest : words rest with
    | nil => exact absurd hrest (words_ne_nil rest)
    | cons first others =>
      by_cases hc : c = '_'
      · rw [hc, words_underscore, capitalizeWords, ih, hrest]
        cases starts <;> rfl
      · rw [words_cons hc hrest, capitalizeWords.eq_3 _ _ _ hc, ih, hrest]
        cases starts <;> rfl

lemma hyphenate_eq (s : List Char) : hyphenate s = Text.joinWith ['-'] (words s) := by
  induction s with
  | nil => rfl
  | cons c rest ih =>
    rw [hyphenate, List.map_cons, ← hyphenate, ih]
    cases hrest : words rest with
    | nil => exact absurd hrest (words_ne_nil rest)
    | cons first others =>
      by_cases hc : c = '_'
      · rw [hc, words_underscore, hrest]
        rfl
      · rw [words_cons hc hrest, if_neg hc]
        cases others <;> rfl

/-- **A name is written letter by letter as its words are.** -/
theorem apply_eq_spell (casing : Casing) (s : List Char) : casing.apply s = casing.spell s := by
  have hcapitals : capitalizeWords true s = ((words s).map capitalize).flatten := by
    rw [capitalizeWords_eq]
    cases words s <;> rfl
  cases casing with
  | lower | upper | snake | screamingSnake => rfl
  | pascal => exact hcapitals
  | camel =>
    rw [apply, hcapitals, spell]
    cases ((words s).map capitalize).flatten <;> rfl
  | kebab => exact hyphenate_eq s
  | screamingKebab => exact hyphenate_eq (s.map Char.toUpper)

example : spell .camel "story_points".toList = "storyPoints".toList := by decide

end CriteriaSearch.Casing
