import CriteriaSearch.Criteria.Build
import CriteriaSearch.Proofs.TitleLetters
import CriteriaSearch.Query.OfCriteria
import CriteriaSearch.SearchBody.Writer
import Mathlib.Data.List.Forall2
import Mathlib.Data.List.Infix
import Mathlib.Tactic.Common

/-!
# Patterns written in both cases

A pattern is written for a filter language without a caseless mode, so that every letter stands as a
class of both its cases.  `TermRegex.parts` reads such a text part by part, and
`TermRegex.Accepts` says which terms the parts take, from end to end.

What is written for `contains`, `startsWith` and `endsWith` takes just the terms that have the
literal at the asked place, each character as one of its class (`accepts_folded_iff`).  So it finds
the literal in every letter case where no character is a title-case letter
(`written_pattern_keeps_literal_iff`); the class of such a letter has its two cases, but not the
letter itself (`written_pattern_loses_title_letter`).
-/

namespace CriteriaSearch

/-! ## Reading a pattern -/

namespace TermRegex

/-- A part of a regular expression that is matched against whole terms. -/
inductive Part where
  | char (c : Char)
  | either (c d : Char)
  | anything
  deriving DecidableEq

/-- The parts of an expression: a backslash gives its meaning to the character behind it, two
characters in brackets are a class, and `.*` is anything. -/
def parts : List Char → List Part
  | '\\' :: c :: rest => .char c :: parts rest
  | '[' :: c :: d :: ']' :: rest => .either c d :: parts rest
  | '.' :: '*' :: rest => .anything :: parts rest
  | c :: rest => .char c :: parts rest
  | [] => []

/-- Whether a part takes a text. -/
def Part.Takes : Part → List Char → Prop
  | char c, s => s = [c]
  | either c d, s => s = [c] ∨ s = [d]
  | anything, _ => True

/-- Whether parts take a text from its front to its end. -/
inductive Accepts : List Part → List Char → Prop
  | nil : Accepts [] []
  | cons {part : Part} {rest : List Part} {taken s : List Char} (htaken : part.Takes taken)
    (hrest : Accepts rest s) : Accepts (part :: rest) (taken ++ s)

variable {part : Part} {first rest : List Part} {s : List Char}

lemma accepts_nil_iff : Accepts [] s ↔ s = [] := by
  constructor
  · rintro ⟨⟩
    rfl
  · rintro rfl
    exact .nil

lemma accepts_cons_iff : Accepts (part :: rest) s ↔
    ∃ taken behind, s = taken ++ behind ∧ part.Takes taken ∧ Accepts rest behind := by
  constructor
  · rintro ⟨⟩
    next htaken hrest => exact ⟨_, _, rfl, htaken, hrest⟩
  · rintro ⟨taken, behind, rfl, htaken, hrest⟩
    exact .cons htaken hrest

lemma accepts_append_iff : Accepts (first ++ rest) s ↔
    ∃ taken behind, s = taken ++ behind ∧ Accepts first taken ∧ Accepts rest behind := by
  induction first generalizing s with
  | nil => simp [accepts_nil_iff]
  | cons part first ih =>
    simp only [List.cons_append, accepts_cons_iff, ih]
    constructor
    · rintro ⟨taken, _, rfl, htaken, more, behind, rfl, hmore, hbehind⟩
      exact ⟨taken ++ more, behind, (List.append_assoc _ _ _).symm,
        ⟨taken, more, rfl, htaken, hmore⟩, hbehind⟩
    · rintro ⟨_, behind, rfl, ⟨taken, more, rfl, htaken, hmore⟩, hbehind⟩
      exact ⟨taken, more ++ behind, List.append_assoc _ _ _, htaken, more, behind, rfl, hmore,
        hbehind⟩

lemma accepts_anything : Accepts [.anything] s := by
  have h : Accepts [.anything] (s ++ []) := .cons trivial .nil
  rwa [List.append_nil] at h

/-- The part that a character is written as. -/
def partOf (c : Char) : Part :=
  match Text.casePair? c with
  | some (l, u) => .either l u
  | none => .char c

lemma takes_partOf_iff {c : Char} : (partOf c).Takes s ↔ ∃ d ∈ Text.caseClass c, s = [d] := by
  unfold partOf Text.caseClass
  cases Text.casePair? c with
  | none => simp [Part.Takes]
  | some pair => simp [Part.Takes]

/-- Characters take a text character by character. -/
lemma accepts_map_partOf_iff {literal : List Char} : Accepts (literal.map partOf) s ↔
    List.Forall₂ (fun c d => d ∈ Text.caseClass c) literal s := by
  induction literal generalizing s with
  | nil => rw [List.map_nil, accepts_nil_iff, List.forall₂_nil_left_iff]
  | cons c literal ih =>
    simp only [List.map_cons, accepts_cons_iff, takes_partOf_iff, ih, List.forall₂_cons_left_iff]
    constructor
    · rintro ⟨_, behind, rfl, ⟨d, hd, rfl⟩, hrest⟩
      exact ⟨d, behind, hd, hrest, rfl⟩
    · rintro ⟨d, behind, hd, hrest, rfl⟩
      exact ⟨[d], behind, rfl, ⟨d, hd, rfl⟩, hrest⟩

end TermRegex

/-! ## What a comparison is written as -/

namespace SearchBody

open TermRegex

lemma casePair?_of_mem_metacharacters {c : Char} (h : c ∈ Pattern.metacharacters) :
    Text.casePair? c = none := by
  have hall : (Pattern.metacharacters.all fun c => (Text.casePair? c).isNone) = true := by
    decide +kernel
  exact Option.isNone_iff_eq_none.1 (List.all_eq_true.1 hall c h)

/-- The text of one character. -/
def folded (c : Char) : List Char :=
  match Text.casePair? c with
  | some (l, u) => ['[', l, u, ']']
  | none => [c]

lemma foldCase_cons {c : Char} (h : c ≠ '\\') (rest : List Char) :
    foldCase (c :: rest) = folded c ++ foldCase rest := by
  rw [foldCase.eq_3 c rest fun _ _ he => absurd he h, folded]
  cases Text.casePair? c <;> rfl

/-- A character without a meaning of its own is read to its part. -/
lemma parts_folded {c : Char} (h : c ∉ Pattern.metacharacters) (rest : List Char) :
    parts (folded c ++ rest) = partOf c :: parts rest := by
  have hne (d : Char) (hd : d ∈ Pattern.metacharacters) : c ≠ d := by
    rintro rfl
    exact h hd
  have hbackslash := hne '\\' (by decide)
  have hbracket := hne '[' (by decide)
  have hdot := hne '.' (by decide)
  unfold folded partOf
  cases Text.casePair? c with
  | some pair => rfl
  | none =>
    change parts (c :: rest) = _
    rw [parts.eq_4]
    · exact fun _ _ he => absurd he hbackslash
    · exact fun _ _ _ he => absurd he hbracket
    · exact fun _ he => absurd he hdot

lemma parts_foldCase_gap (rest : List Char) :
    parts (foldCase ('.' :: '*' :: rest)) = .anything :: parts (foldCase rest) := by
  rw [foldCase_cons (by decide), foldCase_cons (by decide), folded, folded,
    casePair?_of_mem_metacharacters (by decide), casePair?_of_mem_metacharacters (by decide)]
  rfl

/-- An escaped literal is read to a part for each of its characters. -/
lemma parts_foldCase_escape (literal rest : List Char) :
    parts (foldCase (Pattern.escape literal ++ rest)) =
      literal.map partOf ++ parts (foldCase rest) := by
  induction literal with
  | nil => simp [Pattern.escape]
  | cons c behind ih =>
    rw [Pattern.escape_cons, List.append_assoc, List.map_cons, List.cons_append, ← ih]
    by_cases hc : c ∈ Pattern.metacharacters
    · rw [if_pos (List.contains_iff_mem.2 hc), partOf, casePair?_of_mem_metacharacters hc]
      rfl
    · have hbackslash : c ≠ '\\' := fun he => hc (he ▸ by decide)
      rw [if_neg fun h => hc (List.contains_iff_mem.1 h), List.singleton_append,
        foldCase_cons hbackslash, parts_folded hc]

end SearchBody

/-! ## What a pattern takes -/

/-- Whether a text stands at the place of another that a comparison asks for; the pieces of `like`
have no one place. -/
def TextMatch.Places : TextMatch → (part s : List Char) → Prop
  | contains, part, s => part <:+: s
  | startsWith, part, s => part <+: s
  | endsWith, part, s => part <:+ s
  | like, _, _ => False

namespace TermRegex

lemma accepts_anything_cons_iff : Accepts (.anything :: rest) s ↔
    ∃ before behind, s = before ++ behind ∧ Accepts rest behind := by
  simp only [accepts_cons_iff, Part.Takes, true_and]

lemma accepts_literal_anything_iff {literal : List Char} :
    Accepts (literal.map partOf ++ [.anything]) s ↔
      ∃ part behind, s = part ++ behind ∧
        List.Forall₂ (fun c d => d ∈ Text.caseClass c) literal part := by
  simp only [accepts_append_iff, accepts_map_partOf_iff, accepts_anything, and_true]

/-- **A written pattern takes the terms that have the literal at its place, each character as one of
its class.** -/
lemma accepts_folded_iff {how : TextMatch} (h : how ≠ .like) (literal s : List Char) :
    Accepts (parts (SearchBody.foldCase (Pattern.ofMatch how literal).body)) s ↔
      ∃ part, List.Forall₂ (fun c d => d ∈ Text.caseClass c) literal part ∧ how.Places part s := by
  have hend : parts (SearchBody.foldCase ['.', '*']) = [.anything] :=
    SearchBody.parts_foldCase_gap []
  cases how with
  | like => exact absurd rfl h
  | contains =>
    have hbody : (Pattern.ofMatch .contains literal).body =
        '.' :: '*' :: (Pattern.escape literal ++ ['.', '*']) := by
      simp [Pattern.ofMatch, Pattern.contains, Pattern.body, Text.joinWith, Pattern.escape]
    rw [hbody, SearchBody.parts_foldCase_gap, SearchBody.parts_foldCase_escape, hend,
      accepts_anything_cons_iff]
    simp only [accepts_literal_anything_iff, TextMatch.Places]
    constructor
    · rintro ⟨before, _, rfl, part, behind, rfl, hpart⟩
      exact ⟨part, hpart, before, behind, List.append_assoc _ _ _⟩
    · rintro ⟨part, hpart, before, behind, rfl⟩
      exact ⟨before, part ++ behind, List.append_assoc _ _ _, part, behind, rfl, hpart⟩
  | startsWith =>
    have hbody : (Pattern.ofMatch .startsWith literal).body =
        Pattern.escape literal ++ ['.', '*'] := by
      simp [Pattern.ofMatch, Pattern.startsWith, Pattern.body, Text.joinWith, Pattern.escape]
    rw [hbody, SearchBody.parts_foldCase_escape, hend, accepts_literal_anything_iff]
    constructor
    · rintro ⟨part, behind, rfl, hpart⟩
      exact ⟨part, hpart, behind, rfl⟩
    · rintro ⟨part, hpart, behind, rfl⟩
      exact ⟨part, behind, rfl, hpart⟩
  | endsWith =>
    have hbody : (Pattern.ofMatch .endsWith literal).body =
        '.' :: '*' :: (Pattern.escape literal ++ []) := by
      simp [Pattern.ofMatch, Pattern.endsWith, Pattern.body, Text.joinWith, Pattern.escape]
    have hnil : parts (SearchBody.foldCase []) = [] := rfl
    rw [hbody, SearchBody.parts_foldCase_gap, SearchBody.parts_foldCase_escape, hnil,
      List.append_nil, accepts_anything_cons_iff]
    simp only [accepts_map_partOf_iff, TextMatch.Places]
    constructor
    · rintro ⟨before, part, rfl, hpart⟩
      exact ⟨part, hpart, before, rfl⟩
    · rintro ⟨part, hpart, before, rfl⟩
      exact ⟨before, part, rfl, hpart⟩

end TermRegex

/-! ## Every letter case -/

namespace Text

variable {literal : List Char} {c d : Char}

/-- Whether a text is another with some characters in another case. -/
def IsVariant (literal variant : List Char) : Prop :=
  List.Forall₂ (fun c d => d ∈ counterparts c) literal variant

lemma isVariant_self (literal : List Char) : IsVariant literal literal :=
  List.forall₂_same.2 fun _ _ => List.mem_cons_self

/-- One character can be put into another case on its own. -/
lemma isVariant_replace (before behind : List Char) (h : d ∈ counterparts c) :
    IsVariant (before ++ c :: behind) (before ++ d :: behind) :=
  List.rel_append (isVariant_self before) (.cons h (isVariant_self behind))

end Text

namespace TextMatch

variable {how : TextMatch} {part s : List Char}

lemma places_self (h : how ≠ .like) (part : List Char) : how.Places part part := by
  cases how with
  | like => exact absurd rfl h
  | contains => exact List.infix_rfl
  | startsWith => exact List.prefix_rfl
  | endsWith => exact List.suffix_rfl

/-- A text has place for one text of its own length. -/
lemma eq_of_places (h : how.Places part s) (hlength : part.length = s.length) : part = s := by
  cases how with
  | like => exact absurd h id
  | contains => exact List.IsInfix.eq_of_length h hlength
  | startsWith => exact List.IsPrefix.eq_of_length h hlength
  | endsWith => exact List.IsSuffix.eq_of_length h hlength

end TextMatch

namespace Filter

open TermRegex

/-- **A text comparison that is written as an expression of terms asks for the literal at its place,
in every letter case just where no character is a title-case letter.**  It never takes anything
else. -/
theorem written_pattern_keeps_literal_iff (schema : Schema) (typeName field literal : String)
    {how : TextMatch} (h : how ≠ .like) :
    ∃ expression : String,
      SearchBody.filterBody (ofWhere schema typeName (some (.textual how field literal))) =
        .obj [("regexp", .obj [(field, .obj [("value", .str expression)])])] ∧
      (∀ s, Accepts (parts expression.toList) s →
        ∃ variant, Text.IsVariant literal.toList variant ∧ how.Places variant s) ∧
      ((∀ variant s, Text.IsVariant literal.toList variant → how.Places variant s →
          Accepts (parts expression.toList) s) ↔
        ∀ c ∈ literal.toList, c.toNat ∉ Text.titleLetters) := by
  refine ⟨_, rfl, ?_, ?_⟩
  · intro s hs
    rw [String.toList_ofList, accepts_folded_iff h] at hs
    obtain ⟨part, hpart, hplace⟩ := hs
    exact ⟨part, hpart.imp fun c d hd => Text.caseClass_subset c hd, hplace⟩
  simp only [String.toList_ofList, accepts_folded_iff h]
  constructor
  · intro hall c hc
    rw [← Text.counterparts_subset_iff]
    intro d hd
    obtain ⟨before, behind, hliteral⟩ := List.append_of_mem hc
    rw [hliteral] at hall
    -- With the one character in its other case the literal is a term of its own length.
    obtain ⟨part, hpart, hplace⟩ :=
      hall _ _ (Text.isVariant_replace before behind hd) (TextMatch.places_self h _)
    have hlength := hpart.length_eq
    rw [List.length_append, List.length_cons] at hlength
    obtain rfl := TextMatch.eq_of_places hplace (by simp [← hlength])
    have hdrop := List.forall₂_drop before.length hpart
    rw [List.drop_left, List.drop_left, List.forall₂_cons] at hdrop
    exact hdrop.1
  · intro hnone variant s hvariant hplace
    have hboth := (List.forall₂_and_left _ _).2 ⟨hnone, hvariant⟩
    refine ⟨variant, hboth.imp fun c d hcd => ?_, hplace⟩
    exact Text.counterparts_subset_iff.2 hcd.1 hcd.2

/-- The capital of `ß` is two characters, and the dot is no letter. -/
theorem written_pattern_keeps_literal_iff_sharp_s :
    TextMatch.startsWith ≠ .like ∧ ∃ expression : String,
      SearchBody.filterBody (ofWhere {} "item" (some (.textual .startsWith "t" "aß."))) =
        .obj [("regexp", .obj [("t", .obj [("value", .str expression)])])] ∧
      Accepts (parts expression.toList) "Aß.c".toList := by
  have hhow : TextMatch.startsWith ≠ .like := by
    decide
  obtain ⟨expression, hbody, -, hkeeps⟩ :=
    written_pattern_keeps_literal_iff {} "item" "t" "aß." hhow
  have hvariant : Text.IsVariant "aß.".toList "Aß.".toList :=
    .cons (by decide +kernel) (.cons (by decide +kernel) (.cons (by decide +kernel) .nil))
  have hletters : (['a', 'ß', '.'].all fun c => !Text.titleLetters.contains c.toNat) = true := by
    decide +kernel
  have hnone : ∀ c ∈ ['a', 'ß', '.'], c.toNat ∉ Text.titleLetters := by
    simpa using hletters
  refine ⟨hhow, expression, hbody, hkeeps.2 hnone _ _ hvariant ?_⟩
  exact List.prefix_append "Aß.".toList ['c']

/-- A title-case letter is not found in its own place. -/
theorem written_pattern_loses_title_letter :
    SearchBody.filterBody (ofWhere {} "item" (some (.textual .contains "t" "ǅ"))) =
        .obj [("regexp", .obj [("t", .obj [("value", .str ".*[ǆǄ].*")])])] ∧
      ¬Accepts (parts ".*[ǆǄ].*".toList) "ǅ".toList := by
  have htext : String.ofList (SearchBody.foldCase (Pattern.contains "ǅ".toList).body) =
      ".*[ǆǄ].*" := by
    decide +kernel
  refine ⟨?_, ?_⟩
  · rw [← htext]
    rfl
  · rw [← htext, String.toList_ofList]
    change ¬Accepts (parts (SearchBody.foldCase (Pattern.ofMatch .contains "ǅ".toList).body)) _
    rw [accepts_folded_iff (by decide)]
    rintro ⟨part, hpart, hplace⟩
    obtain rfl := TextMatch.eq_of_places hplace hpart.length_eq.symm
    have hclass : ¬ Char.ofNat 0x1C5 ∈ Text.caseClass (Char.ofNat 0x1C5) := by
      decide +kernel
    exact hclass (List.forall₂_cons.1 hpart).1

end Filter

end CriteriaSearch
