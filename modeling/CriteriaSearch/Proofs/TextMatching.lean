import CriteriaSearch.Criteria.Build
import CriteriaSearch.Proofs.ClauseReading
import CriteriaSearch.Proofs.RegularExpressions
import Mathlib.Data.List.Forall2

/-!
# Text comparisons

What `contains`, `startsWith`, `endsWith` and `like` say of a text, in terms of its parts
(`TextMatch.Says`): a part in the midst, in front or at the end equals the literal, or the text is
the pieces of a pattern with something between neighbours.  Parts are equal character by character,
in any letter case.

A compiled comparison says just that, except that nothing in a gap may be a line feed
(`Filter.holds_textual_iff`): the dot of an expression stops at line feeds.  So a text of one line
is found as it should be, and one of several lines only where the gaps stay within lines.
-/

namespace CriteriaSearch

/-! ## Parts of a text -/

/-- Whether two texts are equal character by character, in any letter case. -/
def Text.Caseless (s t : List Char) : Prop :=
  List.Forall₂ (fun c d => caselessEq c d = true) s t

/-- Whether a text is the given pieces in order, in any letter case, with nothing but characters of
a kind between neighbours. -/
inductive Text.Filled (gap : Char → Prop) : List (List Char) → List Char → Prop
  | last {piece part : List Char} (h : Caseless piece part) : Filled gap [piece] part
  | cons {piece part between s : List Char} {rest : List (List Char)} (h : Caseless piece part)
    (hgap : ∀ c ∈ between, gap c) (hrest : Filled gap rest s) :
    Filled gap (piece :: rest) (part ++ (between ++ s))

/-- What a comparison says of a text, when gaps have only characters of a kind. -/
def TextMatch.Says (gap : Char → Prop) : TextMatch → (literal s : List Char) → Prop
  | contains, literal, s => ∃ before part behind, s = before ++ (part ++ behind) ∧
      Text.Caseless literal part ∧ (∀ c ∈ before, gap c) ∧ ∀ c ∈ behind, gap c
  | startsWith, literal, s => ∃ part behind, s = part ++ behind ∧
      Text.Caseless literal part ∧ ∀ c ∈ behind, gap c
  | endsWith, literal, s => ∃ before part, s = before ++ part ∧
      Text.Caseless literal part ∧ ∀ c ∈ before, gap c
  | like, pattern, s => Text.Filled gap (Text.splitAt '%' pattern) s

namespace Text

variable {gap gap' : Char → Prop} {piece s : List Char} {rest : List (List Char)}

lemma caseless_nil_iff : Caseless [] s ↔ s = [] :=
  List.forall₂_nil_left_iff

lemma caseless_cons_iff {c : Char} : Caseless (c :: piece) s ↔
    ∃ d t, s = d :: t ∧ caselessEq c d = true ∧ Caseless piece t := by
  rw [Caseless, List.forall₂_cons_left_iff]
  constructor
  · rintro ⟨d, t, hd, ht, rfl⟩
    exact ⟨d, t, rfl, hd, ht⟩
  · rintro ⟨d, t, rfl, hd, ht⟩
    exact ⟨d, t, hd, ht, rfl⟩

lemma filled_singleton_iff : Filled gap [piece] s ↔ Caseless piece s := by
  constructor
  · intro h
    cases h with
    | last h => exact h
    | cons _ _ hrest => cases hrest
  · exact .last

lemma filled_cons_iff (hne : rest ≠ []) : Filled gap (piece :: rest) s ↔
    ∃ part between t, s = part ++ (between ++ t) ∧ Caseless piece part ∧
      (∀ c ∈ between, gap c) ∧ Filled gap rest t := by
  constructor
  · intro h
    cases h with
    | last h => exact absurd rfl hne
    | cons h hgap hrest => exact ⟨_, _, _, rfl, h, hgap, hrest⟩
  · rintro ⟨part, between, t, rfl, h, hgap, hrest⟩
    exact .cons h hgap hrest

/-- A gap without characters in front. -/
lemma filled_nil_cons_iff (hne : rest ≠ []) : Filled gap ([] :: rest) s ↔
    ∃ between t, s = between ++ t ∧ (∀ c ∈ between, gap c) ∧ Filled gap rest t := by
  rw [filled_cons_iff hne]
  constructor
  · rintro ⟨part, between, t, rfl, h, hgap, hrest⟩
    obtain rfl := caseless_nil_iff.1 h
    exact ⟨between, t, rfl, hgap, hrest⟩
  · rintro ⟨between, t, rfl, hgap, hrest⟩
    exact ⟨[], between, t, rfl, .nil, hgap, hrest⟩

/-- A last gap goes to the end of the text. -/
lemma filled_pair_nil_iff : Filled gap [piece, []] s ↔
    ∃ part behind, s = part ++ behind ∧ Caseless piece part ∧ ∀ c ∈ behind, gap c := by
  rw [filled_cons_iff (List.cons_ne_nil _ _)]
  constructor
  · rintro ⟨part, between, t, rfl, h, hgap, hrest⟩
    obtain rfl := caseless_nil_iff.1 (filled_singleton_iff.1 hrest)
    exact ⟨part, between, by rw [List.append_nil], h, hgap⟩
  · rintro ⟨part, behind, rfl, h, hgap⟩
    exact ⟨part, behind, [], by rw [List.append_nil], h, hgap, .last .nil⟩

/-- Only what the text has of characters matters in its gaps. -/
lemma Filled.mono (h : Filled gap rest s) (hgap : ∀ c ∈ s, gap c → gap' c) :
    Filled gap' rest s := by
  induction h with
  | last h => exact .last h
  | cons h hbetween hrest ih =>
    refine .cons h (fun c hc => ?_) (ih fun c hc => ?_)
    · exact hgap c (by simp [hc]) (hbetween c hc)
    · exact hgap c (by simp [hc])

end Text

namespace Pattern

variable {s : List Char} {steps : List Step}

/-! ## Steps and parts -/

lemma matchSteps_literals_iff {piece : List Char} :
    matchSteps (piece.map .literal ++ steps) s = true ↔
      ∃ part rest, s = part ++ rest ∧ Text.Caseless piece part ∧ matchSteps steps rest = true := by
  induction piece generalizing s with
  | nil =>
    rw [List.map_nil, List.nil_append]
    constructor
    · exact fun h => ⟨[], s, rfl, .nil, h⟩
    · rintro ⟨part, rest, rfl, hpart, h⟩
      obtain rfl := Text.caseless_nil_iff.1 hpart
      exact h
  | cons c behind ih =>
    rw [List.map_cons, List.cons_append, matchSteps_literal_iff]
    constructor
    · rintro ⟨d, others, rfl, hd, h⟩
      obtain ⟨part, rest, rfl, hpart, h⟩ := ih.1 h
      exact ⟨d :: part, rest, rfl, .cons hd hpart, h⟩
    · rintro ⟨part, rest, rfl, hpart, h⟩
      obtain ⟨d, others, rfl, hd, hothers⟩ := Text.caseless_cons_iff.1 hpart
      exact ⟨d, others ++ rest, rfl, hd, ih.2 ⟨others, rest, rfl, hothers, h⟩⟩

/-- A text goes through the steps of pieces when it is the pieces with no line feed between them. -/
lemma matchSteps_stepsOf_iff {pieces : List (List Char)} (hne : pieces ≠ []) :
    matchSteps (stepsOf pieces) s = true ↔ Text.Filled (· ≠ '\n') pieces s := by
  induction pieces generalizing s with
  | nil => exact absurd rfl hne
  | cons piece rest ih =>
    cases rest with
    | nil =>
      have hend : ∀ t, matchSteps [] t = true ↔ t = [] := fun t => by
        rw [matchSteps, List.isEmpty_iff]
      rw [stepsOf, ← List.append_nil (piece.map _), matchSteps_literals_iff,
        Text.filled_singleton_iff]
      constructor
      · rintro ⟨part, t, rfl, hpart, ht⟩
        obtain rfl := (hend t).1 ht
        rwa [List.append_nil]
      · exact fun h => ⟨s, [], (List.append_nil s).symm, h, (hend []).2 rfl⟩
    | cons next behind =>
      have hrest : next :: behind ≠ [] := List.cons_ne_nil next behind
      have hgap (between : List Char) : '\n' ∉ between ↔ ∀ c ∈ between, c ≠ '\n' :=
        ⟨fun h c hc he => h (he ▸ hc), fun h hmem => h '\n' hmem rfl⟩
      rw [stepsOf, matchSteps_literals_iff, Text.filled_cons_iff hrest]
      · constructor
        · rintro ⟨part, t, rfl, hpart, h⟩
          obtain ⟨between, u, rfl, hbetween, h⟩ := matchSteps_anything_iff.1 h
          exact ⟨part, between, u, rfl, hpart, (hgap between).1 hbetween, (ih hrest).1 h⟩
        · rintro ⟨part, between, u, rfl, hpart, hbetween, h⟩
          refine ⟨part, between ++ u, rfl, hpart, matchSteps_anything_iff.2 ?_⟩
          exact ⟨between, u, rfl, (hgap between).2 hbetween, (ih hrest).2 h⟩
      · exact hrest

lemma pieces_ofMatch_ne_nil (how : TextMatch) (literal : List Char) :
    (ofMatch how literal).pieces ≠ [] := by
  cases how with
  | like => exact Text.splitAt_ne_nil '%' literal
  | _ => exact List.cons_ne_nil _ _

/-- The pieces of a comparison fill a text when the comparison says so of it. -/
lemma filled_ofMatch_iff (gap : Char → Prop) (how : TextMatch) (literal : List Char) :
    Text.Filled gap (ofMatch how literal).pieces s ↔ how.Says gap literal s := by
  cases how with
  | contains =>
    change Text.Filled gap [[], literal, []] s ↔ _
    rw [Text.filled_nil_cons_iff (List.cons_ne_nil _ _)]
    simp only [Text.filled_pair_nil_iff]
    constructor
    · rintro ⟨before, _, rfl, hbefore, part, behind, rfl, hpart, hbehind⟩
      exact ⟨before, part, behind, rfl, hpart, hbefore, hbehind⟩
    · rintro ⟨before, part, behind, rfl, hpart, hbefore, hbehind⟩
      exact ⟨before, _, rfl, hbefore, part, behind, rfl, hpart, hbehind⟩
  | like => exact Iff.rfl
  | startsWith => exact Text.filled_pair_nil_iff
  | endsWith =>
    change Text.Filled gap [[], literal] s ↔ _
    rw [Text.filled_nil_cons_iff (List.cons_ne_nil _ _)]
    constructor
    · rintro ⟨before, part, rfl, hbefore, hpart⟩
      exact ⟨before, part, rfl, Text.filled_singleton_iff.1 hpart, hbefore⟩
    · rintro ⟨before, part, rfl, hpart, hbefore⟩
      exact ⟨before, part, rfl, hbefore, .last hpart⟩

/-- **A text matches the pattern of a comparison when the comparison says so of it, with no line
feed in a gap.** -/
theorem matchesText_ofMatch_iff (how : TextMatch) (literal : List Char) (t : String) :
    (ofMatch how literal).matchesText t = true ↔ how.Says (· ≠ '\n') literal t.toList := by
  rw [matchesText_eq, matchSteps_stepsOf_iff (pieces_ofMatch_ne_nil how literal),
    filled_ofMatch_iff]

end Pattern

/-- In a text of one line a gap can be anything. -/
lemma TextMatch.says_iff_of_not_mem {how : TextMatch} {literal s : List Char} (h : '\n' ∉ s) :
    how.Says (· ≠ '\n') literal s ↔ how.Says (fun _ => True) literal s := by
  rw [← Pattern.filled_ofMatch_iff, ← Pattern.filled_ofMatch_iff]
  constructor
  · exact fun hfilled => hfilled.mono fun _ _ _ => trivial
  · exact fun hfilled => hfilled.mono fun c hc _ he => h (he ▸ hc)

namespace Filter

variable {library : PatternLibrary}

lemma ofWhere_textual (schema : Schema) (typeName field : String) (how : TextMatch)
    (literal : String) :
    ofWhere schema typeName (some (.textual how field literal)) =
      .regexp field (Pattern.ofMatch how literal.toList) :=
  rfl

/-- The filter of a comparison asks whether the text matches its pattern. -/
lemma holds_textual (schema : Schema) (typeName id : String) {field t : String} {body : Record}
    (how : TextMatch) (literal : String) (h : body.resolve? field = some (.str t))
    (hcompiles : library.refusal? (Pattern.ofMatch how literal.toList).source = none) :
    (ofWhere schema typeName (some (.textual how field literal))).holds library id body =
      .ok ((Pattern.ofMatch how literal.toList).matchesText t) := by
  have hrefusal : refusal? library body field (Pattern.ofMatch how literal.toList) = none := by
    rw [refusal?, h, Option.bind_some, hcompiles]
  rw [ofWhere_textual, holds, hrefusal, fieldHolds, h]
  rfl

/-- A comparison whose pattern is refused fails for the reason that is given. -/
lemma holds_textual_of_refused (schema : Schema) (typeName id : String) {field t reason : String}
    {body : Record} (how : TextMatch) (literal : String) (h : body.resolve? field = some (.str t))
    (hrefused : library.refusal? (Pattern.ofMatch how literal.toList).source = some reason) :
    (ofWhere schema typeName (some (.textual how field literal))).holds library id body =
      .error (.patternRefused reason) := by
  rw [ofWhere_textual]
  apply holds_regexp_of_refused
  rw [refusal?, h, Option.bind_some, hrefused]

/-- **A compiled text comparison holds of a text exactly where the comparison says so of it, with no
line feed in a gap; so in a text of one line it says what it should.**  It is decided by the
expression that the pattern is written as, and fails only where the library refuses that. -/
theorem holds_textual_iff (library : PatternLibrary) (schema : Schema)
    (typeName id field t : String) (body : Record) (how : TextMatch) (literal : String)
    (h : body.resolve? field = some (.str t)) :
    let decision :=
      (ofWhere schema typeName (some (.textual how field literal))).holds library id body
    let refusal := library.refusal? (Pattern.ofMatch how literal.toList).source
    (∀ reason, refusal = some reason → decision = .error (.patternRefused reason)) ∧
    (refusal = none → ∃ found : Bool, decision = .ok found ∧
      (found = true ↔ how.Says (· ≠ '\n') literal.toList t.toList) ∧
      ('\n' ∉ t.toList → (found = true ↔ how.Says (fun _ => True) literal.toList t.toList)) ∧
      ∃ r, Regex.ofText? (Pattern.ofMatch how literal.toList).anchored = some r ∧
        (found = true ↔ Regex.Finds r t.toList)) := by
  intro decision refusal
  refine ⟨fun reason => holds_textual_of_refused schema typeName id how literal h,
    fun hcompiles => ?_⟩
  have hmatches := Pattern.matchesText_ofMatch_iff how literal.toList t
  refine ⟨_, holds_textual schema typeName id how literal h hcompiles, hmatches,
    fun hline => ?_, ?_⟩
  · exact hmatches.trans (TextMatch.says_iff_of_not_mem hline)
  · exact ⟨_, Pattern.ofText?_anchored _, (Pattern.finds_iff _ t).symm⟩

/-- A parenthesis is a character like any other, and the letter behind it is found in either
case. -/
theorem holds_textual_iff_parenthesis :
    let body : Record := [("title", .str "(Abc")]
    let library : PatternLibrary := .bounded 190000
    body.resolve? "title" = some (.str "(Abc") ∧
      library.refusal? (Pattern.ofMatch .startsWith "(a".toList).source = none ∧
      (ofWhere {} "item" (some (.textual .startsWith "title" "(a"))).holds library "x" body =
        .ok true ∧
      Regex.ofText? (Pattern.ofMatch .startsWith "(a".toList).anchored =
        some [.once .start, .once (.char '('), .once (.char 'a'), .many .any, .once .finish] := by
  intro body library
  have hbody : body.resolve? "title" = some (.str "(Abc") := by
    rfl
  have hcompiles : library.refusal? (Pattern.ofMatch .startsWith "(a".toList).source = none := by
    decide
  have hsays : TextMatch.startsWith.Says (fun _ => True) "(a".toList "(Abc".toList :=
    ⟨['(', 'A'], ['b', 'c'], rfl, .cons (by decide) (.cons (by decide) .nil), fun _ _ => trivial⟩
  obtain ⟨-, hdecided⟩ :=
    holds_textual_iff library {} "item" "x" "title" "(Abc" body .startsWith "(a" hbody
  obtain ⟨found, hfound, -, hline, -⟩ := hdecided hcompiles
  obtain rfl : found = true := (hline (by decide)).2 hsays
  exact ⟨hbody, hcompiles, hfound, rfl⟩

/-- A text that contains the literal in its second line is not found. -/
theorem holds_textual_second_line :
    let body : Record := [("t", .str "x\nb")]
    body.resolve? "t" = some (.str "x\nb") ∧
      TextMatch.contains.Says (fun _ => True) "b".toList "x\nb".toList ∧
      (ofWhere {} "item" (some (.textual .contains "t" "b"))).holds .unlimited "a" body =
        .ok false := by
  intro body
  refine ⟨?_, ?_, ?_⟩
  · rfl
  · have hpart : Text.Caseless "b".toList ['b'] := .cons (by decide) .nil
    exact ⟨['x', '\n'], ['b'], [], rfl, hpart, fun _ _ => trivial, fun _ _ => trivial⟩
  · rfl

end Filter

end CriteriaSearch
