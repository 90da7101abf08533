import CriteriaSearch.Pattern
import Mathlib.Data.List.Basic
import Mathlib.Tactic.Common

/-!
# Pieces read back from the text of a pattern

The text of a pattern says what its pieces are.  `Pattern.readPieces?` reads it from its front: a
character behind a backslash is that character, `.*` ends a piece, and every other character is
itself, unless it means something in a regular expression, which is refused.

Nothing is refused, since an escaped piece has no such character without its backslash, and the
pieces of the pattern come back (`readPieces?_body`).  So patterns of one text have the same pieces
(`body_inj`), and the pieces between percent signs give back the text that they were cut from.
-/

namespace CriteriaSearch.Pattern

/-- The pieces with one more character in front of the first. -/
def prepend (c : Char) : List (List Char) → List (List Char)
  | [] => [[c]]
  | piece :: rest => (c :: piece) :: rest

/-- Reads the text of a pattern to its pieces; a metacharacter without a backslash is refused,
unless it belongs to `.*`. -/
def readPieces? : List Char → Option (List (List Char))
  | [] => some [[]]
  | '\\' :: c :: rest => (readPieces? rest).map (prepend c)
  | '.' :: '*' :: rest => (readPieces? rest).map ([] :: ·)
  | c :: rest =>
    if metacharacters.contains c then none else (readPieces? rest).map (prepend c)

/-! ## Literal texts -/

lemma foldr_prepend (literal piece : List Char) (rest : List (List Char)) :
    literal.foldr prepend (piece :: rest) = (literal ++ piece) :: rest := by
  induction literal with
  | nil => rfl
  | cons c behind ih => rw [List.foldr_cons, ih, prepend, List.cons_append]

/-- A character without a meaning of its own is read as itself. -/
lemma readPieces?_cons {c : Char} (h : c ∉ metacharacters) (rest : List Char) :
    readPieces? (c :: rest) = (readPieces? rest).map (prepend c) := by
  have hbackslash : c ≠ '\\' := fun he => h (he ▸ by decide)
  have hdot : c ≠ '.' := fun he => h (he ▸ by decide)
  rw [readPieces?.eq_4, if_neg fun hc => h (List.contains_iff_mem.1 hc)]
  · exact fun _ _ he => absurd he hbackslash
  · exact fun _ he => absurd he hdot

/-- An escaped literal is read to its characters. -/
lemma readPieces?_escape (literal rest : List Char) :
    readPieces? (escape literal ++ rest) =
      (readPieces? rest).map fun pieces => literal.foldr prepend pieces := by
  induction literal with
  | nil => simp [escape]
  | cons c behind ih =>
    rw [escape_cons, List.append_assoc]
    by_cases hc : c ∈ metacharacters
    · rw [if_pos (List.contains_iff_mem.2 hc)]
      change readPieces? ('\\' :: c :: (escape behind ++ rest)) = _
      rw [readPieces?, ih, Option.map_map]
      rfl
    · rw [if_neg fun h => hc (List.contains_iff_mem.1 h), List.singleton_append,
        readPieces?_cons hc, ih, Option.map_map]
      rfl

/-! ## Whole patterns -/

/-- **Reading the text of a pattern meets no metacharacter out of place and gives its pieces.** -/
lemma readPieces?_body {p : Pattern} (h : p.pieces ≠ []) : readPieces? p.body = some p.pieces := by
  obtain ⟨pieces⟩ := p
  change readPieces? (Text.joinWith ['.', '*'] (pieces.map escape)) = some pieces
  induction pieces with
  | nil => exact absurd rfl h
  | cons piece others ih =>
    cases others with
    | nil =>
      have hone := readPieces?_escape piece []
      rw [List.append_nil] at hone
      rw [List.map_singleton, Text.joinWith, hone, readPieces?, Option.map_some, foldr_prepend,
        List.append_nil]
    | cons next behind =>
      have hgap : Text.joinWith ['.', '*'] ((piece :: next :: behind).map escape) =
          escape piece ++ ('.' :: '*' ::
            Text.joinWith ['.', '*'] ((next :: behind).map escape)) := by
        simp [Text.joinWith]
      rw [hgap, readPieces?_escape, readPieces?, ih (List.cons_ne_nil next behind),
        Option.map_some, Option.map_some, foldr_prepend, List.append_nil]

/-- Patterns of one text have the same pieces. -/
lemma body_inj {p q : Pattern} (hp : p.pieces ≠ []) (hq : q.pieces ≠ []) (h : p.body = q.body) :
    p.pieces = q.pieces := by
  have hread := congrArg readPieces? h
  rw [readPieces?_body hp, readPieces?_body hq] at hread
  exact Option.some.inj hread

lemma pieces_like_ne_nil (p : List Char) : (like p).pieces ≠ [] :=
  Text.splitAt_ne_nil '%' p

/-- The text of a pattern tells what stood between and beside its percent signs. -/
lemma like_inj {p q : List Char} (h : (like p).body = (like q).body) : p = q := by
  have hpieces : Text.splitAt '%' p = Text.splitAt '%' q :=
    body_inj (pieces_like_ne_nil p) (pieces_like_ne_nil q) h
  rw [← Text.joinWith_splitAt '%' p, hpieces, Text.joinWith_splitAt]

/-! ## Literals as patterns with percent signs -/

section Literals

variable {literal : List Char} (h : '%' ∉ literal)
include h

lemma like_literal_percent : like (literal ++ ['%']) = startsWith literal := by
  rw [like, Text.splitAt_append_cons, Text.splitAt_of_not_mem h]
  rfl

lemma like_percent_literal : like ('%' :: literal) = endsWith literal := by
  rw [like, ← List.nil_append ('%' :: literal), Text.splitAt_append_cons, Text.splitAt_of_not_mem h]
  rfl

lemma like_percent_literal_percent : like ('%' :: literal ++ ['%']) = contains literal := by
  rw [like, Text.splitAt_append_cons, ← List.nil_append ('%' :: literal), Text.splitAt_append_cons,
    Text.splitAt_of_not_mem h]
  rfl

end Literals

/-- **The text of a pattern decodes uniquely.**  Reading it gives the pieces between the percent
signs, so no two patterns are written alike, and a literal anywhere, in front or at the end is
written as the pattern with percent signs around, behind or before it. -/
theorem bodies_decode_uniquely (p : List Char) :
    (∃ pieces, readPieces? (like p).body = some pieces ∧ pieces ≠ [] ∧
      Text.joinWith ['%'] pieces = p ∧ ∀ piece ∈ pieces, '%' ∉ piece) ∧
    (∀ q, (like p).body = (like q).body ↔ p = q) ∧
    ('%' ∉ p → (contains p).body = (like ('%' :: p ++ ['%'])).body ∧
      (startsWith p).body = (like (p ++ ['%'])).body ∧
      (endsWith p).body = (like ('%' :: p)).body) := by
  have hpieces := pieces_like_ne_nil p
  refine ⟨⟨Text.splitAt '%' p, readPieces?_body hpieces, hpieces, Text.joinWith_splitAt '%' p, ?_⟩,
    fun q => ⟨like_inj, ?_⟩, ?_⟩
  · exact fun piece hpiece => Text.not_mem_of_mem_splitAt hpiece
  · rintro rfl
    rfl
  · intro h
    rw [like_percent_literal_percent h, like_literal_percent h, like_percent_literal h]
    exact ⟨rfl, rfl, rfl⟩

/-- A literal that looks like what stands between pieces. -/
theorem bodies_decode_uniquely_dot_star :
    '%' ∉ ['.', '*', '\\'] ∧
      (contains ['.', '*', '\\']).body = (like ['%', '.', '*', '\\', '%']).body ∧
      (startsWith ['.', '*', '\\']).body = (like ['.', '*', '\\', '%']).body ∧
      (endsWith ['.', '*', '\\']).body = (like ['%', '.', '*', '\\']).body ∧
      readPieces? ".*\\.\\*\\\\.*".toList = some [[], ['.', '*', '\\'], []] := by
  have hliteral : '%' ∉ ['.', '*', '\\'] := by
    decide
  obtain ⟨hcontains, hstarts, hends⟩ := (bodies_decode_uniquely ['.', '*', '\\']).2.2 hliteral
  exact ⟨hliteral, hcontains, hstarts, hends, by decide⟩

end CriteriaSearch.Pattern
