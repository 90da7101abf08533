import CriteriaSearch.Pattern
import Mathlib.Data.List.Basic
import Mathlib.Tactic.Common

/-!
# Patterns as regular expressions

`Regex.ofText?` reads the part of the usual syntax that patterns are written in: plain characters, a
backslash in front of punctuation, the dot, the star, and the anchors `^` and `$`.  It reads nothing
else, in particular no operator without its backslash.

`Regex.Takes` says which part of a text an expression takes, between what is before that part and
what is behind it.  Letters stand for themselves in any case, the dot for every character but a line
feed, and the anchors for the two ends of the text.

The text of a pattern is read to the steps of the pattern (`Pattern.ofText?_anchored`), and the
expression is found in a text exactly where the text matches the pattern (`Pattern.finds_iff`).
-/

namespace CriteriaSearch

/-! ## Syntax -/

/-- What an expression asks for at one place. -/
inductive Regex.Item where
  | char (c : Char)
  | any
  | start
  | finish
  deriving DecidableEq

/-- An item, once or any number of times. -/
inductive Regex.Factor where
  | once (item : Item)
  | many (item : Item)
  deriving DecidableEq

/-- A regular expression: its factors, one behind the other. -/
abbrev Regex := List Regex.Factor

namespace Regex

/-- The characters that need a backslash to stand for themselves. -/
def operators : List Char :=
  ['\\', '.', '+', '*', '?', '(', ')', '|', '[', ']', Char.ofNat 0x7B, Char.ofNat 0x7D, '^', '$']

/-- Whether a backslash makes a character stand for itself: a character of ASCII that is no letter,
no digit and none of the two angles. -/
def isEscapable (c : Char) : Bool :=
  decide (c.toNat < 128) && !c.isAlphanum && c != '<' && c != '>'

/-- What the text of an expression consists of. -/
inductive Token where
  | item (item : Item)
  | star
  deriving DecidableEq

/-- The token of a character without a backslash. -/
def token? (c : Char) : Option Token :=
  if c = '.' then some (.item .any)
  else if c = '*' then some .star
  else if c = '^' then some (.item .start)
  else if c = '$' then some (.item .finish)
  else if operators.contains c then none
  else some (.item (.char c))

/-- Reads the tokens of a text. -/
def tokens? : List Char → Option (List Token)
  | [] => some []
  | [c] => (token? c).map fun t => [t]
  | c :: d :: rest =>
    if c = '\\' then
      if isEscapable d then (tokens? rest).map fun ts => .item (.char d) :: ts else none
    else (token? c).bind fun t => (tokens? (d :: rest)).map fun ts => t :: ts

/-- Takes tokens together: a star belongs to the item in front of it. -/
def factors? : List Token → Option Regex
  | [] => some []
  | .star :: _ => none
  | .item i :: .star :: rest => (factors? rest).map fun fs => .many i :: fs
  | .item i :: rest => (factors? rest).map fun fs => .once i :: fs

/-- Reads a regular expression. -/
def ofText? (s : List Char) : Option Regex :=
  (tokens? s).bind factors?

lemma tokens?_cons {c : Char} (h : c ≠ '\\') (rest : List Char) :
    tokens? (c :: rest) = (token? c).bind fun t => (tokens? rest).map fun ts => t :: ts := by
  cases rest with
  | nil =>
    rw [tokens?, tokens?]
    cases token? c <;> rfl
  | cons d behind => rw [tokens?, if_neg h]

/-! ## Meaning -/

/-- Whether an item takes a part of a text, between what is before it and what is behind it. -/
def Item.Takes : Item → (before part behind : List Char) → Prop
  | char c, _, part, _ => ∃ d, part = [d] ∧ Text.caselessEq c d = true
  | any, _, part, _ => ∃ d, part = [d] ∧ d ≠ '\n'
  | start, before, part, _ => part = [] ∧ before = []
  | finish, _, part, behind => part = [] ∧ behind = []

/-- Whether a factor takes a part of a text. -/
inductive Factor.Takes : Factor → (before part behind : List Char) → Prop
  | once {item : Item} {before part behind : List Char} (h : item.Takes before part behind) :
    Takes (.once item) before part behind
  | stop (item : Item) (before behind : List Char) : Takes (.many item) before [] behind
  | more {item : Item} {before part others behind : List Char}
    (h : item.Takes before part (others ++ behind))
    (hothers : Takes (.many item) (before ++ part) others behind) :
    Takes (.many item) before (part ++ others) behind

/-- Whether an expression takes a part of a text. -/
inductive Takes : Regex → (before part behind : List Char) → Prop
  | nil (before behind : List Char) : Takes [] before [] behind
  | cons {f : Factor} {fs : Regex} {before part others behind : List Char}
    (h : f.Takes before part (others ++ behind))
    (hothers : Takes fs (before ++ part) others behind) :
    Takes (f :: fs) before (part ++ others) behind

/-- Whether an expression takes some part of a text. -/
def Finds (r : Regex) (s : List Char) : Prop :=
  ∃ before part behind, s = before ++ part ++ behind ∧ Takes r before part behind

variable {before part behind : List Char} {fs : Regex}

lemma takes_cons_iff {f : Factor} : Takes (f :: fs) before part behind ↔
    ∃ first others, part = first ++ others ∧ f.Takes before first (others ++ behind) ∧
      Takes fs (before ++ first) others behind := by
  constructor
  · intro h
    cases h with
    | cons h hothers => exact ⟨_, _, rfl, h, hothers⟩
  · rintro ⟨first, others, rfl, h, hothers⟩
    exact .cons h hothers

lemma takes_once_iff {item : Item} : Takes (.once item :: fs) before part behind ↔
    ∃ first others, part = first ++ others ∧ item.Takes before first (others ++ behind) ∧
      Takes fs (before ++ first) others behind := by
  have honce (first others : List Char) : (Factor.once item).Takes before first others ↔
      item.Takes before first others := by
    constructor
    · rintro ⟨h⟩
      exact h
    · exact .once
  simp only [takes_cons_iff, honce]

/-- A dot with a star takes anything without a line feed. -/
lemma takes_many_any_iff : (Factor.many .any).Takes before part behind ↔ '\n' ∉ part := by
  constructor
  · intro h
    generalize hf : Factor.many .any = f at h
    induction h with
    | once h => cases hf
    | stop item before behind => exact List.not_mem_nil
    | more h hothers ih =>
      obtain rfl := Factor.many.inj hf
      obtain ⟨d, rfl, hd⟩ := h
      exact List.not_mem_cons_of_ne_of_not_mem hd.symm (ih rfl)
  · intro h
    induction part generalizing before with
    | nil => exact .stop .any before behind
    | cons d rest ih =>
      rw [List.mem_cons, not_or] at h
      have hfirst : Item.any.Takes before [d] (rest ++ behind) := ⟨d, rfl, Ne.symm h.1⟩
      exact .more hfirst (ih h.2)

end Regex

namespace Pattern

/-! ## The text of a pattern -/

/-- The factor of a step. -/
def Step.factor : Step → Regex.Factor
  | literal c => .once (.char c)
  | anything => .many .any

/-- The tokens of a step. -/
def Step.tokens : Step → List Regex.Token
  | literal c => [.item (.char c)]
  | anything => [.item .any, .star]

/-- The regular expression of steps. -/
def regexOf (steps : List Step) : Regex :=
  .once .start :: (steps.map Step.factor ++ [.once .finish])

lemma isEscapable_of_mem : ∀ c ∈ metacharacters, Regex.isEscapable c = true :=
  List.all_eq_true.1 (by decide)

lemma mem_metacharacters_of_mem_operators : ∀ c ∈ Regex.operators, c ∈ metacharacters := by
  have hall : Regex.operators.all metacharacters.contains = true := by
    decide
  exact fun c hc => List.contains_iff_mem.1 (List.all_eq_true.1 hall c hc)

lemma token?_of_not_mem {c : Char} (h : c ∉ metacharacters) :
    Regex.token? c = some (.item (.char c)) := by
  have hoperators : ∀ d ∈ Regex.operators, c ≠ d := by
    rintro d hd rfl
    exact h (mem_metacharacters_of_mem_operators c hd)
  have hnot : Regex.operators.contains c = false := by
    rw [← Bool.not_eq_true, List.contains_iff_mem]
    exact fun hc => hoperators c hc rfl
  rw [Regex.token?, if_neg (hoperators '.' (by decide)), if_neg (hoperators '*' (by decide)),
    if_neg (hoperators '^' (by decide)), if_neg (hoperators '$' (by decide)), hnot,
    if_neg Bool.false_ne_true]

/-- An escaped literal is read to its characters. -/
lemma tokens?_escape (literal rest : List Char) :
    Regex.tokens? (escape literal ++ rest) =
      (Regex.tokens? rest).map fun ts => literal.map (fun c => .item (.char c)) ++ ts := by
  induction literal with
  | nil => simp [escape]
  | cons c behind ih =>
    rw [escape_cons, List.append_assoc]
    by_cases hc : c ∈ metacharacters
    · rw [if_pos (List.contains_iff_mem.2 hc)]
      change Regex.tokens? ('\\' :: c :: (escape behind ++ rest)) = _
      rw [Regex.tokens?, if_pos rfl, if_pos (isEscapable_of_mem c hc), ih, Option.map_map]
      rfl
    · have hbackslash : c ≠ '\\' := fun he => hc (he ▸ by decide)
      rw [if_neg fun h => hc (List.contains_iff_mem.1 h)]
      change Regex.tokens? (c :: (escape behind ++ rest)) = _
      rw [Regex.tokens?_cons hbackslash, token?_of_not_mem hc, ih, Option.bind_some,
        Option.map_map]
      rfl

/-- The pieces of a pattern, written with `.*` between them, are read to their steps. -/
lemma tokens?_joinWith (pieces : List (List Char)) (rest : List Char) :
    Regex.tokens? (Text.joinWith ['.', '*'] (pieces.map escape) ++ rest) =
      (Regex.tokens? rest).map fun ts => (stepsOf pieces).flatMap Step.tokens ++ ts := by
  have hliterals (piece : List Char) : (piece.map Step.literal).flatMap Step.tokens =
      piece.map fun c => Regex.Token.item (.char c) := by
    rw [List.flatMap_map]
    exact List.flatMap_pure_eq_map _ _
  induction pieces with
  | nil => simp [Text.joinWith, stepsOf]
  | cons piece others ih =>
    cases others with
    | nil => rw [List.map_singleton, Text.joinWith, stepsOf, tokens?_escape, hliterals]
    | cons next behind =>
      have htext : Text.joinWith ['.', '*'] ((piece :: next :: behind).map escape) ++ rest =
          escape piece ++ ('.' :: '*' ::
            (Text.joinWith ['.', '*'] ((next :: behind).map escape) ++ rest)) := by
        simp [Text.joinWith]
      have hsteps : (stepsOf (piece :: next :: behind)).flatMap Step.tokens =
          piece.map (fun c => .item (.char c)) ++ [.item .any, .star] ++
            (stepsOf (next :: behind)).flatMap Step.tokens := by
        rw [stepsOf, List.flatMap_append, hliterals, List.append_assoc]
        · rfl
        · exact List.cons_ne_nil next behind
      have hgap (s : List Char) : Regex.tokens? ('.' :: '*' :: s) =
          (Regex.tokens? s).map fun ts => [.item .any, .star] ++ ts := by
        rw [Regex.tokens?_cons (by decide), Regex.tokens?_cons (by decide)]
        cases Regex.tokens? s <;> rfl
      rw [htext, tokens?_escape, hgap, ih, hsteps, Option.map_map, Option.map_map]
      congr 1
      funext ts
      simp

/-- No step begins with a star. -/
lemma tokens_ne_star_cons (steps : List Step) (ts : List Regex.Token) :
    steps.flatMap Step.tokens ++ [.item .finish] ≠ .star :: ts := by
  intro h
  cases steps with
  | nil => cases h
  | cons step rest => cases step <;> cases h

/-- So the tokens of every step are taken together on their own. -/
lemma factors?_steps (steps : List Step) :
    Regex.factors? (steps.flatMap Step.tokens ++ [.item .finish]) =
      some (steps.map Step.factor ++ [.once .finish]) := by
  induction steps with
  | nil => rfl
  | cons step rest ih =>
    rw [List.flatMap_cons, List.append_assoc, List.map_cons, List.cons_append]
    cases step with
    | literal c =>
      rw [Step.tokens, List.singleton_append, Regex.factors?, ih]
      · rfl
      · exact tokens_ne_star_cons rest
    | anything =>
      rw [Step.tokens, List.cons_append, List.singleton_append, Regex.factors?, ih]
      rfl

/-- **The text of a pattern is read to the steps of the pattern, between the anchors.** -/
theorem ofText?_anchored (p : Pattern) :
    Regex.ofText? p.anchored = some (regexOf (stepsOf p.pieces)) := by
  have hstart : Regex.tokens? p.anchored =
      (Regex.tokens? (p.body ++ ['$'])).map fun ts => .item .start :: ts :=
    Regex.tokens?_cons (by decide) _
  have hbody : Regex.tokens? (p.body ++ ['$']) =
      some ((stepsOf p.pieces).flatMap Step.tokens ++ [.item .finish]) :=
    tokens?_joinWith p.pieces ['$']
  rw [Regex.ofText?, hstart, hbody, Option.map_some, Option.bind_some, Regex.factors?,
    factors?_steps]
  · rfl
  · exact tokens_ne_star_cons (stepsOf p.pieces)

/-! ## What a pattern finds -/

/-- Anything is taken up to some place without a line feed before it. -/
lemma matchSteps_anything_iff {steps : List Step} {s : List Char} :
    matchSteps (.anything :: steps) s = true ↔
      ∃ gap rest, s = gap ++ rest ∧ '\n' ∉ gap ∧ matchSteps steps rest = true := by
  induction s with
  | nil =>
    rw [matchSteps]
    constructor
    · exact fun h => ⟨[], [], rfl, List.not_mem_nil, h⟩
    · rintro ⟨gap, rest, hs, -, h⟩
      obtain ⟨rfl, rfl⟩ := List.append_eq_nil_iff.1 hs.symm
      exact h
  | cons d behind ih =>
    rw [matchSteps, Bool.or_eq_true, Bool.and_eq_true, ih, bne_iff_ne]
    constructor
    · rintro (h | ⟨hd, gap, rest, rfl, hgap, h⟩)
      · exact ⟨[], d :: behind, rfl, List.not_mem_nil, h⟩
      · exact ⟨d :: gap, rest, rfl, List.not_mem_cons_of_ne_of_not_mem hd.symm hgap, h⟩
    · rintro ⟨gap, rest, hs, hgap, h⟩
      cases gap with
      | nil =>
        obtain rfl : d :: behind = rest := hs
        exact .inl h
      | cons e gap =>
        obtain ⟨rfl, rfl⟩ := List.cons.inj hs
        rw [List.mem_cons, not_or] at hgap
        exact .inr ⟨Ne.symm hgap.1, gap, rest, rfl, hgap.2, h⟩

lemma matchSteps_literal_iff {c : Char} {steps : List Step} {s : List Char} :
    matchSteps (.literal c :: steps) s = true ↔
      ∃ d rest, s = d :: rest ∧ Text.caselessEq c d = true ∧ matchSteps steps rest = true := by
  cases s with
  | nil => simp [matchSteps]
  | cons d rest => simp [matchSteps]

/-- Up to the end of the text an expression takes what goes through the steps. -/
lemma takes_steps_iff {steps : List Step} {before part behind : List Char} :
    Regex.Takes (steps.map Step.factor ++ [.once .finish]) before part behind ↔
      behind = [] ∧ matchSteps steps part = true := by
  induction steps generalizing before part with
  | nil =>
    rw [List.map_nil, List.nil_append, Regex.takes_once_iff]
    constructor
    · rintro ⟨first, others, rfl, ⟨rfl, hbehind⟩, hothers⟩
      obtain ⟨rfl, rfl⟩ := List.append_eq_nil_iff.1 hbehind
      exact ⟨rfl, by rw [List.append_nil, matchSteps]; rfl⟩
    · rintro ⟨rfl, hmatch⟩
      obtain rfl : part = [] := List.isEmpty_iff.1 (by rwa [matchSteps] at hmatch)
      exact ⟨[], [], rfl, ⟨rfl, rfl⟩, .nil _ _⟩
  | cons step rest ih =>
    rw [List.map_cons, List.cons_append]
    cases step with
    | literal c =>
      rw [Step.factor, Regex.takes_once_iff, matchSteps_literal_iff]
      constructor
      · rintro ⟨_, others, rfl, ⟨d, rfl, hd⟩, hothers⟩
        obtain ⟨hbehind, hmatch⟩ := ih.1 hothers
        exact ⟨hbehind, d, others, rfl, hd, hmatch⟩
      · rintro ⟨hbehind, d, others, rfl, hd, hmatch⟩
        exact ⟨[d], others, rfl, ⟨d, rfl, hd⟩, ih.2 ⟨hbehind, hmatch⟩⟩
    | anything =>
      rw [Step.factor, Regex.takes_cons_iff, matchSteps_anything_iff]
      constructor
      · rintro ⟨gap, others, rfl, hgap, hothers⟩
        obtain ⟨hbehind, hmatch⟩ := ih.1 hothers
        exact ⟨hbehind, gap, others, rfl, Regex.takes_many_any_iff.1 hgap, hmatch⟩
      · rintro ⟨hbehind, gap, others, rfl, hgap, hmatch⟩
        exact ⟨gap, others, rfl, Regex.takes_many_any_iff.2 hgap, ih.2 ⟨hbehind, hmatch⟩⟩

/-- **The expression of a pattern is found in a text exactly where the text matches the
pattern.** -/
theorem finds_iff (p : Pattern) (s : String) :
    Regex.Finds (regexOf (stepsOf p.pieces)) s.toList ↔ p.matchesText s = true := by
  rw [matchesText_eq]
  constructor
  · rintro ⟨before, part, behind, hs, h⟩
    obtain ⟨_, others, rfl, ⟨rfl, rfl⟩, hothers⟩ := Regex.takes_once_iff.1 h
    obtain ⟨rfl, hmatch⟩ := takes_steps_iff.1 hothers
    rwa [hs, List.nil_append, List.nil_append, List.append_nil]
  · intro h
    refine ⟨[], s.toList, [], by simp, ?_⟩
    exact Regex.takes_once_iff.2 ⟨[], s.toList, rfl, ⟨rfl, rfl⟩, takes_steps_iff.2 ⟨rfl, h⟩⟩

end Pattern

end CriteriaSearch
