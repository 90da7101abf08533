import CriteriaSearch.Connection.Wire
import CriteriaSearch.Json.Reader
import CriteriaSearch.Proofs.BulkOperations
import CriteriaSearch.Proofs.PrintedText
import CriteriaSearch.Text.Split

/-!
# Bulk bodies read back

A bulk body is lines of JSON, each closed by a line feed.  No printed value holds a line feed, so
the body falls into the lines that were written.  An action line says whether a line with a payload
follows, and then the two go together: reading from the front finds every operation again
(`Wire.readBulk?_bulkLines`), also where a payload looks like an action.

Where payloads with the same text are the same, the body tells the operations
(`Wire.bulkLines_framed`).
-/

namespace CriteriaSearch

/-! ## Operations in a body -/

/-- The kinds of bulk operations. -/
inductive BulkKind where
  | index
  | create
  | update
  | delete
  deriving DecidableEq

namespace BulkKind

/-- The name of an action. -/
def name : BulkKind → String
  | index => "index"
  | create => "create"
  | update => "update"
  | delete => "delete"

/-- The kind of an action of a name. -/
def ofName? (name : String) : Option BulkKind :=
  [index, create, update, delete].find? (·.name == name)

/-- Whether a line follows the action. -/
def hasPayload (kind : BulkKind) : Bool :=
  kind != delete

lemma ofName?_name (kind : BulkKind) : ofName? kind.name = some kind := by
  cases kind <;> rfl

end BulkKind

namespace BulkOperation

/-- The kind of an operation. -/
def kind : BulkOperation → BulkKind
  | index _ _ => .index
  | create _ _ => .create
  | update _ _ => .update
  | delete _ => .delete

/-- What follows the action of an operation. -/
def payload? : BulkOperation → Option Json
  | index _ source => some (.obj source)
  | create _ source => some (.obj source)
  | update _ partialSource => some (.obj [("doc", .obj partialSource)])
  | delete _ => none

end BulkOperation

namespace Wire

/-- What a body says of one operation: its kind, the identifier if it names one, and the text of
its payload if it has one. -/
structure Frame where
  kind : BulkKind
  id : Option String
  payload : Option String
  deriving DecidableEq

/-- What a body has to say of an operation. -/
def frameOf (op : BulkOperation) : Frame :=
  ⟨op.kind, op.id?, op.payload?.map Json.text⟩

/-! ## Reading -/

/-- Reads the line of an action. -/
def readAction? (line : String) : Option (BulkKind × Option String) := do
  match ← (← Json.Written.ofText? line).toJson? with
  | .obj [(name, .obj [])] => (BulkKind.ofName? name).map (·, none)
  | .obj [(name, .obj [("_id", .str id)])] => (BulkKind.ofName? name).map (·, some id)
  | _ => none

/-- Reads operations from the front of lines. -/
def readFrames? : List String → Option (List Frame)
  | [] => some []
  | line :: rest => do
    let (kind, id) ← readAction? line
    if kind.hasPayload then
      match rest with
      | payload :: rest => (readFrames? rest).map (⟨kind, id, some payload⟩ :: ·)
      | [] => none
    else (readFrames? rest).map (⟨kind, id, none⟩ :: ·)

/-- The lines of a text whose last line is closed as well. -/
def closedLines? (body : String) : Option (List String) :=
  let pieces := Text.splitString '\n' body
  if pieces.getLast? = some "" then some pieces.dropLast else none

/-- Reads the operations of a bulk body. -/
def readBulk? (body : String) : Option (List Frame) :=
  (closedLines? body).bind readFrames?

/-! ## Lines -/

/-- The texts of the lines of an operation. -/
def linesOf (op : BulkOperation) : List String :=
  (operationLines op).map Json.text

lemma linesOf_eq (op : BulkOperation) :
    linesOf op = (actionLine op.kind.name op.id?).text :: (op.payload?.map Json.text).toList := by
  cases op <;> rfl

lemma length_linesOf (op : BulkOperation) :
    (linesOf op).length = if op.kind = .delete then 1 else 2 := by
  cases op <;> rfl

lemma length_flatMap_linesOf (ops : List BulkOperation) : (ops.flatMap linesOf).length =
    2 * ops.countP (·.kind != .delete) + ops.countP (·.kind == .delete) := by
  induction ops with
  | nil => rfl
  | cons op rest ih =>
    rw [List.flatMap_cons, List.length_append, ih, length_linesOf, List.countP_cons,
      List.countP_cons]
    by_cases hkind : op.kind = .delete
    · simp [hkind]
      omega
    · simp [hkind]
      omega

/-- A line is the text of a value, and so it holds no line feed. -/
lemma newline_not_mem_of_mem_linesOf {ops : List BulkOperation} {line : String}
    (h : line ∈ ops.flatMap linesOf) : '\n' ∉ line.toList := by
  obtain ⟨op, -, hop⟩ := List.mem_flatMap.1 h
  obtain ⟨v, -, rfl⟩ := List.mem_map.1 hop
  exact (Json.printable_text v).not_mem (by decide)

lemma bulkLines_eq (ops : List BulkOperation) :
    bulkLines ops = String.join ((ops.flatMap linesOf).map (· ++ "\n")) := by
  unfold bulkLines linesOf
  rw [← List.map_flatMap, List.map_map]
  rfl

/-- **Lines without a line feed, each closed by one, are found again.** -/
lemma splitString_join {lines : List String} (h : ∀ line ∈ lines, '\n' ∉ line.toList) :
    Text.splitString '\n' (String.join (lines.map (· ++ "\n"))) = lines ++ [""] := by
  induction lines with
  | nil => rfl
  | cons line rest ih =>
    rw [List.forall_mem_cons] at h
    have htext : (String.join ((line :: rest).map (· ++ "\n"))).toList =
        line.toList ++ '\n' :: (String.join (rest.map (· ++ "\n"))).toList := by
      simp [String.join_cons]
    rw [Text.splitString, htext, Text.splitAt_append_cons, Text.splitAt_of_not_mem h.1,
      List.map_append, List.map_singleton, String.ofList_toList]
    exact congrArg (line :: ·) (ih h.2)

lemma closedLines?_bulkLines (ops : List BulkOperation) :
    closedLines? (bulkLines ops) = some (ops.flatMap linesOf) := by
  rw [closedLines?, bulkLines_eq, splitString_join fun _ => newline_not_mem_of_mem_linesOf]
  simp

/-! ## Actions -/

section Actions

open Json

lemma lexes_entry {v : Json} {tokens : List Json.Token} (key : String)
    (h : Lexes v.text.toList tokens) :
    Lexes (textEntries [(key, v)]).toList (.text (some key) :: .colon :: tokens) := by
  have hcolon : Lexes [':'] [.colon] := lexes_of_lexToken (by decide) fun _ => rfl
  have htext : (textEntries [(key, v)]).toList =
      (quoted key).toList ++ ([':'] ++ v.text.toList) := by
    simp [textEntries]
  rw [htext]
  exact lexes_append (lexes_quoted key) (lexes_append hcolon h)

lemma lexes_obj {entries : Record} {tokens : List Json.Token}
    (h : Lexes (textEntries entries).toList tokens) :
    Lexes (Json.obj entries).text.toList (.openObject :: (tokens ++ [.closeObject])) := by
  have hopen : Lexes "\x7b".toList [.openObject] := lexes_of_lexToken (by decide) fun _ => rfl
  have hclose : Lexes "\x7d".toList [.closeObject] := lexes_of_lexToken (by decide) fun _ => rfl
  rw [text, String.toList_append, String.toList_append, List.append_assoc]
  exact lexes_append hopen (lexes_append h hclose)

lemma lexes_empty : Lexes (textEntries []).toList [] :=
  ⟨Nat.le_refl 0, fun fuel rest => by simp [textEntries]⟩

/-- **An action line tells its kind and its identifier.** -/
lemma readAction?_actionLine (kind : BulkKind) (id : Option String) :
    readAction? (actionLine kind.name id).text = some (kind, id) := by
  cases id with
  | none =>
    have hlexes := lexes_obj (lexes_entry kind.name (lexes_obj lexes_empty))
    have hread : Written.ofText? (actionLine kind.name none).text =
        some (.obj [(some kind.name, .obj [])]) := by
      rw [Written.ofText?, actionLine, hlexes.tokens?]
      rfl
    rw [readAction?, hread]
    change (BulkKind.ofName? kind.name).map _ = _
    rw [BulkKind.ofName?_name]
    rfl
  | some id =>
    have hid : Lexes (Json.str id).text.toList [.text (some id)] := lexes_quoted id
    have hlexes := lexes_obj (lexes_entry kind.name (lexes_obj (lexes_entry "_id" hid)))
    have hread : Written.ofText? (actionLine kind.name (some id)).text =
        some (.obj [(some kind.name, .obj [(some "_id", .scalar (.str id))])]) := by
      rw [Written.ofText?, actionLine, hlexes.tokens?]
      rfl
    rw [readAction?, hread]
    change (BulkKind.ofName? kind.name).map _ = _
    rw [BulkKind.ofName?_name]
    rfl

end Actions

/-! ## Operations -/

lemma readFrames?_append (op : BulkOperation) (rest : List String) :
    readFrames? (linesOf op ++ rest) = (readFrames? rest).map (frameOf op :: ·) := by
  rw [linesOf_eq, List.cons_append, readFrames?, readAction?_actionLine]
  cases op <;> rfl

/-- **A bulk body reads back as what it says of its operations.** -/
theorem readBulk?_bulkLines (ops : List BulkOperation) :
    readBulk? (bulkLines ops) = some (ops.map frameOf) := by
  rw [readBulk?, closedLines?_bulkLines, Option.bind_some]
  induction ops with
  | nil => rfl
  | cons op rest ih =>
    rw [List.flatMap_cons, readFrames?_append, ih, Option.map_some, List.map_cons]

/-- An operation is told by its frame where the text of its payload tells the payload. -/
lemma eq_of_frameOf_eq {op other : BulkOperation} (h : frameOf other = frameOf op)
    (hprinting : ∀ v ∈ op.payload?, ∀ w ∈ other.payload?, v.text = w.text → v = w) :
    other = op := by
  obtain ⟨hkind, hid, hpayload⟩ := Frame.mk.inj h
  have hsame : other.payload? = op.payload? := by
    cases hop : op.payload? with
    | none =>
      rw [hop] at hpayload
      exact Option.map_eq_none_iff.1 hpayload
    | some v =>
      rw [hop] at hpayload
      obtain ⟨w, hw, htext⟩ := Option.map_eq_some_iff.1 hpayload
      rw [hw, hprinting v hop w hw htext.symm]
  cases op <;> cases other <;>
    simp_all [BulkOperation.kind, BulkOperation.id?, BulkOperation.payload?]

lemma eq_of_map_frameOf_eq {ops others : List BulkOperation}
    (h : others.map frameOf = ops.map frameOf)
    (hprinting : ∀ op ∈ ops, ∀ other ∈ others,
      ∀ v ∈ op.payload?, ∀ w ∈ other.payload?, v.text = w.text → v = w) : others = ops := by
  induction ops generalizing others with
  | nil => exact List.map_eq_nil_iff.1 h
  | cons op rest ih =>
    obtain ⟨other, later, rfl, hfirst, hlater⟩ := List.map_eq_cons_iff.1 h
    rw [List.forall_mem_cons] at hprinting
    have hop := eq_of_frameOf_eq hfirst (hprinting.1 other List.mem_cons_self)
    have hrest := ih hlater fun op hmem other hother =>
      hprinting.2 op hmem other (List.mem_cons_of_mem _ hother)
    rw [hop, hrest]

/-- **Bulk bodies are framed without ambiguity.**  A body is lines that are closed by a line feed
and hold no other, one for a deletion and two for any other operation; reading it from the front
finds the kind, the identifier and the text of the payload of each operation again; and two bodies
are the same only for the same operations, if payloads of theirs that are printed alike are the
same. -/
theorem bulkLines_framed (ops : List BulkOperation) :
    (∃ lines : List String, bulkLines ops = String.join (lines.map (· ++ "\n")) ∧
      (∀ line ∈ lines, '\n' ∉ line.toList) ∧
      lines.length = 2 * ops.countP (·.kind != .delete) + ops.countP (·.kind == .delete)) ∧
      readBulk? (bulkLines ops) = some (ops.map frameOf) ∧
      ∀ others : List BulkOperation,
        (∀ op ∈ ops, ∀ other ∈ others, ∀ v ∈ op.payload?, ∀ w ∈ other.payload?,
          v.text = w.text → v = w) →
        bulkLines others = bulkLines ops → others = ops := by
  refine ⟨⟨ops.flatMap linesOf, bulkLines_eq ops, fun _ => newline_not_mem_of_mem_linesOf,
    length_flatMap_linesOf ops⟩, readBulk?_bulkLines ops, fun others hprinting h => ?_⟩
  have hread := congrArg readBulk? h
  rw [readBulk?_bulkLines, readBulk?_bulkLines] at hread
  exact eq_of_map_frameOf_eq (Option.some.inj hread) hprinting

/-- A document that looks like the action of a deletion is not taken for one, nor does the line feed
in its identifier end a line. -/
theorem bulkLines_framed_lookalike :
    let document : Record := [("delete", .obj [("_id", .str "a\nb")])]
    let lookalike : List BulkOperation := [.index none [], .index none document]
    let deletion : List BulkOperation := [.index none [], .delete "a\nb"]
    readBulk? (bulkLines lookalike) = some (lookalike.map frameOf) ∧
      (∀ op ∈ lookalike, ∀ other ∈ deletion, ∀ v ∈ op.payload?, ∀ w ∈ other.payload?,
        v.text = w.text → v = w) ∧
      bulkLines deletion ≠ bulkLines lookalike := by
  intro document lookalike deletion
  have hprinting : ∀ op ∈ lookalike, ∀ other ∈ deletion, ∀ v ∈ op.payload?, ∀ w ∈ other.payload?,
      v.text = w.text → v = w := by
    have hother : (Json.obj document).text ≠ (Json.obj []).text := by
      decide
    simp [lookalike, deletion, BulkOperation.payload?, hother]
  have hframed := bulkLines_framed lookalike
  refine ⟨hframed.2.1, hprinting, fun h => ?_⟩
  have hsame := hframed.2.2 deletion hprinting h
  simp [lookalike, deletion] at hsame

end Wire

end CriteriaSearch
