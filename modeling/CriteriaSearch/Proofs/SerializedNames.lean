import CriteriaSearch.Declaration.Schema
import CriteriaSearch.Proofs.CasedWords
import CriteriaSearch.Proofs.TagReading
import Mathlib.Data.List.Induction

/-!
# Attributes under serialized names

A serializer writes the fields of a structure under names of its own: those of the fields, spelled
by the rule of the structure, unless a field is renamed.  The schema of a declared model has to have
its attributes under just these names, because documents are searched as they are written.
`Declaration.FollowsSerialization` says so for a declaration that the serializer accepts
(`Declaration.IsAccepted`, `FieldDeclaration.IsAccepted`).

A renaming may have a name for deserializing only.  To the serializer it then says nothing, and here
it is an error, on a skipped field too: `Declaration.follows_serialization_iff` has the condition.
-/

namespace CriteriaSearch

/-! ## Names -/

namespace Declaration

/-- A name without the mark of a raw identifier. -/
def unmarked : List Char → List Char
  | 'r' :: '#' :: rest => rest
  | s => s

/-- The rule by which a serializer spells the names of fields. -/
def rule? (d : Declaration) : Option Casing :=
  (Tag.serializedNames "rename_all" d.tags).head?.bind Casing.ofName?

lemma plainName_eq_self {s : List Char} (h : '#' ∉ s) : plainName s = s := by
  fun_cases plainName s with
  | case1 rest => exact absurd (by simp) h
  | case2 => rfl

/-- Identifiers have one mark at most. -/
lemma plainName_eq_unmarked {s : List Char} (h : '#' ∉ unmarked s) :
    plainName s = unmarked s := by
  revert h
  fun_cases unmarked s with
  | case1 rest => exact plainName_eq_self
  | case2 => exact plainName_eq_self

end Declaration

/-! ## Types -/

namespace FieldType

/-- A type without the wrappers that serialize as what they hold. -/
def unwrapped : FieldType → FieldType
  | named name argument =>
    if ["Option", "Box"].contains name then
      match argument with
      | some t => t.unwrapped
      | none => other
    else named name argument
  | reference t | parenthesized t => t.unwrapped
  | sequence => sequence
  | other => other

/-- Types of attributes, each with the names of the types that serialize as such. -/
def kinds : List (AttributeType × List String) :=
  [(.string, ["String", "str", "char", "Uuid"]),
    (.integer, ["i8", "i16", "i32", "i64", "i128", "isize", "u8", "u16", "u32", "u64", "u128",
      "usize"]),
    (.float, ["f32", "f64"]), (.boolean, ["bool"]),
    (.array, ["Vec", "VecDeque", "HashSet", "BTreeSet"]), (.date, ["NaiveDate"]),
    (.datetime, ["DateTime", "NaiveDateTime"])]

/-- The type of an attribute in a table; every unknown name is JSON. -/
def kindOf (name : String) : List (AttributeType × List String) → AttributeType
  | [] => .json
  | (kind, names) :: rest => if names.contains name then kind else kindOf name rest

/-- The type of the attribute for a type that is not wrapped. -/
def plainType : FieldType → AttributeType
  | sequence => .array
  | named name _ => kindOf name kinds
  | reference _ | parenthesized _ | other => .json

lemma attributeType_eq_kindOf {name : String} (h : ¬["Option", "Box"].contains name)
    (argument : Option FieldType) : (named name argument).attributeType = kindOf name kinds := by
  cases argument <;> rw [attributeType, if_neg h] <;>
    simp only [kinds, kindOf, List.contains_cons, List.contains_nil, Bool.or_false, beq_iff_eq]

/-- **A field has the attribute type of what its wrappers hold.** -/
theorem attributeType_eq (t : FieldType) : t.attributeType = t.unwrapped.plainType := by
  fun_induction unwrapped t with
  | case1 name hwrapper t ih => rw [attributeType, if_pos hwrapper, ih]
  | case2 name hwrapper => rw [attributeType, if_pos hwrapper, plainType]
  | case3 name argument hwrapper => exact attributeType_eq_kindOf hwrapper argument
  | case4 t ih | case5 t ih => rw [attributeType, ih]
  | case6 | case7 => rw [attributeType, plainType]

end FieldType

/-! ## Fields -/

namespace FieldDeclaration

/-- Whether a serializer accepts the tags of a field; others hold options of the model. -/
structure IsAccepted (f : FieldDeclaration) : Prop where
  tags : Tag.IsAccepted "rename" f.tags
  options : ∀ s ∈ Tag.settingsUnder "model" f.tags,
    ∃ option ∈ ["primary_key", "foreign_key", "skip"], ∃ atEnd,
      s = .named (some option) (.bare atEnd) false
  name : '#' ∉ Declaration.unmarked f.name.toList

/-- The name under which a field is serialized. -/
def serializedName (rule? : Option Casing) (f : FieldDeclaration) : String :=
  (Tag.serializedNames "rename" f.tags).head?.getD
    (String.ofList (rule?.elim id Casing.spell (Declaration.unmarked f.name.toList)))

/-- Whether a field has an option of the model. -/
def isFlagged (option : String) (f : FieldDeclaration) : Bool :=
  (Tag.settingsUnder "model" f.tags).any (Setting.isCalled option)

/-- The attribute that a field asks for. -/
def declaredAttribute (f : FieldDeclaration) : Attribute where
  type := f.type.unwrapped.plainType
  primaryKey := f.isFlagged "primary_key"
  foreignKey := f.isFlagged "foreign_key"

/-- A field that is not skipped declares its attribute under its serialized name. -/
def declared? (rule? : Option Casing) (f : FieldDeclaration) : Option (String × Attribute) :=
  if f.isFlagged "skip" then none else some (f.serializedName rule?, f.declaredAttribute)

lemma filterMap_declared? (rule? : Option Casing) (fields : List FieldDeclaration) :
    fields.filterMap (declared? rule?) =
      (fields.filter fun f => !f.isFlagged "skip").map fun f =>
        (f.serializedName rule?, f.declaredAttribute) := by
  induction fields with
  | nil => rfl
  | cons f rest ih =>
    cases hskip : f.isFlagged "skip" with
    | true =>
      have hnone : f.declared? rule? = none := if_pos hskip
      rw [List.filterMap_cons_none hnone, List.filter_cons_of_neg (by simp [hskip]), ih]
    | false =>
      have hsome : f.declared? rule? = some (f.serializedName rule?, f.declaredAttribute) :=
        if_neg (by simp [hskip])
      rw [List.filterMap_cons_some hsome, List.filter_cons_of_pos (by simp [hskip]), ih,
        List.map_cons]

end FieldDeclaration

namespace Declaration.FieldRole

/-- Sets the flag of an option. -/
def mark (r : FieldRole) (s : Setting) : FieldRole :=
  { r with
    primaryKey := r.primaryKey || s.isCalled "primary_key"
    foreignKey := r.foreignKey || s.isCalled "foreign_key"
    skipped := r.skipped || s.isCalled "skip" }

/-- Sets the name. -/
def rename (r : FieldRole) (name : String) : FieldRole :=
  { r with name := name }

lemma foldl_mark (settings : List Setting) (r : FieldRole) :
    settings.foldl mark r =
      { r with
        primaryKey := r.primaryKey || settings.any (Setting.isCalled "primary_key")
        foreignKey := r.foreignKey || settings.any (Setting.isCalled "foreign_key")
        skipped := r.skipped || settings.any (Setting.isCalled "skip") } := by
  induction settings generalizing r with
  | nil => simp
  | cons s rest ih => simp only [List.foldl_cons, ih, mark, List.any_cons, Bool.or_assoc]

lemma read_option {option : String} (h : option ∈ ["primary_key", "foreign_key", "skip"])
    (atEnd : Bool) (r : FieldRole) :
    Setting.read onModel r (.named (some option) (.bare atEnd) false) =
      .ok (r.mark (.named (some option) (.bare atEnd) false)) := by
  simp only [List.mem_cons, List.not_mem_nil, or_false] at h
  rcases h with rfl | rfl | rfl <;> simp [mark, Setting.isCalled] <;> rfl

lemma takes_rename : Tag.Takes onSerialization "rename" (fun _ => True) rename where
  name r value name hname _ := by
    rw [onSerialization, if_pos rfl, hname]
    rfl
  failure r value e he := by
    rw [onSerialization, if_pos rfl, he]
    rfl
  other r n value hn hpass := by
    rw [onSerialization, if_neg hn, hpass]
    rfl

end Declaration.FieldRole

lemma Declaration.casedName_eq {name : String} (h : '#' ∉ unmarked name.toList)
    (rule? : Option Casing) :
    casedName rule? name =
      String.ofList (rule?.elim id Casing.spell (unmarked name.toList)) := by
  rw [← plainName_eq_unmarked h]
  cases rule? with
  | none => rfl
  | some casing => exact congrArg String.ofList (casing.apply_eq_spell _)

namespace FieldDeclaration

variable {f : FieldDeclaration}

lemma IsAccepted.marks (h : f.IsAccepted) :
    Tag.Marks Declaration.FieldRole.onModel Declaration.FieldRole.mark
      (Tag.settingsUnder "model" f.tags) := by
  intro s hs
  obtain ⟨option, hoption, atEnd, rfl⟩ := h.options s hs
  exact ⟨.bare _ _, Declaration.FieldRole.read_option hoption atEnd⟩

/-- **An accepted field becomes the attribute it asks for, under its serialized name.** -/
theorem IsAccepted.attribute?_eq (h : f.IsAccepted) (hgives : Tag.GivesNames "rename" f.tags)
    (rule? : Option Casing) :
    f.attribute? rule? = .ok (f.declared? rule?) := by
  rw [attribute?, Declaration.FieldRole.takes_rename.readAll_tags_eq h.tags hgives
    (fun _ _ => trivial) h.marks (fun _ _ _ => rfl), Declaration.FieldRole.foldl_mark,
    Declaration.casedName_eq h.name, declared?, serializedName, declaredAttribute,
    ← FieldType.attributeType_eq]
  cases (Tag.serializedNames "rename" f.tags).head? <;> rfl

lemma IsAccepted.givesNames_of_attribute? (h : f.IsAccepted) {rule? : Option Casing}
    {attribute? : Option (String × Attribute)} (hok : f.attribute? rule? = .ok attribute?) :
    Tag.GivesNames "rename" f.tags := by
  obtain ⟨role, hrole, -⟩ := bind_eq_ok_iff.1 hok
  exact Declaration.FieldRole.takes_rename.givesNames_of_readAll h.tags hrole

lemma IsAccepted.eq_noSerializedName (h : f.IsAccepted) {rule? : Option Casing}
    {e : DeclarationError} (herror : f.attribute? rule? = .error e) : e = .noSerializedName := by
  rw [attribute?] at herror
  cases hrole : Tag.readAll Declaration.FieldRole.onModel Declaration.FieldRole.onSerialization
      { name := Declaration.casedName rule? f.name } f.tags with
  | ok role =>
    rw [hrole] at herror
    cases herror
  | error failure =>
    rw [hrole] at herror
    obtain rfl := Except.error.inj herror
    exact Declaration.FieldRole.takes_rename.eq_noSerializedName_of_readAll_tags h.tags
      (fun _ _ => trivial) h.marks hrole

end FieldDeclaration

/-! ## Structures -/

namespace Declaration.Heading

/-- Sets the identity. -/
def mark (h : Heading) (s : Setting) : Heading :=
  { h with identity := s.text?.getD h.identity }

/-- Sets the rule of a name. -/
def spell (h : Heading) (rule : String) : Heading :=
  { h with casing := Casing.ofName? rule }

lemma casing_foldl_mark (settings : List Setting) (h : Heading) :
    (settings.foldl mark h).casing = h.casing := by
  induction settings generalizing h with
  | nil => rfl
  | cons s rest ih =>
    rw [List.foldl_cons, ih]
    rfl

lemma takes_rename_all :
    Tag.Takes onSerialization "rename_all" (fun rule => ∃ casing : Casing, casing.name = rule)
      spell where
  name h value rule hrule hcasing := by
    obtain ⟨casing, rfl⟩ := hcasing
    rw [onSerialization, if_pos rfl, hrule, spell, Casing.ofName?_name]
    simp only [bind, Except.bind, Casing.ofName?_name]
    rfl
  failure h value e he := by
    rw [onSerialization, if_pos rfl, he]
    rfl
  other h n value hn hpass := by
    rw [onSerialization, if_neg hn, hpass]
    rfl

end Declaration.Heading

/-- The look-up in a schema finds the last declaration of a name. -/
lemma Schema.getElem?_ofList (attributes : List (String × Attribute)) (name : String) :
    (Schema.ofList attributes).attributes[name]? =
      (attributes.filter (·.1 == name)).getLast?.map (·.2) := by
  induction attributes using List.reverseRecOn with
  | nil => rfl
  | append_singleton done entry ih =>
    rw [Schema.ofList, List.foldl_concat, Std.TreeMap.getElem?_insert, List.filter_append]
    by_cases hname : entry.1 = name
    · rw [if_pos (Std.compare_eq_iff_eq.2 hname), List.filter_cons_of_pos (by simpa using hname),
        List.filter_nil, List.getLast?_concat]
      rfl
    · rw [if_neg (mt Std.compare_eq_iff_eq.1 hname),
        List.filter_cons_of_neg (by simpa using hname), List.filter_nil, List.append_nil]
      exact ih

namespace Declaration

/-- Whether a serializer accepts the tags of a structure; others hold an identity for the model. -/
structure IsAccepted (d : Declaration) : Prop where
  tags : Tag.IsAccepted "rename_all" d.tags
  options : ∀ s ∈ Tag.settingsUnder "model" d.tags, ∃ identity,
    s = .named (some "identity") (.text identity) false
  rules : ∀ rule ∈ Tag.serializedNames "rename_all" d.tags, ∃ casing : Casing, casing.name = rule

/-- Whether the schema of a structure has just the attributes that its fields ask for, each under
its serialized name.  Of fields that share a name the last one counts. -/
def FollowsSerialization (d : Declaration) (fields : List FieldDeclaration) : Prop :=
  ∃ m, d.model = .ok m ∧ ∀ name, m.schema.attributes[name]? =
    (fields.filter fun f => f.serializedName d.rule? == name && !f.isFlagged "skip").getLast?.map
      FieldDeclaration.declaredAttribute

variable {d : Declaration} {fields : List FieldDeclaration}

lemma IsAccepted.marks (h : d.IsAccepted) :
    Tag.Marks Heading.onModel Heading.mark (Tag.settingsUnder "model" d.tags) := by
  intro s hs
  obtain ⟨identity, rfl⟩ := h.options s hs
  exact ⟨.text _ _, fun _ => rfl⟩

lemma IsAccepted.exists_heading (h : d.IsAccepted) (hgives : Tag.GivesNames "rename_all" d.tags) :
    ∃ heading, Tag.readAll Heading.onModel Heading.onSerialization { identity := d.name } d.tags =
      .ok heading ∧ heading.casing = d.rule? := by
  refine ⟨_, Heading.takes_rename_all.readAll_tags_eq h.tags hgives h.rules h.marks
    (fun _ _ _ => rfl) _, ?_⟩
  rw [rule?]
  cases (Tag.serializedNames "rename_all" d.tags).head? with
  | none => exact Heading.casing_foldl_mark _ _
  | some rule => rfl

/-- **An accepted structure has the attributes that its fields ask for.** -/
lemma IsAccepted.followsSerialization (hd : d.IsAccepted) (hshape : d.shape = .structure fields)
    (hfields : ∀ f ∈ fields, f.IsAccepted) (hgives : Tag.GivesNames "rename_all" d.tags)
    (hgivesFields : ∀ f ∈ fields, Tag.GivesNames "rename" f.tags) :
    d.FollowsSerialization fields := by
  obtain ⟨heading, hheading, hcasing⟩ := hd.exists_heading hgives
  have hattributes : fields.mapM (FieldDeclaration.attribute? d.rule?) =
      .ok (fields.map (FieldDeclaration.declared? d.rule?)) :=
    mapM_eq_pure_map fun f hf => (hfields f hf).attribute?_eq (hgivesFields f hf) d.rule?
  have hmodel : d.model = .ok { identity := heading.identity, attributes :=
      (fields.map (FieldDeclaration.declared? d.rule?)).filterMap id } := by
    rw [model, hheading, hshape]
    change (fields.mapM (FieldDeclaration.attribute? heading.casing) >>= _) = _
    rw [hcasing, hattributes]
    rfl
  refine ⟨_, hmodel, fun name => ?_⟩
  rw [DeclaredModel.schema, Schema.getElem?_ofList, List.filterMap_map, Function.id_comp,
    FieldDeclaration.filterMap_declared?, List.filter_map, List.filter_filter, List.getLast?_map,
    Option.map_map]
  rfl

lemma IsAccepted.givesNames_of_model (hd : d.IsAccepted) (hshape : d.shape = .structure fields)
    (hfields : ∀ f ∈ fields, f.IsAccepted) {m : DeclaredModel} (hmodel : d.model = .ok m) :
    Tag.GivesNames "rename_all" d.tags ∧ ∀ f ∈ fields, Tag.GivesNames "rename" f.tags := by
  rw [model, hshape] at hmodel
  obtain ⟨heading, hheading, hmodel⟩ := bind_eq_ok_iff.1 hmodel
  obtain ⟨attributes, hattributes, -⟩ := bind_eq_ok_iff.1 hmodel
  refine ⟨Heading.takes_rename_all.givesNames_of_readAll hd.tags hheading, fun f hf => ?_⟩
  obtain ⟨attribute?, hok⟩ := exists_ok_of_mapM hattributes f hf
  exact (hfields f hf).givesNames_of_attribute? hok

lemma IsAccepted.eq_noSerializedName (hd : d.IsAccepted) (hshape : d.shape = .structure fields)
    (hfields : ∀ f ∈ fields, f.IsAccepted) {e : DeclarationError} (herror : d.model = .error e) :
    e = .noSerializedName := by
  rw [model, hshape] at herror
  cases hheading : Tag.readAll Heading.onModel Heading.onSerialization { identity := d.name }
      d.tags with
  | error failure =>
    rw [hheading] at herror
    obtain rfl := Except.error.inj herror
    exact Heading.takes_rename_all.eq_noSerializedName_of_readAll_tags hd.tags hd.rules hd.marks
      hheading
  | ok heading =>
    rw [hheading] at herror
    change (fields.mapM (FieldDeclaration.attribute? heading.casing) >>= _) = _ at herror
    cases hattributes : fields.mapM (FieldDeclaration.attribute? heading.casing) with
    | ok attributes =>
      rw [hattributes] at herror
      cases herror
    | error failure =>
      rw [hattributes] at herror
      obtain rfl := Except.error.inj herror
      obtain ⟨f, hf, hfailure⟩ := exists_error_of_mapM hattributes
      exact (hfields f hf).eq_noSerializedName hfailure

/-- **A schema follows serialization exactly where all renamings give names for serializing.**
Where one does not, a structure that the serializer accepts has no schema. -/
theorem follows_serialization_iff (hd : d.IsAccepted) (hshape : d.shape = .structure fields)
    (hfields : ∀ f ∈ fields, f.IsAccepted) :
    (d.FollowsSerialization fields ↔
      Tag.GivesNames "rename_all" d.tags ∧ ∀ f ∈ fields, Tag.GivesNames "rename" f.tags) ∧
    (d.FollowsSerialization fields ∨ d.model = .error .noSerializedName) := by
  refine ⟨⟨?_, fun h => hd.followsSerialization hshape hfields h.1 h.2⟩, ?_⟩
  · rintro ⟨m, hmodel, -⟩
    exact hd.givesNames_of_model hshape hfields hmodel
  · cases hmodel : d.model with
    | error e => exact .inr (congrArg _ (hd.eq_noSerializedName hshape hfields hmodel))
    | ok m =>
      obtain ⟨hgives, hgivesFields⟩ := hd.givesNames_of_model hshape hfields hmodel
      exact .inl (hd.followsSerialization hshape hfields hgives hgivesFields)

/-- Fields of a structure that is serialized in camel case: a wrapped number under a raw identifier,
a renamed reference with another setting, a field outside of the schema, and a plain one. -/
def ticketFields : List FieldDeclaration :=
  [{ name := "r#type", type := .named "Option" (some (.named "Box" (some (.named "i64" none))))
     tags := [⟨some "model", .list [.named (some "primary_key") (.bare true) false]⟩] },
    { name := "story_points", type := .reference (.parenthesized (.named "f64" none))
      tags := [⟨some "serde", .list [
        .named (some "bound") (.list [.named (some "serialize") (.text "T: Copy") false]) false,
        .named (some "rename") (.list [.named (some "deserialize") (.text "points") false,
          .named (some "serialize") (.text "estimate") false]) false]⟩] },
    { name := "secret_note", type := .named "String" none
      tags := [⟨some "model", .list [.named (some "skip") (.bare true) false]⟩] },
    { name := "due_day", type := .named "NaiveDate" none, tags := [] }]

/-- A structure with these fields. -/
def ticket : Declaration where
  name := "Ticket"
  tags := [⟨some "serde", .list [.named (some "rename_all") (.list [
    .named (some "serialize") (.text "camelCase") false,
    .named (some "deserialize") (.text "snake_case") false]) false]⟩]
  shape := .structure ticketFields

theorem follows_serialization_iff_ticket :
    ticket.IsAccepted ∧ (∀ f ∈ ticketFields, f.IsAccepted) ∧
      ticket.FollowsSerialization ticketFields ∧
      ticketFields.map (FieldDeclaration.declared? ticket.rule?) =
        [some ("type", { type := .integer, primaryKey := true }),
          some ("estimate", { type := .float }), none, some ("dueDay", { type := .date })] := by
  have hrule : (SettingValue.list [.named (some "serialize") (.text "camelCase") false,
      .named (some "deserialize") (.text "snake_case") false]).Renames :=
    .split (by simp [Setting.IsHalf])
  have hrename : (SettingValue.list [.named (some "deserialize") (.text "points") false,
      .named (some "serialize") (.text "estimate") false]).Renames :=
    .split (by simp [Setting.IsHalf])
  have hbound : (Setting.named (some "bound")
      (.list [.named (some "serialize") (.text "T: Copy") false]) false).IsWellFormed :=
    .list _ (by simpa using .text _ _)
  have hd : ticket.IsAccepted := by
    refine ⟨Tag.isAccepted_singleton_serde ?_ ?_ (by decide), List.forall_mem_nil _, ?_⟩
    · simpa using hrule.isWellFormed _
    · simpa [Setting.valuesOf] using hrule
    · exact List.forall_mem_singleton.2 ⟨.camel, rfl⟩
  have hfields : ∀ f ∈ ticketFields, f.IsAccepted := by
    simp only [ticketFields, List.forall_mem_cons]
    refine ⟨?_, ?_, ?_, ?_, List.forall_mem_nil _⟩
    · exact ⟨Tag.isAccepted_singleton_model _ _,
        List.forall_mem_singleton.2 ⟨_, by decide, true, rfl⟩, by decide⟩
    · refine ⟨Tag.isAccepted_singleton_serde ?_ ?_ (by decide), List.forall_mem_nil _, by decide⟩
      · simpa using ⟨hbound, hrename.isWellFormed _⟩
      · simpa [Setting.valuesOf] using hrename
    · exact ⟨Tag.isAccepted_singleton_model _ _,
        List.forall_mem_singleton.2 ⟨_, by decide, true, rfl⟩, by decide⟩
    · exact ⟨Tag.isAccepted_nil _, List.forall_mem_nil _, by decide⟩
  exact ⟨hd, hfields, (follows_serialization_iff hd rfl hfields).1.2 ⟨by decide, by decide⟩,
    by decide⟩

/-- A renaming for deserializing only leaves the name for serializing as it was, and there is no
schema. -/
theorem deserialize_only_has_no_schema :
    let f : FieldDeclaration :=
      { name := "a", type := .named "i64" none
        tags := [⟨some "serde", .list [.named (some "rename")
          (.list [.named (some "deserialize") (.text "de") false]) false]⟩] }
    let d : Declaration := { name := "Thing", tags := [], shape := .structure [f] }
    d.IsAccepted ∧ f.IsAccepted ∧ f.serializedName d.rule? = "a" ∧
      d.model = .error .noSerializedName ∧ ¬d.FollowsSerialization [f] := by
  intro f d
  have hrename : (SettingValue.list
      [.named (some "deserialize") (.text "de") false]).Renames := .split (by simp [Setting.IsHalf])
  have hf : f.IsAccepted := by
    refine ⟨Tag.isAccepted_singleton_serde ?_ ?_ (by decide), List.forall_mem_nil _, by decide⟩
    · simpa using hrename.isWellFormed _
    · simpa [Setting.valuesOf] using hrename
  have hmodel : d.model = .error .noSerializedName := rfl
  refine ⟨⟨Tag.isAccepted_nil _, List.forall_mem_nil _, List.forall_mem_nil _⟩, hf, by decide,
    hmodel, ?_⟩
  rintro ⟨m, hm, -⟩
  rw [hmodel] at hm
  cases hm

end Declaration

end CriteriaSearch
