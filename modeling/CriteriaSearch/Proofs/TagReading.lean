import CriteriaSearch.Declaration.Schema
import CriteriaSearch.Proofs.Successes

/-!
# Reading tags that a serializer accepts

A structure with tags for a serializer is compiled by that serializer too.  So its settings are
well-formed, and those that rename have the two forms that a serializer knows: a text for both
directions, or texts for single directions in parentheses (`SettingValue.Renames`).  It gives at
most one name for serializing (`Tag.IsAccepted`).

Such tags are read where every setting that renames has a name for serializing (`Tag.GivesNames`):
that name is set, and the settings of the model are marked one after another
(`Tag.Takes.readAll_tags_eq`).  They are not read otherwise (`Tag.Takes.givesNames_of_readAll`).
-/

namespace CriteriaSearch

/-! ## Settings -/

/-- A setting that reads to its end: a name, and behind it nothing, an expression, or settings of
that kind in parentheses. -/
inductive Setting.IsWellFormed : Setting → Prop
  | bare (name : Option String) (atEnd : Bool) : IsWellFormed (.named name (.bare atEnd) false)
  | text (name : Option String) (s : String) : IsWellFormed (.named name (.text s) false)
  | expression (name : Option String) {e : AssignedExpression} (hfailure : e.failure = none)
    (hunfinished : e.unfinished = none) : IsWellFormed (.named name (.expression e) false)
  | list (name : Option String) {settings : List Setting}
    (hsettings : ∀ s ∈ settings, IsWellFormed s) : IsWellFormed (.named name (.list settings) false)

namespace Setting

/-- Whether a setting has a name. -/
def isCalled (name : String) : Setting → Bool
  | .named n _ _ => n = some name
  | .malformed _ => false

/-- The text of a setting. -/
def text? : Setting → Option String
  | .named _ (.text s) _ => some s
  | _ => none

/-- The values of the settings of a name, in order. -/
def valuesOf (name : String) (settings : List Setting) : List SettingValue :=
  settings.filterMap fun
    | .named n value _ => if n = some name then some value else none
    | .malformed _ => none

lemma valuesOf_append (name : String) (settings others : List Setting) :
    valuesOf name (settings ++ others) = valuesOf name settings ++ valuesOf name others :=
  List.filterMap_append

lemma valuesOf_cons_self (name : String) (value : SettingValue) (trailing : Bool)
    (rest : List Setting) :
    valuesOf name (.named (some name) value trailing :: rest) = value :: valuesOf name rest :=
  List.filterMap_cons_some (if_pos rfl)

lemma valuesOf_cons_of_ne {name : String} {n : Option String} (h : n ≠ some name)
    (value : SettingValue) (trailing : Bool) (rest : List Setting) :
    valuesOf name (.named n value trailing :: rest) = valuesOf name rest :=
  List.filterMap_cons_none (if_neg h)

lemma mem_valuesOf_iff {name : String} {settings : List Setting} {value : SettingValue} :
    value ∈ valuesOf name settings ↔ ∃ trailing, .named (some name) value trailing ∈ settings := by
  rw [valuesOf, List.mem_filterMap]
  constructor
  · rintro ⟨_ | ⟨n, v, trailing⟩, hs, hvalue⟩
    · cases hvalue
    · obtain ⟨rfl, rfl⟩ : n = some name ∧ v = value := by simpa using hvalue
      exact ⟨trailing, hs⟩
  · rintro ⟨trailing, hs⟩
    exact ⟨_, hs, if_pos rfl⟩

/-- What is passed over, and has no group that goes on where it has to end. -/
def IsPassed (s : Setting) : Prop :=
  ∃ name value, s = .named name value false ∧ passValue value = .ok { result := () } ∧
    unfinishedIn? value = none

lemma passAll_eq_ok {settings : List Setting} (h : ∀ s ∈ settings, s.IsPassed) :
    passAll settings = .ok () := by
  induction settings with
  | nil => rfl
  | cons s rest ih =>
    rw [List.forall_mem_cons] at h
    obtain ⟨⟨name, value, rfl, hpass, -⟩, hrest⟩ := h
    rw [passAll, pass, hpass, ih hrest]
    rfl

lemma unfinished?_eq_none {settings : List Setting} (h : ∀ s ∈ settings, s.IsPassed) :
    unfinished? settings = none := by
  induction settings with
  | nil => rfl
  | cons s rest ih =>
    rw [List.forall_mem_cons] at h
    obtain ⟨⟨name, value, rfl, -, hunfinished⟩, hrest⟩ := h
    rw [unfinished?, hunfinished, ih hrest]
    rfl

/-- **Well-formed settings are passed over.** -/
lemma IsWellFormed.isPassed {s : Setting} (h : s.IsWellFormed) : s.IsPassed := by
  induction h with
  | bare name atEnd => exact ⟨name, .bare atEnd, rfl, rfl, rfl⟩
  | text name s => exact ⟨name, .text s, rfl, rfl, rfl⟩
  | @expression name e hfailure hunfinished =>
    refine ⟨name, .expression e, rfl, ?_, hunfinished⟩
    rw [passValue, hfailure]
  | @list name settings _ ih =>
    refine ⟨name, .list settings, rfl, ?_, unfinished?_eq_none ih⟩
    rw [passValue, passAll_eq_ok ih]
    rfl

/-- The name for serializing in a part of a renaming. -/
def serializingHalf? : Setting → Option String
  | .named n (.text s) _ => if n = some "serialize" then some s else none
  | _ => none

/-- A part of a renaming: a name for one direction. -/
def IsHalf (s : Setting) : Prop :=
  ∃ direction name, (direction = "serialize" ∨ direction = "deserialize") ∧
    s = .named (some direction) (.text name) false

end Setting

/-! ## Renaming -/

namespace SettingValue

/-- A value that renames: a name for both directions, or names for single ones. -/
inductive Renames : SettingValue → Prop
  | both (name : String) : Renames (.text name)
  | split {halves : List Setting} (hhalves : ∀ s ∈ halves, s.IsHalf) : Renames (.list halves)

/-- What renames is well-formed. -/
lemma Renames.isWellFormed {value : SettingValue} (h : value.Renames) (name : Option String) :
    (Setting.named name value false).IsWellFormed := by
  cases h with
  | both s => exact .text name s
  | split hhalves =>
    refine .list name fun s hs => ?_
    obtain ⟨direction, half, -, rfl⟩ := hhalves s hs
    exact .text _ half

/-- The names for serializing that a value gives. -/
def serializedNames : SettingValue → List String
  | text name => [name]
  | list halves => halves.filterMap Setting.serializingHalf?
  | bare _ | expression _ | stray => []

/-- Of the names for serializing the last one is kept. -/
lemma readAll_keepSerialized {halves : List Setting} (h : ∀ s ∈ halves, s.IsHalf)
    (found : Option String) :
    Setting.readAll Setting.keepSerialized found halves =
      .ok ((halves.filterMap Setting.serializingHalf?).getLast?.or found) := by
  induction halves generalizing found with
  | nil => rfl
  | cons half rest ih =>
    rw [List.forall_mem_cons] at h
    obtain ⟨⟨direction, name, hdirection, rfl⟩, hrest⟩ := h
    rw [Setting.readAll, List.foldlM_cons]
    rcases hdirection with rfl | rfl
    · have hhalf : Setting.serializingHalf? (.named (some "serialize") (.text name) false) =
          some name := by
        rw [Setting.serializingHalf?, if_pos rfl]
      rw [List.filterMap_cons_some hhalf, List.getLast?_cons]
      refine (ih hrest (some name)).trans ?_
      cases (rest.filterMap Setting.serializingHalf?).getLast? <;> rfl
    · have hhalf : Setting.serializingHalf? (.named (some "deserialize") (.text name) false) =
          none := by
        rw [Setting.serializingHalf?, if_neg (by decide)]
      rw [List.filterMap_cons_none hhalf]
      exact ih hrest found

/-- What renames is read for its last name for serializing. -/
lemma serializedName_eq {value : SettingValue} (h : value.Renames) :
    value.serializedName = value.serializedNames.getLast?.elim (.error .noSerializedName)
      fun name => .ok { result := name } := by
  cases h with
  | both s => rfl
  | @split halves hhalves =>
    rw [serializedName, readAll_keepSerialized hhalves, serializedNames, Option.or_none]
    cases (halves.filterMap Setting.serializingHalf?).getLast? <;> rfl

lemma serializedName_eq_ok {value : SettingValue} (h : value.Renames) {name : String}
    (hname : value.serializedNames = [name]) : value.serializedName = .ok { result := name } := by
  rw [serializedName_eq h, hname]
  rfl

lemma serializedName_eq_error {value : SettingValue} (h : value.Renames)
    (hnone : value.serializedNames = []) : value.serializedName = .error .noSerializedName := by
  rw [serializedName_eq h, hnone]
  rfl

end SettingValue

/-! ## Tags -/

/-- The settings that arguments list. -/
def TagArguments.listed : TagArguments → List Setting
  | .list settings => settings
  | .none | .assigned => []

namespace Tag

/-- The settings of all tags of a name, in order. -/
def settingsUnder (name : String) (tags : List Tag) : List Setting :=
  (tags.filter fun t => t.name = some name).flatMap fun t => t.arguments.listed

/-- What the settings of a key say to the serializer. -/
def renamings (key : String) (tags : List Tag) : List SettingValue :=
  Setting.valuesOf key (settingsUnder "serde" tags)

/-- The names for serializing that tags give under a key. -/
def serializedNames (key : String) (tags : List Tag) : List String :=
  (renamings key tags).flatMap SettingValue.serializedNames

/-- Whether a serializer accepts tags that rename under a key. -/
structure IsAccepted (key : String) (tags : List Tag) : Prop where
  listed : ∀ t ∈ tags, t.name = some "model" ∨ t.name = some "serde" →
    ∃ settings, t.arguments = .list settings
  wellFormed : ∀ s ∈ settingsUnder "serde" tags, s.IsWellFormed
  renames : ∀ value ∈ renamings key tags, value.Renames
  oneName : (serializedNames key tags).length ≤ 1

lemma isAccepted_nil (key : String) : IsAccepted key [] where
  listed := List.forall_mem_nil _
  wellFormed := List.forall_mem_nil _
  renames := List.forall_mem_nil _
  oneName := Nat.zero_le 1

/-- Settings of the model are nothing to a serializer. -/
lemma isAccepted_singleton_model (key : String) (settings : List Setting) :
    IsAccepted key [⟨some "model", .list settings⟩] where
  listed := by simp
  wellFormed := List.forall_mem_nil _
  renames := List.forall_mem_nil _
  oneName := Nat.zero_le 1

lemma isAccepted_singleton_serde {key : String} {settings : List Setting}
    (hwellFormed : ∀ s ∈ settings, s.IsWellFormed)
    (hrenames : ∀ value ∈ Setting.valuesOf key settings, value.Renames)
    (hone : ((Setting.valuesOf key settings).flatMap SettingValue.serializedNames).length ≤ 1) :
    IsAccepted key [⟨some "serde", .list settings⟩] := by
  have hunder : settingsUnder "serde" [⟨some "serde", .list settings⟩] = settings :=
    List.append_nil _
  refine ⟨by simp, hunder.symm ▸ hwellFormed, ?_, ?_⟩
  · rwa [renamings, hunder]
  · rwa [serializedNames, renamings, hunder]

/-- Every setting that renames gives a name for serializing. -/
def GivesNames (key : String) (tags : List Tag) : Prop :=
  ∀ value ∈ renamings key tags, value.serializedNames ≠ []

instance (key : String) (tags : List Tag) : Decidable (GivesNames key tags) :=
  inferInstanceAs (Decidable (∀ value ∈ renamings key tags, value.serializedNames ≠ []))

/-- A value that gives a name gives no other one. -/
lemma IsAccepted.exists_serializedNames_eq {key : String} {tags : List Tag}
    (haccepted : IsAccepted key tags) {value : SettingValue} (hvalue : value ∈ renamings key tags)
    (hgives : value.serializedNames ≠ []) :
    ∃ name ∈ serializedNames key tags, value.serializedNames = [name] := by
  have hsublist : value.serializedNames.Sublist (serializedNames key tags) :=
    List.sublist_flatten_of_mem (List.mem_map_of_mem hvalue)
  have hlength := Nat.le_trans hsublist.length_le haccepted.oneName
  cases hnames : value.serializedNames with
  | nil => exact absurd hnames hgives
  | cons name others =>
    rw [hnames, List.length_cons] at hlength
    obtain rfl : others = [] := List.length_eq_zero_iff.1 (by omega)
    exact ⟨name, hsublist.subset (hnames ▸ List.mem_cons_self), rfl⟩

lemma mem_settingsUnder_iff {name : String} {tags : List Tag} {s : Setting} :
    s ∈ settingsUnder name tags ↔ ∃ t ∈ tags, t.name = some name ∧ s ∈ t.arguments.listed := by
  simp [settingsUnder, and_assoc]

variable {name : String} {t : Tag} {rest : List Tag}

lemma settingsUnder_cons_of_eq (h : t.name = some name) :
    settingsUnder name (t :: rest) = t.arguments.listed ++ settingsUnder name rest := by
  rw [settingsUnder, List.filter_cons_of_pos (by simpa using h), List.flatMap_cons]
  rfl

lemma settingsUnder_cons_of_ne (h : t.name ≠ some name) :
    settingsUnder name (t :: rest) = settingsUnder name rest := by
  rw [settingsUnder, List.filter_cons_of_neg (by simpa using h)]
  rfl

/-- Settings that are passed over leave no group that goes on. -/
lemma read_list {σ : Type} {onSetting : Setting.Reader σ} {settings : List Setting}
    (h : ∀ s ∈ settings, s.IsWellFormed) (name : String) (state : σ) :
    read name onSetting state (.list settings) = Setting.readAll onSetting state settings := by
  have hunfinished := Setting.unfinished?_eq_none fun s hs => (h s hs).isPassed
  rw [read, Tag.settings]
  simp only [bind, Except.bind, hunfinished]
  cases Setting.readAll onSetting state settings <;> rfl

/-! ## Reading -/

/-- A reader of the settings of a serializer that takes the name for serializing from a key, where
the name is good, and passes over every other setting. -/
structure Takes {σ : Type} (onSetting : Setting.Reader σ) (key : String) (good : String → Prop)
    (take : σ → String → σ) : Prop where
  name : ∀ state value name, value.serializedName = .ok { result := name } → good name →
    onSetting state (some key) value = .ok { result := take state name }
  failure : ∀ state value e, value.serializedName = .error e →
    onSetting state (some key) value = .error e
  other : ∀ state n value, n ≠ some key → Setting.passValue value = .ok { result := () } →
    onSetting state n value = .ok { result := state }

/-- A reader of settings that reads well-formed settings of its own and leaves a mark for each. -/
def Marks {σ : Type} (onModel : Setting.Reader σ) (mark : σ → Setting → σ)
    (settings : List Setting) : Prop :=
  ∀ s ∈ settings, s.IsWellFormed ∧ ∀ state, Setting.read onModel state s = .ok (mark state s)

variable {σ : Type} {onSetting onModel : Setting.Reader σ} {key : String} {good : String → Prop}
  {take : σ → String → σ} {mark : σ → Setting → σ}

/-- Of the settings of a serializer the names are taken one after another. -/
lemma Takes.readAll_eq (htakes : Takes onSetting key good take) {settings : List Setting}
    (hwellFormed : ∀ s ∈ settings, s.IsWellFormed)
    (hnames : ∀ value ∈ Setting.valuesOf key settings, value.Renames ∧
      ∃ name, value.serializedNames = [name] ∧ good name) (state : σ) :
    Setting.readAll onSetting state settings =
      .ok (((Setting.valuesOf key settings).flatMap SettingValue.serializedNames).foldl take
        state) := by
  induction settings generalizing state with
  | nil => rfl
  | cons s rest ih =>
    rw [List.forall_mem_cons] at hwellFormed
    obtain ⟨n, value, rfl, hpass, -⟩ := hwellFormed.1.isPassed
    rw [Setting.readAll, List.foldlM_cons, Setting.read]
    by_cases hkey : n = some key
    · obtain rfl := hkey
      rw [Setting.valuesOf_cons_self, List.forall_mem_cons] at hnames
      obtain ⟨⟨hrenames, name, hname, hgood⟩, hrest⟩ := hnames
      have hserialized := SettingValue.serializedName_eq_ok hrenames hname
      rw [htakes.name state value name hserialized hgood, Setting.valuesOf_cons_self,
        List.flatMap_cons, hname]
      exact ih hwellFormed.2 hrest (take state name)
    · rw [Setting.valuesOf_cons_of_ne hkey] at hnames ⊢
      rw [htakes.other state n value hkey hpass]
      exact ih hwellFormed.2 hnames state

lemma readAll_cons_of_model (h : t.name = some "model") (state : σ) :
    readAll onModel onSetting state (t :: rest) =
      (read "model" onModel state t.arguments >>= fun state =>
        readAll onModel onSetting state rest) := by
  rw [readAll, List.foldlM_cons, h]
  rfl

lemma readAll_cons_of_serde (h : t.name = some "serde") (state : σ) :
    readAll onModel onSetting state (t :: rest) =
      (read "serde" onSetting state t.arguments >>= fun state =>
        readAll onModel onSetting state rest) := by
  rw [readAll, List.foldlM_cons, h]
  rfl

lemma readAll_cons_of_ne (hmodel : t.name ≠ some "model") (hserde : t.name ≠ some "serde")
    (state : σ) :
    readAll onModel onSetting state (t :: rest) = readAll onModel onSetting state rest := by
  rw [readAll, List.foldlM_cons]
  split
  · contradiction
  · contradiction
  · rfl

lemma Marks.read_eq (name : String) {settings : List Setting} (h : Marks onModel mark settings)
    (state : σ) : read name onModel state (.list settings) = .ok (settings.foldl mark state) := by
  rw [read_list fun s hs => (h s hs).1]
  induction settings generalizing state with
  | nil => rfl
  | cons s rest ih =>
    obtain ⟨hfirst, hrest⟩ := List.forall_mem_cons.1 h
    rw [Setting.readAll, List.foldlM_cons, hfirst.2 state]
    exact ih hrest (mark state s)

/-- Marks and names go to different places. -/
lemma foldl_mark_foldl_take (hcommutes : ∀ state name s,
    mark (take state name) s = take (mark state s) name) (names : List String)
    (settings : List Setting) (state : σ) :
    settings.foldl mark (names.foldl take state) =
      names.foldl take (settings.foldl mark state) := by
  have hname : ∀ state name, take (settings.foldl mark state) name =
      settings.foldl mark (take state name) := fun state name =>
    (List.foldl_hom (take · name) fun state s => hcommutes state name s).symm
  exact (List.foldl_hom (fun state => settings.foldl mark state) hname).symm

/-- Reading tags marks the settings of the model and takes the names for serializing. -/
lemma Takes.readAll_tags_eq_of_forall (htakes : Takes onSetting key good take) {tags : List Tag}
    (hlisted : ∀ t ∈ tags, t.name = some "model" ∨ t.name = some "serde" →
      ∃ settings, t.arguments = .list settings)
    (hwellFormed : ∀ s ∈ settingsUnder "serde" tags, s.IsWellFormed)
    (hnames : ∀ value ∈ renamings key tags, value.Renames ∧
      ∃ name, value.serializedNames = [name] ∧ good name)
    (hmarks : Marks onModel mark (settingsUnder "model" tags))
    (hcommutes : ∀ state name s, mark (take state name) s = take (mark state s) name)
    (state : σ) :
    readAll onModel onSetting state tags =
      .ok ((serializedNames key tags).foldl take
        ((settingsUnder "model" tags).foldl mark state)) := by
  -- A tag marks or names, and what it leaves is the state that the other tags begin with.
  induction tags generalizing state with
  | nil => rfl
  | cons t rest ih =>
    rw [List.forall_mem_cons] at hlisted
    by_cases hmodel : t.name = some "model"
    · obtain ⟨settings, hsettings⟩ := hlisted.1 (.inl hmodel)
      have hserde : t.name ≠ some "serde" := by
        rw [hmodel]
        decide
      have hown : settingsUnder "model" (t :: rest) = settings ++ settingsUnder "model" rest := by
        rw [settingsUnder_cons_of_eq hmodel, hsettings, TagArguments.listed]
      have hothers : settingsUnder "serde" (t :: rest) = settingsUnder "serde" rest :=
        settingsUnder_cons_of_ne hserde
      rw [hown, Marks, List.forall_mem_append] at hmarks
      rw [hothers] at hwellFormed
      rw [renamings, hothers] at hnames
      rw [readAll_cons_of_model hmodel, hsettings, Marks.read_eq _ hmarks.1, hown,
        List.foldl_append, serializedNames, renamings, hothers]
      exact ih hlisted.2 hwellFormed hnames hmarks.2 _
    · by_cases hserde : t.name = some "serde"
      · obtain ⟨settings, hsettings⟩ := hlisted.1 (.inr hserde)
        have hown : settingsUnder "serde" (t :: rest) =
            settings ++ settingsUnder "serde" rest := by
          rw [settingsUnder_cons_of_eq hserde, hsettings, TagArguments.listed]
        rw [hown, List.forall_mem_append] at hwellFormed
        rw [renamings, hown, Setting.valuesOf_append, List.forall_mem_append] at hnames
        rw [settingsUnder_cons_of_ne hmodel] at hmarks ⊢
        -- The names of this tag are taken before the marks of the others are set.
        rw [readAll_cons_of_serde hserde, hsettings, read_list hwellFormed.1,
          htakes.readAll_eq hwellFormed.1 hnames.1, serializedNames, renamings, hown,
          Setting.valuesOf_append, List.flatMap_append, List.foldl_append,
          ← foldl_mark_foldl_take hcommutes]
        exact ih hlisted.2 hwellFormed.2 hnames.2 hmarks _
      · rw [settingsUnder_cons_of_ne hserde] at hwellFormed
        rw [renamings, settingsUnder_cons_of_ne hserde] at hnames
        rw [settingsUnder_cons_of_ne hmodel] at hmarks ⊢
        rw [readAll_cons_of_ne hmodel hserde, serializedNames, renamings,
          settingsUnder_cons_of_ne hserde]
        exact ih hlisted.2 hwellFormed hnames hmarks state

/-- **Reading accepted tags marks the settings of the model and takes the name for serializing.** -/
theorem Takes.readAll_tags_eq (htakes : Takes onSetting key good take) {tags : List Tag}
    (haccepted : IsAccepted key tags) (hgives : GivesNames key tags)
    (hgood : ∀ name ∈ serializedNames key tags, good name)
    (hmarks : Marks onModel mark (settingsUnder "model" tags))
    (hcommutes : ∀ state name s, mark (take state name) s = take (mark state s) name)
    (state : σ) :
    readAll onModel onSetting state tags =
      .ok ((serializedNames key tags).head?.elim id (fun name state => take state name)
        ((settingsUnder "model" tags).foldl mark state)) := by
  have hnames : ∀ value ∈ renamings key tags, value.Renames ∧
      ∃ name, value.serializedNames = [name] ∧ good name := by
    intro value hvalue
    obtain ⟨name, hname, hvalueNames⟩ :=
      haccepted.exists_serializedNames_eq hvalue (hgives value hvalue)
    exact ⟨haccepted.renames value hvalue, name, hvalueNames, hgood name hname⟩
  rw [htakes.readAll_tags_eq_of_forall haccepted.listed haccepted.wellFormed hnames hmarks
    hcommutes]
  have hlength := haccepted.oneName
  cases hserialized : serializedNames key tags with
  | nil => rfl
  | cons name others =>
    rw [hserialized, List.length_cons] at hlength
    obtain rfl : others = [] := List.length_eq_zero_iff.1 (by omega)
    rfl

/-- Settings that are read all have a name for serializing where they rename. -/
lemma Takes.serializedNames_ne_nil_of_readAll (htakes : Takes onSetting key good take)
    {settings : List Setting} {state state' : σ}
    (h : Setting.readAll onSetting state settings = .ok state') {value : SettingValue}
    (hvalue : value ∈ Setting.valuesOf key settings) (hrenames : value.Renames) :
    value.serializedNames ≠ [] := by
  intro hnone
  obtain ⟨trailing, hs⟩ := Setting.mem_valuesOf_iff.1 hvalue
  obtain ⟨before, after, hread⟩ := exists_step_of_foldlM h _ hs
  obtain ⟨reading, hreading, -⟩ := bind_eq_ok_iff.1 hread
  rw [htakes.failure before value _ (SettingValue.serializedName_eq_error hrenames hnone)]
    at hreading
  cases hreading

/-- **Tags that are read give names for serializing.** -/
theorem Takes.givesNames_of_readAll (htakes : Takes onSetting key good take) {tags : List Tag}
    (haccepted : IsAccepted key tags) {state state' : σ}
    (h : readAll onModel onSetting state tags = .ok state') : GivesNames key tags := by
  intro value hvalue
  obtain ⟨trailing, hs⟩ := Setting.mem_valuesOf_iff.1 hvalue
  obtain ⟨t, ht, hname, hs⟩ := mem_settingsUnder_iff.1 hs
  obtain ⟨before, after, hread⟩ := exists_step_of_foldlM h t ht
  rw [hname] at hread
  obtain ⟨settings, hsettings, hread⟩ := bind_eq_ok_iff.1 hread
  obtain ⟨between, hread, -⟩ := bind_eq_ok_iff.1 hread
  have hlisted : t.arguments.listed = settings := by
    cases harguments : t.arguments <;> rw [harguments] at hsettings <;> cases hsettings
    rfl
  rw [hlisted] at hs
  exact htakes.serializedNames_ne_nil_of_readAll hread (Setting.mem_valuesOf_iff.2 ⟨trailing, hs⟩)
    (haccepted.renames value hvalue)

/-- Only the lack of a name for serializing is an error in accepted settings. -/
lemma Takes.eq_noSerializedName_of_readAll (htakes : Takes onSetting key good take)
    {settings : List Setting} (hwellFormed : ∀ s ∈ settings, s.IsWellFormed)
    (hnames : ∀ value ∈ Setting.valuesOf key settings, value.Renames ∧
      (value.serializedNames ≠ [] → ∃ name, value.serializedNames = [name] ∧ good name))
    {state : σ} {e : DeclarationError}
    (h : Setting.readAll onSetting state settings = .error e) : e = .noSerializedName := by
  obtain ⟨s, hs, state, hread⟩ := exists_error_of_foldlM h
  obtain ⟨n, value, rfl, hpass, -⟩ := (hwellFormed s hs).isPassed
  rw [Setting.read] at hread
  by_cases hkey : n = some key
  · obtain rfl := hkey
    obtain ⟨hrenames, hname⟩ := hnames value (Setting.mem_valuesOf_iff.2 ⟨false, hs⟩)
    by_cases hnone : value.serializedNames = []
    · rw [htakes.failure state value _ (SettingValue.serializedName_eq_error hrenames hnone)]
        at hread
      exact (Except.error.inj hread).symm
    · obtain ⟨name, hname, hgood⟩ := hname hnone
      rw [htakes.name state value name (SettingValue.serializedName_eq_ok hrenames hname) hgood]
        at hread
      cases hread
  · rw [htakes.other state n value hkey hpass] at hread
    cases hread

/-- **Only the lack of a name for serializing is an error in accepted tags.** -/
theorem Takes.eq_noSerializedName_of_readAll_tags (htakes : Takes onSetting key good take)
    {tags : List Tag} (haccepted : IsAccepted key tags)
    (hgood : ∀ name ∈ serializedNames key tags, good name)
    (hmarks : Marks onModel mark (settingsUnder "model" tags))
    {state : σ} {e : DeclarationError}
    (h : readAll onModel onSetting state tags = .error e) : e = .noSerializedName := by
  obtain ⟨t, ht, state, hread⟩ := exists_error_of_foldlM h
  split at hread
  · rename_i hname
    obtain ⟨settings, hsettings⟩ := haccepted.listed t ht (.inl hname)
    have hmarks : Marks onModel mark settings := fun s hs =>
      hmarks s (mem_settingsUnder_iff.2 ⟨t, ht, hname, hsettings ▸ hs⟩)
    rw [hsettings, hmarks.read_eq] at hread
    cases hread
  · rename_i hname
    obtain ⟨settings, hsettings⟩ := haccepted.listed t ht (.inr hname)
    have hunder : ∀ s ∈ settings, s ∈ settingsUnder "serde" tags := fun s hs =>
      mem_settingsUnder_iff.2 ⟨t, ht, hname, hsettings ▸ hs⟩
    have hwellFormed : ∀ s ∈ settings, s.IsWellFormed := fun s hs =>
      haccepted.wellFormed s (hunder s hs)
    rw [hsettings, read_list hwellFormed] at hread
    refine htakes.eq_noSerializedName_of_readAll hwellFormed (fun value hvalue => ?_) hread
    obtain ⟨trailing, hs⟩ := Setting.mem_valuesOf_iff.1 hvalue
    have hvalue := Setting.mem_valuesOf_iff.2 ⟨trailing, hunder _ hs⟩
    refine ⟨haccepted.renames value hvalue, fun hgives => ?_⟩
    obtain ⟨name, hname, hnames⟩ := haccepted.exists_serializedNames_eq hvalue hgives
    exact ⟨name, hnames, hgood name hname⟩
  · cases hread

end Tag

end CriteriaSearch
