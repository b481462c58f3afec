import ShellVet.Proofs.Config.Kept
import ShellVet.Proofs.Json.Merged

/-!
# The configuration after changes

Changes make of a configuration another one (`changed`), or are refused, and this hangs on the
changes alone (`Refuses`): merging them with what was loaded, and reading the settings from what was
merged, comes to that (`ofMembers_merge`). So changes that are made again change nothing
(`changed_again`), and neither does the second of two updates (`update_again`), although the first
one reorders the members, drops those that no configuration has, and replaces settings that are not
valid. What stands in the way of an update otherwise are the limits of the host (`Exceeds`): a file
or a configuration that nests too deep, and integers of too many digits.
-/

namespace ShellVet

theorem Json.isEmpty_iff {value : Json CodeText} (whole : ¬ value.IsFloat)
    (plain : value.isObject = false) :
    value.isEmpty = true ↔
      value ∈ [.null, .bool false, .int 0, .string ("" : CodeText), .array []] := by
  cases value with
  | null => simp [isEmpty]
  | bool value => cases value <;> simp [isEmpty]
  | int value => simp [isEmpty]
  | float value => exact absurd trivial whole
  | string value =>
    have empty : ("" : CodeText) = ⟨[]⟩ := rfl
    cases value with
    | mk points => simp [isEmpty, Coded.points, empty]
  | array items => cases items <;> simp [isEmpty]
  | object members => cases plain

theorem Json.Spelled.keyed {document : Json CodeText} (spelled : document.Spelled) :
    document.Keyed := by
  refine Json.Everywhere.imp (fun part here members same => ?_) spelled
  rw [same] at here
  exact here.1

namespace Config

variable {stack : Stack} {files : Files} {path : FilePath} {config : Config} {now name : String}
  {value : Json CodeText} {members settings changes : Json.Members CodeText}

/-! ## Settings in changes -/

theorem field?_append (before after : Json.Members CodeText) :
    field? name (before ++ after) = (field? name after).or (field? name before) := by
  unfold field?
  rw [List.reverse_append, List.find?_append, Option.map_or]

/-- Only members count whose keys are spellings of the name. -/
theorem field?_filter_congr {one other : CodeText × Json CodeText → Bool}
    (same : ∀ member, Spells name member.1 → one member = other member) :
    field? name (changes.filter one) = field? name (changes.filter other) := by
  unfold field?
  rw [← List.filter_reverse, ← List.filter_reverse, List.find?_filter, List.find?_filter]
  refine congrArg _ (congrArg (List.find? · _) (funext fun member => ?_))
  by_cases spelled : Spells name member.1
  · rw [same member spelled]
  · rw [← spells_iff, Bool.not_eq_true] at spelled
    simp [spelled]

/-- What changes say of a setting: the last one of the other spellings of its name counts before the
name itself. -/
def said? (name : String) (changes : Json.Members CodeText) : Option (Json CodeText) :=
  (field? name (changes.filter (·.1 != (name : CodeText)))).or (changes.lookup (name : CodeText))

/-- Among other keys than those of the settings, only the name itself is missing of its
spellings. -/
theorem field?_further (known : name ∈ ["level", "fail_on"]) :
    field? name (changes.filter fun change => change.1 ∉ (["level", "fail_on"] : List CodeText)) =
      field? name (changes.filter (·.1 != (name : CodeText))) := by
  have spellsItself : ∀ key ∈ ["level", "fail_on"], Json.toSnake key = key := by decide
  refine field?_filter_congr fun member spelled => ?_
  by_cases same : member.1 = (name : CodeText)
  · simp only [List.mem_cons, List.not_mem_nil, or_false] at known
    rcases known with rfl | rfl <;> simp [same]
  · have absent : member.1 ∉ (["level", "fail_on"] : List CodeText) := by
      intro inside
      obtain ⟨text, whole, snake⟩ := spelled
      obtain ⟨key, listed, again⟩ : ∃ key ∈ ["level", "fail_on"], member.1 = (key : CodeText) := by
        simpa using inside
      have unique := CodeText.ofString_injective (whole.symm.trans again)
      rw [unique, spellsItself key listed] at snake
      exact same (again.trans (congrArg CodeText.ofString snake))
    simp [same, absent]

/-- The settings with changes merged into them are what the changes say, and otherwise as before. -/
theorem field?_settings (config : Config) (keyed : (Json.object changes).Keyed) :
    field? "level" (Json.merge config.settingsOf changes) =
        some ((said? "level" changes).getD (.string config.level.key)) ∧
      field? "fail_on" (Json.merge config.settingsOf changes) =
        some ((said? "fail_on" changes).getD (.string config.threshold.name)) := by
  have merged : Json.merge config.settingsOf changes =
      ([("level", (changes.lookup ("level" : CodeText)).getD (.string config.level.key)),
        ("fail_on", (changes.lookup ("fail_on" : CodeText)).getD
          (.string config.threshold.name))] : Json.Members CodeText) ++
      changes.filter fun change => change.1 ∉ (["level", "fail_on"] : List CodeText) := by
    rw [Json.merge_eq config.nodup_settingsOf keyed.nodup]
    rw [settingsOf, List.map_cons, List.map_singleton, Json.mergedMember_over rfl,
      Json.mergedMember_over rfl]
    rfl
  rw [merged, field?_append, field?_append, field?_further (by simp), field?_further (by simp)]
  unfold said?
  constructor
  · rw [(field?_pair _ _).1]
    cases field? "level" (changes.filter (·.1 != ("level" : CodeText))) <;> rfl
  · rw [(field?_pair _ _).2]
    cases field? "fail_on" (changes.filter (·.1 != ("fail_on" : CodeText))) <;> rfl

/-! ## The configuration after changes -/

/-- A setting after a change of the value under `security`: as it was where nothing is there or an
object that does not say it, and the default where that is replaced by something empty or says a
value that is not valid. -/
def settled {α : Type} (read : Json CodeText → Option α) (fallback : α) (name : String) (old : α) :
    Option (Json CodeText) → α
  | none => old
  | some (.object settings) =>
    ((said? name settings).map fun value => (read value).getD fallback).getD old
  | some _ => fallback

/-- The configuration after changes that are not refused. -/
def changed (config : Config) (changes : Json.Members CodeText) : Config where
  version := (Json.mergedMember changes ("version", config.version)).2
  initialized := (Json.mergedMember changes ("initialized", config.initialized)).2
  level := settled Level.ofJson? .default "level" config.level
    (changes.lookup ("security" : CodeText))
  threshold := settled Threshold.ofJson? .default "fail_on" config.threshold
    (changes.lookup ("security" : CodeText))

/-- The changes put something under `security` that is neither an object nor empty. -/
def Refuses (changes : Json.Members CodeText) : Prop :=
  ∃ value, changes.lookup ("security" : CodeText) = some value ∧ value.isObject = false ∧
    value.isEmpty = false

/-- A setting that is read from what was merged is the one after the change. -/
theorem getD_bind_said {α : Type} {read : Json CodeText → Option α} {fallback old : α}
    {written : Json CodeText} (reads : read written = some old)
    (settings : Json.Members CodeText) :
    (Option.bind (some ((said? name settings).getD written)) read).getD fallback =
      settled read fallback name old (some (.object settings)) := by
  rw [settled]
  cases said? name settings with
  | none => simp [reads]
  | some value => simp

/-- The value under `security` after merging. -/
theorem lookup_security (config : Config) (keyed : (Json.object changes).Keyed) :
    (Json.merge config.members changes).lookup ("security" : CodeText) = some
      (match changes.lookup ("security" : CodeText) with
      | none => .object config.settingsOf
      | some (.object settings) => .object (Json.merge config.settingsOf settings)
      | some value => value) := by
  have here : config.members.lookup ("security" : CodeText) = some (.object config.settingsOf) :=
    rfl
  rw [Json.lookup_merge keyed.nodup, here]
  cases changes.lookup ("security" : CodeText) with
  | none => rfl
  | some value =>
    cases value with
    | object settings => rw [Option.map_some, Json.mergeValue]; rfl
    | _ => rw [Option.map_some, Json.mergeValue_of_not_object rfl]; rfl

/-- What is kept as it is after merging. -/
theorem getD_lookup_merge (config : Config) (keyed : (Json.object changes).Keyed)
    (fallback : Json CodeText) :
    ((Json.merge config.members changes).lookup ("version" : CodeText)).getD fallback =
        (config.changed changes).version ∧
      ((Json.merge config.members changes).lookup ("initialized" : CodeText)).getD fallback =
        (config.changed changes).initialized := by
  have version : config.members.lookup ("version" : CodeText) = some config.version := rfl
  have initialized : config.members.lookup ("initialized" : CodeText) = some config.initialized :=
    rfl
  rw [Json.lookup_merge keyed.nodup, Json.lookup_merge keyed.nodup, version, initialized]
  constructor
  · simp only [changed, Json.mergedMember]
    cases changes.lookup ("version" : CodeText) <;> rfl
  · simp only [changed, Json.mergedMember]
    cases changes.lookup ("initialized" : CodeText) <;> rfl

/-- What the values that the changes say are too much for, where they are not valid. -/
def saidLimit? (stack : Stack) (changes : Json.Members CodeText) : Option Limit :=
  match changes.lookup ("security" : CodeText) with
  | some (.object settings) =>
    unshown? stack Level.ofJson? (said? "level" settings) <|>
      unshown? stack Threshold.ofJson? (said? "fail_on" settings)
  | _ => none

theorem unshown?_of_valid {α : Type} {read : Json CodeText → Option α} {old : α}
    {written : Json CodeText} (valid : read written = some old) (said : Option (Json CodeText)) :
    unshown? stack read (some (said.getD written)) = unshown? stack read said := by
  cases said with
  | none => simp [unshown?, valid]
  | some value => rfl

/-- The settings that are read decide whether it is the configuration after the changes. -/
theorem ofMembers_merge_of_settings (stack : Stack) (config : Config)
    (keyed : (Json.object changes).Keyed)
    (settings : Json.Members CodeText)
    (found : security? (Json.merge config.members changes) = some settings)
    (limit : settingsLimit? stack settings = saidLimit? stack changes)
    (level : ((field? "level" settings).bind Level.ofJson?).getD .default =
      (config.changed changes).level)
    (threshold : ((field? "fail_on" settings).bind Threshold.ofJson?).getD .default =
      (config.changed changes).threshold) :
    (ofMembers stack (Json.merge config.members changes)).2 =
      match saidLimit? stack changes with
      | some limit => .error (.limit limit)
      | none => .ok (config.changed changes) := by
  rw [ofMembers_snd, found]
  dsimp only
  rw [limit]
  cases saidLimit? stack changes with
  | some limit => rfl
  | none =>
    dsimp only [ofSettings]
    rw [(config.getD_lookup_merge keyed _).1, (config.getD_lookup_merge keyed _).2, level,
      threshold]

/-- **What changes make of a configuration.** Read from what was merged it is the configuration
after the changes, unless the changes are refused, or say what is not valid and too much to be
shown. -/
theorem ofMembers_merge (stack : Stack) (config : Config) (keyed : (Json.object changes).Keyed) :
    (Refuses changes →
      (ofMembers stack (Json.merge config.members changes)).2 = .error .security) ∧
    (¬ Refuses changes →
      (ofMembers stack (Json.merge config.members changes)).2 =
        match saidLimit? stack changes with
        | some limit => .error (.limit limit)
        | none => .ok (config.changed changes)) := by
  have under := config.lookup_security keyed
  constructor
  · rintro ⟨value, found, plain, filled⟩
    rw [found] at under
    rw [ofMembers_snd, security?]
    cases value with
    | object settings => cases plain
    | _ => rw [under]; simp [filled]
  · intro accepted
    have made := config.ofMembers_merge_of_settings stack keyed
    unfold security? at made
    cases found : changes.lookup ("security" : CodeText) with
    | none =>
      -- the settings are those of the configuration
      rw [found] at under
      refine made config.settingsOf (by rw [under]) ?_ ?_ ?_
      · rw [settingsLimit?, settingsOf, (field?_pair _ _).1, (field?_pair _ _).2, saidLimit?, found]
        simp [unshown?, Level.ofJson?_key, Threshold.ofJson?_name]
      · rw [settingsOf, (field?_pair _ _).1]
        simp [changed, settled, found, Level.ofJson?_key]
      · rw [settingsOf, (field?_pair _ _).2]
        simp [changed, settled, found, Threshold.ofJson?_name]
    | some value =>
      rw [found] at under
      cases value with
      | object settings =>
        -- the object is merged into the settings
        have keyedSettings : (Json.object settings).Keyed := keyed.lookup found
        obtain ⟨level, threshold⟩ := config.field?_settings keyedSettings
        refine made (Json.merge config.settingsOf settings) (by rw [under]) ?_ ?_ ?_
        · rw [settingsLimit?, level, threshold, unshown?_of_valid (Level.ofJson?_key _),
            unshown?_of_valid (Threshold.ofJson?_name _), saidLimit?, found]
        · rw [level, getD_bind_said (Level.ofJson?_key _)]
          simp only [changed, found]
        · rw [threshold, getD_bind_said (Threshold.ofJson?_name _)]
          simp only [changed, found]
      | _ =>
        -- the value takes the place of the settings, and is read as none where it is empty
        have empty : Json.isEmpty _ = true := by_contra fun filled =>
          accepted ⟨_, found, rfl, Bool.eq_false_iff.mpr filled⟩
        exact made [] (by rw [under]; exact if_pos empty) (by rw [saidLimit?, found]; rfl)
          (by simp only [changed, found]; rfl) (by simp only [changed, found]; rfl)

/-! ## Changing again -/

theorem settled_again {α : Type} {read : Json CodeText → Option α} {fallback old : α}
    (change : Option (Json CodeText)) :
    settled read fallback name (settled read fallback name old change) change =
      settled read fallback name old change := by
  cases change with
  | none => rfl
  | some value =>
    cases value with
    | object settings =>
      rw [settled, settled]
      cases said? name settings <;> rfl
    | _ => rfl

theorem mergedMember_again (keyed : (Json.object changes).Keyed) (key : CodeText)
    (value : Json CodeText) :
    (Json.mergedMember changes (key, (Json.mergedMember changes (key, value)).2)).2 =
      (Json.mergedMember changes (key, value)).2 := by
  unfold Json.mergedMember
  dsimp only
  cases found : changes.lookup key with
  | none => rfl
  | some new => exact Json.mergeValue_again (keyed.lookup found) (some value)

/-- Changes that are made again change nothing. -/
theorem changed_again (config : Config) (keyed : (Json.object changes).Keyed) :
    (config.changed changes).changed changes = config.changed changes := by
  unfold changed
  rw [Config.mk.injEq]
  exact ⟨mergedMember_again keyed _ _, mergedMember_again keyed _ _, settled_again _,
    settled_again _⟩

/-! ## Updates -/

/-- What changes to the preference at a path are too much for. -/
inductive Exceeds (stack : Stack) (files : Files) (path : FilePath) (now : String)
    (changes : Json.Members CodeText) : Limit → Prop where
  /-- The file nests deeper than the stack goes. -/
  | file (broken : (load stack files path now).2 = .error .overflow)
      (deep : TooDeep stack files path) : Exceeds stack files path now changes .depth
  /-- What is loaded nests too deep to be copied. -/
  | loaded {config : Config} (known : (load stack files path now).2 = .ok config)
      (deep : stack.copying < config.toJson.depth) : Exceeds stack files path now changes .depth
  /-- A value for a setting is not valid, and too much to be shown. -/
  | said {limit : Limit} (limited : saidLimit? stack changes = some limit) :
      Exceeds stack files path now changes limit
  /-- The configuration after the changes nests too deep to be copied. -/
  | deep {config : Config} (known : (load stack files path now).2 = .ok config)
      (deep : stack.copying < (config.changed changes).toJson.depth) :
      Exceeds stack files path now changes .depth
  /-- The configuration after the changes holds an integer of too many digits. -/
  | digits {config : Config} (known : (load stack files path now).2 = .ok config)
      (overlong : ¬ (config.changed changes).toJson.Everywhere Json.IsShort) :
      Exceeds stack files path now changes .digits

theorem not_exceeds {limit : Limit} (known : (load stack files path now).2 = .ok config)
    (fits : config.toJson.depth ≤ stack.copying) (shown : saidLimit? stack changes = none)
    (within : (config.changed changes).toJson.limit? stack.copying = none) :
    ¬ Exceeds stack files path now changes limit := by
  obtain ⟨depth, short⟩ := Json.limit?_eq_none_iff.mp within
  rintro (⟨broken, -⟩ | ⟨same, deep⟩ | limited | ⟨same, deep⟩ | ⟨same, overlong⟩)
  · rw [known] at broken
    cases broken
  · cases known.symm.trans same
    exact absurd deep (Nat.not_lt.mpr fits)
  · rw [shown] at limited
    cases limited
  · cases known.symm.trans same
    exact absurd deep (Nat.not_lt.mpr depth)
  · cases known.symm.trans same
    exact overlong short

theorem exceeds_of_text {limit : Limit} (known : (load stack files path now).2 = .ok config)
    (failed : (config.changed changes).text stack = .error limit) :
    Exceeds stack files path now changes limit := by
  rcases text_eq_error failed with ⟨rfl, deep⟩ | ⟨rfl, overlong⟩
  · exact .deep known deep
  · exact .digits known overlong

/-- Changes that are not refused, and say nothing that is not valid and too much to be shown, are
saved with what was loaded. -/
theorem update_of_accepts (loaded : (load stack files path now).2 = .ok config)
    (fits : config.toJson.depth ≤ stack.copying) (keyed : (Json.object changes).Keyed)
    (accepts : ¬ Refuses changes) (shown : saidLimit? stack changes = none) :
    (update stack files path now changes).result =
        ((config.changed changes).save stack files path).2.map (fun _ => config.changed changes) ∧
      (update stack files path now changes).files =
        ((config.changed changes).save stack files path).1 := by
  have given := update_of_load loaded fits changes
  rw [(config.ofMembers_merge stack keyed).2 accepts, shown] at given
  exact given

/-- An update goes beyond a limit, is refused, cannot write the file, or saves the configuration
after the changes. -/
theorem update_cases (stack : Stack) (files : Files) (path : FilePath) (now : String)
    (keyed : (Json.object changes).Keyed) :
    (∃ limit, Exceeds stack files path now changes limit ∧
        (update stack files path now changes).result = .error (.unfit (.limit limit))) ∨
      (Refuses changes ∧ (update stack files path now changes).result = .error (.unfit .security) ∧
        (update stack files path now changes).files = files) ∨
      (¬ Refuses changes ∧ ¬ Writable files path ∧
        ∃ error, (update stack files path now changes).result = .error (.file error)) ∨
      ¬ Refuses changes ∧ saidLimit? stack changes = none ∧
        ∃ config, (load stack files path now).2 = .ok config ∧
          config.toJson.depth ≤ stack.copying ∧
          ((config.changed changes).save stack files path).2 = .ok () ∧
          (update stack files path now changes).result = .ok (config.changed changes) ∧
          (update stack files path now changes).files =
            ((config.changed changes).save stack files path).1 := by
  rcases exists_load_or stack files path now with ⟨config, loaded, fits⟩ | broken
  · have given := update_of_load loaded fits changes
    obtain ⟨refuses, accepts⟩ := config.ofMembers_merge stack keyed
    by_cases refused : Refuses changes
    · rw [refuses refused] at given
      exact .inr (.inl ⟨refused, given⟩)
    cases limited : saidLimit? stack changes with
    | some limit =>
      rw [accepts refused, limited] at given
      exact .inl ⟨limit, .said limited, given.1⟩
    | none =>
      obtain ⟨result, after⟩ := update_of_accepts loaded fits keyed refused limited
      have writes (writable : Writable files path) := writable.save stack (config.changed changes)
      rcases save_cases stack (config.changed changes) files path with
        ⟨error, saves⟩ | ⟨made, folders, ⟨limit, failed, saves⟩ | ⟨text, written, saves⟩⟩
      · refine .inr (.inr (.inl ⟨refused, fun writable => ?_, error, by rw [result, saves]; rfl⟩))
        rw [saves] at writes
        have none := writes writable
        split at none <;> cases none
      · exact .inl ⟨limit, exceeds_of_text loaded failed, by rw [result, saves]; rfl⟩
      · rcases saves with ⟨error, -, saves⟩ | ⟨saved, -, saves⟩
        · refine .inr (.inr (.inl ⟨refused, fun writable => ?_, error, by rw [result, saves]; rfl⟩))
          rw [saves, written] at writes
          cases writes writable
        · refine .inr (.inr (.inr ⟨refused, rfl, config, loaded, fits, ?_, ?_, after⟩))
          · rw [saves]
          · rw [result, saves]
            rfl
  · refine .inl ⟨.depth, ?_, (update_of_not_load broken changes).1⟩
    rcases load_loadsClosed stack files path now with ⟨config, loaded, -⟩ | ⟨loaded, deep⟩
    · exact .loaded loaded (broken config loaded)
    · exact .file loaded deep

/-- The object under `security` in the changes is no reason to refuse them, and neither is something
empty. -/
theorem refuses_iff (floatFree : (Json.object changes).FloatFree) :
    Refuses changes ↔ ∃ value, changes.lookup ("security" : CodeText) = some value ∧
      value.isObject = false ∧
      value ∉ [.null, .bool false, .int 0, .string ("" : CodeText), .array []] := by
  unfold Refuses
  refine exists_congr fun value => and_congr_right fun found => and_congr_right fun plain => ?_
  have whole : ¬ value.IsFloat := (Json.Everywhere.lookup floatFree found).here
  rw [← Json.isEmpty_iff whole plain, Bool.not_eq_true]

/-- **An update is refused as a whole, or is made once.** Where the limits are exceeded, the update
fails with that and no file is another one than before. Otherwise it fails for its values exactly
where it puts something under `security` that is neither an object nor empty, and then leaves the
files as they are; and where it does not, and the file can be written, it succeeds, and the same
update at any later time gives the same configuration and leaves the files as the first one wrote
them. -/
theorem update_again (stack : Stack) (files : Files) (path : FilePath) (now : String)
    (changes : Json.Members CodeText)
    (inFile : ∀ bytes members, files.find path = .ok (.file bytes) →
      HoldsObject bytes members → (Json.object members).FloatFree)
    (floatFree : (Json.object changes).FloatFree) (spelled : (Json.object changes).Spelled) :
    let change := update stack files path now changes
    let Refused := ∃ value, changes.lookup ("security" : CodeText) = some value ∧
      value.isObject = false ∧
      value ∉ [.null, .bool false, .int 0, .string ("" : CodeText), .array []]
    (∃ limit, Exceeds stack files path now changes limit ∧
        change.result = .error (.unfit (.limit limit)) ∧ files.SameFiles change.files) ∨
      ((∃ error, error.isOfValue = true ∧ change.result = .error error) ↔ Refused) ∧
      (Refused → change.files = files) ∧
      (¬ Refused → Writable files path → ∃ config text, change.result = .ok config ∧
        config.text stack = .ok text ∧ change.files.find path = .ok (.file (Files.bytesOf text)) ∧
        ∀ later, (update stack change.files path later changes).result = .ok config ∧
          (update stack change.files path later changes).files = change.files) := by
  intro change Refused
  have refuses : Refuses changes ↔ Refused := refuses_iff floatFree
  have keyed := spelled.keyed
  rw [← refuses]
  rcases update_cases stack files path now keyed with
    ⟨limit, exceeds, failed⟩ | ⟨refused, failed, same⟩ | ⟨accepts, unwritable, error, failed⟩ |
      ⟨accepts, shown, old, loaded, -, saves, done, after⟩
  · exact .inl ⟨limit, exceeds, failed, sameFiles_of_update failed⟩
  · refine .inr ⟨⟨fun _ => refused, fun _ => ⟨_, rfl, failed⟩⟩, fun _ => same, ?_⟩
    exact fun accepts => absurd refused accepts
  · refine .inr ⟨⟨?_, fun refused => absurd refused accepts⟩, fun refused => absurd refused accepts,
      fun _ writable => absurd writable unwritable⟩
    rintro ⟨other, ofValue, same⟩
    cases failed.symm.trans same
    cases ofValue
  · refine .inr ⟨⟨?_, fun refused => absurd refused accepts⟩, fun refused => absurd refused accepts,
      fun _ _ => ?_⟩
    · rintro ⟨other, -, same⟩
      cases done.symm.trans same
    · obtain ⟨text, written, found, again⟩ := save_again saves
      rw [← after] at found again
      refine ⟨_, text, done, written, found, fun later => ?_⟩
      have loads : load stack change.files path later = ([], .ok (old.changed changes)) := by
        rw [load_of_text written found, (isPlain_of_update done inFile floatFree spelled).reread_eq]
      have second := update_of_accepts (congrArg Prod.snd loads) (depth_le_of_text written) keyed
        accepts shown
      rw [changed_again old keyed, again] at second
      exact second

/-- A threshold in two spellings and a level that there is not are merged once, where no file was
before. -/
theorem update_again_two_spellings :
    let path : FilePath := ⟨false, ["config.json"]⟩
    let changes : Json.Members CodeText := [("security", .object
      [("fail_on", .string "low"), ("failOn", .string "never"), ("level", .string "loud")])]
    let change := update .usual {} path "today" changes
    ∃ config, change.result = .ok config ∧
      ∀ later, (update .usual change.files path later changes).result = .ok config ∧
        (update .usual change.files path later changes).files = change.files := by
  intro path changes change
  have missing : Files.find {} path = .error .missing := Files.find_empty (by decide)
  have joined := CodeText.isJoined_ofString
  have plain : (Json.object changes).Plain := by
    refine Json.everywhere_object ⟨⟨List.nodup_singleton _, ?_⟩, id⟩ ?_
    · exact List.forall_mem_singleton.mpr (joined _)
    · refine List.forall_mem_singleton.mpr (Json.everywhere_object ⟨⟨?_, ?_⟩, id⟩ ?_)
      · decide
      · simp [joined]
      · simp only [List.forall_mem_cons, List.not_mem_nil, false_imp_iff, implies_true, and_true]
        exact ⟨Json.plain_ofString _, Json.plain_ofString _, Json.plain_ofString _⟩
  have loads := congrArg Prod.snd (load_of_missing .usual missing "today")
  have shown : saidLimit? .usual changes = none := by decide
  have within : ((default "today").changed changes).toJson.limit? Stack.usual.copying = none := by
    decide
  have accepted : ¬ ∃ value, changes.lookup ("security" : CodeText) = some value ∧
      value.isObject = false ∧
      value ∉ [.null, .bool false, .int 0, .string ("" : CodeText), .array []] := by
    rintro ⟨value, found, object, -⟩
    cases found
    cases object
  rcases update_again .usual {} path "today" changes
      (fun bytes _ found => by rw [missing] at found; cases found)
      (Json.Everywhere.imp (fun _ => And.right) plain)
      (Json.Everywhere.imp (fun _ => And.left) plain) with
    ⟨limit, exceeds, -⟩ | ⟨-, -, succeeds⟩
  · exact absurd exceeds (not_exceeds loads (by decide) shown within)
  · obtain ⟨config, -, done, -, -, again⟩ := succeeds accepted (writable_empty (by decide))
    exact ⟨config, done, again⟩

/-- With the usual stack, a file of a hundred thousand opening brackets keeps an update from being
made that puts nothing under `security`. -/
theorem update_breaks_off :
    (update .usual bracketFiles bracketPath "today" [("version", .string "2")]).result =
      .error (.unfit (.limit .depth)) := by
  refine (update_of_not_load (fun config loaded => ?_) _).1
  rw [load_bracketFiles] at loaded
  cases loaded

end Config

end ShellVet
