import ShellVet.Proofs.Config.Changed

/-!
# Setting one key

Setting a key is an update with the one member that leads to the value (`set_eq`). It is refused
where one of the two settings is named with a value that is not valid, or where the update is
(`set_cases`). At the four keys of a configuration it sets the value and leaves the other three as
they were (`get_of_set`). Like an update, setting a key may be too much for the host (`SetExceeds`).
-/

namespace ShellVet

/-- A text without the white space around it and in upper case; other values as they are. -/
def Json.normalized : Json CodeText → Json CodeText
  | .string text =>
    match Coded.string? text with
    | some text => .string (String.ofList (Text.upper (Text.trim text.toList)))
    | none => .string text
  | value => value

theorem Json.normalized_string (text : String) :
    (string (text : CodeText)).normalized =
      string (CodeText.ofString (String.ofList (Text.upper (Text.trim text.toList)))) := by
  simp [normalized]

theorem Level.ofJson?_eq_none_iff {value : Json CodeText} :
    Level.ofJson? value = none ↔ ¬ ∃ text : String, value = .string text ∧
      String.ofList (Text.upper (Text.trim text.toList)) ∈
        ["STRICT", "STANDARD", "PERMISSIVE"] := by
  rw [Option.eq_none_iff_forall_ne_some, ← not_exists]
  refine not_congr ⟨?_, ?_⟩
  · rintro ⟨level, named⟩
    obtain ⟨text, rfl, normal⟩ := Level.ofJson?_eq_some_iff.mp named
    refine ⟨text, rfl, ?_⟩
    rw [normal]
    cases level <;> decide
  · rintro ⟨text, rfl, known⟩
    have named : ∃ level : Level,
        String.ofList (Text.upper (Text.trim text.toList)) = level.key := by
      simp only [List.mem_cons, List.not_mem_nil, or_false] at known
      rcases known with normal | normal | normal
      · exact ⟨.strict, normal⟩
      · exact ⟨.standard, normal⟩
      · exact ⟨.permissive, normal⟩
    obtain ⟨level, normal⟩ := named
    exact ⟨level, Level.ofJson?_eq_some_iff.mpr ⟨text, rfl, normal⟩⟩

theorem Threshold.ofJson?_eq_none_iff {value : Json CodeText} :
    Threshold.ofJson? value = none ↔ ¬ ∃ text ∈ ["low", "medium", "high", "critical", "never"],
      value = .string (text : CodeText) := by
  rw [Option.eq_none_iff_forall_ne_some, ← not_exists]
  refine not_congr ⟨?_, ?_⟩
  · rintro ⟨threshold, named⟩
    exact ⟨threshold.name, by cases threshold <;> decide, Threshold.ofJson?_eq_some_iff.mp named⟩
  · rintro ⟨text, known, rfl⟩
    have named : ∃ threshold : Threshold, text = threshold.name := by
      simp only [List.mem_cons, List.not_mem_nil, or_false] at known
      rcases known with same | same | same | same | same
      · exact ⟨.low, same⟩
      · exact ⟨.medium, same⟩
      · exact ⟨.high, same⟩
      · exact ⟨.critical, same⟩
      · exact ⟨.never, same⟩
    obtain ⟨threshold, rfl⟩ := named
    exact ⟨threshold, Threshold.ofJson?_name threshold⟩

namespace Config

variable {stack : Stack} {files : Files} {path : FilePath} {config : Config} {now key name : String}
  {value written : Json CodeText}

/-! ## Keys -/

theorem namesOf_injective {one other : String} (same : namesOf one = namesOf other) :
    one = other := by
  have pieces : one.toList.splitOn '.' = other.toList.splitOn '.' :=
    List.map_injective_iff.mpr (fun _ _ => String.ofList_injective) same
  have whole := congrArg (List.intercalate ['.']) pieces
  rw [List.intercalate_splitOn, List.intercalate_splitOn] at whole
  exact String.toList_inj.mp whole

theorem exists_namesOf (key : String) : ∃ first rest, namesOf key = first :: rest := by
  refine List.exists_cons_of_ne_nil ?_
  unfold namesOf
  rw [Ne, List.map_eq_nil_iff]
  exact List.splitOn_ne_nil _ _

/-- The members that setting a key merges. -/
def assignment (key : String) (value : Json CodeText) : Json.Members CodeText :=
  match namesOf key with
  | [] => []
  | first :: rest => [(first, nested value rest)]

/-- A setting is named, and the value is not valid for it. -/
def Invalid (key : String) (value : Json CodeText) : Prop :=
  (key = "security.level" ∧ Level.ofJson? value = none) ∨
    key = "security.fail_on" ∧ Threshold.ofJson? value = none

/-- The value that setting a key writes: the given one, but for a level, which is written by its
key. -/
def Writes (key : String) (value written : Json CodeText) : Prop :=
  (key = "security.level" ∧ ∃ level, Level.ofJson? value = some level ∧
      written = .string level.key) ∨
    (key = "security.fail_on" ∧ ∃ threshold, Threshold.ofJson? value = some threshold ∧
      written = value) ∨
    key ≠ "security.level" ∧ key ≠ "security.fail_on" ∧ written = value

theorem nested_namesOf (key : String) (value : Json CodeText) :
    nested value (namesOf key) = .object (assignment key value) := by
  obtain ⟨first, rest, names⟩ := exists_namesOf key
  rw [assignment, names]
  rfl

theorem changesFor_of_writes (stack : Stack) (writes : Writes key value written) :
    changesFor stack key value = .ok (assignment key written) := by
  unfold changesFor
  rcases writes with ⟨rfl, level, named, rfl⟩ | ⟨rfl, threshold, named, rfl⟩ |
    ⟨notLevel, notThreshold, rfl⟩
  · rw [if_pos (beq_self_eq_true _), named]
    rfl
  · rw [if_neg (by decide), if_pos (beq_self_eq_true _), named]
    rfl
  · rw [if_neg (fun same => notLevel (beq_iff_eq.mp same)),
      if_neg (fun same => notThreshold (beq_iff_eq.mp same))]
    simp only [pure_bind, nested_namesOf]
    rfl

theorem changesFor_of_invalid (stack : Stack) (invalid : Invalid key value) :
    ∃ error, (error = .level value ∨ error = .threshold value) ∧
      changesFor stack key value =
        match value.limit? stack.showing with
        | some limit => .error (.unfit (.limit limit))
        | none => .error error := by
  unfold changesFor refused
  rcases invalid with ⟨rfl, bad⟩ | ⟨rfl, bad⟩
  · refine ⟨_, .inl rfl, ?_⟩
    rw [if_pos (beq_self_eq_true _), bad]
    cases value.limit? stack.showing <;> rfl
  · refine ⟨_, .inr rfl, ?_⟩
    rw [if_neg (by decide), if_pos (beq_self_eq_true _), bad]
    cases value.limit? stack.showing <;> rfl

/-- A value is written, or it is not valid for the setting that is named. -/
theorem writes_or_invalid (key : String) (value : Json CodeText) :
    (∃ written, Writes key value written) ∨ Invalid key value := by
  by_cases level : key = "security.level"
  · cases named : Level.ofJson? value with
    | none => exact .inr (.inl ⟨level, named⟩)
    | some known => exact .inl ⟨_, .inl ⟨level, known, named, rfl⟩⟩
  by_cases threshold : key = "security.fail_on"
  · cases named : Threshold.ofJson? value with
    | none => exact .inr (.inr ⟨threshold, named⟩)
    | some known => exact .inl ⟨_, .inr (.inl ⟨threshold, known, named, rfl⟩)⟩
  exact .inl ⟨value, .inr (.inr ⟨level, threshold, rfl⟩)⟩

theorem Writes.not_invalid (writes : Writes key value written) : ¬ Invalid key value := by
  rcases writes with
    ⟨rfl, level, named, -⟩ | ⟨rfl, threshold, named, -⟩ | ⟨notLevel, notThreshold, -⟩
  · rintro (⟨-, bad⟩ | ⟨other, -⟩)
    · rw [named] at bad
      cases bad
    · exact absurd other (by decide)
  · rintro (⟨other, -⟩ | ⟨-, bad⟩)
    · exact absurd other (by decide)
    · rw [named] at bad
      cases bad
  · rintro (⟨same, -⟩ | ⟨same, -⟩)
    · exact notLevel same
    · exact notThreshold same

/-- What is written is no object if the given value is none, and where it is not the value it is a
text. -/
theorem Writes.isObject (writes : Writes key value written) :
    written.isObject = value.isObject := by
  rcases writes with ⟨-, level, named, rfl⟩ | ⟨-, -, -, rfl⟩ | ⟨-, -, rfl⟩
  · obtain ⟨text, rfl, -⟩ := Level.ofJson?_eq_some_iff.mp named
    rfl
  · rfl
  · rfl

theorem set_of_writes (writes : Writes key value written) :
    Config.set stack files path now key value =
      update stack files path now (assignment key written) := by
  unfold Config.set
  rw [changesFor_of_writes stack writes]

theorem set_of_invalid (stack : Stack) (files : Files) (path : FilePath) (now : String)
    (invalid : Invalid key value) :
    (Config.set stack files path now key value).files = files ∧
      ((∃ limit, value.limit? stack.showing = some limit ∧
          (Config.set stack files path now key value).result = .error (.unfit (.limit limit))) ∨
        ∃ error, (error = .level value ∨ error = .threshold value) ∧
          (Config.set stack files path now key value).result = .error error) := by
  obtain ⟨error, kind, refused⟩ := changesFor_of_invalid stack invalid
  unfold Config.set
  rw [refused]
  cases value.limit? stack.showing with
  | none => exact ⟨rfl, .inr ⟨error, kind, rfl⟩⟩
  | some limit => exact ⟨rfl, .inl ⟨limit, rfl, rfl⟩⟩

/-- What is under `security` in the members that setting a key merges. -/
theorem lookup_assignment_iff {under : Json CodeText} :
    (assignment key value).lookup ("security" : CodeText) = some under ↔
      ∃ rest, namesOf key = "security" :: rest ∧ under = nested value rest := by
  obtain ⟨first, rest, names⟩ := exists_namesOf key
  rw [assignment, names]
  dsimp only
  rw [Json.lookup_cons_eq]
  by_cases same : "security" = first
  · rw [if_pos (congrArg CodeText.ofString same), ← same]
    constructor
    · rintro ⟨⟩
      exact ⟨rest, rfl, rfl⟩
    · rintro ⟨_, ⟨⟩, rfl⟩
      rfl
  · rw [if_neg fun equal => same (CodeText.ofString_injective equal)]
    constructor
    · nofun
    · rintro ⟨_, ⟨⟩, -⟩
      exact absurd rfl same

theorem refuses_assignment_iff :
    Refuses (assignment key value) ↔
      key = "security" ∧ value.isObject = false ∧ value.isEmpty = false := by
  have names : namesOf "security" = ["security"] := by decide
  constructor
  · rintro ⟨under, found, plain, filled⟩
    obtain ⟨rest, led, rfl⟩ := lookup_assignment_iff.mp found
    cases rest with
    | nil => exact ⟨namesOf_injective (led.trans names.symm), plain, filled⟩
    | cons next rest => cases plain
  · rintro ⟨rfl, plain, filled⟩
    exact ⟨value, lookup_assignment_iff.mpr ⟨[], names, rfl⟩, plain, filled⟩

section

variable {holds : Json CodeText → Prop}
  (single : ∀ (name : String) value, holds (.object [((name : CodeText), value)]))

include single

theorem everywhere_nested (everywhere : value.Everywhere holds) (names : List String) :
    (nested value names).Everywhere holds := by
  induction names with
  | nil => exact everywhere
  | cons first rest ih =>
    exact Json.everywhere_object (single first _) (List.forall_mem_singleton.mpr ih)

/-- What setting a key merges has the property if the value has it. -/
theorem everywhere_assignment (strings : ∀ text : String, holds (.string text))
    (everywhere : value.Everywhere holds) (writes : Writes key value written) :
    (Json.object (assignment key written)).Everywhere holds := by
  have kept : written.Everywhere holds := by
    rcases writes with ⟨-, level, -, same⟩ | ⟨-, -, -, same⟩ | ⟨-, -, same⟩
    · rw [same]
      exact .leaf (strings _) rfl
    · rwa [same]
    · rwa [same]
  rw [← nested_namesOf]
  exact everywhere_nested single kept _

end

theorem keyed_assignment (keyed : value.Keyed) (writes : Writes key value written) :
    (Json.object (assignment key written)).Keyed := by
  refine everywhere_assignment (fun name value members same => ?_) (fun _ _ => nofun) keyed writes
  cases same
  exact List.nodup_singleton _

theorem spelled_assignment (spelled : value.Spelled) (writes : Writes key value written) :
    (Json.object (assignment key written)).Spelled :=
  everywhere_assignment (fun name _ => ⟨List.nodup_singleton _,
    List.forall_mem_singleton.mpr (CodeText.isJoined_ofString name)⟩)
    (fun text => CodeText.isJoined_ofString text) spelled writes

theorem floatFree_assignment (floatFree : value.FloatFree) (writes : Writes key value written) :
    (Json.object (assignment key written)).FloatFree :=
  everywhere_assignment (fun _ _ => id) (fun _ => id) floatFree writes

/-! ## Refusals -/

/-- What setting a key is too much for: the value that is not valid cannot be shown, or the update
goes beyond a limit. -/
def SetExceeds (stack : Stack) (files : Files) (path : FilePath) (now key : String)
    (value : Json CodeText) (limit : Limit) : Prop :=
  (Invalid key value ∧ value.limit? stack.showing = some limit) ∨
    ∃ written, Writes key value written ∧
      Exceeds stack files path now (assignment key written) limit

/-- The value is not valid for the setting that is named, or all settings are to be something that
is neither an object nor empty. -/
def SetRefuses (key : String) (value : Json CodeText) : Prop :=
  (key = "security.level" ∧ Level.ofJson? value = none) ∨
    (key = "security.fail_on" ∧ Threshold.ofJson? value = none) ∨
      key = "security" ∧ value.isObject = false ∧ value.isEmpty = false

theorem setRefuses_iff (writes : Writes key value written) :
    SetRefuses key value ↔ Refuses (assignment key written) := by
  have valid := writes.not_invalid
  rw [refuses_assignment_iff]
  constructor
  · rintro (level | threshold | ⟨rfl, plain, filled⟩)
    · exact absurd (.inl level) valid
    · exact absurd (.inr threshold) valid
    · rcases writes with ⟨other, -⟩ | ⟨other, -⟩ | ⟨-, -, rfl⟩
      · exact absurd other (by decide)
      · exact absurd other (by decide)
      · exact ⟨rfl, plain, filled⟩
  · rintro ⟨rfl, plain, filled⟩
    rcases writes with ⟨other, -⟩ | ⟨other, -⟩ | ⟨-, -, rfl⟩
    · exact absurd other (by decide)
    · exact absurd other (by decide)
    · exact .inr (.inr ⟨rfl, plain, filled⟩)

/-- Setting a key goes beyond a limit, is refused, cannot write the file, or saves the configuration
with what is written. -/
theorem set_cases (stack : Stack) (files : Files) (path : FilePath) (now key : String)
    (keyed : value.Keyed) :
    (∃ limit, SetExceeds stack files path now key value limit ∧
        (Config.set stack files path now key value).result = .error (.unfit (.limit limit))) ∨
      (SetRefuses key value ∧ (Config.set stack files path now key value).files = files ∧
        ∃ error, error.isOfValue = true ∧
          (Config.set stack files path now key value).result = .error error) ∨
      (¬ SetRefuses key value ∧ ¬ Writable files path ∧
        ∃ error, (Config.set stack files path now key value).result = .error (.file error)) ∨
      ¬ SetRefuses key value ∧ ∃ written config, Writes key value written ∧
        (load stack files path now).2 = .ok config ∧ config.toJson.depth ≤ stack.copying ∧
        ((config.changed (assignment key written)).save stack files path).2 = .ok () ∧
        (Config.set stack files path now key value).result =
          .ok (config.changed (assignment key written)) ∧
        (Config.set stack files path now key value).files =
          ((config.changed (assignment key written)).save stack files path).1 := by
  rcases writes_or_invalid key value with ⟨written, writes⟩ | invalid
  · rw [set_of_writes writes, setRefuses_iff writes]
    rcases update_cases stack files path now (keyed_assignment keyed writes) with
      ⟨limit, exceeds, failed⟩ | ⟨refused, failed, same⟩ | unwritten |
        ⟨accepts, -, config, loaded, fits, saves, done, after⟩
    · exact .inl ⟨limit, .inr ⟨written, writes, exceeds⟩, failed⟩
    · exact .inr (.inl ⟨refused, same, _, rfl, failed⟩)
    · exact .inr (.inr (.inl unwritten))
    · exact .inr (.inr (.inr ⟨accepts, written, config, writes, loaded, fits, saves, done, after⟩))
  · obtain ⟨same, ⟨limit, limited, failed⟩ | ⟨error, kind, failed⟩⟩ :=
      set_of_invalid stack files path now invalid
    · exact .inl ⟨limit, .inl ⟨invalid, limited⟩, failed⟩
    · refine .inr (.inl ⟨?_, same, error, ?_, failed⟩)
      · rcases invalid with level | threshold
        · exact .inl level
        · exact .inr (.inl threshold)
      · rcases kind with rfl | rfl <;> rfl

/-- Where setting a key fails no file is another one than before. -/
theorem sameFiles_of_set {error : ChangeError}
    (failed : (Config.set stack files path now key value).result = .error error) :
    files.SameFiles (Config.set stack files path now key value).files := by
  rcases writes_or_invalid key value with ⟨written, writes⟩ | invalid
  · rw [set_of_writes writes] at failed ⊢
    exact sameFiles_of_update failed
  · rw [(set_of_invalid stack files path now invalid).1]
    exact .refl files

/-! ## The keys of a configuration -/

theorem assignment_keys (value : Json CodeText) :
    assignment "version" value = [(("version" : CodeText), value)] ∧
      assignment "initialized" value = [(("initialized" : CodeText), value)] ∧
      assignment "security.level" value =
        [(("security" : CodeText), .object [("level", value)])] ∧
      assignment "security.fail_on" value =
        [(("security" : CodeText), .object [("fail_on", value)])] :=
  ⟨rfl, rfl, rfl, rfl⟩

theorem said?_single (value : Json CodeText) :
    said? "level" [("level", value)] = some value ∧ said? "fail_on" [("level", value)] = none ∧
      said? "level" [("fail_on", value)] = none ∧
      said? "fail_on" [("fail_on", value)] = some value := by
  have other : spells "fail_on" "level" = false ∧ spells "level" "fail_on" = false := by decide
  have different : ("level" : CodeText) ≠ "fail_on" := by decide
  simp [said?, field?, other, different, different.symm, Json.lookup_cons_eq]

/-- Setting one of the keys of a configuration changes this one alone. -/
theorem changed_keys (config : Config) (plain : value.isObject = false) :
    config.changed (assignment "version" value) = { config with version := value } ∧
      config.changed (assignment "initialized" value) = { config with initialized := value } ∧
      config.changed (assignment "security.level" value) =
        { config with level := (Level.ofJson? value).getD .default } ∧
      config.changed (assignment "security.fail_on" value) =
        { config with threshold := (Threshold.ofJson? value).getD .default } := by
  obtain ⟨version, initialized, level, threshold⟩ := assignment_keys value
  obtain ⟨levelSaid, levelSilent, thresholdSilent, thresholdSaid⟩ := said?_single value
  have apart : ("version" : CodeText) ≠ "initialized" ∧ ("version" : CodeText) ≠ "security" ∧
      ("initialized" : CodeText) ≠ "security" := by
    decide
  rw [version, initialized, level, threshold]
  simp [changed, Json.mergedMember, settled, Json.lookup_cons_eq, apart, apart.1.symm,
    apart.2.1.symm, apart.2.2.symm, Json.mergeValue_of_not_object plain, levelSaid, levelSilent,
    thresholdSaid, thresholdSilent]

theorem valueAt_keys (config : Config) :
    valueAt config.toJson (namesOf "version") = config.version ∧
      valueAt config.toJson (namesOf "initialized") = config.initialized ∧
      valueAt config.toJson (namesOf "security.level") = .string config.level.key ∧
      valueAt config.toJson (namesOf "security.fail_on") = .string config.threshold.name :=
  ⟨rfl, rfl, rfl, rfl⟩

theorem get_of_load (loaded : (load stack files path now).2 = .ok config)
    (fits : config.toJson.depth ≤ stack.copying) (key : String) :
    (get stack files path now key).2 = .ok (valueAt config.toJson (namesOf key)) := by
  have copies : config.copied stack = .ok config.members := if_neg (Nat.not_lt.mpr fits)
  unfold get
  generalize load stack files path now = given at loaded ⊢
  obtain ⟨notices, outcome⟩ := given
  cases loaded
  dsimp only
  rw [copies]
  rfl

/-- After a key was set, any key can be got. -/
theorem exists_get_of_set (keyed : value.Keyed)
    (done : (Config.set stack files path now key value).result = .ok config) (other : String) :
    ∃ got, (get stack (Config.set stack files path now key value).files path now other).2 =
      .ok got := by
  rcases set_cases stack files path now key keyed with
    ⟨limit, -, failed⟩ | ⟨-, -, error, -, failed⟩ | ⟨-, -, error, failed⟩ |
      ⟨-, written, before, -, -, -, saves, -, after⟩
  · cases failed.symm.trans done
  · cases failed.symm.trans done
  · cases failed.symm.trans done
  · obtain ⟨text, saved, found, -⟩ := save_again saves
    rw [← after] at found
    exact ⟨_, get_of_load (congrArg Prod.snd (load_of_text saved found now))
      (depth_reread_of_text saved) other⟩

theorem ne_security_of_mem_keys
    (known : key ∈ ["version", "initialized", "security.level", "security.fail_on"]) :
    key ≠ "security" := by
  rintro rfl
  revert known
  decide

/-- The value that is written for a key is the given one, normalized for the level. -/
theorem Writes.eq (writes : Writes key value written) :
    written = if key = "security.level" then value.normalized else value := by
  rcases writes with ⟨rfl, level, named, same⟩ | ⟨rfl, -, -, same⟩ | ⟨notLevel, -, same⟩
  · obtain ⟨text, rfl, normal⟩ := Level.ofJson?_eq_some_iff.mp named
    rw [if_pos rfl, same, ← normal, Json.normalized_string]
  · rw [same, if_neg (by decide)]
  · rw [same, if_neg notLevel]

/-- After a key of a configuration was set it leads to the written value, and the others lead where
they led before. -/
theorem valueAt_changed (config : Config)
    (known : key ∈ ["version", "initialized", "security.level", "security.fail_on"])
    (plain : value.isObject = false) (writes : Writes key value written) :
    valueAt (config.changed (assignment key written)).toJson (namesOf key) = written ∧
      ∀ other ∈ ["version", "initialized", "security.level", "security.fail_on"], other ≠ key →
        valueAt (config.changed (assignment key written)).toJson (namesOf other) =
          valueAt config.toJson (namesOf other) := by
  have whole : written.isObject = false := writes.isObject.trans plain
  obtain ⟨version, initialized, level, threshold⟩ := config.changed_keys whole
  simp only [List.mem_cons, List.not_mem_nil, or_false] at known
  simp only [List.forall_mem_cons, List.not_mem_nil, false_imp_iff, implies_true, and_true,
    valueAt_keys]
  rcases known with rfl | rfl | rfl | rfl
  · rw [version]
    simp [valueAt_keys]
  · rw [initialized]
    simp [valueAt_keys]
  · rcases writes with ⟨-, named, -, same⟩ | ⟨other, -⟩ | ⟨other, -⟩
    · rw [level, same, Level.ofJson?_key]
      simp [valueAt_keys]
    · exact absurd other (by decide)
    · exact absurd rfl other
  · rcases writes with ⟨other, -⟩ | ⟨-, named, valid, same⟩ | ⟨-, other, -⟩
    · exact absurd other (by decide)
    · rw [threshold, same, valid, Threshold.ofJson?_eq_some_iff.mp valid]
      simp [valueAt_keys]
    · exact absurd rfl other

/-- **What is set is got, and nothing else changes.** At the four keys of a configuration and for a
value that is no object, setting goes beyond a limit, and then no file is another one than before;
or it fails for the value exactly where it is a level that there is not, in any case and with any
white space around it, or a threshold that there is not, and then leaves the files as they are.
Otherwise, if the file can be written, the key is got with the value, and the other three with what
they were got with before. -/
theorem get_of_set (stack : Stack) (files : Files) (path : FilePath) (now key : String)
    (value : Json CodeText)
    (known : key ∈ ["version", "initialized", "security.level", "security.fail_on"])
    (plain : value.isObject = false)
    (inFile : ∀ bytes members, files.find path = .ok (.file bytes) →
      HoldsObject bytes members → (Json.object members).FloatFree)
    (floatFree : value.FloatFree) (spelled : value.Spelled) :
    let change := Config.set stack files path now key value
    let Refused :=
      (key = "security.level" ∧ ¬ ∃ text : String, value = .string text ∧
        String.ofList (Text.upper (Text.trim text.toList)) ∈ ["STRICT", "STANDARD", "PERMISSIVE"]) ∨
      (key = "security.fail_on" ∧ ¬ ∃ text ∈ ["low", "medium", "high", "critical", "never"],
        value = .string (text : CodeText))
    (∃ limit, SetExceeds stack files path now key value limit ∧
        change.result = .error (.unfit (.limit limit)) ∧ files.SameFiles change.files) ∨
      ((∃ error, error.isOfValue = true ∧ change.result = .error error) ↔ Refused) ∧
      (Refused → change.files = files) ∧
      (¬ Refused → Writable files path → ∃ config, change.result = .ok config ∧
        (get stack change.files path now key).2 =
          .ok (if key = "security.level" then value.normalized else value) ∧
        ∀ other ∈ ["version", "initialized", "security.level", "security.fail_on"], other ≠ key →
          ∃ before, (get stack files path now other).2 = .ok before ∧
            (get stack change.files path now other).2 = .ok before) := by
  intro change Refused
  have refused_iff : SetRefuses key value ↔ Refused := by
    unfold SetRefuses
    rw [Level.ofJson?_eq_none_iff, Threshold.ofJson?_eq_none_iff]
    refine or_congr_right (or_iff_left ?_)
    exact fun all => ne_security_of_mem_keys known all.1
  rw [← refused_iff]
  rcases set_cases stack files path now key spelled.keyed with
    ⟨limit, exceeds, failed⟩ | ⟨refused, same, error, ofValue, failed⟩ |
      ⟨accepts, unwritable, error, failed⟩ |
      ⟨accepts, written, config, writes, loaded, fits, saves, done, after⟩
  · exact .inl ⟨limit, exceeds, failed, sameFiles_of_set failed⟩
  · refine .inr ⟨⟨fun _ => refused, fun _ => ⟨error, ofValue, failed⟩⟩, fun _ => same, ?_⟩
    exact fun accepts => absurd refused accepts
  · refine .inr ⟨⟨?_, fun refused => absurd refused accepts⟩, fun refused => absurd refused accepts,
      fun _ writable => absurd writable unwritable⟩
    rintro ⟨other, ofValue, same⟩
    cases failed.symm.trans same
    cases ofValue
  · refine .inr ⟨⟨?_, fun refused => absurd refused accepts⟩, fun refused => absurd refused accepts,
      fun _ _ => ?_⟩
    · rintro ⟨other, -, same⟩
      cases done.symm.trans same
    · obtain ⟨text, saved, found, -⟩ := save_again saves
      rw [← after] at found
      have kept : (config.changed (assignment key written)).IsPlain := by
        rw [set_of_writes writes] at done
        exact isPlain_of_update done inFile (floatFree_assignment floatFree writes)
          (spelled_assignment spelled writes)
      have loads := load_of_text saved found now
      rw [kept.reread_eq] at loads
      have got := get_of_load (congrArg Prod.snd loads) (depth_le_of_text saved)
      obtain ⟨here, others⟩ := valueAt_changed config known plain writes
      refine ⟨_, done, ?_, fun other among different => ⟨_, get_of_load loaded fits other, ?_⟩⟩
      · rw [got, here, writes.eq]
      · rw [got, others other among different]

/-- A level in small letters between blanks is got as it is usually spelled, and the threshold is
got as before, where no file was. -/
theorem get_of_set_padded :
    let path : FilePath := ⟨false, ["config.json"]⟩
    let change := Config.set .usual {} path "today" "security.level" (.string " standard ")
    ∃ config, change.result = .ok config ∧
      (get .usual change.files path "today" "security.level").2 = .ok (.string "STANDARD") ∧
      (get .usual change.files path "today" "security.fail_on").2 = .ok (.string "high") := by
  intro path change
  have missing : Files.find {} path = .error .missing := Files.find_empty (by decide)
  have spelled : String.ofList (Text.upper (Text.trim " standard ".toList)) = "STANDARD" := by
    decide
  have loads := congrArg Prod.snd (load_of_missing .usual missing "today")
  have accepts : ¬ (("security.level" = "security.level" ∧
      ¬ ∃ text : String, Json.string (" standard " : CodeText) = .string (text : CodeText) ∧
        String.ofList (Text.upper (Text.trim text.toList)) ∈ ["STRICT", "STANDARD", "PERMISSIVE"]) ∨
      ("security.level" = "security.fail_on" ∧
        ¬ ∃ text ∈ ["low", "medium", "high", "critical", "never"],
          Json.string (" standard " : CodeText) = .string (text : CodeText))) := by
    rintro (⟨-, unknown⟩ | ⟨other, -⟩)
    · exact unknown ⟨_, rfl, by rw [spelled]; decide⟩
    · exact absurd other (by decide)
  have plain := Json.plain_ofString " standard "
  rcases get_of_set .usual {} path "today" "security.level" (.string " standard ") (by decide) rfl
      (fun bytes _ found => by rw [missing] at found; cases found)
      (Json.Everywhere.imp (fun _ => And.right) plain)
      (Json.Everywhere.imp (fun _ => And.left) plain) with
    ⟨limit, ⟨-, limited⟩ | ⟨written, writes, exceeds⟩, -⟩ | ⟨-, -, succeeds⟩
  · cases limited
  · obtain ⟨-, level, -, rfl⟩ | ⟨other, -⟩ | ⟨other, -⟩ := writes
    · have shown : saidLimit? .usual (assignment "security.level" (.string level.key)) = none := by
        cases level <;> decide
      have within : ((default "today").changed
          (assignment "security.level" (.string level.key))).toJson.limit? Stack.usual.copying =
            none := by
        cases level <;> decide
      exact absurd exceeds (not_exceeds loads (by decide) shown within)
    · exact absurd other (by decide)
    · exact absurd rfl other
  · obtain ⟨config, done, level, others⟩ := succeeds accepts (writable_empty (by decide))
    refine ⟨config, done, ?_, ?_⟩
    · rw [level, if_pos rfl, Json.normalized_string, spelled]
    · obtain ⟨before, got, again⟩ := others "security.fail_on" (by decide) (by decide)
      rw [get_of_load loads (by decide), (default "today").valueAt_keys.2.2.2] at got
      cases got
      exact again

/-- With the usual stack, a file of a hundred thousand opening brackets keeps the version from being
set and got. -/
theorem set_breaks_off :
    (Config.set .usual bracketFiles bracketPath "today" "version" (.int 1)).result =
        .error (.unfit (.limit .depth)) ∧
      (get .usual bracketFiles bracketPath "today" "version").2 = .error .overflow := by
  have writes : Writes "version" (.int 1) (.int 1) := .inr (.inr ⟨by decide, by decide, rfl⟩)
  constructor
  · rw [set_of_writes writes]
    refine (update_of_not_load (fun config loaded => ?_) _).1
    rw [load_bracketFiles] at loaded
    cases loaded
  · rw [get, load_bracketFiles]

end Config

end ShellVet
