import ShellVet.Proofs.Config.Assigned

/-!
# What the settings come to

After any key was set to any value, each of the two settings is what it was, or what was assigned to
it, or the default (`Follows`, `load_of_set`). The default is taken in silence only where a setting
is reached by another way than its name, which alone is checked: by another spelling, with an object
around it, or from below (`set_respelled_replaced`).
-/

namespace ShellVet

namespace Config

variable {name key : String} {value written : Json CodeText} {config : Config}

/-! ## Assigned values -/

/-- The value that setting a key assigns to a setting: what is said of the setting in the object
that is put under `security`, if one is. -/
def assigned? (name key : String) (value : Json CodeText) : Option (Json CodeText) :=
  match (assignment key value).lookup ("security" : CodeText) with
  | some (.object settings) => said? name settings
  | _ => none

/-- What a setting comes to when a key is set to a value. Where nothing is assigned to it, it is
kept, unless something empty is put in the place of all settings; what is assigned to it counts
where it is valid, and is replaced by the default where it is not. -/
inductive Follows {α : Type} (read : Json CodeText → Option α) (fallback before : α)
    (name key : String) (value : Json CodeText) : α → Prop where
  | kept (silent : assigned? name key value = none)
      (object : key = "security" → value.isObject = true) :
      Follows read fallback before name key value before
  | assigned {said : Json CodeText} {setting : α} (told : assigned? name key value = some said)
      (valid : read said = some setting) : Follows read fallback before name key value setting
  | replaced {said : Json CodeText} (told : assigned? name key value = some said)
      (invalid : read said = none) : Follows read fallback before name key value fallback
  | emptied (all : key = "security") (plain : value.isObject = false) :
      Follows read fallback before name key value fallback

/-- A valid value that is assigned to a setting is what the setting comes to. -/
theorem Follows.eq_of_assigned {α : Type} {read : Json CodeText → Option α}
    {fallback before setting good : α} {said : Json CodeText}
    (follows : Follows read fallback before name key value setting)
    (told : assigned? name key value = some said) (valid : read said = some good) :
    setting = good := by
  cases follows with
  | kept silent _ =>
    rw [silent] at told
    cases told
  | assigned again same =>
    rw [told] at again
    cases again
    exact Option.some.inj (same.symm.trans valid)
  | replaced again invalid =>
    rw [told] at again
    cases again
    rw [valid] at invalid
    cases invalid
  | emptied all plain =>
    have here : (assignment key value).lookup ("security" : CodeText) = some value :=
      lookup_assignment_iff.mpr ⟨[], by rw [all]; decide, rfl⟩
    rw [assigned?, here] at told
    cases value with
    | object settings => cases plain
    | _ => cases told

/-- Where only valid values are assigned to a setting, and not all settings are replaced by
something empty, the setting is kept or comes to what was assigned. -/
theorem Follows.kept_or_assigned {α : Type} {read : Json CodeText → Option α}
    {fallback before setting : α}
    (follows : Follows read fallback before name key value setting)
    (accepted : ∀ said, assigned? name key value = some said → read said ≠ none)
    (object : key = "security" → value.isObject = true) :
    setting = before ∨ ∃ said, assigned? name key value = some said ∧ read said = some setting := by
  cases follows with
  | kept => exact .inl rfl
  | assigned told valid => exact .inr ⟨_, told, valid⟩
  | replaced told invalid => exact absurd invalid (accepted _ told)
  | emptied all plain =>
    rw [object all] at plain
    cases plain

theorem follows_settled {α : Type} (read : Json CodeText → Option α) (fallback before : α)
    (name key : String) (value : Json CodeText) :
    Follows read fallback before name key value
      (settled read fallback name before
        ((assignment key value).lookup ("security" : CodeText))) := by
  have names : namesOf "security" = ["security"] := by decide
  cases found : (assignment key value).lookup ("security" : CodeText) with
  | none =>
    refine .kept (by rw [assigned?, found]) ?_
    rintro rfl
    have here : (assignment "security" value).lookup ("security" : CodeText) = some value :=
      lookup_assignment_iff.mpr ⟨[], names, rfl⟩
    rw [found] at here
    cases here
  | some under =>
    obtain ⟨rest, led, same⟩ := lookup_assignment_iff.mp found
    cases under with
    | object settings =>
      have told : assigned? name key value = said? name settings := by
        rw [assigned?, found]
      rw [settled]
      cases said : said? name settings with
      | none =>
        -- where all settings are set, what stands under `security` is the value itself
        refine .kept (told.trans said) ?_
        rintro rfl
        rw [names] at led
        cases led
        rw [nested] at same
        rw [← same]
        rfl
      | some assigned =>
        cases valid : read assigned with
        | none =>
          simp only [Option.map_some, Option.getD_some, valid, Option.getD_none]
          exact .replaced (told.trans said) valid
        | some setting =>
          simp only [Option.map_some, Option.getD_some, valid]
          exact .assigned (told.trans said) valid
    | _ =>
      cases rest with
      | nil =>
        rw [nested] at same
        exact .emptied (namesOf_injective (led.trans names.symm)) (same ▸ rfl)
      | cons next rest => cases same

/-- The settings after a value was written are those of the value itself. -/
theorem Writes.settings (writes : Writes key value written) (config : Config) :
    (config.changed (assignment key written)).level =
        (config.changed (assignment key value)).level ∧
      (config.changed (assignment key written)).threshold =
        (config.changed (assignment key value)).threshold := by
  rcases writes with ⟨rfl, level, named, rfl⟩ | ⟨-, -, -, rfl⟩ | ⟨-, -, rfl⟩
  · obtain ⟨text, rfl, -⟩ := Level.ofJson?_eq_some_iff.mp named
    rw [(config.changed_keys rfl).2.2.1, (config.changed_keys rfl).2.2.1, named,
      Level.ofJson?_key]
    exact ⟨rfl, rfl⟩
  · exact ⟨rfl, rfl⟩
  · exact ⟨rfl, rfl⟩

/-- **A setting follows what is set.** Unless a limit is exceeded, setting a key fails for its value
exactly where a setting is named and the value is not valid for it, or where all settings are to be
something that is neither an object nor empty, and then leaves the files as they are; and whenever
it fails, no file is another one than before. Where it succeeds, every later load gives, without a
notice, each setting as it was, or the valid value that was assigned to it, or the default: in place
of a value that is not valid but was assigned in another way than by the name, or of all
settings. -/
theorem load_of_set (stack : Stack) (files : Files) (path : FilePath) (now key : String)
    (value : Json CodeText) (keyed : value.Keyed) :
    let change := Config.set stack files path now key value
    let Refused := (key = "security.level" ∧ Level.ofJson? value = none) ∨
      (key = "security.fail_on" ∧ Threshold.ofJson? value = none) ∨
        key = "security" ∧ value.isObject = false ∧ value.isEmpty = false
    ((∃ limit, SetExceeds stack files path now key value limit ∧
        change.result = .error (.unfit (.limit limit))) ∨
      ((∃ error, error.isOfValue = true ∧ change.result = .error error) ↔ Refused) ∧
        (Refused → change.files = files)) ∧
    (∀ error, change.result = .error error → files.SameFiles change.files) ∧
    ∀ config, change.result = .ok config →
      ∃ before, (load stack files path now).2 = .ok before ∧
        ∀ later, ∃ after, load stack change.files path later = ([], .ok after) ∧
          Follows Level.ofJson? .default before.level "level" key value after.level ∧
          Follows Threshold.ofJson? .default before.threshold "fail_on" key value
            after.threshold := by
  intro change Refused
  have refused_iff : SetRefuses key value ↔ Refused := Iff.rfl
  refine ⟨?_, fun error => sameFiles_of_set, ?_⟩
  · rw [← refused_iff]
    rcases set_cases stack files path now key keyed with
      ⟨limit, exceeds, failed⟩ | ⟨refused, same, error, ofValue, failed⟩ |
        ⟨accepts, -, error, failed⟩ | ⟨accepts, _, _, -, -, -, -, done, -⟩
    · exact .inl ⟨limit, exceeds, failed⟩
    · exact .inr ⟨⟨fun _ => refused, fun _ => ⟨error, ofValue, failed⟩⟩, fun _ => same⟩
    · refine .inr ⟨⟨?_, fun refused => absurd refused accepts⟩,
        fun refused => absurd refused accepts⟩
      rintro ⟨other, ofValue, same⟩
      cases failed.symm.trans same
      cases ofValue
    · refine .inr ⟨⟨?_, fun refused => absurd refused accepts⟩,
        fun refused => absurd refused accepts⟩
      rintro ⟨other, -, same⟩
      cases done.symm.trans same
  · intro config succeeded
    rcases set_cases stack files path now key keyed with
      ⟨limit, -, failed⟩ | ⟨-, -, error, -, failed⟩ | ⟨-, -, error, failed⟩ |
        ⟨-, written, before, writes, loaded, -, saves, done, after⟩
    · cases failed.symm.trans succeeded
    · cases failed.symm.trans succeeded
    · cases failed.symm.trans succeeded
    · obtain ⟨text, saved, found, -⟩ := save_again saves
      rw [← after] at found
      obtain ⟨level, threshold⟩ := writes.settings before
      refine ⟨before, loaded, fun later => ⟨_, load_of_text saved found later, ?_⟩⟩
      change Follows _ _ _ _ _ _ (before.changed (assignment key written)).level ∧
        Follows _ _ _ _ _ _ (before.changed (assignment key written)).threshold
      rw [level, threshold]
      exact ⟨follows_settled _ _ _ _ _ _, follows_settled _ _ _ _ _ _⟩

/-- A level in small letters between blanks is loaded, where no file was before. -/
theorem load_of_set_padded :
    let path : FilePath := ⟨false, ["config.json"]⟩
    let change := Config.set .usual {} path "today" "security.level" (.string " standard ")
    ∃ config, change.result = .ok config ∧
      ∀ later, ∃ after, load .usual change.files path later = ([], .ok after) ∧
        after.level = .standard := by
  intro path change
  have keyed : (Json.string (" standard " : CodeText)).Keyed := Json.keyed_string _
  have named : Level.ofJson? (.string " standard ") = some .standard := by decide
  have writes : Writes "security.level" (.string " standard ") (.string "STANDARD") :=
    .inl ⟨rfl, .standard, named, rfl⟩
  have accepts : ¬ Refuses (assignment "security.level" (.string "STANDARD")) := fun refuses =>
    absurd (refuses_assignment_iff.mp refuses).1 (by decide)
  have within : ((default "today").changed
      (assignment "security.level" (.string "STANDARD"))).toJson.limit? Stack.usual.copying =
        none := by
    decide
  have missing : Files.find {} path = .error .missing := Files.find_empty (by decide)
  have loads := congrArg Prod.snd (load_of_missing .usual missing "today")
  have done : change.result =
      .ok ((default "today").changed (assignment "security.level" (.string "STANDARD"))) := by
    have writable : Writable {} path := writable_empty (by decide)
    have saves := writable.save .usual
      ((default "today").changed (assignment "security.level" (.string "STANDARD")))
    rw [text_eq_ok_iff.mpr ⟨within, rfl⟩] at saves
    have given : change = _ := set_of_writes writes
    rw [given, (update_of_accepts loads (by decide) (keyed_assignment keyed writes) accepts
      (by decide)).1, saves]
    rfl
  obtain ⟨before, -, later_loads⟩ :=
    (load_of_set .usual {} path "today" "security.level" (.string " standard ") keyed).2.2 _ done
  refine ⟨_, done, fun later => ?_⟩
  obtain ⟨after, loaded, level, -⟩ := later_loads later
  exact ⟨after, loaded, level.eq_of_assigned rfl named⟩

/-- Where the threshold is named by its other spelling, a value that is no threshold is not refused:
the default is saved in the place of a threshold that fails more. -/
theorem set_respelled_replaced :
    let path : FilePath := ⟨false, ["config.json"]⟩
    let before : Config := ⟨.string "1.0.0", .string "today", .strict, .low⟩
    let after : Config := ⟨.string "1.0.0", .string "today", .strict, .high⟩
    let files : Files := ⟨[(path, .file (Files.bytesOf before.toJson.lines))]⟩
    let change := Config.set .usual files path "today" "security.failOn" (.string "bad")
    load .usual files path "today" = ([], .ok before) ∧ change.result = .ok after ∧
      load .usual change.files path "today" = ([], .ok after) := by
  intro path before after files change
  have there (bytes : List UInt8) : Files.find ⟨[(path, .file bytes)]⟩ path = .ok (.file bytes) :=
    Files.find_only (by decide) bytes
  have texts (threshold : Threshold) :
      text .usual ⟨.string "1.0.0", .string "today", .strict, threshold⟩ =
        .ok (toJson ⟨.string "1.0.0", .string "today", .strict, threshold⟩).lines := by
    refine text_eq_ok_iff.mpr ⟨?_, rfl⟩
    cases threshold <;> decide
  have rereads (threshold : Threshold) :
      reread ⟨.string "1.0.0", .string "today", .strict, threshold⟩ =
        ⟨.string "1.0.0", .string "today", .strict, threshold⟩ :=
    IsPlain.reread_eq ⟨Json.plain_ofString _, Json.plain_ofString _⟩
  have loads : load .usual files path "today" = ([], .ok before) := by
    rw [load_of_text (texts .low) (there _) "today", rereads]
  have writes : Writes "security.failOn" (.string "bad") (.string "bad") :=
    .inr (.inr ⟨by decide, by decide, rfl⟩)
  have accepts : ¬ Refuses (assignment "security.failOn" (.string "bad")) := fun refuses =>
    absurd (refuses_assignment_iff.mp refuses).1 (by decide)
  have keyed : (Json.string ("bad" : CodeText)).Keyed := Json.keyed_string _
  have changes : before.changed (assignment "security.failOn" (.string "bad")) = after := rfl
  have saves : after.save .usual files path =
      (⟨[(path, .file (Files.bytesOf after.toJson.lines))]⟩, .ok ()) :=
    save_only (by decide) (texts .high) _
  obtain ⟨done, saved⟩ := update_of_accepts (congrArg Prod.snd loads) (by decide)
    (keyed_assignment keyed writes) accepts (by decide +kernel)
  rw [changes, saves, ← set_of_writes writes] at done saved
  refine ⟨loads, done, ?_⟩
  rw [show change.files = _ from saved, load_of_text (texts .high) (there _) "today", rereads]

end Config

end ShellVet
