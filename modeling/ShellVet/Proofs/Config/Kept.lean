import ShellVet.Proofs.Config.FailsClosed
import ShellVet.Proofs.Files.Saved
import ShellVet.Proofs.Json.RoundTrip

/-!
# What a change saves is what is loaded

A change that succeeds saves a configuration that the next load gives back, without a notice, and
that is saved as the same text again (`load_of_update`). What was there before may be anything; only
numbers with a fraction or an exponent are left out, in the file and in the changes, as their text
need not lead back to them. With them, what is loaded has the numbers that their texts are read as,
and the same settings (`load_of_text`). So it is with the two halves of a surrogate pair, which no
document has apart that was read from a text.
-/

namespace ShellVet

theorem Level.ofJson?_key (level : Level) :
    Level.ofJson? (.string (level.key : CodeText)) = some level := by
  rw [Level.ofJson?_eq_some_iff]
  refine ⟨level.key, rfl, ?_⟩
  cases level <;> decide

theorem Threshold.ofJson?_name (threshold : Threshold) :
    Threshold.ofJson? (.string (threshold.name : CodeText)) = some threshold :=
  Threshold.ofJson?_eq_some_iff.mpr rfl

namespace Config

variable {stack : Stack} {files : Files} {path : FilePath} {config : Config} {now : String}
  {members changes : Json.Members CodeText}

/-! ## Configurations as documents -/

theorem spells_self : Spells "level" "level" ∧ Spells "fail_on" "fail_on" :=
  ⟨⟨"level", rfl, by decide⟩, ⟨"fail_on", rfl, by decide⟩⟩

theorem field?_pair (level threshold : Json CodeText) :
    field? "level" [("level", level), ("fail_on", threshold)] = some level ∧
      field? "fail_on" [("level", level), ("fail_on", threshold)] = some threshold := by
  constructor
  · refine field?_eq_some_iff.mpr ⟨[], "level", _, rfl, spells_self.1, ?_⟩
    rw [List.forall_mem_singleton, ← spells_iff]
    change ¬ spells "level" ("fail_on" : CodeText) = true
    decide
  · exact field?_eq_some_iff.mpr ⟨[_], "fail_on", [], rfl, spells_self.2, nofun⟩

/-- The settings of a configuration as members of a document. -/
def settingsOf (config : Config) : Json.Members CodeText :=
  [("level", .string config.level.key), ("fail_on", .string config.threshold.name)]

/-- The members of a configuration give it back, and nothing is replaced. -/
theorem ofMembers_members (stack : Stack) (config : Config) :
    ofMembers stack config.members = ([], .ok config) := by
  have found : security? config.members = some config.settingsOf := rfl
  unfold ofMembers
  rw [found]
  dsimp only [settingsOf]
  rw [(field?_pair _ _).1, (field?_pair _ _).2]
  dsimp only [orDefault]
  rw [Level.ofJson?_key, Threshold.ofJson?_name]
  rfl

section

variable {holds : Json CodeText → Prop} (strings : ∀ text : String, holds (.string text))

include strings

/-- A configuration keeps values of the object it is made from. -/
theorem everywhere_ofSettings (everywhere : (Json.object members).Everywhere holds)
    (security : Json.Members CodeText) :
    (ofSettings members security).version.Everywhere holds ∧
      (ofSettings members security).initialized.Everywhere holds := by
  have kept (name : CodeText) (fallback : String) :
      ((members.lookup name).getD (.string fallback)).Everywhere holds := by
    cases found : members.lookup name with
    | none => exact .leaf (strings fallback) rfl
    | some value => exact everywhere.lookup found
  exact ⟨kept "version" "1.0.0", kept "initialized" ""⟩

/-- A load keeps values of the object in the file. -/
theorem everywhere_load (inFile : ∀ bytes members, files.find path = .ok (.file bytes) →
      HoldsObject bytes members → (Json.object members).Everywhere holds)
    (loaded : (load stack files path now).2 = .ok config) :
    config.version.Everywhere holds ∧ config.initialized.Everywhere holds := by
  rcases load_cases stack files path now with
    ⟨bytes, members, security, found, object, -, given⟩ | ⟨-, given⟩ | ⟨given, -⟩
  · rw [loaded] at given
    cases given
    exact everywhere_ofSettings strings (inFile bytes members found object) security
  · rw [loaded] at given
    cases given
    exact ⟨.leaf (strings _) rfl, .leaf (strings _) rfl⟩
  · rw [loaded] at given
    cases given

end

/-- What is kept as it is in a configuration is the same after it was written and read. -/
structure IsPlain (config : Config) : Prop where
  version : config.version.Plain
  initialized : config.initialized.Plain

theorem strings_plain (text : String) :
    (Json.string (text : CodeText)).IsSpelled ∧ ¬ (Json.string (text : CodeText)).IsFloat :=
  ⟨CodeText.isJoined_ofString text, id⟩

theorem HoldsObject.spelled {bytes : List UInt8} (object : HoldsObject bytes members) :
    (Json.object members).Spelled := by
  obtain ⟨text, -, room, read⟩ := object
  exact Json.spelled_of_read read

/-- A load gives a plain configuration where the file holds no fraction. -/
theorem isPlain_load (floatFree : ∀ bytes members, files.find path = .ok (.file bytes) →
      HoldsObject bytes members → (Json.object members).FloatFree)
    (loaded : (load stack files path now).2 = .ok config) : config.IsPlain := by
  have kept := everywhere_load strings_plain
    (fun bytes members found object => object.spelled.plain (floatFree bytes members found object))
    loaded
  exact ⟨kept.1, kept.2⟩

theorem nodup_members (config : Config) : (config.members.map (·.1)).Nodup := by
  change (["version", "initialized", "security"] : List CodeText).Nodup
  decide

theorem nodup_settingsOf (config : Config) : (config.settingsOf.map (·.1)).Nodup := by
  change (["level", "fail_on"] : List CodeText).Nodup
  decide

theorem IsPlain.object (plain : config.IsPlain) : (Json.object config.members).Plain := by
  have joined := CodeText.isJoined_ofString
  have security : (Json.object config.settingsOf).Plain := by
    refine Json.everywhere_object ⟨⟨config.nodup_settingsOf, ?_⟩, id⟩ ?_
    · simp [settingsOf, joined]
    · simp only [settingsOf, List.forall_mem_cons, List.not_mem_nil, false_imp_iff, implies_true,
        and_true]
      exact ⟨Json.plain_ofString _, Json.plain_ofString _⟩
  refine Json.everywhere_object ⟨⟨config.nodup_members, ?_⟩, id⟩ ?_
  · simp [Config.members, joined]
  · simp only [Config.members, List.forall_mem_cons, List.not_mem_nil, false_imp_iff,
      implies_true, and_true]
    exact ⟨plain.version, plain.initialized, security⟩

/-! ## Texts of configurations -/

/-- The configuration as its text is read. -/
def reread (config : Config) : Config :=
  { config with version := config.version.reread, initialized := config.initialized.reread }

theorem reread_toJson (config : Config) : config.toJson.reread = .object config.reread.members := by
  have joined (text : String) : (CodeText.ofString text).joined = text :=
    CodeText.isJoined_ofString text
  have settings : Json.distinct config.settingsOf = config.settingsOf := rfl
  have whole : Json.distinct config.reread.members = config.reread.members :=
    Json.distinct_of_nodup config.reread.nodup_members
  rw [← whole]
  simp only [toJson, members, Json.reread, Json.rereadMembers, joined, reread]
  rfl

theorem IsPlain.reread_eq (plain : config.IsPlain) : config.reread = config := by
  unfold Config.reread
  rw [plain.version.reread_eq, plain.initialized.reread_eq]

theorem text_eq (stack : Stack) (config : Config) :
    config.text stack =
      if stack.copying < config.toJson.depth then .error .depth
      else (config.toJson.limit? stack.copying).elim (.ok config.toJson.lines) .error := by
  have whole : Json.object config.members = config.toJson := rfl
  unfold Config.text copied
  split
  · rfl
  · dsimp only [bind, Except.bind]
    rw [whole]
    cases config.toJson.limit? stack.copying <;> rfl

/-- A configuration that is within the limits is saved with a line for each member. -/
theorem text_eq_ok_iff {text : String} :
    config.text stack = .ok text ↔
      config.toJson.limit? stack.copying = none ∧ text = config.toJson.lines := by
  have deep : stack.copying < config.toJson.depth → config.toJson.limit? stack.copying ≠ none :=
    fun deep unlimited => absurd (Json.limit?_eq_none_iff.mp unlimited).1 (Nat.not_le.mpr deep)
  rw [text_eq]
  split
  · next tooDeep => simp [deep tooDeep]
  · cases config.toJson.limit? stack.copying with
    | some limit => simp
    | none => simp [eq_comm]

/-- A configuration that cannot be saved nests too deep or holds an integer of too many digits. -/
theorem text_eq_error {limit : Limit} (failed : config.text stack = .error limit) :
    (limit = .depth ∧ stack.copying < config.toJson.depth) ∨
      limit = .digits ∧ ¬ config.toJson.Everywhere Json.IsShort := by
  rw [text_eq] at failed
  split at failed
  · next deep =>
    cases failed
    exact .inl ⟨rfl, deep⟩
  · next fits =>
    cases limited : config.toJson.limit? stack.copying with
    | none =>
      rw [limited] at failed
      cases failed
    | some other =>
      rw [limited] at failed
      cases failed
      exact .inr (Json.limit?_eq_some (Nat.le_of_not_lt fits) limited)

theorem depth_le_of_text {text : String} (written : config.text stack = .ok text) :
    config.toJson.depth ≤ stack.copying :=
  (Json.limit?_eq_none_iff.mp (text_eq_ok_iff.mp written).1).1

/-- What a text is read as nests no deeper than the configuration it was written for may. -/
theorem depth_reread_of_text {text : String} (written : config.text stack = .ok text) :
    config.reread.toJson.depth ≤ stack.copying := by
  obtain ⟨unlimited, rfl⟩ := text_eq_ok_iff.mp written
  have read : Json.read stack.copying config.toJson.lines.toList =
      .ok (.object config.reread.members) := by
    rw [Json.lines, String.toList_ofList, ← reread_toJson]
    exact Json.read_write_reread Json.Layout.spaced_manyLines unlimited
  exact (Json.limit?_eq_none_iff.mp (Json.limit?_of_read read)).1

/-- A file with the text of a configuration is loaded without a notice, as the text is read. -/
theorem load_of_text {text : String} (written : config.text stack = .ok text)
    (found : files.find path = .ok (.file (Files.bytesOf text))) (now : String) :
    load stack files path now = ([], .ok config.reread) := by
  obtain ⟨unlimited, rfl⟩ := text_eq_ok_iff.mp written
  have read : Json.read stack.reading (Text.joinLineEnds config.toJson.lines.toList) =
      .ok (.object config.reread.members) := by
    rw [Json.lines, String.toList_ofList,
      Text.joinLineEnds_of_not_mem (Json.return_not_mem_write _ 0), ← reread_toJson]
    exact Json.read_write_reread Json.Layout.spaced_manyLines
      (Json.limit?_of_le stack.copying_le_reading unlimited)
  rw [load_of_file stack found, ofBytes_of_read read, ofMembers_members]
  rfl

/-! ## Saving -/

/-- Saving makes folders, and puts the text of the configuration into its file; where one of these
fails nothing more happens. -/
theorem save_cases (stack : Stack) (config : Config) (files : Files) (path : FilePath) :
    (∃ error, config.save stack files path = (files, .error (.file error))) ∨
      ∃ made, files.makeFolders path.parent = .ok made ∧
        ((∃ limit, config.text stack = .error limit ∧
            config.save stack files path = (made, .error (.unfit (.limit limit)))) ∨
          ∃ text, config.text stack = .ok text ∧
            ((∃ error, made.write path (Files.bytesOf text) = .error error ∧
                config.save stack files path = (made, .error (.file error))) ∨
              ∃ written, made.write path (Files.bytesOf text) = .ok written ∧
                config.save stack files path = (written, .ok ()))) := by
  unfold save
  cases files.makeFolders path.parent with
  | error error => exact .inl ⟨error, rfl⟩
  | ok made =>
    refine .inr ⟨made, rfl, ?_⟩
    dsimp only
    cases config.text stack with
    | error limit => exact .inl ⟨limit, rfl, rfl⟩
    | ok text =>
      refine .inr ⟨text, rfl, ?_⟩
      dsimp only
      cases made.write path (Files.bytesOf text) with
      | error error => exact .inl ⟨error, rfl, rfl⟩
      | ok written => exact .inr ⟨written, rfl, rfl⟩

/-- Where saving fails no file is another one than before. -/
theorem sameFiles_of_save {error : ChangeError}
    (failed : (config.save stack files path).2 = .error error) :
    files.SameFiles (config.save stack files path).1 := by
  rcases save_cases stack config files path with
    ⟨_, given⟩ | ⟨made, folders, ⟨_, -, given⟩ | ⟨_, -, ⟨_, -, given⟩ | ⟨_, -, given⟩⟩⟩
  · rw [given]
    exact .refl files
  · rw [given]
    exact Files.sameFiles_of_makeFolders folders
  · rw [given]
    exact Files.sameFiles_of_makeFolders folders
  · rw [given] at failed
    cases failed

/-- Saving puts the text of the configuration at the path, and saving again changes nothing. -/
theorem save_again (done : (config.save stack files path).2 = .ok ()) :
    ∃ text, config.text stack = .ok text ∧
      (config.save stack files path).1.find path = .ok (.file (Files.bytesOf text)) ∧
      config.save stack (config.save stack files path).1 path =
        ((config.save stack files path).1, .ok ()) := by
  rcases save_cases stack config files path with
    ⟨_, given⟩ |
      ⟨made, folders, ⟨_, -, given⟩ | ⟨text, known, ⟨_, -, given⟩ | ⟨saved, written, given⟩⟩⟩
  case inr.inr.inr =>
    rw [given]
    refine ⟨text, known, Files.read_of_write written, ?_⟩
    unfold save
    rw [Files.makeFolders_again folders written]
    dsimp only
    rw [known]
    dsimp only
    rw [Files.write_again written]
  all_goals
    rw [given] at done
    cases done

/-- A file can be written at the path. -/
def Writable (files : Files) (path : FilePath) : Prop :=
  ∀ bytes, ∃ made saved, files.makeFolders path.parent = .ok made ∧
    made.write path bytes = .ok saved

/-- Where the file can be written, only the limits stand in the way of saving. -/
theorem Writable.save (writable : Writable files path) (stack : Stack) (config : Config) :
    (config.save stack files path).2 =
      match config.text stack with
      | .error limit => .error (.unfit (.limit limit))
      | .ok _ => .ok () := by
  unfold Config.save
  cases written : config.text stack with
  | error limit =>
    obtain ⟨made, saved, folders, -⟩ := writable []
    rw [folders]
  | ok text =>
    obtain ⟨made, saved, folders, placed⟩ := writable (Files.bytesOf text)
    rw [folders]
    dsimp only
    rw [placed]

section

variable {name : String} (named : Files.IsName name)
include named

theorem writable_empty : Writable {} ⟨false, [name]⟩ :=
  fun bytes => ⟨{}, _, rfl, Files.write_empty named bytes⟩

/-- Where the only file is that of the configuration, it is replaced. -/
theorem save_only {text : String} (written : config.text stack = .ok text) (old : List UInt8) :
    config.save stack ⟨[(⟨false, [name]⟩, .file old)]⟩ ⟨false, [name]⟩ =
      (⟨[(⟨false, [name]⟩, .file (Files.bytesOf text))]⟩, .ok ()) := by
  have made (files : Files) :
      files.makeFolders (FilePath.parent ⟨false, [name]⟩) = .ok files := rfl
  unfold Config.save
  rw [made, written]
  dsimp only
  rw [Files.write_only named]

end

/-! ## Changing -/

/-- A change to a configuration that is loaded and can be copied merges the changes into it and
saves what comes of that. -/
theorem update_of_load (loaded : (load stack files path now).2 = .ok config)
    (fits : config.toJson.depth ≤ stack.copying) (changes : Json.Members CodeText) :
    match (ofMembers stack (Json.merge config.members changes)).2 with
    | .error reason =>
      (update stack files path now changes).result = .error (.unfit reason) ∧
        (update stack files path now changes).files = files
    | .ok changed =>
      (update stack files path now changes).result =
          (changed.save stack files path).2.map (fun _ => changed) ∧
        (update stack files path now changes).files = (changed.save stack files path).1 := by
  have copies : config.copied stack = .ok config.members := if_neg (Nat.not_lt.mpr fits)
  unfold update
  generalize load stack files path now = given at loaded ⊢
  obtain ⟨notices, outcome⟩ := given
  cases loaded
  dsimp only
  rw [copies]
  dsimp only
  generalize ofMembers stack (Json.merge config.members changes) = made
  obtain ⟨more, made⟩ := made
  cases made <;> exact ⟨rfl, rfl⟩

/-- A change that breaks off before the changes are merged leaves the files as they are. -/
theorem update_of_not_load (broken : ∀ config, (load stack files path now).2 = .ok config →
      stack.copying < config.toJson.depth) (changes : Json.Members CodeText) :
    (update stack files path now changes).result = .error (.unfit (.limit .depth)) ∧
      (update stack files path now changes).files = files := by
  unfold update
  generalize load stack files path now = given at broken ⊢
  obtain ⟨notices, loaded⟩ := given
  cases loaded with
  | error => exact ⟨rfl, rfl⟩
  | ok config =>
    have copies : config.copied stack = .error .depth := if_pos (broken config rfl)
    dsimp only
    rw [copies]
    exact ⟨rfl, rfl⟩

/-- A configuration is loaded and can be copied, or none is. -/
theorem exists_load_or (stack : Stack) (files : Files) (path : FilePath) (now : String) :
    (∃ config, (load stack files path now).2 = .ok config ∧ config.toJson.depth ≤ stack.copying) ∨
      ∀ config, (load stack files path now).2 = .ok config →
        stack.copying < config.toJson.depth := by
  cases (load stack files path now).2 with
  | error => exact .inr nofun
  | ok config =>
    rcases Nat.lt_or_ge stack.copying config.toJson.depth with deep | fits
    · exact .inr fun other same => Except.ok.inj same ▸ deep
    · exact .inl ⟨config, rfl, fits⟩

/-- A change that succeeds saves the configuration it gives, made of the changes and what was
loaded. -/
theorem update_eq_ok (updated : (update stack files path now changes).result = .ok config) :
    ∃ old, (load stack files path now).2 = .ok old ∧ old.toJson.depth ≤ stack.copying ∧
      (ofMembers stack (Json.merge old.members changes)).2 = .ok config ∧
      (config.save stack files path).2 = .ok () ∧
      (update stack files path now changes).files = (config.save stack files path).1 := by
  rcases exists_load_or stack files path now with ⟨old, loaded, fits⟩ | broken
  · have given := update_of_load loaded fits changes
    refine ⟨old, loaded, fits, ?_⟩
    split at given
    · rw [given.1] at updated
      cases updated
    · next changed made =>
      rw [given.1] at updated
      cases saved : (changed.save stack files path).2 with
      | error error =>
        rw [saved] at updated
        cases updated
      | ok done =>
        rw [saved] at updated
        cases updated
        exact ⟨made, saved, given.2⟩
  · rw [(update_of_not_load broken changes).1] at updated
    cases updated

/-- Where a change fails no file is another one than before. -/
theorem sameFiles_of_update {error : ChangeError}
    (failed : (update stack files path now changes).result = .error error) :
    files.SameFiles (update stack files path now changes).files := by
  rcases exists_load_or stack files path now with ⟨old, loaded, fits⟩ | broken
  · have given := update_of_load loaded fits changes
    split at given
    · rw [given.2]
      exact .refl files
    · next changed made =>
      rw [given.2]
      rw [given.1] at failed
      cases saved : (changed.save stack files path).2 with
      | error error => exact sameFiles_of_save saved
      | ok done =>
        rw [saved] at failed
        cases failed
  · rw [(update_of_not_load broken changes).2]
    exact .refl files

/-- Without fractions, the configuration that a change gives is the same after it was written and
read. -/
theorem isPlain_of_update (updated : (update stack files path now changes).result = .ok config)
    (inFile : ∀ bytes members, files.find path = .ok (.file bytes) →
      HoldsObject bytes members → (Json.object members).FloatFree)
    (floatFree : (Json.object changes).FloatFree) (spelled : (Json.object changes).Spelled) :
    config.IsPlain := by
  obtain ⟨old, loaded, -, made, -, -⟩ := update_eq_ok updated
  have merged := (isPlain_load inFile loaded).object.merge (spelled.plain floatFree)
  rw [ofMembers_snd] at made
  split at made
  · cases made
  · split at made
    · cases made
    · cases made
      have kept := everywhere_ofSettings strings_plain merged
      exact ⟨(kept _).1, (kept _).2⟩

end Config

end ShellVet
