import ShellVet.Config.Store
import ShellVet.Proofs.Files.Saved
import ShellVet.Proofs.Json.Faults
import ShellVet.Proofs.Json.Limits
import ShellVet.Proofs.Text.Codes
import ShellVet.Proofs.Text.Utf8

/-!
# Loading fails closed

Whatever is at its path, the saved preference is loaded, unless its text opens more arrays and
objects than there is room for. A setting that is loaded is other than the strict default only where
the file says so: it holds the UTF-8 text of a JSON object, under `security` is an object, and in
that the last member of the setting's name spells the value (`load_failsClosed`). As this is said of
every state of the files, it is true of every load in a history of steps that read, change,
overwrite and remove the file (`loads_failClosed`). Where the room is used up nothing is loaded, and
no default takes the place of the file (`load_breaks_off`).

An object is what reading makes of it: a key that is written again keeps its first place and takes
its last value.
-/

namespace ShellVet

theorem Text.joinLineEnds_of_not_mem {text : List Char} (plain : '\r' ∉ text) :
    Text.joinLineEnds text = text := by
  induction text with
  | nil => rfl
  | cons c text ih =>
    rw [List.mem_cons, not_or] at plain
    have other : c ≠ '\r' := Ne.symm plain.1
    unfold Text.joinLineEnds
    split
    case h_1 same => exact absurd (List.cons.inj same).1 other
    case h_2 same => exact absurd (List.cons.inj same).1 other
    case h_3 same =>
      cases same
      rw [ih plain.2]
    case h_4 none => cases none

/-- Line ends open nothing. -/
theorem Json.openings_joinLineEnds (text : List Char) :
    openings (Text.joinLineEnds text) = openings text := by
  unfold openings
  induction text using Text.joinLineEnds.induct with
  | case1 rest ih => simp [Text.joinLineEnds, ih]
  | case2 rest other ih =>
    rw [Text.joinLineEnds]
    · simp [ih]
    · exact other
  | case3 c rest other alone ih =>
    rw [Text.joinLineEnds]
    · simp [List.countP_cons, ih]
    · exact other
    · exact alone
  | case4 => rfl

namespace Config

/-! ## What a file says -/

/-- The bytes are the UTF-8 text of a JSON document that is an object of these members. -/
def HoldsObject (bytes : List UInt8) (members : Json.Members CodeText) : Prop :=
  ∃ text : String, bytes = Files.bytesOf text ∧
    ∃ room, Json.read room (Text.joinLineEnds text.toList) = .ok (.object members)

/-- The key is a text that becomes the name in snake case. -/
def Spells (name : String) (key : CodeText) : Prop :=
  ∃ text : String, key = text ∧ Json.toSnake text = name

/-- The last member whose key is a spelling of the name has this value. -/
def LastNamed (name : String) (members : Json.Members CodeText) (value : Json CodeText) : Prop :=
  ∃ before key after, members = before ++ (key, value) :: after ∧ Spells name key ∧
    ∀ member ∈ after, ¬ Spells name member.1

/-- The file at the path gives the security setting of the name this value. -/
def Saved (files : Files) (path : FilePath) (name : String) (value : Json CodeText) : Prop :=
  ∃ bytes members security, files.find path = .ok (.file bytes) ∧ HoldsObject bytes members ∧
    members.lookup ("security" : CodeText) = some (.object security) ∧ LastNamed name security value

/-- The configuration has a level and a threshold of those there are, and they are the strict ones
but for what the file at the path says. -/
structure FailsClosed (files : Files) (path : FilePath) (config : Config) : Prop where
  level_known : config.level.key ∈ ["STRICT", "STANDARD", "PERMISSIVE"]
  threshold_known : config.threshold.name ∈ ["low", "medium", "high", "critical", "never"]
  level_said : ∀ level : Level, level.key ≠ "STRICT" →
    (config.level = level ↔ ∃ text : String, Saved files path "level" (.string text) ∧
      String.ofList (Text.upper (Text.trim text.toList)) = level.key)
  threshold_said : ∀ threshold : Threshold, threshold.name ≠ "high" →
    (config.threshold = threshold ↔ Saved files path "fail_on" (.string threshold.name))

/-- The text of the file at the path opens more arrays and objects than the stack has room for. -/
def TooDeep (stack : Stack) (files : Files) (path : FilePath) : Prop :=
  ∃ text : String, files.find path = .ok (.file (Files.bytesOf text)) ∧
    stack.reading < Json.openings text.toList

variable {stack : Stack} {files : Files} {path : FilePath} {bytes : List UInt8} {name now : String}
  {value : Json CodeText} {members security : Json.Members CodeText} {config : Config}

theorem spells_iff {key : CodeText} : spells name key = true ↔ Spells name key := by
  constructor
  · intro spelled
    cases read : Coded.string? key with
    | none => simp [spells, read] at spelled
    | some text =>
      refine ⟨text, CodeText.string?_eq_some_iff.mp read, ?_⟩
      simpa [spells, read] using spelled
  · rintro ⟨text, rfl, same⟩
    simp [spells, same]

theorem field?_eq_some_iff : field? name members = some value ↔ LastNamed name members value := by
  unfold field? LastNamed
  rw [Json.find?_reverse_eq_some_iff (spells name)]
  simp only [spells_iff, ← Bool.not_eq_true]

example :
    field? "fail_on" [("failOn", .string "never"), ("fail_on", .string "low"), ("level", .null)] =
      some (.string "low") := by
  rfl

/-- Bytes hold at most one object. -/
theorem toList_eq_of_bytesOf {text other : String}
    (same : Files.bytesOf text = Files.bytesOf other) : text.toList = other.toList := by
  have decoded := Text.decode_bytesOf text
  rw [same, Text.decode_bytesOf] at decoded
  exact (Except.ok.inj decoded).symm

theorem HoldsObject.unique {others : Json.Members CodeText} (holds : HoldsObject bytes members)
    (holdsOthers : HoldsObject bytes others) : members = others := by
  obtain ⟨text, encoded, _, read⟩ := holds
  obtain ⟨other, encodedOther, _, readOther⟩ := holdsOthers
  have same : text.toList = other.toList := toList_eq_of_bytesOf (encoded.symm.trans encodedOther)
  rw [← same] at readOther
  have agree := Json.read_eq_read (by rw [read]; nofun) (by rw [readOther]; nofun)
  rw [read, readOther] at agree
  cases agree
  rfl

/-! ## What an object says -/

/-- The configuration of an object with its security settings. -/
def ofSettings (members security : Json.Members CodeText) : Config where
  version := (members.lookup ("version" : CodeText)).getD currentVersion
  initialized := (members.lookup ("initialized" : CodeText)).getD (.string "")
  level := ((field? "level" security).bind Level.ofJson?).getD .default
  threshold := ((field? "fail_on" security).bind Threshold.ofJson?).getD .default

/-- What a value is too much for, where it is not valid and is to be shown. -/
def unshown? {α : Type} (stack : Stack) (read : Json CodeText → Option α) :
    Option (Json CodeText) → Option Limit
  | none => none
  | some value => if (read value).isSome then none else value.limit? stack.showing

/-- What the values of the settings are too much for, where they are not valid. -/
def settingsLimit? (stack : Stack) (security : Json.Members CodeText) : Option Limit :=
  unshown? stack Level.ofJson? (field? "level" security) <|>
    unshown? stack Threshold.ofJson? (field? "fail_on" security)

theorem orDefault_eq {α : Type} (stack : Stack) (read : Json CodeText → Option α) (fallback : α)
    (notice : Json CodeText → String) (said : Option (Json CodeText)) :
    ∃ notices, orDefault stack read fallback notice said =
      match unshown? stack read said with
      | some limit => .error limit
      | none => .ok ((said.bind read).getD fallback, notices) := by
  cases said with
  | none => exact ⟨[], rfl⟩
  | some value =>
    cases good : read value with
    | some chosen => exact ⟨[], by simp [orDefault, unshown?, good]⟩
    | none =>
      refine ⟨[notice value], ?_⟩
      simp only [orDefault, unshown?, good]
      cases value.limit? stack.showing with
      | none => simp [good]
      | some limit => simp

/-- An object makes the configuration of its settings, if it has any and they can be shown where
they are not valid. -/
theorem ofMembers_snd (stack : Stack) (members : Json.Members CodeText) :
    (ofMembers stack members).2 =
      match security? members with
      | none => .error .security
      | some security =>
        match settingsLimit? stack security with
        | some limit => .error (.limit limit)
        | none => .ok (ofSettings members security) := by
  unfold ofMembers settingsLimit?
  cases security? members with
  | none => rfl
  | some security =>
    dsimp only
    obtain ⟨_, level⟩ := orDefault_eq stack Level.ofJson? .default levelNotice
      (field? "level" security)
    obtain ⟨_, threshold⟩ := orDefault_eq stack Threshold.ofJson? .default thresholdNotice
      (field? "fail_on" security)
    rw [level, threshold]
    cases unshown? stack Level.ofJson? (field? "level" security) with
    | some limit => rfl
    | none => cases unshown? stack Threshold.ofJson? (field? "fail_on" security) <;> rfl

/-- A setting is the value of one of the members. -/
theorem mem_of_field? (found : field? name members = some value) :
    ∃ key, (key, value) ∈ members := by
  obtain ⟨before, key, after, rfl, -⟩ := field?_eq_some_iff.mp found
  exact ⟨key, by simp⟩

/-- The settings of an object are those under `security`; there are none where no object is
there. -/
theorem security?_cases (found : security? members = some security) :
    members.lookup ("security" : CodeText) = some (.object security) ∨
      security = [] ∧ ∀ others, members.lookup ("security" : CodeText) ≠ some (.object others) := by
  unfold security? at found
  split at found
  case h_1 absent =>
    cases found
    exact Or.inr ⟨rfl, fun others => by rw [absent]; nofun⟩
  case h_2 others object =>
    cases found
    exact Or.inl object
  case h_3 value other notObject =>
    split at found
    · cases found
      refine Or.inr ⟨rfl, fun others object => ?_⟩
      rw [object] at notObject
      exact other others (Option.some.inj notObject.symm)
    · cases found

theorem not_lastNamed_nil : ¬ LastNamed name [] value := by
  rintro ⟨before, key, after, whole, -⟩
  simp at whole

theorem unshown?_eq_none {α : Type} {read : Json CodeText → Option α}
    {said : Option (Json CodeText)}
    (within : ∀ value ∈ said, value.limit? stack.showing = none) :
    unshown? stack read said = none := by
  cases said with
  | none => rfl
  | some value =>
    rw [unshown?, within value rfl]
    exact ite_self _

/-- What is not valid in an object that was read can be shown. -/
theorem settingsLimit?_of_read {room : Nat} {text : List Char}
    (read : Json.read room text = .ok (.object members)) (fits : room ≤ stack.showing)
    (found : security? members = some security) : settingsLimit? stack security = none := by
  have within (name : String) :
      ∀ value ∈ field? name security, value.limit? stack.showing = none := by
    intro value said
    obtain ⟨key, inside⟩ := mem_of_field? said
    rcases security?_cases found with object | ⟨rfl, -⟩
    · obtain ⟨member, known, same⟩ := Json.mem_of_lookup object
      have whole := Json.limit?_of_le fits (Json.limit?_of_read read)
      have settings := Json.limit?_of_mem_parts whole (List.mem_map_of_mem known)
      rw [same] at settings
      exact Json.limit?_of_mem_parts settings (List.mem_map_of_mem inside)
    · cases inside
  rw [settingsLimit?, unshown?_eq_none (within "level"), unshown?_eq_none (within "fail_on")]
  rfl

/-! ## What a load reads -/

/-- Bytes that hold an object are read by what it says. -/
theorem ofBytes_of_read {text : String}
    (read : Json.read stack.reading (Text.joinLineEnds text.toList) = .ok (.object members)) :
    ofBytes stack (Files.bytesOf text) =
      ((ofMembers stack members).1, (ofMembers stack members).2.mapError .ofUnfit) := by
  unfold ofBytes
  rw [Text.decode_bytesOf]
  dsimp only
  rw [read]

/-- An object that the bytes hold is read, as more room would not change what is read unless it is
used up. -/
theorem HoldsObject.read {text : String} {room : Nat}
    (holds : HoldsObject (Files.bytesOf text) members)
    (ample : Json.read room (Text.joinLineEnds text.toList) ≠ .error .tooDeep) :
    Json.read room (Text.joinLineEnds text.toList) = .ok (.object members) := by
  obtain ⟨other, same, more, read⟩ := holds
  rw [toList_eq_of_bytesOf same] at ample ⊢
  rw [Json.read_eq_read ample (by rw [read]; nofun), read]

/-- Bytes that are read as anything but an object are malformed. -/
theorem malformed_of_read {text : String}
    (ample : Json.read stack.reading (Text.joinLineEnds text.toList) ≠ .error .tooDeep)
    (other : ∀ members,
      Json.read stack.reading (Text.joinLineEnds text.toList) ≠ .ok (.object members)) :
    (∀ members, ¬ HoldsObject (Files.bytesOf text) members) ∧
      ∃ reason, (ofBytes stack (Files.bytesOf text)).2 = .error (.malformed reason) := by
  refine ⟨fun members holds => other members (holds.read ample), ?_⟩
  unfold ofBytes
  rw [Text.decode_bytesOf]
  dsimp only
  generalize Json.read stack.reading (Text.joinLineEnds text.toList) = result at ample other ⊢
  cases result with
  | error fault =>
    cases fault with
    | tooDeep => exact absurd rfl ample
    | _ => exact ⟨_, rfl⟩
  | ok document =>
    cases document with
    | object members => exact absurd rfl (other members)
    | _ => exact ⟨_, rfl⟩

/-- The bytes of a file are read as the configuration of the object in them, or hold no object with
settings, or nest too deep. -/
theorem ofBytes_cases (stack : Stack) (bytes : List UInt8) :
    (∃ members security, HoldsObject bytes members ∧ security? members = some security ∧
        (ofBytes stack bytes).2 = .ok (ofSettings members security)) ∨
      ((∀ members, HoldsObject bytes members → security? members = none) ∧
        ∃ reason, (ofBytes stack bytes).2 = .error (.malformed reason)) ∨
      ((ofBytes stack bytes).2 = .error .overflow ∧
        ∃ text : String, bytes = Files.bytesOf text ∧
          stack.reading < Json.openings text.toList) := by
  cases decoded : Text.decode bytes with
  | error fault =>
    refine .inr (.inl ⟨?_, _, by rw [ofBytes, decoded]⟩)
    rintro members ⟨text, rfl, -⟩
    rw [Text.decode_bytesOf] at decoded
    cases decoded
  | ok chars =>
    obtain ⟨text, rfl⟩ : ∃ text : String, bytes = Files.bytesOf text :=
      ⟨_, Text.decode_eq_ok_iff.mp decoded⟩
    by_cases deep : Json.read stack.reading (Text.joinLineEnds text.toList) = .error .tooDeep
    · refine .inr (.inr ⟨?_, text, rfl, ?_⟩)
      · rw [ofBytes, Text.decode_bytesOf]
        simp only [deep]
      · rw [← Json.openings_joinLineEnds]
        exact Json.lt_openings_of_read deep
    by_cases object : ∃ members,
        Json.read stack.reading (Text.joinLineEnds text.toList) = .ok (.object members)
    · obtain ⟨members, read⟩ := object
      have holds : HoldsObject (Files.bytesOf text) members := ⟨text, rfl, _, read⟩
      rw [ofBytes_of_read read, ofMembers_snd]
      cases found : security? members with
      | none =>
        refine .inr (.inl ⟨fun others other => ?_, _, rfl⟩)
        rwa [← holds.unique other]
      | some security =>
        dsimp only
        rw [settingsLimit?_of_read read stack.reading_le_showing found]
        exact .inl ⟨members, security, holds, found, rfl⟩
    · obtain ⟨none, malformed⟩ := malformed_of_read deep (not_exists.mp object)
      exact .inr (.inl ⟨fun members holds => absurd holds (none members), malformed⟩)

/-- Where no file is, the default is loaded. -/
theorem load_of_missing {error : FileError} (stack : Stack)
    (missing : files.find path = .error error) (now : String) :
    load stack files path now = ([], .ok (default now)) := by
  simp [load, Files.has, missing, Except.toOption]

/-- The bytes of a file decide what is loaded. -/
theorem load_of_file {bytes : List UInt8} (stack : Stack)
    (found : files.find path = .ok (.file bytes)) (now : String) :
    load stack files path now = match ofBytes stack bytes with
      | (notices, .ok config) => (notices, .ok config)
      | (notices, .error (.malformed reason)) => (notices ++ [malformed reason], .ok (default now))
      | (notices, .error .overflow) => (notices, .error .overflow) := by
  unfold load
  rw [Files.has_of_find found, Files.read_of_find found]
  rfl

/-- A load gives what the file at the path holds, or else the default; only a file that nests too
deep breaks it off. -/
theorem load_cases (stack : Stack) (files : Files) (path : FilePath) (now : String) :
    (∃ bytes members security, files.find path = .ok (.file bytes) ∧ HoldsObject bytes members ∧
        security? members = some security ∧
          (load stack files path now).2 = .ok (ofSettings members security)) ∨
      ((∀ bytes members, files.find path = .ok (.file bytes) → HoldsObject bytes members →
          security? members = none) ∧ (load stack files path now).2 = .ok (default now)) ∨
      ((load stack files path now).2 = .error .overflow ∧ TooDeep stack files path) := by
  cases found : files.find path with
  | error fault =>
    refine .inr (.inl ⟨fun bytes members atPath => (by cases atPath), ?_⟩)
    rw [load_of_missing stack found]
  | ok entry =>
    cases entry with
    | folder =>
      refine .inr (.inl ⟨fun bytes members atPath => (by cases atPath), ?_⟩)
      have unread : files.read path = .error .isFolder := by rw [Files.read, found]; rfl
      simp [load, Files.has_of_find found, unread]
    | file bytes =>
      rw [load_of_file stack found]
      have decided := ofBytes_cases stack bytes
      generalize ofBytes stack bytes = given at decided ⊢
      obtain ⟨notices, result⟩ := given
      rcases decided with
        ⟨members, security, holds, settings, ⟨⟩⟩ | ⟨none, reason, ⟨⟩⟩ | ⟨⟨⟩, text, rfl, deep⟩
      · exact .inl ⟨bytes, members, security, rfl, holds, settings, rfl⟩
      · refine .inr (.inl ⟨?_, rfl⟩)
        rintro bytes members ⟨⟩ holds
        exact none members holds
      · exact .inr (.inr ⟨rfl, text, found, deep⟩)

/-- A load takes its settings from the members that the file saves, and from none where the file
saves none. -/
theorem load_settings (loaded : (load stack files path now).2 = .ok config) :
    ∃ security : Json.Members CodeText,
      (∀ name value, Saved files path name value ↔ LastNamed name security value) ∧
      config.level = ((field? "level" security).bind Level.ofJson?).getD .default ∧
      config.threshold = ((field? "fail_on" security).bind Threshold.ofJson?).getD .default := by
  rcases load_cases stack files path now with
    ⟨bytes, members, security, atPath, holds, found, given⟩ | ⟨noSettings, given⟩ | ⟨broken, -⟩
  · rw [loaded] at given
    cases given
    refine ⟨security, fun name value => ?_, rfl, rfl⟩
    -- The file and the object in it are the ones that were loaded.
    have saved_iff : Saved files path name value ↔ ∃ others,
        members.lookup ("security" : CodeText) = some (.object others) ∧
          LastNamed name others value := by
      constructor
      · rintro ⟨bytes', members', others, atPath', holds', object, last⟩
        cases atPath.symm.trans atPath'
        rw [← holds.unique holds'] at object
        exact ⟨others, object, last⟩
      · rintro ⟨others, object, last⟩
        exact ⟨bytes, members, others, atPath, holds, object, last⟩
    rw [saved_iff]
    rcases security?_cases found with object | ⟨rfl, noObject⟩
    · rw [object]
      constructor
      · rintro ⟨others, ⟨⟩, last⟩
        exact last
      · exact fun last => ⟨security, rfl, last⟩
    · constructor
      · rintro ⟨others, object, -⟩
        exact absurd object (noObject others)
      · exact fun last => absurd last not_lastNamed_nil
  · rw [loaded] at given
    cases given
    refine ⟨[], fun name value => ⟨?_, fun last => absurd last not_lastNamed_nil⟩, rfl, rfl⟩
    rintro ⟨bytes, members, security, atPath, holds, object, -⟩
    have none := noSettings bytes members atPath holds
    rw [security?, object] at none
    cases none
  · rw [loaded] at broken
    cases broken

/-! ## Loading fails closed -/

theorem getD_bind_eq_iff {α β : Type} {said : Option α} {read : α → Option β} {fallback good : β}
    (other : good ≠ fallback) :
    (said.bind read).getD fallback = good ↔
      ∃ value, said = some value ∧ read value = some good := by
  cases said with
  | none => simpa using other.symm
  | some value =>
    cases given : read value with
    | none => simpa [given] using other.symm
    | some chosen => simp [given]

end Config

theorem Level.find?_key_eq_some_iff {text : String} {level : Level} :
    (all.find? fun level => level.key == text) = some level ↔ text = level.key := by
  constructor
  · intro found
    have same := List.find?_some found
    exact (beq_iff_eq.mp same).symm
  · rintro rfl
    cases level <;> decide

theorem Level.ofKey?_eq_some_iff {text : String} {level : Level} :
    ofKey? text = some level ↔
      String.ofList (Text.upper (Text.trim text.toList)) = level.key := by
  rw [ofKey?, find?_key_eq_some_iff]

theorem Level.ofJson?_eq_some_iff {value : Json CodeText} {level : Level} :
    ofJson? value = some level ↔ ∃ text : String, value = .string text ∧
      String.ofList (Text.upper (Text.trim text.toList)) = level.key := by
  cases value with
  | string key =>
    rw [ofJson?, Option.bind_eq_some_iff]
    simp only [CodeText.string?_eq_some_iff, ofKey?_eq_some_iff, Json.string.injEq]
  | _ => simp [ofJson?]

theorem Threshold.ofName?_eq_some_iff {name : String} {threshold : Threshold} :
    ofName? name = some threshold ↔ name = threshold.name := by
  constructor
  · intro found
    have same := List.find?_some found
    exact (beq_iff_eq.mp same).symm
  · rintro rfl
    cases threshold <;> decide

theorem Threshold.ofJson?_eq_some_iff {value : Json CodeText} {threshold : Threshold} :
    ofJson? value = some threshold ↔ value = .string threshold.name := by
  cases value with
  | string name =>
    rw [ofJson?, Option.bind_eq_some_iff]
    simp only [CodeText.string?_eq_some_iff, ofName?_eq_some_iff, exists_eq_right,
      Json.string.injEq]
  | _ => simp [ofJson?]

namespace Config

theorem load_failsClosed (loaded : (load stack files path now).2 = .ok config) :
    FailsClosed files path config := by
  obtain ⟨security, saved_iff, level_eq, threshold_eq⟩ := load_settings loaded
  refine ⟨?_, ?_, ?_, ?_⟩
  · cases config.level <;> decide
  · cases config.threshold <;> decide
  · intro level loose
    have other : level ≠ .default := by rintro rfl; exact loose rfl
    rw [level_eq, getD_bind_eq_iff other]
    simp only [field?_eq_some_iff, ← saved_iff, Level.ofJson?_eq_some_iff]
    constructor
    · rintro ⟨value, saved, text, rfl, spells⟩
      exact ⟨text, saved, spells⟩
    · rintro ⟨text, saved, spells⟩
      exact ⟨.string text, saved, text, rfl, spells⟩
  · intro threshold loose
    have other : threshold ≠ .default := by rintro rfl; exact loose rfl
    rw [threshold_eq, getD_bind_eq_iff other]
    simp only [field?_eq_some_iff, ← saved_iff, Threshold.ofJson?_eq_some_iff, exists_eq_right]

/-- A load gives a configuration that fails closed, or breaks off at a file that nests too deep. -/
def LoadsClosed (stack : Stack) (files : Files) (path : FilePath)
    (loaded : Except Overflow Config) :
    Prop :=
  (∃ config, loaded = .ok config ∧ FailsClosed files path config) ∨
    loaded = .error .overflow ∧ TooDeep stack files path

theorem load_loadsClosed (stack : Stack) (files : Files) (path : FilePath) (now : String) :
    LoadsClosed stack files path (load stack files path now).2 := by
  rcases load_cases stack files path now with ⟨_, _, _, -, -, -, given⟩ | ⟨-, given⟩ | broken
  · exact .inl ⟨_, given, load_failsClosed given⟩
  · exact .inl ⟨_, given, load_failsClosed given⟩
  · exact .inr broken

/-! ## Every load in a history -/

/-- Something done to the saved preference. -/
inductive Step where
  | load
  | get (key : String)
  | set (key : String) (value : Json CodeText)
  | update (changes : Json.Members CodeText)
  | saveDefault
  | overwrite (bytes : List UInt8)
  | remove

/-- The files after a step at a time. -/
def Step.after (stack : Stack) (path : FilePath) (now : String) (files : Files) : Step → Files
  | .load | .get _ => files
  | .set key value => (Config.set stack files path now key value).files
  | .update changes => (Config.update stack files path now changes).files
  | .saveDefault => ((default now).save stack files path).1
  | .overwrite bytes =>
    ((files.makeFolders path.parent).bind (·.write path bytes)).toOption.getD files
  | .remove => (files.remove path).toOption.getD files

/-- What a step loads, if it loads the preference. A change that is refused at once loads
nothing. -/
def Step.loaded? (stack : Stack) (path : FilePath) (now : String) (files : Files) :
    Step → Option (Except Overflow Config)
  | .load | .get _ | .update _ => some (Config.load stack files path now).2
  | .set key value =>
    match changesFor stack key value with
    | .ok _ => some (Config.load stack files path now).2
    | .error _ => none
  | .saveDefault | .overwrite _ | .remove => none

/-- All loads of a history of steps, each at its time, with the files they found. -/
def loads (stack : Stack) (path : FilePath) :
    Files → List (String × Step) → List (Files × Except Overflow Config)
  | _, [] => []
  | files, (now, step) :: later =>
    ((step.loaded? stack path now files).map (files, ·)).toList ++
      loads stack path (step.after stack path now files) later

theorem Step.loadsClosed_of_loaded {step : Step} {loaded : Except Overflow Config}
    (given : step.loaded? stack path now files = some loaded) :
    LoadsClosed stack files path loaded := by
  have fromLoad (same : some (Config.load stack files path now).2 = some loaded) :
      LoadsClosed stack files path loaded := by
    rw [← Option.some.inj same]
    exact load_loadsClosed stack files path now
  cases step with
  | load => exact fromLoad given
  | get key => exact fromLoad given
  | update changes => exact fromLoad given
  | set key value =>
    cases accepted : changesFor stack key value with
    | ok changes => exact fromLoad (by simpa only [Step.loaded?, accepted] using given)
    | error refusal => simp only [Step.loaded?, accepted, reduceCtorEq] at given
  | saveDefault => cases given
  | overwrite bytes => cases given
  | remove => cases given

theorem loadsClosed_of_mem_loads {history : List (String × Step)}
    {seen : Files × Except Overflow Config} (inside : seen ∈ loads stack path files history) :
    LoadsClosed stack seen.1 path seen.2 := by
  induction history generalizing files with
  | nil => cases inside
  | cons timed later ih =>
    obtain ⟨now, step⟩ := timed
    rcases List.mem_append.mp inside with here | afterwards
    · obtain ⟨loaded, given, rfl⟩ := Option.map_eq_some_iff.mp (Option.mem_toList.mp here)
      exact Step.loadsClosed_of_loaded given
    · exact ih afterwards

/-- A file that opens one array more than there is room for breaks loading off, whatever follows. -/
theorem load_of_openings {count : Nat} (deep : stack.reading < count)
    (found : files.find path =
      .ok (.file (Files.bytesOf (String.ofList (List.replicate count '[')))))
    (now : String) : load stack files path now = ([], .error .overflow) := by
  have plain : '\r' ∉ List.replicate count '[' := fun inside =>
    absurd (List.eq_of_mem_replicate inside) (by decide)
  have refused := Json.read_openings deep []
  rw [List.append_nil] at refused
  rw [load_of_file stack found, ofBytes, Text.decode_bytesOf, String.toList_ofList]
  simp only [Text.joinLineEnds_of_not_mem plain, refused]

/-- Where a file of nothing but opening brackets stands. -/
def bracketPath : FilePath := ⟨false, ["config.json"]⟩

/-- A file of a hundred thousand opening brackets. -/
def bracketFiles : Files :=
  ⟨[(bracketPath, .file (Files.bytesOf (String.ofList (List.replicate 100000 '['))))]⟩

theorem load_bracketFiles (now : String) :
    load .usual bracketFiles bracketPath now = ([], .error .overflow) :=
  load_of_openings (by decide) (Files.find_only (by decide) _) now

end Config

end ShellVet
