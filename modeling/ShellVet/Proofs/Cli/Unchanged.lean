import ShellVet.Proofs.Cli.Refused
import ShellVet.Proofs.Config.Settled
import ShellVet.Proofs.Terminal.Unclosed

/-!
# Runs that fail to set a value

A run that sets a value saves first and then tells so in a line that holds the key and the value as
they are. If nothing can be saved, the run fails and no file is another one than before. If the line
fails as markup, the run fails with the value saved; for that the line has to hold a bracket in
front of a slash, or a style with a broken colour (`failed_set_keeps_files`).
-/

namespace ShellVet.Cli

open Report Terminal.Markup

variable {setting : Setting} {audience : Audience} {key value : String} {session : Session}
  {document : Json CodeText}

/-- What a run tells of the value that is saved under a key. -/
def savedMessage (key : String) (saved : Json CodeText) : String :=
  s!"Set {key} = {saved.line}"

/-- What comes of setting a key to the value of a document. -/
def changeTo (setting : Setting) (key : String) (document : Json CodeText) (files : Files) :
    Config.Change :=
  Config.set setting.stack files setting.configPath setting.now key document

/-- Markup in which a text can make a tag fail: it closes something, or looks up a style with a word
for a broken colour. -/
def CanFail (text : List Char) : Prop :=
  ['[', '/'] <:+: text ∨
    ∃ style, LooksUp text style ∧ ∃ word ∈ Terminal.wordsFrom [] style, Terminal.IsBrokenColor word

theorem canFail_of_not_sound {text : List Char} (fails : Unclosed text → ¬ Sound text) :
    CanFail text := by
  by_cases unclosed : Unclosed text
  · exact .inr (exists_broken_of_not_sound unclosed (fails unclosed))
  · exact .inl (Classical.not_not.mp unclosed)

/-- Good news in words that close nothing and have no broken colours is shown. -/
theorem shown_success_of_unclosed {message : String} (audience : Audience)
    (unclosed : Unclosed message.toList) (sound : Sound message.toList) :
    Shown .human (audience.success message) := by
  refine shown_of_runs fun console => ?_
  cases audience with
  | human =>
    have signed : Unclosed ("✓".toList ++ ' ' :: message.toList) :=
      Unclosed.append_blank (by decide) unclosed
    have soundSigned : Sound ("✓".toList ++ ' ' :: message.toList) := by
      have bare : isBare ("✓".toList ++ [' ']) = true := by decide
      rw [List.append_cons]
      exact sound.of_active (active_append_of_isBare bare)
    have spelled : (Audience.human.success message).toList =
        (Audience.styled "green" ("✓ " ++ message)).toList ++ [] := by
      rw [List.append_nil]
      rfl
    rw [spelled, toList_styled_append, String.toList_append]
    exact runs_styled_unclosed (by decide) signed soundSigned
  | agent =>
    have tagged : Unclosed ("[OK]".toList ++ ' ' :: message.toList) :=
      Unclosed.append_blank (by decide) unclosed
    have soundTagged : Sound ("[OK]".toList ++ ' ' :: message.toList) := by
      have bracketed : "[OK]".toList = '[' :: 'O' :: "K]".toList := by decide
      have bare : isBare ('O' :: "K]".toList ++ [' ']) = true := by decide
      rw [bracketed, List.append_cons, List.cons_append, List.cons_append]
      refine sound.of_active ((active_cons_of_none ?_).trans (active_append_of_isBare bare))
      exact (slashedTag?_cons_of_ne (by decide)).mpr (tag?_eq_none_iff.mpr (.inl rfl))
    have spelled : (Audience.agent.success message).toList =
        "[OK]".toList ++ ' ' :: message.toList := by
      unfold Audience.success Audience.message
      simp [toString, String.toList_append]
    rw [spelled]
    exact runs_unclosed tagged soundTagged

/-! ## What a run that sets a value comes to -/

theorem run_get : (get : Run Session).run session = (.ok session, session) := rfl

theorem keyed_of_valueOf (stands : Run.valueOf setting.stack value = .ok document) :
    document.Keyed := by
  unfold Run.valueOf at stands
  split at stands
  · next read =>
    cases stands
    exact (Json.spelled_of_read read).keyed
  · cases stands
  · cases stands
    have spelled : (Json.string (value : CodeText)).Spelled :=
      Json.Everywhere.imp (fun _ => And.left) (Json.plain_ofString value)
    exact spelled.keyed

theorem exists_refuseChange (setting : Setting) (error : Config.ChangeError) (session : Session) :
    ∃ stop err, (Run.refuseChange setting error).run session =
      (.error stop, { session with err }) := by
  unfold Run.refuseChange
  split <;> exact ⟨_, _, rfl⟩

/-- A text that stands for no value is not set. -/
theorem run_setConfig_of_overflow (audience : Audience) (session : Session)
    {cause : Overflow} (deep : Run.valueOf setting.stack value = .error cause) :
    (Run.setConfig setting audience key value).run session =
      (.error (.failed .overflow), session) := by
  unfold Run.setConfig
  rw [deep]
  rfl

variable {change : Config.Change}

/-- What a run does when the change is made or refused. -/
theorem run_setConfig_of_change (audience : Audience)
    (stands : Run.valueOf setting.stack value = .ok document)
    (came : changeTo setting key document session.files = change) :
    ∃ err, (Run.setConfig setting audience key value).run session =
      (match change.result with
        | .error error => Run.refuseChange setting error
        | .ok _ => do
          let saved ← Run.configValue setting key
          Run.write (← Run.sent setting .human
            (audience.success (savedMessage key saved)))).run
        { session with files := change.files, err } := by
  have set_eq : Config.set setting.stack session.files setting.configPath setting.now key document =
    change := came
  let noted := { session with err := session.err ++ String.join (change.notices.map (· ++ "\n")) }
  have notified : (Run.notify change.notices).run session = (.ok (), noted) := rfl
  have changed : (modify fun session => { session with files := change.files } : Run Unit).run
      noted = (.ok (), { noted with files := change.files }) := rfl
  refine ⟨noted.err, ?_⟩
  unfold Run.setConfig
  rw [stands]
  dsimp only
  rw [Run.run_bind_of_ok run_get, set_eq, Run.run_bind_of_ok notified,
    Run.run_bind_of_ok changed]
  rfl

/-- Where nothing can be saved, the run stops. -/
theorem run_setConfig_of_error (audience : Audience) {error : Config.ChangeError}
    (stands : Run.valueOf setting.stack value = .ok document)
    (came : changeTo setting key document session.files = change)
    (refused : change.result = .error error) :
    ∃ stop err, (Run.setConfig setting audience key value).run session =
      (.error stop, { session with files := change.files, err }) := by
  obtain ⟨err, ran⟩ := run_setConfig_of_change audience stands came
  rw [refused] at ran
  obtain ⟨stop, last, stopped⟩ :=
    exists_refuseChange setting error { session with files := change.files, err }
  exact ⟨stop, last, ran.trans stopped⟩

theorem run_configValue {saved : Json CodeText}
    (got : (Config.get setting.stack session.files setting.configPath setting.now key).2 =
      .ok saved) :
    ∃ err, (Run.configValue setting key).run session = (.ok saved, { session with err }) := by
  unfold Run.configValue
  rw [Run.run_bind_of_ok run_get]
  generalize Config.get setting.stack session.files setting.configPath setting.now key = given
    at got ⊢
  obtain ⟨notices, outcome⟩ := given
  cases got
  exact ⟨_, rfl⟩

/-- Where the value is saved, the run ends by whether the line that tells so can be shown. -/
theorem run_setConfig_of_ok (audience : Audience) {config : Config} {saved : Json CodeText}
    (stands : Run.valueOf setting.stack value = .ok document)
    (came : changeTo setting key document session.files = change)
    (done : change.result = .ok config)
    (got : (Config.get setting.stack change.files setting.configPath setting.now key).2 =
      .ok saved) :
    ∃ err, (Run.setConfig setting audience key value).run session =
      match Audience.human.sent setting.console
        (audience.success (savedMessage key saved)) with
      | .ok text =>
        (.ok (), { session with files := change.files, out := session.out ++ text, err })
      | .error fault =>
        (.error (.failed (.markup fault)), { session with files := change.files, err }) := by
  obtain ⟨err, ran⟩ := run_setConfig_of_change audience stands came
  rw [done] at ran
  let noted := { session with files := change.files, err }
  have gotNoted : (Config.get setting.stack noted.files setting.configPath setting.now key).2 =
    .ok saved := got
  obtain ⟨last, read⟩ := run_configValue gotNoted
  refine ⟨last, ran.trans ?_⟩
  dsimp only
  rw [Run.run_bind_of_ok read]
  unfold Run.sent
  cases Audience.human.sent setting.console _ <;> rfl

theorem run_of_setConfig (setting : Setting) (verbose : Bool) (audience : Audience)
    (key value : String) (session : Session) :
    run setting ⟨verbose, audience, .setConfig key value⟩ session =
      (.ofResult ((Run.setConfig setting audience key value).run session).1,
        ((Run.setConfig setting audience key value).run session).2) := rfl

/-- **A run that fails to set a value changes no file**, unless the value is saved and only the line
that tells so fails as markup: then it closes something, or has a broken colour. -/
theorem failed_set_keeps_files (setting : Setting) (verbose : Bool) (audience : Audience)
    (key value : String) (session : Session)
    (failed : (run setting ⟨verbose, audience, .setConfig key value⟩ session).1 ≠ .exit 0) :
    let ran := run setting ⟨verbose, audience, .setConfig key value⟩ session
    session.files.SameFiles ran.2.files ∨
      ∃ document config saved fault, Run.valueOf setting.stack value = .ok document ∧
        let change := changeTo setting key document session.files
        change.result = .ok config ∧ ran.2.files = change.files ∧
          (Config.get setting.stack change.files setting.configPath setting.now key).2 =
            .ok saved ∧
          ran.1 = .failed (.markup fault) ∧ CanFail (savedMessage key saved).toList := by
  have whole := run_of_setConfig setting verbose audience key value session
  intro ran
  change ran.1 ≠ _ at failed
  cases stands : Run.valueOf setting.stack value with
  | error cause =>
    rw [run_setConfig_of_overflow audience session stands] at whole
    left
    rw [show ran = _ from whole]
    exact .refl _
  | ok document =>
    cases result : (changeTo setting key document session.files).result with
    | error error =>
      obtain ⟨stop, err, stopped⟩ := run_setConfig_of_error audience stands rfl result
      left
      rw [show ran = _ from whole, stopped]
      exact Config.sameFiles_of_set result
    | ok config =>
      obtain ⟨saved, got⟩ := Config.exists_get_of_set (keyed_of_valueOf stands) result key
      obtain ⟨err, ended⟩ := run_setConfig_of_ok audience stands rfl result got
      rw [ended] at whole
      cases told : Audience.human.sent setting.console
        (audience.success (savedMessage key saved)) with
      | ok text =>
        rw [told] at whole
        exact absurd (congrArg Prod.fst whole) failed
      | error fault =>
        rw [told] at whole
        refine .inr ⟨document, config, saved, fault, rfl, result,
          congrArg (fun ran => ran.2.files) whole, got, congrArg Prod.fst whole,
          canFail_of_not_sound fun unclosed sound => ?_⟩
        obtain ⟨text, sent, -⟩ := shown_success_of_unclosed audience unclosed sound setting.console
        rw [told] at sent
        cases sent

/-- A level that is none is refused, and the files stay. -/
theorem failed_set_keeps_files_level :
    let ran := run offlineSetting ⟨false, .human, .setConfig "security.level" "nope"⟩
      { files := datedFiles }
    ran.1 ≠ .exit 0 ∧ datedFiles.SameFiles ran.2.files := by
  intro ran
  have refused : (match ran.1 with
    | .exit 2 => true
    | _ => false) = true := by decide
  have failed : ran.1 ≠ .exit 0 := by
    intro ended
    rw [ended] at refused
    cases refused
  rcases failed_set_keeps_files offlineSetting false .human "security.level" "nope"
    { files := datedFiles } failed with
    kept | ⟨document, config, saved, fault, -, -, -, -, broke, -⟩
  · exact ⟨failed, kept⟩
  · change ran.1 = _ at broke
    rw [broke] at refused
    cases refused

/-! ## A value that is saved by a run that fails -/

/-- A configuration of some version. -/
def versioned (version : String) : Config := ⟨.string version, .string "today", .strict, .low⟩

theorem isPlain_versioned (version : String) : (versioned version).IsPlain :=
  ⟨Json.plain_ofString version, Json.plain_ofString "today"⟩

/-- Files that hold a configuration where it is looked for. -/
def holding (config : Config) : Files :=
  ⟨[(offlineSetting.configPath, .file (Files.bytesOf config.toJson.lines))]⟩

theorem text_versioned (version : String) :
    (versioned version).text .usual = .ok (versioned version).toJson.lines :=
  Config.text_eq_ok_iff.mpr ⟨rfl, rfl⟩

theorem load_holding (version : String) :
    Config.load .usual (holding (versioned version)) offlineSetting.configPath "" =
      ([], .ok (versioned version)) := by
  have found : (holding (versioned version)).find offlineSetting.configPath = _ :=
    Files.find_only (by decide) _
  rw [Config.load_of_text (text_versioned version) found, (isPlain_versioned version).reread_eq]

/-- The version in a file is a part of its text. -/
theorem eq_of_sameFiles_holding {one other : String}
    (same : (holding (versioned one)).SameFiles (holding (versioned other))) : one = other := by
  have there (bytes : List UInt8) :
      Files.at? ⟨[(offlineSetting.configPath, .file bytes)]⟩ offlineSetting.configPath =
        some (.file bytes) := rfl
  have kept := (same offlineSetting.configPath _).mpr (there _)
  have bytes : Files.bytesOf (versioned other).toJson.lines =
      Files.bytesOf (versioned one).toJson.lines :=
    FileEntry.file.inj (Option.some.inj ((there _).symm.trans kept))
  have given : holding (versioned other) = holding (versioned one) := by
    rw [holding, bytes, holding]
  have loads := load_holding other
  rw [given, load_holding] at loads
  have versions : (versioned one).version = (versioned other).version :=
    congrArg Config.version (Except.ok.inj (congrArg Prod.snd loads))
  exact CodeText.ofString_injective (Json.string.inj versions)

theorem save_holding (old new : String) :
    (versioned new).save .usual (holding (versioned old)) offlineSetting.configPath =
      (holding (versioned new), .ok ()) :=
  Config.save_only (by decide) (text_versioned new) _

theorem changeTo_holding (old : String) :
    (changeTo offlineSetting "version" (.string "[/x]") (holding (versioned old))).result =
        .ok (versioned "[/x]") ∧
      (changeTo offlineSetting "version" (.string "[/x]") (holding (versioned old))).files =
        holding (versioned "[/x]") := by
  have writes : Config.Writes "version" (.string "[/x]") (.string "[/x]") :=
    .inr (.inr ⟨by decide, by decide, rfl⟩)
  have changes : (versioned old).changed (Config.assignment "version" (.string "[/x]")) =
    versioned "[/x]" := ((versioned old).changed_keys rfl).1
  have keyed : (Json.string ("[/x]" : CodeText)).Keyed :=
    Json.Spelled.keyed (Json.Everywhere.imp (fun _ => And.left) (Json.plain_ofString _))
  have accepts : ¬ Config.Refuses (Config.assignment "version" (.string "[/x]")) := by
    rintro ⟨settings, found, -⟩
    cases found
  have given := Config.update_of_accepts (congrArg Prod.snd (load_holding old))
    (Config.depth_le_of_text (text_versioned old)) (Config.keyed_assignment keyed writes) accepts
    rfl
  rw [changes, save_holding, ← Config.set_of_writes writes] at given
  exact given

theorem misreads_bracketed :
    (match Json.read Stack.usual.reading "[/x]".toList with
      | .error (.flaw ..) => true
      | _ => false) = true := by
  decide

/-- What is no document stands for itself. -/
theorem valueOf_bracketed : Run.valueOf .usual "[/x]" = .ok (.string "[/x]") := by
  have misread := misreads_bracketed
  unfold Run.valueOf
  split at misread
  case h_1 refused => rw [refused]
  case h_2 => cases misread

theorem savedMessage_holding :
    savedMessage "version" (.string "[/x]") = "Set version = \"[/x]\"" := by
  have line : (Json.string ("[/x]" : CodeText)).line = "\"[/x]\"" := by decide
  unfold savedMessage
  rw [line]
  rfl

/-- The value `[/x]` is saved as the version before the line that tells so fails as markup. -/
theorem failed_set_saved :
    let ran := run offlineSetting ⟨false, .human, .setConfig "version" "[/x]"⟩
      { files := holding (versioned "1.0.0") }
    ran.1 = .failed (.markup (.unopened "x")) ∧ ran.2.files = holding (versioned "[/x]") ∧
      ¬ (holding (versioned "1.0.0")).SameFiles ran.2.files := by
  intro ran
  have told : Audience.human.sent offlineSetting.console
      (Audience.human.success "Set version = \"[/x]\"") = .error (.unopened "x") := by
    decide +kernel
  have stands := valueOf_bracketed
  have got : (Config.get .usual (holding (versioned "[/x]")) offlineSetting.configPath ""
      "version").2 = .ok (.string "[/x]") := by
    rw [Config.get_of_load (congrArg Prod.snd (load_holding "[/x]"))
      (Config.depth_le_of_text (text_versioned "[/x]")), (versioned "[/x]").valueAt_keys.1]
    rfl
  let session : Session := { files := holding (versioned "1.0.0") }
  obtain ⟨done, files⟩ : (changeTo offlineSetting "version" (.string "[/x]") session.files).result =
    _ ∧ _ := changeTo_holding "1.0.0"
  obtain ⟨err, ended⟩ := run_setConfig_of_ok .human stands rfl done (files ▸ got)
  have whole : ran = _ := run_of_setConfig offlineSetting false .human "version" "[/x]" session
  rw [ended, savedMessage_holding, told, files] at whole
  have after : ran.2.files = holding (versioned "[/x]") :=
    congrArg (fun ran => ran.2.files) whole
  refine ⟨congrArg Prod.fst whole, after, fun same => ?_⟩
  rw [after] at same
  exact absurd (eq_of_sameFiles_holding same) (by decide)

end ShellVet.Cli
