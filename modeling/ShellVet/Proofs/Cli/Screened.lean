import ShellVet.Cli.Run
import ShellVet.Proofs.Report.Shown
import ShellVet.Proofs.Text.Codes

/-!
# Runs that scan

What each part of a run does to its session, for calls that scan commands (`run_screens`). A part
that reports only adds to what is written, as no line of a report fails; so at its end a run finds
the files and the typed lines that it started with.
-/

namespace ShellVet.Cli

open Report

open Terminal.Markup (Console)

namespace Run

variable {setting : Setting} {session : Session} {console : Console} {audience : Audience}
  {options : ScanOptions} {source : Option String} {scan : Scan}

/-- A part of a run and what follows it. -/
theorem run_bind {α β : Type} (first : Run α) (next : α → Run β) (session : Session) :
    (first >>= next).run session =
      match first.run session with
      | (.ok value, after) => (next value).run after
      | (.error stop, after) => (.error stop, after) := by
  change ExceptT.bindCont next (first.run session).1 (first.run session).2 = _
  rcases first.run session with ⟨result, after⟩
  cases result with
  | ok value => rfl
  | error stop => rfl

theorem run_bind_of_ok {α β : Type} {first : Run α} {next : α → Run β} {after : Session} {value : α}
    (done : first.run session = (.ok value, after)) :
    (first >>= next).run session = (next value).run after := by
  rw [run_bind, done]

/-! ## What is written -/

/-- What is written for lines. -/
def written (console : Console) (audience : Audience) (lines : List String) : String :=
  String.join (lines.map fun line => (audience.sent console line).toOption.getD "")

theorem written_cons {line text : String} {lines : List String}
    (sentText : audience.sent console line = .ok text) :
    written console audience (line :: lines) = text ++ written console audience lines := by
  rw [written, List.map_cons, String.join_cons, sentText]
  rfl

theorem run_sayAll {lines : List String} (shown : ∀ line ∈ lines, Shown audience line) :
    (sayAll setting audience lines).run session =
      (.ok (), { session with
        out := session.out ++ written setting.console audience lines }) := by
  induction lines generalizing session with
  | nil =>
    rw [written, List.map_nil, String.join_nil, String.append_empty]
    rfl
  | cons line lines ih =>
    obtain ⟨text, sentText, -⟩ := shown line (List.mem_cons_self ..) setting.console
    have said : (say setting audience line).run session =
        (.ok (), { session with out := session.out ++ text }) := by
      have found : (sent setting audience line).run session = (.ok text, session) := by
        rw [sent, sentText]
        rfl
      rw [say, run_bind_of_ok found]
      rfl
    have later : ∀ other ∈ lines, Shown audience other :=
      fun other inside => shown other (List.mem_cons_of_mem _ inside)
    rw [sayAll, run_bind_of_ok said, ih later, written_cons sentText, String.append_assoc]

theorem ofScan_ne_nil (audience : Audience) (source : Option String) (total : Nat) (scan : Scan) :
    ofScan audience source total scan ≠ [] := by
  simp [ofScan, overview]

/-- A report is never empty. -/
theorem written_ofScan_ne_empty (audience : Audience) (source : Option String) (total : Nat)
    (scan : Scan) : written console audience (ofScan audience source total scan) ≠ "" := by
  have shown : ∀ line ∈ ofScan audience source total scan, Shown audience line :=
    fun line inside => shown_of_mem_ofScan inside
  cases lines : ofScan audience source total scan with
  | nil => exact absurd lines (ofScan_ne_nil audience source total scan)
  | cons line later =>
    obtain ⟨text, sentText, written⟩ := shown line (lines ▸ List.mem_cons_self ..) console
    rw [written_cons sentText]
    intro empty
    exact written (String.append_eq_empty_iff.mp empty).1

/-- What is written for the result of a scan. -/
def presented (console : Console) (audience : Audience) (options : ScanOptions)
    (source : Option String) (total : Nat) (scan : Scan) : String :=
  if options.json then scan.toJson.lines ++ "\n"
  else if options.quiet && scan.isClean then ""
  else written console audience (ofScan audience source total scan)

theorem run_present (total : Nat) :
    (present setting audience options source total scan).run session =
      (.ok (), { session with
        out := session.out ++
          presented setting.console audience options source total scan }) := by
  unfold present presented
  split
  · rfl
  · split
    · rw [String.append_empty]
      rfl
    · exact run_sayAll fun line inside => shown_of_mem_ofScan inside

/-- Nothing is written only where a quiet scan is clean. -/
theorem presented_eq_empty_iff (total : Nat) :
    presented console audience options source total scan = "" ↔
      options.json = false ∧ options.quiet = true ∧ scan.isClean = true := by
  unfold presented
  cases options.json with
  | true => simp
  | false =>
    cases quiet : options.quiet && scan.isClean with
    | true => simpa using Bool.and_eq_true_iff.mp quiet
    | false =>
      have shows : written console audience (ofScan audience source total scan) ≠ "" :=
        written_ofScan_ne_empty audience source total scan
      rw [Bool.and_eq_false_iff] at quiet
      simp only [Bool.false_eq_true, if_false, true_and]
      refine ⟨fun empty => absurd empty shows, ?_⟩
      rintro ⟨isQuiet, isClean⟩
      rw [isQuiet, isClean] at quiet
      simp at quiet

end Run

/-! ## Calls that scan -/

/-- The name of a level that is asked for, by an option or else by the environment. -/
def levelName? (setting : Setting) (asked : Option String) : Option String :=
  (asked.filter fun key => !key.isEmpty) <|> setting.level.filter fun key => !key.isEmpty

/-- The level that a call scans under: the one asked for, or else the saved one. -/
inductive LevelChosen (setting : Setting) (files : Files) (asked : Option String) : Level → Prop
  | named {name : String} {level : Level} (given : levelName? setting asked = some name)
      (known : Level.ofKey? name = some level) : LevelChosen setting files asked level
  | saved {config : Config} (given : levelName? setting asked = none)
      (loaded : (Config.load setting.stack files setting.configPath setting.now).2 = .ok config) :
      LevelChosen setting files asked config.level

/-- The severity from which on a run fails: the one asked for, or else the saved one. -/
inductive ThresholdChosen (setting : Setting) (files : Files) :
    Option Threshold → Threshold → Prop
  | named (threshold : Threshold) : ThresholdChosen setting files (some threshold) threshold
  | saved {config : Config}
      (loaded : (Config.load setting.stack files setting.configPath setting.now).2 = .ok config) :
      ThresholdChosen setting files none config.threshold

/-- What a call scans, and how. -/
structure Screening where
  options : ScanOptions
  source : Option String
  level : Level
  asked : Option Threshold
  commands : List String

/-- The result of the scan. -/
def Screening.scan (screening : Screening) : Scan :=
  Scan.ofCommands screening.level screening.commands

/-- The request is a scan of given commands, or of those of a document that can be loaded and walked
and in which they are texts of characters, with a level and a threshold there are. -/
inductive Screens (setting : Setting) (files : Files) : Request → Screening → Prop
  | check {commands : List String} {options : ScanOptions} {level : Level}
      {asked : Option Threshold}
      (chosen : LevelChosen setting files options.level level)
      (failsOn : options.failOn = asked.map Threshold.name) :
      Screens setting files (.check commands options) ⟨options, none, level, asked, commands⟩
  | scan {source : String} {document : Document} {commands : List String} {options : ScanOptions}
      {level : Level} {asked : Option Threshold}
      (chosen : LevelChosen setting files options.level level)
      (failsOn : options.failOn = asked.map Threshold.name)
      (loaded : (Source.load ⟨files, setting.fetch, setting.stack⟩ source).2 = .ok (some document))
      (walked : document.depth ≤ setting.stack.walking)
      (whole : document.commands = commands.map CodeText.ofString) :
      Screens setting files (.scan source options) ⟨options, some source, level, asked, commands⟩

namespace Run

/-- The saved configuration is loaded, with its notices on the error output. -/
theorem run_savedConfig {config : Config} (loaded :
      (Config.load setting.stack session.files setting.configPath setting.now).2 = .ok config) :
    ∃ err, (savedConfig setting).run session = (.ok config, { session with err }) := by
  have got : (get : Run Session).run session = (.ok session, session) := rfl
  unfold savedConfig
  rw [run_bind_of_ok got]
  generalize Config.load setting.stack session.files setting.configPath setting.now = given
    at loaded ⊢
  obtain ⟨notices, outcome⟩ := given
  cases loaded
  exact ⟨_, rfl⟩

/-- A preference that nests too deep breaks the run off. -/
theorem run_savedConfig_of_overflow (broken :
      (Config.load setting.stack session.files setting.configPath setting.now).2 =
        .error .overflow) :
    ∃ err, (savedConfig setting).run session =
      (.error (.failed .overflow), { session with err }) := by
  have got : (get : Run Session).run session = (.ok session, session) := rfl
  unfold savedConfig
  rw [run_bind_of_ok got]
  generalize Config.load setting.stack session.files setting.configPath setting.now = given
    at broken ⊢
  obtain ⟨notices, outcome⟩ := given
  cases broken
  exact ⟨_, rfl⟩

theorem run_levelFor (audience : Audience) {asked : Option String} {level : Level}
    (chosen : LevelChosen setting session.files asked level) :
    ∃ err, (levelFor setting audience asked).run session = (.ok level, { session with err }) := by
  cases chosen with
  | named given known =>
    rename_i name
    have found : ((asked.filter fun key => !key.isEmpty) <|>
      setting.level.filter fun key => !key.isEmpty) = some name := given
    refine ⟨session.err, ?_⟩
    unfold levelFor
    dsimp only
    rw [found]
    dsimp only
    rw [known]
    rfl
  | saved given loaded =>
    have none : ((asked.filter fun key => !key.isEmpty) <|>
      setting.level.filter fun key => !key.isEmpty) = none := given
    obtain ⟨err, saved⟩ := run_savedConfig loaded
    unfold levelFor
    dsimp only
    rw [none]
    exact ⟨err, run_bind_of_ok saved⟩

theorem run_thresholdFor (setting : Setting) (audience : Audience) (session : Session)
    (asked : Option Threshold) :
    (thresholdFor setting audience (asked.map Threshold.name)).run session =
      (.ok asked, session) := by
  cases asked with
  | none => rfl
  | some threshold => cases threshold <;> rfl

theorem run_load (audience : Audience) {source : String} {document? : Option Document}
    (loaded :
      (Source.load ⟨session.files, setting.fetch, setting.stack⟩ source).2 = .ok document?) :
    (load setting audience source).run session = (.ok document?, session) := by
  have got : (get : Run Session).run session = (.ok session, session) := rfl
  rw [load, run_bind_of_ok got, loaded]
  rfl

theorem run_commandsOf {document : Document} (walked : document.depth ≤ setting.stack.walking) :
    (commandsOf setting (some document)).run session = (.ok document.commands, session) := by
  rw [commandsOf, if_neg (Nat.not_lt.mpr walked)]
  rfl

theorem run_plain (commands : List String) :
    (plain (commands.map CodeText.ofString)).run session = (.ok commands, session) := by
  rw [plain, CodeText.mapM_string?_ofString]
  rfl

theorem run_screen (setting : Setting) (verbose : Bool) (audience : Audience)
    (options : ScanOptions) (asked : Option Threshold) (level : Level) (source : Option String)
    (commands : List String) (session : Session) :
    ∃ err, (screen setting verbose audience options asked level source commands).run session =
      (conclude setting options asked (Scan.ofCommands level commands)).run
        { session with
          err
          out := session.out ++ presented setting.console audience options source commands.length
            (Scan.ofCommands level commands) } := by
  refine ⟨session.err ++ String.join ((log verbose level commands).map (· ++ "\n")), ?_⟩
  unfold screen
  have logged : (notify (log verbose level commands)).run session = (.ok (), { session with
      err := session.err ++ String.join ((log verbose level commands).map (· ++ "\n")) }) := rfl
  rw [run_bind_of_ok logged]
  exact run_bind_of_ok (run_present commands.length)

/-- A call that scans shows the result, and then ends by it. -/
theorem run_screens {call : Call} {screening : Screening}
    (screens : Screens setting session.files call.request screening) :
    ∃ err, (perform setting call).run session =
      (conclude setting screening.options screening.asked screening.scan).run
        { session with
          err
          out := session.out ++ presented setting.console call.audience screening.options
            screening.source screening.commands.length screening.scan } := by
  obtain ⟨verbose, audience, request⟩ := call
  cases screens with
  | @check commands options level asked chosen failsOn =>
    obtain ⟨err, leveled⟩ := run_levelFor audience chosen
    have limited := run_thresholdFor setting audience { session with err } asked
    obtain ⟨last, screened⟩ :=
      run_screen setting verbose audience options asked level none commands { session with err }
    refine ⟨last, Eq.trans ?_ screened⟩
    change (check setting ⟨verbose, audience, _⟩ commands options).run session = _
    unfold check
    rw [run_bind_of_ok leveled]
    dsimp only
    rw [failsOn, run_bind_of_ok limited]
  | @scan source document commands options level asked chosen failsOn loaded walked whole =>
    obtain ⟨err, leveled⟩ := run_levelFor audience chosen
    have limited := run_thresholdFor setting audience { session with err } asked
    have opened : (load setting audience source).run { session with err } = _ :=
      run_load audience loaded
    have listed : (commandsOf setting (some document)).run { session with err } = _ :=
      run_commandsOf walked
    obtain ⟨last, screened⟩ := run_screen setting verbose audience options asked level
      (some source) commands { session with err }
    refine ⟨last, Eq.trans ?_ screened⟩
    change (scan setting ⟨verbose, audience, _⟩ source options).run session = _
    unfold scan
    rw [run_bind_of_ok leveled]
    dsimp only
    rw [failsOn, run_bind_of_ok limited, run_bind_of_ok opened, run_bind_of_ok listed, whole,
      run_bind_of_ok (run_plain commands)]

end Run

end ShellVet.Cli
