import ShellVet.Proofs.Cli.Screened
import ShellVet.Proofs.Config.FailsClosed
import ShellVet.Proofs.Source.Unreported
import ShellVet.Proofs.Text.Utf8

/-!
# Runs that cannot load their document

A run that scans or lists the commands of a document ends with the exit code for wrong input if the
document cannot be loaded, unless loading stumbles over a single thing in it: then the run breaks
off there (`failed_load_ends`). Before that, a scan may break off at a saved preference that nests
too deep (`LevelLost`).
-/

namespace ShellVet.Cli

open Report Terminal.Markup

/-! ## Requests for documents -/

/-- The request asks for the document of a source, to scan or to list its commands. -/
inductive AsksFor (source : String) : Request → Prop
  | scan {options : ScanOptions} : AsksFor source (.scan source options)
  | extract : AsksFor source (.extract source)

/-- The level and the threshold that the request asks for are there. -/
inductive Meant (setting : Setting) (files : Files) : Request → Prop
  | scan {source : String} {options : ScanOptions} {level : Level} {asked : Option Threshold}
      (chosen : LevelChosen setting files options.level level)
      (failsOn : options.failOn = asked.map Threshold.name) :
      Meant setting files (.scan source options)
  | extract {source : String} : Meant setting files (.extract source)

/-- The request asks for a scan under the saved level, and the preference nests too deep. -/
inductive LevelLost (setting : Setting) (files : Files) : Request → Prop
  | scan {source : String} {options : ScanOptions}
      (unnamed : levelName? setting options.level = none)
      (broken : (Config.load setting.stack files setting.configPath setting.now).2 =
        .error .overflow)
      (deep : Config.TooDeep setting.stack files setting.configPath) :
      LevelLost setting files (.scan source options)

theorem LevelLost.not_levelChosen {setting : Setting} {files : Files} {source : String}
    {options : ScanOptions} (lost : LevelLost setting files (.scan source options)) :
    ¬∃ level, LevelChosen setting files options.level level := by
  cases lost with
  | scan unnamed broken =>
    rintro ⟨level, chosen⟩
    cases chosen with
    | named given =>
      rw [unnamed] at given
      cases given
    | saved _ loaded =>
      rw [broken] at loaded
      cases loaded

theorem LevelLost.not_meant {setting : Setting} {files : Files} {request : Request}
    (lost : LevelLost setting files request) : ¬Meant setting files request := by
  intro meant
  cases meant with
  | scan chosen => exact lost.not_levelChosen ⟨_, chosen⟩
  | extract => cases lost

namespace Run

variable {setting : Setting} {session : Session} {audience : Audience}

/-! ## Parts that stop -/

/-- The part of a run stops there, and has written nothing but errors. -/
def StopsAt {α : Type} (part : Run α) (session : Session) (stop : Stop) : Prop :=
  ∃ err, part.run session = (.error stop, { session with err })

theorem StopsAt.bind {α β : Type} {first : Run α} {stop : Stop} (next : α → Run β)
    (stops : StopsAt first session stop) : StopsAt (first >>= next) session stop := by
  obtain ⟨err, done⟩ := stops
  exact ⟨err, by rw [run_bind, done]⟩

theorem StopsAt.after {α β : Type} {first : Run α} {next : α → Run β} {stop : Stop} {value : α}
    {err : String} (done : first.run session = (.ok value, { session with err }))
    (stops : StopsAt (next value) { session with err } stop) :
    StopsAt (first >>= next) session stop := by
  obtain ⟨last, stopped⟩ := stops
  exact ⟨last, by rw [run_bind_of_ok done, stopped]⟩

theorem stopsAt_refuse {α : Type} {message : String}
    (inert : audience = .human → Inert message.toList) :
    StopsAt (refuse setting audience message : Run α) session (.exit 2) := by
  have fits : isStyle "red".toList = true := by decide
  have bare : isBare "✗ ".toList = true := by decide
  obtain ⟨text, sentText, -⟩ := shown_message audience fits bare inert setting.console
  have found : (sent setting audience (audience.error message)).run session =
      (.ok text, session) := by
    rw [sent, Audience.error, sentText]
    rfl
  refine ⟨session.err ++ text, ?_⟩
  rw [refuse, run_bind_of_ok found]
  rfl

/-! ## Levels and thresholds -/

/-- A level is chosen, or the name asked for is none of one, and that is refused, or the saved level
is lost. -/
theorem levelFor_cases (setting : Setting) (audience : Audience) (options : ScanOptions)
    (source : String) (session : Session) :
    (∃ level, LevelChosen setting session.files options.level level) ∨
      (LevelLost setting session.files (.scan source options) ∧
        StopsAt (levelFor setting audience options.level) session (.failed .overflow)) ∨
      (¬LevelLost setting session.files (.scan source options) ∧
        StopsAt (levelFor setting audience options.level) session (.exit 2)) := by
  cases given : levelName? setting options.level with
  | none =>
    rcases Config.load_loadsClosed setting.stack session.files setting.configPath setting.now with
      ⟨config, loaded, -⟩ | ⟨broken, deep⟩
    · exact .inl ⟨_, .saved given loaded⟩
    · refine .inr (.inl ⟨.scan given broken deep, ?_⟩)
      have none : ((options.level.filter fun key => !key.isEmpty) <|>
        setting.level.filter fun key => !key.isEmpty) = none := given
      have stops : StopsAt (savedConfig setting) session (.failed .overflow) :=
        run_savedConfig_of_overflow broken
      unfold levelFor
      dsimp only
      rw [none]
      exact stops.bind _
  | some key =>
    cases known : Level.ofKey? key with
    | some level => exact .inl ⟨level, .named given known⟩
    | none =>
      refine .inr (.inr ⟨?_, ?_⟩)
      · rintro ⟨unnamed⟩
        rw [given] at unnamed
        cases unnamed
      · have found : ((options.level.filter fun key => !key.isEmpty) <|>
          setting.level.filter fun key => !key.isEmpty) = some key := given
        unfold levelFor
        dsimp only
        rw [found]
        dsimp only
        rw [known]
        exact stopsAt_refuse fun human => inert_text_of_human _ human

theorem inert_unknownThreshold (name : String) {names : String}
    (known : names = "low, medium, high, critical, never") :
    let shown := Audience.human.text name
    Inert (s!"Invalid --fail-on value: {shown} (expected one of: {names})").toList := by
  intro shown
  have front : isBare "Invalid --fail-on value: ".toList = true := by decide
  have named := (inert_text name).before
    "(expected one of: low, medium, high, critical, never)".toList (by decide) (by decide)
  have whole := named.behind front
  rw [known]
  simp only [toString, String.toList_append, List.append_assoc]
  exact whole

/-- A threshold is asked for or none is, or the name is none of one, and that is refused. -/
theorem thresholdFor_cases (setting : Setting) (audience : Audience) (asked : Option String)
    (session : Session) :
    (∃ threshold : Option Threshold, asked = threshold.map Threshold.name) ∨
      StopsAt (thresholdFor setting audience asked) session (.exit 2) := by
  cases asked with
  | none => exact .inl ⟨none, rfl⟩
  | some name =>
    cases known : Threshold.ofName? name with
    | some threshold =>
      exact .inl ⟨some threshold, congrArg some (Threshold.ofName?_eq_some_iff.mp known)⟩
    | none =>
      refine .inr ?_
      unfold thresholdFor
      dsimp only
      rw [known]
      refine stopsAt_refuse fun human => ?_
      rw [human]
      exact inert_unknownThreshold name (by decide)

/-! ## Loading -/

/-- Where a run stops that cannot load its document. -/
def stopOf (error : Source.LoadError) : Stop :=
  if error.isReported then .exit 2 else .failed (.load error)

variable {source : String} {error : Source.LoadError}

theorem stopsAt_load (audience : Audience)
    (failed : (Source.load ⟨session.files, setting.fetch, setting.stack⟩ source).2 = .error error) :
    StopsAt (load setting audience source) session (stopOf error) := by
  have got : (get : Run Session).run session = (.ok session, session) := rfl
  unfold load
  refine .after got ?_
  rw [failed]
  dsimp only
  unfold stopOf
  cases error.isReported with
  | true => exact stopsAt_refuse fun human => inert_text_of_human _ human
  | false => exact ⟨session.err, rfl⟩

/-- A scan whose level and threshold are there stops at its document. -/
theorem stopsAt_scan {call : Call} {options : ScanOptions}
    (meant : Meant setting session.files (.scan source options))
    (failed : (Source.load ⟨session.files, setting.fetch, setting.stack⟩ source).2 = .error error) :
    StopsAt (scan setting call source options) session (stopOf error) := by
  cases meant with
  | @scan _ _ level asked chosen failsOn =>
    obtain ⟨err, leveled⟩ := run_levelFor call.audience chosen
    have limited := run_thresholdFor setting call.audience { session with err } asked
    have opened : StopsAt (load setting call.audience source) { session with err } (stopOf error) :=
      stopsAt_load call.audience failed
    unfold scan
    rw [failsOn]
    exact .after leveled (.after limited (opened.bind _))

/-- A scan whose level or threshold is not there stops before it loads its document. -/
theorem stopsAt_scan_of_not_meant {call : Call} {options : ScanOptions}
    (unmeant : ¬Meant setting session.files (.scan source options)) :
    LevelLost setting session.files (.scan source options) ∧
        StopsAt (scan setting call source options) session (.failed .overflow) ∨
      ¬LevelLost setting session.files (.scan source options) ∧
        StopsAt (scan setting call source options) session (.exit 2) := by
  unfold scan
  rcases levelFor_cases setting call.audience options source session with
    ⟨level, chosen⟩ | ⟨lost, stops⟩ | ⟨kept, stops⟩
  · refine .inr ⟨fun lost => lost.not_levelChosen ⟨level, chosen⟩, ?_⟩
    obtain ⟨err, leveled⟩ := run_levelFor call.audience chosen
    refine .after leveled ?_
    rcases thresholdFor_cases setting call.audience options.failOn { session with err } with
      ⟨asked, failsOn⟩ | refused
    · exact absurd (.scan chosen failsOn) unmeant
    · exact refused.bind _
  · exact .inl ⟨lost, stops.bind _⟩
  · exact .inr ⟨kept, stops.bind _⟩

end Run

/-- Where a run that asks for a document stops if that cannot be loaded. -/
theorem stopsAt_perform {setting : Setting} {call : Call} {session : Session} {source : String}
    {error : Source.LoadError} (asks : AsksFor source call.request)
    (failed :
      (Source.load ⟨session.files, setting.fetch, setting.stack⟩ source).2 = .error error) :
    (Meant setting session.files call.request ∧
        Run.StopsAt (Run.perform setting call) session (Run.stopOf error)) ∨
      (¬Meant setting session.files call.request ∧
        LevelLost setting session.files call.request ∧
        Run.StopsAt (Run.perform setting call) session (.failed .overflow)) ∨
      (¬Meant setting session.files call.request ∧
        ¬LevelLost setting session.files call.request ∧
        Run.StopsAt (Run.perform setting call) session (.exit 2)) := by
  obtain ⟨verbose, audience, request⟩ := call
  cases asks with
  | @scan options =>
    by_cases meant : Meant setting session.files (.scan source options)
    · exact .inl ⟨meant, Run.stopsAt_scan meant failed⟩
    · exact .inr ((Run.stopsAt_scan_of_not_meant meant).imp (⟨meant, ·⟩) (⟨meant, ·⟩))
  | extract => exact .inl ⟨.extract, (Run.stopsAt_load audience failed).bind _⟩

/-- A file whose one value looks like a day. -/
def datedFiles : Files := ⟨[(⟨false, ["c.yaml"]⟩, .file (Files.bytesOf "a: 2024-13-45"))]⟩

/-- What keeps that file from being loaded. -/
def monthError : Source.LoadError := .format "c.yaml" (.yaml (.calendar .month))

theorem misreads_dated :
    (match Source.parse .usual "c.yaml" (Text.joinLineEnds "a: 2024-13-45".toList) with
      | .error (.format name (.yaml (.calendar .month))) => name == "c.yaml"
      | _ => false) = true := by
  decide +kernel

theorem parse_dated :
    Source.parse .usual "c.yaml" (Text.joinLineEnds "a: 2024-13-45".toList) =
      .error monthError := by
  have misread := misreads_dated
  generalize Source.parse .usual "c.yaml" (Text.joinLineEnds "a: 2024-13-45".toList) = parsed
    at misread ⊢
  split at misread
  · cases eq_of_beq misread
    rfl
  · cases misread

theorem load_datedFiles (fetch : String → Source.Answer) :
    (Source.load ⟨datedFiles, fetch, .usual⟩ "c.yaml").2 = .error monthError := by
  have looks : Source.looksLikeUrl "c.yaml" = false := by
    rw [← Bool.not_eq_true, Source.looksLikeUrl_iff]
    decide
  have found : datedFiles.read (FilePath.ofString "c.yaml") =
      .ok (Files.bytesOf "a: 2024-13-45") := by
    rw [Files.ofString_name (by decide)]
    exact Files.read_of_find (Files.find_only (by decide) _)
  have named : (FilePath.ofString "c.yaml").name = "c.yaml" := by
    rw [Files.ofString_name (by decide)]
    rfl
  rw [Source.load_of_path _ looks]
  unfold Source.loadFile
  dsimp only
  rw [found, named]
  dsimp only
  rw [Text.decode_bytesOf]
  exact parse_dated

/-- Nothing from outside but the files, and the usual room. -/
def offlineSetting : Setting :=
  { configPath := ⟨false, ["config.json"]⟩, now := "", fetch := fun _ => .error "",
    stack := .usual, console := ⟨fun _ => false⟩ }

end ShellVet.Cli
