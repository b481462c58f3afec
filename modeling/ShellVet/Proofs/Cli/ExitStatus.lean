import ShellVet.Proofs.Cli.Screened
import ShellVet.Proofs.Config.FailsClosed
import ShellVet.Proofs.Scan.Clean

/-!
# The exit status of a scan

A run that scans ends by the effective severity and the threshold alone, whatever it writes; only
where a grave result is to be confirmed does it end by the answer instead (`exit_status_decided`).
With more commands or a lower threshold a run that failed still fails. A saved preference that nests
too deep breaks the run off in place of the threshold (`check_breaks_off`).
-/

namespace ShellVet

/-! ## Thresholds -/

namespace Threshold

/-- The place of a threshold among all; `never` is the highest. -/
def height (threshold : Threshold) : Nat := all.idxOf threshold

/-- The severity is one, and ranks at or above the threshold, which is not `never`. -/
def Met (threshold : Threshold) (severity : Severity) : Prop :=
  threshold ≠ .never ∧ severity ≠ .none ∧
    ∃ bar : Severity, bar.name = threshold.name ∧ bar.rank ≤ severity.rank

variable {threshold lower : Threshold} {severity larger : Severity}

theorem rankOf_name (severity : Severity) : Severity.rankOf severity.name = severity.rank := by
  cases severity <;> decide

theorem rankOf_threshold (notNever : threshold ≠ .never) :
    Severity.rankOf threshold.name = threshold.height + 1 := by
  cases threshold with
  | never => exact absurd rfl notNever
  | _ => decide

theorem exists_bar (notNever : threshold ≠ .never) :
    ∃ bar : Severity, bar.name = threshold.name := by
  cases threshold with
  | low => exact ⟨.low, rfl⟩
  | medium => exact ⟨.medium, rfl⟩
  | high => exact ⟨.high, rfl⟩
  | critical => exact ⟨.critical, rfl⟩
  | never => exact absurd rfl notNever

/-- As thresholds have the names of the severities in their order, a threshold is met by the
severities that rank above its height. -/
theorem met_iff : threshold.Met severity ↔ threshold.height < severity.rank := by
  have bar_rank {bar : Severity} (notNever : threshold ≠ .never)
      (same : bar.name = threshold.name) : bar.rank = threshold.height + 1 := by
    rw [← rankOf_name bar, same, rankOf_threshold notNever]
  constructor
  · rintro ⟨notNever, -, bar, same, reached⟩
    rw [bar_rank notNever same] at reached
    exact reached
  · intro reached
    have notNever : threshold ≠ .never := by
      rintro rfl
      cases severity <;> exact absurd reached (by decide)
    have notNone : severity ≠ .none := by
      rintro rfl
      exact Nat.not_lt_zero _ reached
    obtain ⟨bar, same⟩ := exists_bar notNever
    refine ⟨notNever, notNone, bar, same, ?_⟩
    rw [bar_rank notNever same]
    exact reached

theorem isReachedBy_iff : threshold.isReachedBy severity = true ↔ threshold.Met severity := by
  rw [met_iff]
  cases threshold <;> cases severity <;> decide

theorem Met.mono (met : threshold.Met severity) (lowered : lower.height ≤ threshold.height)
    (graver : severity.rank ≤ larger.rank) : lower.Met larger := by
  rw [met_iff] at met ⊢
  omega

end Threshold

/-! ## The effective severity -/

namespace Scan

/-- An unread command counts as a low finding. -/
theorem effectiveSeverity_eq (scan : Scan) :
    scan.effectiveSeverity =
      if scan.severity = .none ∧ scan.findings.unread = true then .low else scan.severity := by
  unfold effectiveSeverity
  cases scan.findings.unread <;> cases scan.severity <;> rfl

theorem rank_effectiveSeverity (scan : Scan) :
    scan.effectiveSeverity.rank = max scan.severity.rank scan.findings.unread.toNat := by
  unfold effectiveSeverity
  cases scan.findings.unread <;> cases scan.severity <;> decide

theorem effectiveSeverity_eq_none_iff {scan : Scan} :
    scan.effectiveSeverity = .none ↔ scan.isClean = true := by
  unfold effectiveSeverity isClean
  cases scan.findings.unread <;> cases scan.severity <;> decide

/-- A scan finds a command unread if the level reads commands and this one cannot be read. -/
theorem unread_ofCommands_iff {level : Level} {commands : List String} :
    (ofCommands level commands).findings.unread = true ↔
      level.readsCommands = true ∧ ∃ command ∈ commands, Findings.isCommand command = true ∧
        ∃ fault, Shell.parse command = .error fault := by
  have misread_iff (command : String) : Findings.misread level command = true ↔
      level.readsCommands = true ∧ ∃ fault, Shell.parse command = .error fault := by
    unfold Findings.misread
    cases Shell.parse command <;> simp [Except.isOk, Except.toBool]
  have findings_eq : (ofCommands level commands).findings = _ :=
    Findings.ofCommands_eq_declared commands
  rw [findings_eq]
  change (commands.filter Findings.isCommand).any (Findings.misread level) = true ↔ _
  simp only [List.any_eq_true, List.mem_filter, misread_iff]
  constructor
  · rintro ⟨command, ⟨inside, spoken⟩, reads, fails⟩
    exact ⟨reads, command, inside, spoken, fails⟩
  · rintro ⟨reads, command, inside, spoken, fails⟩
    exact ⟨command, ⟨inside, spoken⟩, reads, fails⟩

theorem any_of_subset {batch more : List String} {holds : String → Bool} (subset : batch ⊆ more)
    (found : batch.any holds = true) : more.any holds = true := by
  obtain ⟨value, inside, good⟩ := List.any_eq_true.mp found
  exact List.any_eq_true.mpr ⟨value, subset inside, good⟩

/-- More commands never make the effective severity less grave. -/
theorem rank_effectiveSeverity_mono {level : Level} {commands more : List String}
    (subset : commands ⊆ more) :
    (ofCommands level commands).effectiveSeverity.rank ≤
      (ofCommands level more).effectiveSeverity.rank := by
  have spoken : commands.filter Findings.isCommand ⊆ more.filter Findings.isCommand :=
    List.filter_subset _ subset
  have findings_eq (batch : List String) : (ofCommands level batch).findings =
      Findings.declared level (batch.filter Findings.isCommand) :=
    Findings.ofCommands_eq_declared batch
  have names : Findings.namesIn level (commands.filter Findings.isCommand) ⊆
      Findings.namesIn level (more.filter Findings.isCommand) := by
    refine List.map_subset _ fun invocation inside => ?_
    obtain ⟨command, member, invoked⟩ := List.mem_flatMap.mp inside
    exact List.mem_flatMap.mpr ⟨command, spoken member, invoked⟩
  have rated :
      (ofCommands level commands).severity.rank ≤ (ofCommands level more).severity.rank := by
    rw [Scan.severity, Scan.severity, findings_eq, findings_eq]
    refine Severity.rank_ofSignals_mono ?_
    rw [Findings.signals_declared, Findings.signals_declared]
    exact
      { dangerous := any_of_subset spoken
        obfuscated := any_of_subset spoken
        suspicious := any_of_subset spoken
        blocked := any_of_subset names
        unknown := any_of_subset names }
  have unread : (ofCommands level commands).findings.unread = true →
      (ofCommands level more).findings.unread = true := by
    rw [findings_eq, findings_eq]
    exact any_of_subset spoken
  have unreadCount : (ofCommands level commands).findings.unread.toNat ≤
      (ofCommands level more).findings.unread.toNat := by
    cases missed : (ofCommands level commands).findings.unread with
    | false => exact Nat.zero_le _
    | true => rw [unread missed]
  rw [rank_effectiveSeverity, rank_effectiveSeverity]
  omega

end Scan

/-! ## Answers -/

namespace Cli

/-- The word that is typed in a line: without white space around it and in lower case. -/
def wordOf (line : String) : String := String.ofList (Text.trim (Text.lower line.toList))

/-- The first line with an answer says yes. An empty line is an answer. -/
def Agrees (lines : List String) : Prop :=
  ∃ before line after, lines = before ++ line :: after ∧
    (∀ earlier ∈ before, wordOf earlier ∉ ["y", "yes", "n", "no", ""]) ∧ wordOf line ∈ ["y", "yes"]

theorem answer?_eq (line : String) :
    answer? line =
      if wordOf line ∈ ["y", "yes"] then some true
      else if wordOf line ∈ ["y", "yes", "n", "no", ""] then some false
      else none := by
  change (if wordOf line == "y" || wordOf line == "yes" then some true
    else if wordOf line == "n" || wordOf line == "no" || (wordOf line).isEmpty then some false
    else none) = _
  simp only [String.isEmpty_iff, Bool.or_eq_true, beq_iff_eq, List.mem_cons, List.not_mem_nil,
    or_false]
  split
  case isTrue yes => rfl
  case isFalse other =>
    obtain ⟨notShort, notLong⟩ := not_or.mp other
    simp [notShort, notLong, or_assoc]

theorem not_agrees_nil : ¬ Agrees [] := by
  rintro ⟨before, line, after, whole, -⟩
  simp at whole

theorem agrees_cons_iff {line : String} {rest : List String} :
    Agrees (line :: rest) ↔ wordOf line ∈ ["y", "yes"] ∨
      wordOf line ∉ ["y", "yes", "n", "no", ""] ∧ Agrees rest := by
  constructor
  · rintro ⟨before, answered, after, whole, unanswered, yes⟩
    cases before with
    | nil =>
      obtain ⟨rfl, rfl⟩ := List.cons.inj whole
      exact Or.inl yes
    | cons first before =>
      obtain ⟨rfl, rfl⟩ := List.cons.inj whole
      obtain ⟨here, later⟩ := List.forall_mem_cons.mp unanswered
      exact Or.inr ⟨here, before, answered, after, rfl, later, yes⟩
  · rintro (yes | ⟨here, before, answered, after, rfl, later, yes⟩)
    · exact ⟨[], line, rest, rfl, nofun, yes⟩
    · exact ⟨line :: before, answered, after, rfl, List.forall_mem_cons.mpr ⟨here, later⟩, yes⟩

/-- A dialogue ends with yes if the first line with an answer does. -/
theorem answer_ask_iff (question : String) {lines : List String} :
    (ask question lines).answer = some true ↔ Agrees lines := by
  induction lines with
  | nil => simp [ask, not_agrees_nil]
  | cons line rest ih =>
    rw [agrees_cons_iff, ask, answer?_eq]
    by_cases yes : wordOf line ∈ ["y", "yes"]
    · simp only [yes, if_true, true_or]
    · by_cases valid : wordOf line ∈ ["y", "yes", "n", "no", ""]
      · simp [yes, valid]
      · simp only [yes, valid, if_false, false_or, not_false_eq_true, true_and]
        exact ih

/-! ## The end of a run -/

namespace Run

variable {setting : Setting} {session : Session} {options : ScanOptions} {asked : Option Threshold}
  {scan : Scan}

theorem run_confirm (question : String) (session : Session) :
    (confirm question).run session =
      (match (ask question session.input).answer with
        | some answer => (pure answer : Run Bool)
        | none => do
          notify ["Aborted."]
          exit 1).run
        { session with
          input := (ask question session.input).rest
          out := session.out ++ (ask question session.input).written } := rfl

/-- A grave result that is to be confirmed ends the run by the answer. -/
theorem run_conclude_asked (setting : Setting) (asked : Option Threshold) (session : Session)
    (confirms : (options.interactive && scan.requiresConfirmation) = true) :
    ∃ after, (conclude setting options asked scan).run session =
        (if (ask question session.input).answer = some true then .ok () else .error (.exit 1),
          after) ∧
      after.out = session.out ++ (ask question session.input).written := by
  unfold conclude
  rw [if_pos confirms, run_bind, run_confirm]
  cases (ask question session.input).answer with
  | none => exact ⟨_, rfl, rfl⟩
  | some answer => cases answer <;> exact ⟨_, rfl, rfl⟩

theorem run_exit_if (reached : Bool) :
    (if reached = true then exit 1 else pure () : Run Unit).run session =
      (if reached = true then .error (.exit 1) else .ok (), session) := by
  cases reached <;> rfl

/-- Any other result ends the run by the threshold. -/
theorem run_conclude_unasked {threshold : Threshold}
    (chosen : ThresholdChosen setting session.files asked threshold)
    (silent : (options.interactive && scan.requiresConfirmation) = false) :
    ∃ err, (conclude setting options asked scan).run session =
      (if threshold.isReachedBy scan.effectiveSeverity then .error (.exit 1) else .ok (),
        { session with err }) := by
  unfold conclude
  rw [if_neg (by rw [silent]; decide)]
  cases chosen with
  | named threshold => exact ⟨session.err, run_exit_if _⟩
  | saved loaded =>
    obtain ⟨err, saved⟩ := run_savedConfig loaded
    refine ⟨err, ?_⟩
    dsimp only
    rw [run_bind_of_ok saved]
    exact run_exit_if _

/-- Without a threshold the run breaks off. -/
theorem run_conclude_of_overflow
    (silent : (options.interactive && scan.requiresConfirmation) = false)
    (broken : (Config.load setting.stack session.files setting.configPath setting.now).2 =
      .error .overflow) :
    ∃ err, (conclude setting options none scan).run session =
      (.error (.failed .overflow), { session with err }) := by
  obtain ⟨err, failed⟩ := run_savedConfig_of_overflow broken
  refine ⟨err, ?_⟩
  unfold conclude
  rw [if_neg (by rw [silent]; decide)]
  dsimp only
  rw [run_bind, failed]

end Run

/-- Whether the run asks for an answer: it may, and the result is grave. -/
def Screening.Confirms (screening : Screening) : Prop :=
  screening.options.interactive = true ∧
    (screening.scan.severity = .high ∨ screening.scan.severity = .critical)

section

variable {setting : Setting} {session : Session} {call : Call} {screening : Screening}

theorem Screening.confirms_iff :
    screening.Confirms ↔
      (screening.options.interactive && screening.scan.requiresConfirmation) = true := by
  rw [Bool.and_eq_true, Scan.requiresConfirmation_iff]
  rfl

/-- A run that asks for no answer ends as its last part does, behind what it shows. -/
theorem run_eq_of_conclude {ended : Except Stop Unit}
    (screens : Screens setting session.files call.request screening)
    (concludes : ∀ later : Session, later.files = session.files →
      ∃ err, (Run.conclude setting screening.options screening.asked screening.scan).run later =
        (ended, { later with err })) :
    (run setting call session).1 = .ofResult ended ∧
      (run setting call session).2.out = session.out ++ Run.presented setting.console
        call.audience screening.options screening.source screening.commands.length
        screening.scan := by
  obtain ⟨err, screened⟩ := Run.run_screens screens
  obtain ⟨last, concluded⟩ := concludes { session with
    err
    out := session.out ++ Run.presented setting.console call.audience screening.options
      screening.source screening.commands.length screening.scan } rfl
  unfold run
  rw [screened, concluded]
  exact ⟨rfl, rfl⟩

theorem run_eq_of_confirms (screens : Screens setting session.files call.request screening)
    (confirms : screening.Confirms) :
    (run setting call session).1 =
        (if (ask Run.question session.input).answer = some true then .exit 0 else .exit 1) ∧
      ∃ asked, (run setting call session).2.out = session.out ++ Run.presented setting.console
        call.audience screening.options screening.source screening.commands.length
        screening.scan ++ asked := by
  rw [Screening.confirms_iff] at confirms
  obtain ⟨err, screened⟩ := Run.run_screens screens
  obtain ⟨after, concluded, out⟩ := Run.run_conclude_asked setting screening.asked { session with
    err
    out := session.out ++ Run.presented setting.console call.audience screening.options
      screening.source screening.commands.length screening.scan } confirms
  unfold run
  rw [screened, concluded]
  refine ⟨?_, _, out⟩
  dsimp only
  split <;> rfl

theorem ending_of_threshold {threshold : Threshold}
    (screens : Screens setting session.files call.request screening)
    (silent : ¬ screening.Confirms)
    (chosen : ThresholdChosen setting session.files screening.asked threshold) :
    ((run setting call session).1 = .exit 1 ↔
        threshold.Met screening.scan.effectiveSeverity) ∧
      ((run setting call session).1 = .exit 0 ↔
        ¬ threshold.Met screening.scan.effectiveSeverity) ∧
      (run setting call session).2.out = session.out ++ Run.presented setting.console
        call.audience screening.options screening.source screening.commands.length
        screening.scan := by
  rw [Screening.confirms_iff, Bool.not_eq_true] at silent
  obtain ⟨ending, out⟩ := run_eq_of_conclude screens fun later same =>
    Run.run_conclude_unasked (same ▸ chosen) silent
  rw [ending, out, ← Threshold.isReachedBy_iff]
  cases threshold.isReachedBy screening.scan.effectiveSeverity <;> simp [Ending.ofResult]

/-- A run that asks for no answer ends by a threshold, or breaks off at the saved preference. -/
theorem ending_cases (screens : Screens setting session.files call.request screening)
    (silent : ¬ screening.Confirms) :
    (∃ threshold, ThresholdChosen setting session.files screening.asked threshold) ∨
      screening.asked = none ∧
        Config.TooDeep setting.stack session.files setting.configPath ∧
        (run setting call session).1 = .failed .overflow ∧
        (run setting call session).2.out = session.out ++ Run.presented setting.console
          call.audience screening.options screening.source screening.commands.length
          screening.scan := by
  cases asked : screening.asked with
  | some threshold => exact .inl ⟨threshold, .named threshold⟩
  | none =>
    rcases Config.load_loadsClosed setting.stack session.files setting.configPath setting.now with
      ⟨config, loaded, -⟩ | ⟨broken, deep⟩
    · exact .inl ⟨config.threshold, .saved loaded⟩
    · rw [Screening.confirms_iff, Bool.not_eq_true] at silent
      obtain ⟨ending, out⟩ := run_eq_of_conclude screens fun later same => by
        rw [asked]
        exact Run.run_conclude_of_overflow silent (same ▸ broken)
      exact .inr ⟨rfl, deep, ending, out⟩

theorem ending_of_answer (screens : Screens setting session.files call.request screening)
    (confirms : screening.Confirms) :
    ((run setting call session).1 = .exit 0 ↔ Agrees session.input) ∧
      ((run setting call session).1 = .exit 1 ↔ ¬ Agrees session.input) := by
  rw [(run_eq_of_confirms screens confirms).1, ← answer_ask_iff Run.question]
  by_cases yes : (ask Run.question session.input).answer = some true <;> simp [yes]

theorem append_eq_self_iff {text more : String} : text ++ more = text ↔ more = "" := by
  rw [← String.toList_inj, String.toList_append, List.append_right_eq_self,
    String.toList_eq_nil_iff]

/-- A run says nothing only where it is quiet and there is nothing to report. -/
theorem out_eq_iff (screens : Screens setting session.files call.request screening) :
    (run setting call session).2.out = session.out ↔
      screening.options.json = false ∧ screening.options.quiet = true ∧
        screening.scan.effectiveSeverity = .none := by
  have silence : Run.presented setting.console call.audience screening.options screening.source
    screening.commands.length screening.scan = "" ↔ _ := Run.presented_eq_empty_iff _
  rw [Scan.effectiveSeverity_eq_none_iff, ← silence]
  by_cases confirms : screening.Confirms
  · obtain ⟨-, asked, out⟩ := run_eq_of_confirms screens confirms
    -- A grave result is not clean, so its report alone is something.
    have grave : screening.scan.isClean = false := by
      unfold Scan.isClean
      rcases confirms.2 with rated | rated <;> rw [rated] <;> rfl
    constructor
    · intro same
      rw [out, String.append_assoc, append_eq_self_iff] at same
      exact (String.append_eq_empty_iff.mp same).1
    · intro silent
      rw [Run.presented_eq_empty_iff, grave] at silent
      exact absurd silent.2.2 (by decide)
  · have out : (run setting call session).2.out = session.out ++ Run.presented setting.console
        call.audience screening.options screening.source screening.commands.length
        screening.scan := by
      rcases ending_cases screens confirms with ⟨threshold, chosen⟩ | ⟨-, -, -, out⟩
      · exact (ending_of_threshold screens confirms chosen).2.2
      · exact out
    rw [out, append_eq_self_iff]

end

/-- The report says that nothing was found only where the effective severity is none. -/
theorem ofScan_eq_iff (audience : Report.Audience) (source : Option String) (total : Nat)
    (scan : Scan) :
    Report.ofScan audience source total scan =
        Report.overview audience (source.filter fun name => !name.isEmpty) total scan ++
          [audience.success "No security issues found"] ↔
      scan.effectiveSeverity = .none := by
  rw [Scan.effectiveSeverity_eq_none_iff, Report.ofScan, List.append_cancel_left_eq]
  cases scan.isClean with
  | true => simp
  | false =>
    -- The report of what was found starts with an empty line.
    have named : audience.success "No security issues found" ≠ "" := by cases audience <;> decide
    simp [Report.details, named.symm]

/-- **The exit status is decided by the effective severity.** A run that scans fails if and only if
the effective severity meets the threshold that is asked for or saved, whatever the files hold and
the options for output are; where none is asked for and the saved preference nests too deep, it
breaks off. It says nothing, or that nothing was found, only where that severity is none. More
commands or a lower threshold never make a run succeed that failed. Where a grave result is to be
confirmed, the run succeeds if and only if the first answer is yes. -/
theorem exit_status_decided (setting : Setting) (session : Session) :
    (∀ call screening, Screens setting session.files call.request screening →
      let scan := screening.scan
      let ending := (run setting call session).1
      let out := (run setting call session).2.out
      (¬ screening.Confirms →
        ((∃ threshold, ThresholdChosen setting session.files screening.asked threshold ∧
            (ending = .exit 1 ↔ threshold.Met scan.effectiveSeverity) ∧
            (ending = .exit 0 ↔ ¬ threshold.Met scan.effectiveSeverity)) ∨
          screening.asked = none ∧
            Config.TooDeep setting.stack session.files setting.configPath ∧
            ending = .failed .overflow) ∧
        out = session.out ++ Run.presented setting.console call.audience screening.options
          screening.source screening.commands.length scan) ∧
      (screening.Confirms →
        (ending = .exit 0 ↔ Agrees session.input) ∧ (ending = .exit 1 ↔ ¬ Agrees session.input)) ∧
      (out = session.out ↔ screening.options.json = false ∧ screening.options.quiet = true ∧
        scan.effectiveSeverity = .none)) ∧
    (∀ level commands,
      let scan := Scan.ofCommands level commands
      scan.effectiveSeverity =
          (if scan.severity = .none ∧ scan.findings.unread = true then .low else scan.severity) ∧
        (scan.findings.unread = true ↔ level.readsCommands = true ∧
          ∃ command ∈ commands, Findings.isCommand command = true ∧
            ∃ fault, Shell.parse command = .error fault)) ∧
    (∀ audience source total scan,
      Report.ofScan audience source total scan =
          Report.overview audience (source.filter fun name => !name.isEmpty) total scan ++
            [audience.success "No security issues found"] ↔
        scan.effectiveSeverity = .none) ∧
    (∀ call screening threshold setting' session' call' wider lower,
      Screens setting session.files call.request screening →
      Screens setting' session'.files call'.request wider →
      ¬ screening.Confirms → ¬ wider.Confirms → wider.level = screening.level →
      screening.commands ⊆ wider.commands →
      ThresholdChosen setting session.files screening.asked threshold →
      ThresholdChosen setting' session'.files wider.asked lower →
      lower.height ≤ threshold.height →
      (run setting call session).1 = .exit 1 → (run setting' call' session').1 = .exit 1) := by
  refine ⟨?_, ?_, ofScan_eq_iff, ?_⟩
  · intro call screening screens
    refine ⟨fun silent => ?_, ending_of_answer screens, out_eq_iff screens⟩
    rcases ending_cases screens silent with ⟨threshold, chosen⟩ | ⟨asked, deep, broken, out⟩
    · obtain ⟨fails, succeeds, out⟩ := ending_of_threshold screens silent chosen
      exact ⟨.inl ⟨threshold, chosen, fails, succeeds⟩, out⟩
    · exact ⟨.inr ⟨asked, deep, broken⟩, out⟩
  · intro level commands
    exact ⟨Scan.effectiveSeverity_eq _, Scan.unread_ofCommands_iff⟩
  · intro call screening threshold setting' session' call' wider lower screens widens
      silent silentWider sameLevel subset chosen chosenWider lowered failed
    have met := (ending_of_threshold screens silent chosen).1.mp failed
    refine (ending_of_threshold widens silentWider chosenWider).1.mpr (met.mono lowered ?_)
    unfold Screening.scan
    rw [sameLevel]
    exact Scan.rank_effectiveSeverity_mono subset

/-- Removing everything fails a quiet run under the strict level from high on. -/
theorem exit_status_of_removal :
    let setting : Setting :=
      { configPath := ⟨false, ["config.json"]⟩, now := "", fetch := fun _ => .error "",
        stack := .usual, console := ⟨fun _ => false⟩ }
    let options : ScanOptions := { level := some "strict", failOn := some "high", quiet := true }
    let session : Session := { files := ⟨[]⟩ }
    Screens setting session.files (.check ["rm -rf /"] options)
        ⟨options, none, .strict, some .high, ["rm -rf /"]⟩ ∧
      (run setting ⟨false, .agent, .check ["rm -rf /"] options⟩ session).1 = .exit 1 := by
  intro setting options session
  have given : levelName? setting options.level = some "strict" := by decide
  have known : Level.ofKey? "strict" = some .strict := by decide
  have screens : Screens setting session.files (.check ["rm -rf /"] options)
      ⟨options, none, .strict, some .high, ["rm -rf /"]⟩ := .check (.named given known) rfl
  have decided := (exit_status_decided setting session).1
    ⟨false, .agent, .check ["rm -rf /"] options⟩
    ⟨options, none, .strict, some .high, ["rm -rf /"]⟩ screens
  have silent : ¬ Screening.Confirms ⟨options, none, .strict, some .high, ["rm -rf /"]⟩ :=
    fun confirms => absurd confirms.1 (by decide)
  rcases (decided.1 silent).1 with ⟨threshold, chosen, fails, -⟩ | ⟨unasked, -⟩
  · cases chosen
    refine ⟨screens, fails.mpr (Threshold.met_iff.mpr ?_)⟩
    decide +kernel
  · cases unasked

/-- With the usual stack and a saved preference of a hundred thousand opening brackets, a run that
scans a harmless command under the strict level does not succeed. -/
theorem check_breaks_off :
    let setting : Setting :=
      { configPath := Config.bracketPath, now := "", fetch := fun _ => .error "", stack := .usual,
        console := ⟨fun _ => false⟩ }
    let options : ScanOptions := { level := some "strict" }
    let session : Session := { files := Config.bracketFiles }
    (Scan.ofCommands .strict ["ls"]).effectiveSeverity = .none ∧
      (run setting ⟨false, .agent, .check ["ls"] options⟩ session).1 = .failed .overflow := by
  intro setting options session
  have given : levelName? setting options.level = some "strict" := by decide
  have known : Level.ofKey? "strict" = some .strict := by decide
  have screens : Screens setting session.files (.check ["ls"] options)
      ⟨options, none, .strict, none, ["ls"]⟩ := .check (.named given known) rfl
  have broken : (Config.load setting.stack session.files setting.configPath setting.now).2 =
      .error .overflow :=
    congrArg Prod.snd (Config.load_bracketFiles "")
  let call : Call := ⟨false, .agent, .check ["ls"] options⟩
  have stops : Screens setting session.files call.request ⟨options, none, .strict, none, ["ls"]⟩ :=
    screens
  have ends := run_eq_of_conclude stops fun later same =>
    Run.run_conclude_of_overflow rfl (same ▸ broken)
  exact ⟨by decide +kernel, ends.1⟩

end Cli

end ShellVet
