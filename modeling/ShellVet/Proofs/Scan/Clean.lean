import ShellVet.Proofs.Regex.Ink
import ShellVet.Proofs.Scan.Levels
import ShellVet.Proofs.Text.Trim

/-!
# Clean scans

A scan is clean when it is rated `none` and read every command. Under the two levels that read
commands this is so exactly when it warns of nothing, and exactly when every text of the batch is
harmless in itself (`isClean_iff_harmless`). The permissive level always warns of itself, at the
end.
-/

namespace ShellVet

/-- A reader has to agree where a scan is rated high or critical. -/
theorem Scan.requiresConfirmation_iff {scan : Scan} :
    scan.requiresConfirmation = true ↔ scan.severity = .high ∨ scan.severity = .critical := by
  unfold requiresConfirmation
  cases scan.severity <;> decide

namespace Findings

variable {level : Level} {findings : Findings}

/-! ## Signals and warnings -/

theorem severity_eq_none_iff :
    findings.severity = .none ↔ findings.signals.dangerous = false ∧
      findings.signals.obfuscated = false ∧ findings.signals.suspicious = false ∧
      findings.signals.blocked = false ∧ findings.signals.unknown = false := by
  unfold severity Severity.ofSignals
  cases findings.signals.dangerous <;> cases findings.signals.obfuscated <;>
    cases findings.signals.suspicious <;> cases findings.signals.blocked <;>
    cases findings.signals.unknown <;> decide

theorem sayIf_eq_nil_iff {condition : Bool} {text : String} :
    sayIf condition text = [] ↔ condition = false := by
  cases condition <;> simp [sayIf]

/-- Nothing is said of findings that are rated `none` and were all read. -/
theorem remarks_eq_nil_iff :
    findings.remarks level = [] ↔ findings.severity = .none ∧ findings.unread = false := by
  have suspicion : (findings.signals.suspicious && !findings.signals.dangerous) = false ∧
      findings.signals.dangerous = false ↔
        findings.signals.suspicious = false ∧ findings.signals.dangerous = false := by
    cases findings.signals.suspicious <;> cases findings.signals.dangerous <;> decide
  rw [severity_eq_none_iff]
  unfold remarks
  simp only [List.append_eq_nil_iff, sayIf_eq_nil_iff]
  tauto

/-- A level that is silent itself warns of nothing where nothing is said of the findings. -/
theorem warnings_eq_nil_iff (silent : level.warning? = none) :
    findings.warnings level = [] ↔ findings.severity = .none ∧ findings.unread = false := by
  rw [warnings, silent, Option.toList_none, List.append_nil]
  exact remarks_eq_nil_iff

/-- Nothing is recommended where the rating is `none` and all was read. -/
theorem recommendations_eq_nil (rated : findings.severity = .none)
    (read : findings.unread = false) : findings.recommendations level = [] := by
  obtain ⟨-, -, -, blocked, unknown⟩ := severity_eq_none_iff.mp rated
  have no_blocked : findings.blocked = [] := by
    simpa only [signals, Bool.not_eq_false', List.isEmpty_iff] using blocked
  have no_unknown : findings.unknown = [] := by
    simpa only [signals, Bool.not_eq_false', List.isEmpty_iff] using unknown
  have no_known : findings.knownBlocked = [] := by
    rw [knownBlocked, no_blocked]
    rfl
  have no_switch : switchAdvice level [] = [] := by
    unfold switchAdvice
    split <;> rfl
  unfold recommendations unlockable
  rw [no_known, no_unknown, read, List.filter_nil, no_switch]
  rfl

/-! ## Texts without harm -/

/-- Nothing can be held against the text: it is blank or reads as commands that the level allows, it
hides nothing, and no signature matches, unless the standard level trusts its first word. -/
structure Harmless (level : Level) (text : String) : Prop where
  allowed : isCommand text = true → ∃ invocations, Shell.parse text = .ok invocations ∧
    ∀ invocation ∈ invocations, ∃ category,
      Category.ofCommand? invocation.name = some category ∧ level.allows category = true
  plain : ∀ technique ∈ Obfuscation.techniques, technique.usedIn text = false
  safe : ∀ signature ∈ Threat.dangerous, signature.regex.occursIn text.toList = false
  calm : ∀ signature ∈ Threat.suspicious, signature.regex.occursIn text.toList = true →
    level = .standard ∧ ∃ category,
      Category.ofCommand? (firstWord text) = some category ∧ level.allows category = true

theorem permits_iff {name : String} :
    permits level name = true ↔
      ∃ category, Category.ofCommand? name = some category ∧ level.allows category = true := by
  unfold permits
  rw [Option.any_eq_true]

theorem permits_nameOf (invocation : Shell.Invocation) :
    permits level (nameOf invocation) = permits level invocation.name := by
  unfold permits nameOf
  rw [Category.ofCommand?_trim]

theorem harmless_of_blank {text : String} (blank : Text.isBlankText text.toList = true) :
    Harmless level text where
  allowed command := by
    rw [isCommand, blank] at command
    cases command
  plain _ known := Obfuscation.not_usedIn_of_blank blank known
  safe signature known := Regex.not_occursIn_of_needsInk
    (List.all_eq_true.mp Threat.needsInk_dangerous signature known) blank
  calm signature known found := by
    rw [Regex.not_occursIn_of_needsInk
      (List.all_eq_true.mp Threat.needsInk_suspicious signature known) blank] at found
    cases found

theorem threatens_eq_false_iff {text : String} :
    threatens text = false ↔
      ∀ signature ∈ Threat.dangerous, signature.regex.occursIn text.toList = false := by
  unfold threatens
  rw [List.any_eq_false]
  simp only [Bool.not_eq_true]

theorem conceals_eq_false_iff (blocks : level.blocksObfuscation = true) {text : String} :
    conceals level text = false ↔
      ∀ technique ∈ Obfuscation.techniques, technique.usedIn text = false := by
  unfold conceals
  rw [blocks, Bool.true_and, List.any_eq_false]
  simp only [Bool.not_eq_true]

/-- A command is read and all it invokes is allowed. -/
theorem allowed_iff (reads : level.readsCommands = true) {text : String} :
    (misread level text = false ∧
        ∀ invocation ∈ invoked level text, permits level (nameOf invocation) = true) ↔
      ∃ invocations, Shell.parse text = .ok invocations ∧ ∀ invocation ∈ invocations, ∃ category,
        Category.ofCommand? invocation.name = some category ∧ level.allows category = true := by
  unfold misread invoked Shell.invocationsOf
  simp only [reads, if_true, Bool.true_and, permits_nameOf, permits_iff]
  cases parsed : Shell.parse text with
  | error fault => simp [Except.isOk, Except.toBool]
  | ok invocations => simp [Except.isOk, Except.toBool]

/-- Without a dangerous signature, a level other than the permissive one suspects nothing where a
suspicious signature matches only what the standard level trusts. -/
theorem suspects_eq_false_iff (vets : level ≠ .permissive) {text : String}
    (safe : threatens text = false) :
    suspects level text = false ↔
      ∀ signature ∈ Threat.suspicious, signature.regex.occursIn text.toList = true →
        level = .standard ∧ ∃ category,
          Category.ofCommand? (firstWord text) = some category ∧ level.allows category = true := by
  have trusted : (level == .strict || !permits level (firstWord text)) = false ↔
      level = .standard ∧ ∃ category,
        Category.ofCommand? (firstWord text) = some category ∧ level.allows category = true := by
    rw [← permits_iff, Bool.or_eq_false_iff, Bool.not_eq_false']
    cases level with
    | strict => simp
    | standard => simp
    | permissive => exact absurd rfl vets
  rw [← trusted]
  unfold suspects startles
  rw [safe, Bool.not_false, Bool.true_and, Bool.and_eq_false_imp, List.any_eq_true]
  constructor
  · intro doubt signature known found
    exact doubt ⟨signature, known, found⟩
  · rintro calm ⟨signature, known, found⟩
    exact calm signature known found

/-- A command is harmless where a level that vets commands finds nothing in it. -/
theorem harmless_iff_of_isCommand (vets : level ≠ .permissive) {text : String}
    (command : isCommand text = true) :
    Harmless level text ↔ threatens text = false ∧ conceals level text = false ∧
      suspects level text = false ∧ misread level text = false ∧
      ∀ invocation ∈ invoked level text, permits level (nameOf invocation) = true := by
  have reads : level.readsCommands = true := by
    cases level <;> first | rfl | exact absurd rfl vets
  have blocks : level.blocksObfuscation = true := by
    cases level <;> first | rfl | exact absurd rfl vets
  constructor
  · rintro ⟨allowed, plain, safe, calm⟩
    have safe' := threatens_eq_false_iff.mpr safe
    exact ⟨safe', (conceals_eq_false_iff blocks).mpr plain,
      (suspects_eq_false_iff vets safe').mpr calm,
      (allowed_iff reads).mpr (allowed command)⟩
  · rintro ⟨safe, plain, calm, allowed⟩
    exact ⟨fun _ => (allowed_iff reads).mp allowed, (conceals_eq_false_iff blocks).mp plain,
      threatens_eq_false_iff.mp safe, (suspects_eq_false_iff vets safe).mp calm⟩

/-! ## Clean scans -/

theorem forall_mem_namesIn {batch : List String} {holds : String → Prop} :
    (∀ name ∈ namesIn level batch, holds name) ↔
      ∀ command ∈ batch, ∀ invocation ∈ invoked level command, holds (nameOf invocation) := by
  simp only [namesIn, List.forall_mem_map, List.forall_mem_flatMap]

theorem any_isUnknown_eq_false {names : List String}
    (permitted : (names.any fun name => !permits level name) = false) :
    names.any isUnknown = false := by
  rw [List.any_eq_false] at permitted ⊢
  intro name member unknown
  exact permitted name member (by rw [not_permits_of_isUnknown unknown]; rfl)

/-- Nothing is found in a batch where no command contributes anything. -/
theorem declared_quiet_iff {batch : List String} :
    (declared level batch).severity = .none ∧ (declared level batch).unread = false ↔
      ∀ command ∈ batch, threatens command = false ∧ conceals level command = false ∧
        suspects level command = false ∧ misread level command = false ∧
        ∀ invocation ∈ invoked level command, permits level (nameOf invocation) = true := by
  have parts : (declared level batch).severity = .none ∧ (declared level batch).unread = false ↔
      batch.any threatens = false ∧ batch.any (conceals level) = false ∧
        batch.any (suspects level) = false ∧ batch.any (misread level) = false ∧
        ((namesIn level batch).any fun name => !permits level name) = false := by
    rw [severity_eq_none_iff, signals_declared]
    constructor
    · rintro ⟨⟨threats, hidden, suspicions, refused, -⟩, unread⟩
      exact ⟨threats, hidden, suspicions, unread, refused⟩
    · rintro ⟨threats, hidden, suspicions, unread, refused⟩
      exact ⟨⟨threats, hidden, suspicions, refused, any_isUnknown_eq_false refused⟩, unread⟩
  rw [parts]
  simp only [List.any_eq_false, Bool.not_eq_true, Bool.not_eq_false', forall_mem_namesIn,
    forall₂_and]

theorem mem_textsOf {entries : List Json} {text : String} :
    text ∈ Scan.textsOf entries ↔ Json.string text ∈ entries := by
  unfold Scan.textsOf
  rw [List.mem_filterMap]
  constructor
  · rintro ⟨entry, member, same⟩
    cases entry with
    | string =>
      cases same
      exact member
    | _ => cases same
  · exact fun member => ⟨_, member, rfl⟩

theorem isClean_iff {scan : Scan} :
    scan.isClean = true ↔ scan.findings.severity = .none ∧ scan.findings.unread = false := by
  unfold Scan.isClean Scan.severity
  rw [Bool.and_eq_true, beq_iff_eq, Bool.not_eq_true']

/-- A scan under a level that vets commands is clean where all texts of the batch are harmless. -/
theorem isClean_ofEntries_iff (vets : level ≠ .permissive) (entries : List Json) :
    (Scan.ofEntries level entries).isClean = true ↔
      ∀ text, Json.string text ∈ entries → Harmless level text := by
  rw [isClean_iff, findings_ofEntries, declared_quiet_iff]
  constructor
  · intro quiet text member
    cases command : isCommand text with
    | false =>
      -- the scan passes over blank texts, so their part has to hold by itself
      rw [isCommand, Bool.not_eq_false'] at command
      exact harmless_of_blank command
    | true =>
      exact (harmless_iff_of_isCommand vets command).mpr
        (quiet text (List.mem_filter.mpr ⟨mem_textsOf.mpr member, command⟩))
  · intro harmless text member
    obtain ⟨member, command⟩ := List.mem_filter.mp member
    exact (harmless_iff_of_isCommand vets command).mp (harmless text (mem_textsOf.mp member))

/-! ## The permissive level -/

theorem mem_sayIf {condition : Bool} {text other : String} :
    other ∈ sayIf condition text ↔ condition = true ∧ other = text := by
  cases condition <;> simp [sayIf]

theorem unread_permissive (batch : List String) : (declared .permissive batch).unread = false :=
  List.any_eq_false.mpr fun _ _ => Bool.false_ne_true

/-- What the permissive level says of a batch counts dangerous or suspicious commands. -/
theorem head?_of_mem_remarks_permissive {batch : List String} {text : String}
    (member : text ∈ (declared .permissive batch).remarks .permissive) :
    text.toList.head? = some 'F' := by
  have plain : (declared .permissive batch).signals.obfuscated = false := by
    rw [signals, obfuscated_permissive]
    rfl
  have unblocked : (declared .permissive batch).signals.blocked = false := by
    rw [signals, blocked_permissive]
    rfl
  have known : (declared .permissive batch).signals.unknown = false := by
    rw [signals, unknown_permissive]
    rfl
  unfold remarks at member
  simp only [List.mem_append, mem_sayIf, plain, unblocked, known, unread_permissive,
    Bool.false_eq_true, false_and, false_or, or_false] at member
  -- two remarks are left, and both start with a count of what was found
  rcases member with ⟨-, rfl⟩ | ⟨-, rfl⟩
  · simp only [String.toList_append, List.append_assoc, List.head?_append]
    rfl
  · simp only [String.toList_append, List.append_assoc, List.head?_append]
    rfl

/-- The permissive level's own warning is no remark on findings. -/
theorem not_mem_remarks_permissive {batch : List String} {warning : String}
    (warns : Level.permissive.warning? = some warning) :
    warning ∉ (declared .permissive batch).remarks .permissive := by
  intro member
  have head := head?_of_mem_remarks_permissive member
  cases warns
  rw [String.toList_append, List.head?_append] at head
  simp at head

/-- The permissive level's own warning comes once and last, and alone where nothing was found. -/
theorem warnings_permissive (batch : List String) {warning : String}
    (warns : Level.permissive.warning? = some warning) :
    let warnings := (declared .permissive batch).warnings .permissive
    warnings.count warning = 1 ∧ warnings.getLast? = some warning ∧
      (warnings = [warning] ↔ (declared .permissive batch).severity = .none ∧
        (declared .permissive batch).unread = false) := by
  intro warnings
  have whole : warnings = (declared .permissive batch).remarks .permissive ++ [warning] := by
    change remarks _ _ ++ Level.permissive.warning?.toList = _
    rw [warns, Option.toList_some]
  have absent : ((declared .permissive batch).remarks .permissive).count warning = 0 :=
    List.count_eq_zero_of_not_mem (not_mem_remarks_permissive warns)
  rw [whole, ← remarks_eq_nil_iff]
  refine ⟨?_, List.getLast?_concat, ?_⟩
  · rw [List.count_append, absent, List.count_singleton_self]
  · exact List.append_left_eq_self

/-- **Clean means clean.** Under the strict and the standard level a scan is clean exactly when it
warns of nothing, and exactly when every text of the batch is harmless. A clean scan recommends
nothing. The permissive level's own warning comes once and last, and alone only for a clean scan. -/
theorem isClean_iff_harmless (entries : List Json) :
    (∀ level ∈ [Level.strict, .standard],
      let scan := Scan.ofEntries level entries
      (scan.isClean = true ↔ scan.warnings = []) ∧
        (scan.isClean = true ↔ ∀ text, Json.string text ∈ entries → Harmless level text)) ∧
    (∀ level, (Scan.ofEntries level entries).isClean = true →
      (Scan.ofEntries level entries).recommendations = []) ∧
    ∃ warning, Level.permissive.warning? = some warning ∧
      let scan := Scan.ofEntries .permissive entries
      scan.warnings.count warning = 1 ∧ scan.warnings.getLast? = some warning ∧
        (scan.warnings = [warning] ↔ scan.isClean = true) := by
  refine ⟨?_, ?_, _, rfl, ?_⟩
  · intro level vetting scan
    have vets : level ≠ .permissive := by
      rintro rfl
      revert vetting
      decide
    have silent : level.warning? = none := by
      cases level <;> first | rfl | exact absurd rfl vets
    refine ⟨?_, isClean_ofEntries_iff vets entries⟩
    rw [isClean_iff, ← warnings_eq_nil_iff silent]
    rfl
  · intro level clean
    obtain ⟨rated, read⟩ := isClean_iff.mp clean
    exact recommendations_eq_nil rated read
  · intro scan
    rw [isClean_iff, Scan.warnings, findings_ofEntries]
    exact warnings_permissive _ rfl

end Findings

end ShellVet
