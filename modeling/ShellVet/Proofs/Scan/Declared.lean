import ShellVet.Proofs.Scan.Distinct
import ShellVet.Scan.Basic
import ShellVet.Shell.Overview

/-!
# What a scan finds, without its loop

`declared` tells the findings of a batch by filters and concatenations over the batch alone.
`extend` does so on top of earlier findings; one step of the scan is `extend` by one command
(`add_eq_extend`), two extensions are one (`extend_extend`), and so a whole scan is what is declared
(`ofCommands_eq_declared`).
-/

namespace ShellVet

namespace Findings

/-! ## What one command contributes -/

/-- Whether some dangerous signature matches. -/
def threatens (command : String) : Bool :=
  Threat.dangerous.any fun signature => signature.regex.occursIn command.toList

/-- Whether some suspicious signature matches. -/
def startles (command : String) : Bool :=
  Threat.suspicious.any fun signature => signature.regex.occursIn command.toList

/-- Whether the level allows the category of a name; no unknown name is allowed. -/
def permits (level : Level) (name : String) : Bool :=
  (Category.ofCommand? name).any level.allows

/-- Whether the name belongs to no category. -/
def isUnknown (name : String) : Bool :=
  (Category.ofCommand? name).isNone

/-- Whether a suspicious signature counts, since no dangerous one matches and the level does not
trust the first word. -/
def suspects (level : Level) (command : String) : Bool :=
  !threatens command && startles command &&
    (level == .strict || !permits level (firstWord command))

/-- The names of the techniques that the level finds. -/
def techniquesIn (level : Level) (command : String) : List String :=
  if level.blocksObfuscation then
    (Obfuscation.techniques.filter (·.usedIn command)).map (·.name)
  else []

/-- Whether the level finds some technique. -/
def conceals (level : Level) (command : String) : Bool :=
  level.blocksObfuscation && Obfuscation.techniques.any (·.usedIn command)

/-- The commands that the level reads; none where it does not read, or cannot. -/
def invoked (level : Level) (command : String) : List Shell.Invocation :=
  if level.readsCommands then Shell.invocationsOf command else []

/-- Whether the level reads the command and cannot. -/
def misread (level : Level) (command : String) : Bool :=
  level.readsCommands && !(Shell.parse command).isOk

/-- The trimmed names of all commands that a batch invokes. -/
def namesIn (level : Level) (batch : List String) : List String :=
  (batch.flatMap (invoked level)).map nameOf

/-- The findings of a batch of commands. -/
def declared (level : Level) (batch : List String) : Findings :=
  let refused := ((namesIn level batch).filter fun name => !permits level name).eraseDups
  { dangerous := (batch.filter threatens).eraseDups
    suspicious := (batch.filter (suspects level)).eraseDups
    obfuscated := (batch.filter (conceals level)).eraseDups
    techniques := (batch.flatMap (techniquesIn level)).eraseDups
    invocations := batch.flatMap (invoked level)
    blocked := refused
    unknown := refused.filter isUnknown
    unread := batch.any (misread level) }

/-- The findings with those of a batch of commands added. -/
def extend (level : Level) (findings : Findings) (batch : List String) : Findings where
  dangerous := insertAll findings.dangerous (batch.filter threatens)
  suspicious := insertAll findings.suspicious (batch.filter (suspects level))
  obfuscated := insertAll findings.obfuscated (batch.filter (conceals level))
  techniques := insertAll findings.techniques (batch.flatMap (techniquesIn level))
  invocations := findings.invocations ++ batch.flatMap (invoked level)
  blocked :=
    insertAll findings.blocked ((namesIn level batch).filter fun name => !permits level name)
  unknown := insertAll findings.unknown ((namesIn level batch).filter isUnknown)
  unread := findings.unread || batch.any (misread level)

variable {level : Level} {findings : Findings} {command : String}

/-! ## Signatures -/

theorem first?_isSome_eq_any {α : Type} (signatures : List (Signature α)) (text : List Char) :
    (Signature.first? signatures text).isSome =
      signatures.any fun signature => signature.regex.occursIn text := by
  induction signatures with
  | nil => rfl
  | cons signature signatures ih =>
    rw [List.any_cons, ← ih]
    cases found : signature.regex.search text <;>
      simp [Signature.first?, Signature.find?, Regex.occursIn, found]

theorem isDangerous_eq_threatens : Risk.isDangerous command = threatens command := by
  unfold Risk.isDangerous Risk.danger? threatens
  rw [Option.isSome_map, first?_isSome_eq_any]

theorem isSuspicious_eq_startles : Risk.isSuspicious command = startles command := by
  unfold Risk.isSuspicious Risk.suspicion? startles
  rw [Option.isSome_map, first?_isSome_eq_any]

/-- Two commands with the same first threat are both dangerous, or neither is. -/
theorem threatens_of_danger?_eq {command other : String}
    (same : Risk.danger? command = Risk.danger? other) : threatens command = threatens other := by
  rw [← isDangerous_eq_threatens, ← isDangerous_eq_threatens, Risk.isDangerous, Risk.isDangerous,
    same]

theorem startles_of_suspicion?_eq {command other : String}
    (same : Risk.suspicion? command = Risk.suspicion? other) :
    startles command = startles other := by
  rw [← isSuspicious_eq_startles, ← isSuspicious_eq_startles, Risk.isSuspicious,
    Risk.isSuspicious, same]

theorem allow_eq_permits (level : Level) (name : String) :
    Category.allow level.categories name false = permits level name := by
  unfold Category.allow permits Level.allows
  cases Category.ofCommand? name <;> rfl

theorem checksSuspicion_eq :
    checksSuspicion level command = (level == .strict || !permits level (firstWord command)) := by
  rw [← allow_eq_permits]
  rfl

/-! ## One step of a scan -/

/-- A name that is unknown is not allowed. -/
theorem not_permits_of_isUnknown {name : String} (unknown : isUnknown name = true) :
    permits level name = false := by
  unfold isUnknown at unknown
  unfold permits
  rw [Option.isNone_iff_eq_none.mp unknown]
  rfl

theorem sort_eq (invocation : Shell.Invocation) :
    sort level findings invocation =
      { findings with
        blocked := insertAll findings.blocked
          ([nameOf invocation].filter fun name => !permits level name)
        unknown := insertAll findings.unknown ([nameOf invocation].filter isUnknown) } := by
  unfold sort
  cases category : Category.ofCommand? (nameOf invocation) with
  | none => simp [permits, isUnknown, category, insertAll]
  | some category' =>
    cases allowed : level.allows category' <;>
      simp [permits, isUnknown, category, allowed, insertAll]

theorem foldl_sort (invocations : List Shell.Invocation) :
    invocations.foldl (sort level) findings =
      { findings with
        blocked := insertAll findings.blocked
          ((invocations.map nameOf).filter fun name => !permits level name)
        unknown := insertAll findings.unknown ((invocations.map nameOf).filter isUnknown) } := by
  induction invocations generalizing findings with
  | nil => rfl
  | cons invocation invocations ih =>
    rw [List.foldl_cons, ih, sort_eq]
    simp only [← insertAll_append, ← List.filter_append, List.map_cons, List.singleton_append]

theorem classify_eq :
    classify level findings command =
      { findings with
        invocations := findings.invocations ++ invoked level command
        blocked := insertAll findings.blocked
          ((namesIn level [command]).filter fun name => !permits level name)
        unknown := insertAll findings.unknown ((namesIn level [command]).filter isUnknown)
        unread := findings.unread || misread level command } := by
  have names : namesIn level [command] = (invoked level command).map nameOf := by
    simp [namesIn]
  rw [names]
  unfold classify invoked misread Shell.invocationsOf
  cases reads : level.readsCommands
  case false => simp [insertAll]
  case true =>
    cases parsed : Shell.parse command with
    | error _ => simp [insertAll, Except.isOk, Except.toBool]
    | ok invocations => simp [foldl_sort, Except.isOk, Except.toBool]

theorem detect_eq :
    detect level findings command =
      { findings with
        obfuscated := insertAll findings.obfuscated ([command].filter (conceals level))
        techniques := insertAll findings.techniques (techniquesIn level command) } := by
  unfold detect conceals techniquesIn Obfuscation.detect
  cases blocks : level.blocksObfuscation
  case false => simp [insertAll]
  case true =>
    cases used : Obfuscation.techniques.filter (·.usedIn command) with
    | nil =>
      have absent : Obfuscation.techniques.any (·.usedIn command) = false := by
        simpa only [List.any_eq_false, List.filter_eq_nil_iff] using used
      simp [absent, insertAll]
    | cons technique techniques =>
      have present : Obfuscation.techniques.any (·.usedIn command) = true := by
        have member : technique ∈ Obfuscation.techniques.filter (·.usedIn command) := by
          rw [used]
          exact List.mem_cons_self
        exact List.any_eq_true.mpr ⟨technique, List.mem_filter.mp member⟩
      simp [present, insertAll]

theorem screen_eq :
    screen level findings command =
      { findings with
        dangerous := insertAll findings.dangerous ([command].filter threatens)
        suspicious := insertAll findings.suspicious ([command].filter (suspects level)) } := by
  unfold screen
  rw [isDangerous_eq_threatens, isSuspicious_eq_startles, checksSuspicion_eq]
  cases threat : threatens command with
  | true => simp [suspects, threat, insertAll]
  | false =>
    cases startled : startles command with
    | false => simp [suspects, threat, startled, insertAll]
    | true =>
      cases checked : level == .strict || !permits level (firstWord command) with
      | false => simp [suspects, threat, startled, checked, insertAll]
      | true => simp [suspects, threat, startled, checked, insertAll]

/-- Looking at one command is an extension by it. -/
theorem add_eq_extend : add level findings command = extend level findings [command] := by
  unfold add
  rw [screen_eq, detect_eq, classify_eq]
  simp [extend]

/-! ## A whole scan -/

theorem namesIn_append (batch more : List String) :
    namesIn level (batch ++ more) = namesIn level batch ++ namesIn level more := by
  simp only [namesIn, List.flatMap_append, List.map_append]

/-- Two extensions are one by both batches. -/
theorem extend_extend (batch more : List String) :
    extend level (extend level findings batch) more = extend level findings (batch ++ more) := by
  simp only [extend, insertAll_append, namesIn_append, List.filter_append, List.flatMap_append,
    List.any_append, List.append_assoc, Bool.or_assoc]

theorem foldl_add (batch : List String) :
    batch.foldl (add level) findings = extend level findings batch := by
  induction batch generalizing findings with
  | nil => simp [extend, insertAll, namesIn]
  | cons command batch ih =>
    rw [List.foldl_cons, ih, add_eq_extend, extend_extend, List.singleton_append]

/-- What is unknown is the part of what is blocked that belongs to no category. -/
theorem filter_isUnknown_refused (names : List String) :
    (names.filter fun name => !permits level name).filter isUnknown = names.filter isUnknown := by
  rw [List.filter_filter]
  apply List.filter_congr
  intro name _
  cases unknown : isUnknown name with
  | false => rfl
  | true => simp [not_permits_of_isUnknown unknown]

theorem extend_empty_eq_declared (batch : List String) :
    extend level {} batch = declared level batch := by
  unfold declared
  simp only [extend, insertAll_nil, List.nil_append, Bool.false_or, ← eraseDups_filter,
    filter_isUnknown_refused]

/-- A scan finds what is declared of the commands in its batch that are not blank. -/
theorem ofCommands_eq_declared (commands : List String) :
    ofCommands level commands = declared level (commands.filter isCommand) := by
  unfold ofCommands
  rw [foldl_add, extend_empty_eq_declared]

theorem findings_ofEntries (level : Level) (entries : List Json) :
    (Scan.ofEntries level entries).findings =
      declared level ((Scan.textsOf entries).filter isCommand) :=
  ofCommands_eq_declared (Scan.textsOf entries)

theorem severity_ofEntries (level : Level) (entries : List Json) :
    (Scan.ofEntries level entries).severity =
      (declared level ((Scan.textsOf entries).filter isCommand)).severity := by
  rw [Scan.severity, findings_ofEntries]

/-! ## The rating of what is declared -/

/-- A list without repetition is empty where no value was chosen for it. -/
theorem isEmpty_eraseDups_filter (values : List String) (keep : String → Bool) :
    (!(values.filter keep).eraseDups.isEmpty) = values.any keep := by
  rw [Bool.eq_iff_iff, List.any_eq_true, Bool.not_eq_true', ← Bool.not_eq_true,
    List.isEmpty_iff, eraseDups_eq_nil, List.filter_eq_nil_iff]
  simp only [not_forall, Bool.not_eq_true, Bool.not_eq_false, exists_prop]

theorem signals_declared (batch : List String) :
    (declared level batch).signals =
      { dangerous := batch.any threatens
        obfuscated := batch.any (conceals level)
        suspicious := batch.any (suspects level)
        blocked := (namesIn level batch).any fun name => !permits level name
        unknown := (namesIn level batch).any isUnknown } := by
  unfold signals declared
  simp only [← eraseDups_filter, filter_isUnknown_refused, isEmpty_eraseDups_filter]

theorem not_suspects_of_threatens (threat : threatens command = true) :
    suspects level command = false := by
  unfold suspects
  rw [threat]
  rfl

theorem disjoint_dangerous_suspicious (batch : List String) :
    List.Disjoint (declared level batch).dangerous (declared level batch).suspicious := by
  intro command dangerous suspicious
  have threat := (List.mem_filter.mp (List.mem_eraseDups.mp dangerous)).2
  have suspect := (List.mem_filter.mp (List.mem_eraseDups.mp suspicious)).2
  rw [not_suspects_of_threatens threat] at suspect
  cases suspect

/-- No list of findings holds a value twice; only what is invoked may come again. -/
structure Distinct (findings : Findings) : Prop where
  dangerous : findings.dangerous.Nodup
  suspicious : findings.suspicious.Nodup
  obfuscated : findings.obfuscated.Nodup
  techniques : findings.techniques.Nodup
  blocked : findings.blocked.Nodup
  unknown : findings.unknown.Nodup

theorem distinct_declared (batch : List String) : (declared level batch).Distinct where
  dangerous := nodup_eraseDups
  suspicious := nodup_eraseDups
  obfuscated := nodup_eraseDups
  techniques := nodup_eraseDups
  blocked := nodup_eraseDups
  unknown := nodup_eraseDups.filter isUnknown

theorem severity_declared (batch : List String) :
    (declared level batch).severity =
      if batch.any threatens && batch.any (conceals level) then .critical
      else if batch.any threatens || batch.any (conceals level) then .high
      else if batch.any (suspects level) then .medium
      else if (namesIn level batch).any fun name => !permits level name then .low
      else .none := by
  have refused : ((namesIn level batch).any (fun name => !permits level name) ||
      (namesIn level batch).any isUnknown) =
        (namesIn level batch).any fun name => !permits level name := by
    rw [Bool.or_eq_left_iff_imp, List.any_eq_true, List.any_eq_true]
    rintro ⟨name, member, unknown⟩
    exact ⟨name, member, by rw [not_permits_of_isUnknown unknown]; rfl⟩
  unfold severity
  rw [signals_declared]
  simp only [Severity.ofSignals, refused]

/-- **A scan is its declaration.** Under every level the findings of a batch of entries are those
declared of its texts that are not blank; nothing is listed twice, no command is both dangerous and
suspicious, and the rating is decided by what some entry contributes. -/
theorem ofEntries_eq_declared (level : Level) (entries : List Json) :
    let batch := (Scan.textsOf entries).filter isCommand
    let scan := Scan.ofEntries level entries
    scan.level = level ∧ scan.findings = declared level batch ∧ scan.findings.Distinct ∧
      List.Disjoint scan.findings.dangerous scan.findings.suspicious ∧
      scan.findings.signals =
        { dangerous := batch.any threatens
          obfuscated := batch.any (conceals level)
          suspicious := batch.any (suspects level)
          blocked := (namesIn level batch).any fun name => !permits level name
          unknown := (namesIn level batch).any isUnknown } ∧
      scan.severity =
        if batch.any threatens && batch.any (conceals level) then .critical
        else if batch.any threatens || batch.any (conceals level) then .high
        else if batch.any (suspects level) then .medium
        else if (namesIn level batch).any fun name => !permits level name then .low
        else .none := by
  simp only [findings_ofEntries, severity_ofEntries]
  exact ⟨rfl, trivial, distinct_declared _, disjoint_dangerous_suspicious _, signals_declared _,
    severity_declared _⟩

end Findings

end ShellVet
