import ShellVet.Proofs.Scan.Clean

/-!
# The risk of a command and its signatures

Dangerous signatures are tried in falling order of severity, and all of them are graver than the
suspicious ones. So the risk of a command is no less than the severity of any signature that matches
(`rank_le_assess`), and it is the severity of one of them unless it is low (`assess_cases`). A scan
of one command signals what its signatures say of it, and so agrees with its risk
(`assess_eq_highest`).
-/

namespace ShellVet

namespace Risk

variable {command : String} {signature : Signature Threat}

/-- A later dangerous signature is no graver than an earlier one. -/
theorem dangerous_sorted :
    Threat.dangerous.Pairwise fun earlier later =>
      later.label.severity.rank ≤ earlier.label.severity.rank := by
  decide

theorem severity_of_mem_dangerous (known : signature ∈ Threat.dangerous) :
    signature.label.severity = .high ∨ signature.label.severity = .critical := by
  have grave : (Threat.dangerous.all fun signature =>
      decide (signature.label.severity = .high ∨ signature.label.severity = .critical)) = true := by
    decide
  exact of_decide_eq_true (List.all_eq_true.mp grave signature known)

theorem medium_le_of_mem_dangerous (known : signature ∈ Threat.dangerous) :
    Severity.medium.rank ≤ signature.label.severity.rank := by
  rcases severity_of_mem_dangerous known with high | critical
  · rw [high]
    decide
  · rw [critical]
    decide

theorem severity_of_mem_suspicious (known : signature ∈ Threat.suspicious) :
    signature.label.severity = .medium := by
  have medium : (Threat.suspicious.all fun signature =>
      decide (signature.label.severity = .medium)) = true := by
    decide
  exact of_decide_eq_true (List.all_eq_true.mp medium signature known)

/-- No signature is less grave than the suspicious ones. -/
theorem medium_le_of_mem (known : signature ∈ Threat.dangerous ++ Threat.suspicious) :
    Severity.medium.rank ≤ signature.label.severity.rank := by
  rcases List.mem_append.mp known with dangerous | suspicious
  · exact medium_le_of_mem_dangerous dangerous
  · rw [severity_of_mem_suspicious suspicious]

theorem find?_isSome {α : Type} (text : List Char) (signature : Signature α) :
    (Signature.find? text signature).isSome = signature.regex.occursIn text := by
  rw [Signature.find?, Option.isSome_map, Regex.occursIn]

theorem find?_eq_none_iff {α : Type} {text : List Char} {signature : Signature α} :
    Signature.find? text signature = none ↔ signature.regex.occursIn text = false := by
  rw [← find?_isSome, Option.isSome_eq_false_iff, Option.isNone_iff_eq_none]

/-- The first dangerous threat is that of a signature that matches, and none before it does. -/
theorem exists_of_danger? {threat : Threat} (first : danger? command = some threat) :
    ∃ before signature after, Threat.dangerous = before ++ signature :: after ∧
      signature.label = threat ∧ signature.regex.occursIn command.toList = true ∧
      ∀ earlier ∈ before, earlier.regex.occursIn command.toList = false := by
  obtain ⟨finding, first, named⟩ := Option.map_eq_some_iff.mp first
  obtain ⟨before, signature, after, split, found, missed⟩ := List.findSome?_eq_some_iff.mp first
  refine ⟨before, signature, after, split, ?_, ?_, fun earlier member =>
    find?_eq_none_iff.mp (missed earlier member)⟩
  · obtain ⟨_, -, same⟩ := Option.map_eq_some_iff.mp found
    rw [← named, ← same]
  · rw [← find?_isSome, found]
    rfl

theorem danger?_eq_none_iff :
    danger? command = none ↔
      ∀ signature ∈ Threat.dangerous, signature.regex.occursIn command.toList = false := by
  rw [danger?, Option.map_eq_none_iff, Signature.first?, List.findSome?_eq_none_iff]
  simp only [find?_eq_none_iff]

theorem isSuspicious_iff :
    isSuspicious command = true ↔
      ∃ signature ∈ Threat.suspicious, signature.regex.occursIn command.toList = true := by
  rw [Findings.isSuspicious_eq_startles, Findings.startles, List.any_eq_true]

/-- The risk is low, or the severity of a signature that matches. -/
theorem assess_cases (command : String) :
    assess command = .low ∨
      ∃ signature ∈ Threat.dangerous ++ Threat.suspicious,
        signature.regex.occursIn command.toList = true ∧
          assess command = signature.label.severity := by
  unfold assess
  split
  case h_1 threat first =>
    obtain ⟨before, signature, after, split, rfl, occurs, -⟩ := exists_of_danger? first
    refine .inr ⟨signature, List.mem_append_left _ ?_, occurs, rfl⟩
    rw [split]
    exact List.mem_append_right _ List.mem_cons_self
  case h_2 =>
    split
    case isTrue suspicious =>
      obtain ⟨signature, known, occurs⟩ := isSuspicious_iff.mp suspicious
      exact .inr ⟨signature, List.mem_append_right _ known, occurs,
        (severity_of_mem_suspicious known).symm⟩
    case isFalse => exact .inl rfl

theorem rank_le_assess_of_dangerous (known : signature ∈ Threat.dangerous)
    (occurs : signature.regex.occursIn command.toList = true) :
    signature.label.severity.rank ≤ (assess command).rank := by
  unfold assess
  split
  case h_1 threat first =>
    obtain ⟨before, found, after, split, rfl, -, missed⟩ := exists_of_danger? first
    have sorted := dangerous_sorted
    rw [split] at known sorted
    rcases List.mem_append.mp known with earlier | later
    · rw [missed signature earlier] at occurs
      cases occurs
    · rcases List.mem_cons.mp later with rfl | later
      · exact Nat.le_refl _
      · exact List.rel_of_pairwise_cons (List.pairwise_append.mp sorted).2.1 later
  case h_2 missed =>
    rw [danger?_eq_none_iff.mp missed signature known] at occurs
    cases occurs

/-- A command is no less risky than any signature that matches. -/
theorem rank_le_assess (known : signature ∈ Threat.dangerous ++ Threat.suspicious)
    (occurs : signature.regex.occursIn command.toList = true) :
    signature.label.severity.rank ≤ (assess command).rank := by
  rcases List.mem_append.mp known with known | known
  · exact rank_le_assess_of_dangerous known occurs
  · rw [severity_of_mem_suspicious known]
    unfold assess
    split
    case h_1 threat first =>
      obtain ⟨before, found, after, split, rfl, -, -⟩ := exists_of_danger? first
      refine medium_le_of_mem_dangerous ?_
      rw [split]
      exact List.mem_append_right _ List.mem_cons_self
    case h_2 =>
      rw [if_pos (isSuspicious_iff.mpr ⟨signature, known, occurs⟩)]

theorem low_le_assess (command : String) : Severity.low.rank ≤ (assess command).rank := by
  have low_le_medium : Severity.low.rank ≤ Severity.medium.rank := by decide
  rcases assess_cases command with low | ⟨signature, known, -, same⟩
  · rw [low]
  · rw [same]
    exact Nat.le_trans low_le_medium (medium_le_of_mem known)

/-- A command that keeps all matches of another is no less risky. -/
theorem rank_assess_mono {longer : String}
    (keeps : ∀ signature ∈ Threat.dangerous ++ Threat.suspicious,
      signature.regex.occursIn command.toList = true →
        signature.regex.occursIn longer.toList = true) :
    (assess command).rank ≤ (assess longer).rank := by
  rcases assess_cases command with low | ⟨signature, known, occurs, same⟩
  · rw [low]
    exact low_le_assess longer
  · rw [same]
    exact rank_le_assess known (keeps signature known occurs)

end Risk

namespace Findings

/-! ## Scans of one command -/

variable (level : Level) (command : String)

theorem findings_single :
    (Scan.ofEntries level [.string command]).findings =
      declared level (if isCommand command then [command] else []) := by
  rw [findings_ofEntries, ← Bool.cond_eq_ite, ← List.filter_singleton]
  rfl

theorem not_threatens_of_blank (blank : isCommand command = false) : threatens command = false := by
  rw [isCommand, Bool.not_eq_false'] at blank
  exact threatens_eq_false_iff.mpr fun signature known =>
    Regex.not_occursIn_of_needsInk (List.all_eq_true.mp Threat.needsInk_dangerous signature known)
      blank

theorem not_startles_of_blank (blank : isCommand command = false) : startles command = false := by
  rw [isCommand, Bool.not_eq_false'] at blank
  exact List.any_eq_false.mpr fun signature known => Bool.not_eq_true _ ▸
    Regex.not_occursIn_of_needsInk (List.all_eq_true.mp Threat.needsInk_suspicious signature known)
      blank

/-- A scan of one command finds danger where a dangerous signature matches it. -/
theorem dangerous_single :
    (Scan.ofEntries level [.string command]).findings.signals.dangerous = threatens command := by
  rw [findings_single, signals_declared]
  split
  case isTrue => exact Bool.or_false _
  case isFalse blank =>
    rw [not_threatens_of_blank command (Bool.not_eq_true _ ▸ blank)]
    rfl

/-- A scan of one command suspects it where a suspicious signature counts. -/
theorem suspicious_single :
    (Scan.ofEntries level [.string command]).findings.signals.suspicious =
      suspects level command := by
  rw [findings_single, signals_declared]
  split
  case isTrue => exact Bool.or_false _
  case isFalse blank =>
    unfold suspects
    rw [not_startles_of_blank command (Bool.not_eq_true _ ▸ blank), Bool.and_false, Bool.false_and]
    rfl

end Findings

namespace Risk

open Findings

/-! ## The risk and the scan -/

variable {command : String}

theorem assess_of_threatens (threat : threatens command = true) :
    assess command = .high ∨ assess command = .critical := by
  have dangerous : isDangerous command = true := isDangerous_eq_threatens.trans threat
  obtain ⟨threat, first⟩ := Option.isSome_iff_exists.mp dangerous
  obtain ⟨before, signature, after, split, rfl, -, -⟩ := exists_of_danger? first
  have known : signature ∈ Threat.dangerous := by
    rw [split]
    exact List.mem_append_right _ List.mem_cons_self
  have rated : assess command = signature.label.severity := by
    rw [assess, first]
  rw [rated]
  exact severity_of_mem_dangerous known

theorem assess_of_not_threatens (safe : threatens command = false) :
    assess command = if startles command then .medium else .low := by
  have missed : danger? command = none :=
    danger?_eq_none_iff.mpr (threatens_eq_false_iff.mp safe)
  rw [assess, missed, isSuspicious_eq_startles]

/-- The strict level suspects whatever startles and is not dangerous. -/
theorem suspects_strict (command : String) :
    suspects .strict command = (!threatens command && startles command) := by
  rw [suspects, beq_self_eq_true, Bool.true_or, Bool.and_true]

/-- The signatures that match a command, the dangerous ones first. -/
def matching (command : String) : List (Signature Threat) :=
  (Threat.dangerous ++ Threat.suspicious).filter fun signature =>
    signature.regex.occursIn command.toList

/-- **The first match never underrates.** The risk of a command is the highest severity of all
signatures that match it, and low where none does. A scan of the command alone agrees: under every
level it finds danger where the risk is high or critical; the strict level suspects the command
where the risk is medium, and finds neither where it is low. -/
theorem assess_eq_highest (command : String) :
    (matching command = [] → assess command = .low) ∧
    (matching command ≠ [] →
      (∃ signature ∈ matching command, signature.label.severity = assess command) ∧
        ∀ signature ∈ matching command,
          signature.label.severity.rank ≤ (assess command).rank) ∧
    (∀ level, (assess command = .high ∨ assess command = .critical) ↔
      (Scan.ofEntries level [.string command]).findings.signals.dangerous = true) ∧
    let strict := (Scan.ofEntries .strict [.string command]).findings.signals
    (assess command = .medium ↔ strict.suspicious = true) ∧
      (assess command = .low ↔ strict.dangerous = false ∧ strict.suspicious = false) := by
  have bound : ∀ signature ∈ matching command,
      signature.label.severity.rank ≤ (assess command).rank := by
    intro signature member
    obtain ⟨known, occurs⟩ := List.mem_filter.mp member
    exact rank_le_assess known occurs
  simp only [dangerous_single, suspicious_single, suspects_strict]
  refine ⟨fun none => ?_, fun some => ⟨?_, bound⟩, ?_⟩
  · rcases assess_cases command with low | ⟨signature, known, occurs, -⟩
    · exact low
    · exact absurd occurs (List.filter_eq_nil_iff.mp none signature known)
  · rcases assess_cases command with low | ⟨signature, known, occurs, rated⟩
    · -- every signature that matches is graver than low
      obtain ⟨signature, member⟩ := List.exists_mem_of_ne_nil _ some
      have grave := medium_le_of_mem (List.mem_filter.mp member).1
      have atMost := bound signature member
      rw [low] at atMost
      exact absurd (Nat.le_trans grave atMost) (by decide)
    · exact ⟨signature, List.mem_filter.mpr ⟨known, occurs⟩, rated.symm⟩
  · cases threat : threatens command with
    | true =>
      rcases assess_of_threatens threat with high | critical
      · simp [high]
      · simp [critical]
    | false =>
      rw [assess_of_not_threatens threat]
      cases startles command <;> simp

end Risk

end ShellVet
