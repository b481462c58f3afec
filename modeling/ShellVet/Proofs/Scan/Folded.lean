import ShellVet.Proofs.Regex.Folded
import ShellVet.Proofs.Scan.Assessed
import ShellVet.Proofs.Signature.Compiled

/-!
# Commands that differ in letter case

Signatures ignore letter case, and so does the table of categories. Two commands that differ in the
case of letters of ASCII alone are matched by the same signatures at the same places, carry the same
risk and belong to the same category, and a scan of one signals the same danger and the same
suspicion as a scan of the other.
-/

namespace ShellVet

theorem Threat.foldsCase_dangerous :
    (Threat.dangerous.all fun signature => signature.regex.foldsCase) = true := by
  decide

theorem Threat.foldsCase_suspicious :
    (Threat.suspicious.all fun signature => signature.regex.foldsCase) = true := by
  decide

namespace Signature

variable {text other : List Char} {signatures : List (Signature Threat)}

/-- What a finding says apart from the characters matched: the signature, where the match starts and
how long it is. -/
def placed {α : Type} (finding : Finding α) : α × Nat × Nat :=
  (finding.label, finding.found.start, finding.found.text.length)

theorem placed_find?_of_folded_eq {α : Type} {signature : Signature α}
    (folds : signature.regex.foldsCase = true) (same : Text.folded text = Text.folded other) :
    (find? text signature).map placed = (find? other signature).map placed := by
  have places := Regex.place_search_of_folded_eq folds same
  unfold find?
  rw [Option.map_map, Option.map_map]
  have labelled := congrArg (Option.map fun place => (signature.label, place)) places
  rw [Option.map_map, Option.map_map] at labelled
  exact labelled

/-- The same signatures match two texts that fold to one, at the same places. -/
theorem placed_scan_of_folded_eq
    (folds : (signatures.all fun signature => signature.regex.foldsCase) = true)
    (same : Text.folded text = Text.folded other) :
    (scan signatures text).map placed = (scan signatures other).map placed := by
  unfold scan
  rw [List.map_filterMap, List.map_filterMap]
  refine List.filterMap_congr fun signature known => ?_
  exact placed_find?_of_folded_eq (List.all_eq_true.mp folds signature known) same

theorem label_first?_of_folded_eq
    (folds : (signatures.all fun signature => signature.regex.foldsCase) = true)
    (same : Text.folded text = Text.folded other) :
    (first? signatures text).map (·.label) = (first? signatures other).map (·.label) := by
  have scans := congrArg List.head? (placed_scan_of_folded_eq folds same)
  rw [List.head?_map, List.head?_map, ← first?_eq_head?, ← first?_eq_head?] at scans
  have labels := congrArg (Option.map Prod.fst) scans
  rw [Option.map_map, Option.map_map] at labels
  exact labels

end Signature

namespace Findings

variable {command other : String}

theorem danger?_of_folded_eq (same : Text.folded command.toList = Text.folded other.toList) :
    Risk.danger? command = Risk.danger? other :=
  Signature.label_first?_of_folded_eq Threat.foldsCase_dangerous same

theorem suspicion?_of_folded_eq (same : Text.folded command.toList = Text.folded other.toList) :
    Risk.suspicion? command = Risk.suspicion? other :=
  Signature.label_first?_of_folded_eq Threat.foldsCase_suspicious same

theorem ofCommand?_of_folded_eq (same : Text.folded command.toList = Text.folded other.toList) :
    Category.ofCommand? command = Category.ofCommand? other := by
  have folded (name : String) := Category.ofCommand?_folded name.toList
  simp only [String.ofList_toList] at folded
  rw [← folded command, ← folded other, same]

/-- A scan trusts the first words of two commands alike. -/
theorem permits_firstWord_of_folded_eq (level : Level)
    (same : Text.folded command.toList = Text.folded other.toList) :
    permits level (firstWord command) = permits level (firstWord other) := by
  have words : Text.folded (firstWord command).toList = Text.folded (firstWord other).toList := by
    unfold firstWord
    rw [String.toList_ofList, String.toList_ofList, ← Text.firstWord_folded,
      ← Text.firstWord_folded, same]
  unfold permits
  rw [ofCommand?_of_folded_eq words]

/-- **Letter case does not matter.** Of two commands that differ in the case of letters of ASCII
alone, the same dangerous and the same suspicious signatures match, from the same place on and as
many characters. So both show the same first threats, the same risk and the same category, and under
every level the scans of the one and of the other signal the same danger and the same suspicion. -/
theorem letter_case_ignored (command other : String)
    (same : command.toList.map Char.toLower = other.toList.map Char.toLower) :
    (Signature.scan Threat.dangerous command.toList).map Signature.placed =
      (Signature.scan Threat.dangerous other.toList).map Signature.placed ∧
    (Signature.scan Threat.suspicious command.toList).map Signature.placed =
      (Signature.scan Threat.suspicious other.toList).map Signature.placed ∧
    Risk.danger? command = Risk.danger? other ∧
    Risk.suspicion? command = Risk.suspicion? other ∧
    Risk.assess command = Risk.assess other ∧
    Category.ofCommand? command = Category.ofCommand? other ∧
    ∀ level,
      let signals := (Scan.ofEntries level [.string command]).findings.signals
      let others := (Scan.ofEntries level [.string other]).findings.signals
      signals.dangerous = others.dangerous ∧ signals.suspicious = others.suspicious := by
  have danger := danger?_of_folded_eq same
  have suspicion := suspicion?_of_folded_eq same
  have threat := threatens_of_danger?_eq danger
  have startle := startles_of_suspicion?_eq suspicion
  refine ⟨Signature.placed_scan_of_folded_eq Threat.foldsCase_dangerous same,
    Signature.placed_scan_of_folded_eq Threat.foldsCase_suspicious same, danger, suspicion, ?_,
    ofCommand?_of_folded_eq same, fun level => ⟨?_, ?_⟩⟩
  · unfold Risk.assess Risk.isSuspicious
    rw [danger, suspicion]
  · rw [dangerous_single, dangerous_single, threat]
  · rw [suspicious_single, suspicious_single]
    unfold suspects
    rw [threat, startle, permits_firstWord_of_folded_eq level same]

/-- Capital letters do not hide a deletion. -/
theorem letter_case_ignored_deletion :
    "RM -rF $Home".toList.map Char.toLower = "rm -rf $HOME".toList.map Char.toLower ∧
      Risk.assess "RM -rF $Home" = Risk.assess "rm -rf $HOME" := by
  have same : "RM -rF $Home".toList.map Char.toLower = "rm -rf $HOME".toList.map Char.toLower := by
    decide
  exact ⟨same, (letter_case_ignored "RM -rF $Home" "rm -rf $HOME" same).2.2.2.2.1⟩

end Findings

end ShellVet
