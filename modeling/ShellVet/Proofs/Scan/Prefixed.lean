import ShellVet.Proofs.Regex.Shifted
import ShellVet.Proofs.Scan.Assessed

/-!
# Commands behind other commands

A command in front does not hide what follows it: every signature that matches a command also
matches where a text, a semicolon and a blank stand before it. So the longer command is no less
risky, and a scan that finds danger in the command finds danger in the longer one.
-/

namespace ShellVet

namespace Findings

/-- The command behind another one. -/
def behind (front command : String) : String :=
  front ++ "; " ++ command

theorem toList_behind (front command : String) :
    (behind front command).toList = front.toList ++ [';', ' '] ++ command.toList := by
  rw [behind, String.toList_append, String.toList_append]
  rfl

/-- A signature that matches a command matches it behind another one. -/
theorem occursIn_behind {signature : Signature Threat}
    (known : signature ∈ Threat.dangerous ++ Threat.suspicious) {command : String}
    (occurs : signature.regex.occursIn command.toList = true) (front : String) :
    signature.regex.occursIn (behind front command).toList = true := by
  rw [toList_behind]
  rcases List.mem_append.mp known with known | known
  · exact Regex.occursIn_separated
      (List.all_eq_true.mp Threat.explores_dangerous signature known)
      (List.all_eq_true.mp Threat.separates_dangerous signature known) occurs front.toList
  · exact Regex.occursIn_separated
      (List.all_eq_true.mp Threat.explores_suspicious signature known)
      (List.all_eq_true.mp Threat.separates_suspicious signature known) occurs front.toList

theorem threatens_behind {command : String} (threat : threatens command = true) (front : String) :
    threatens (behind front command) = true := by
  obtain ⟨signature, known, occurs⟩ := List.any_eq_true.mp threat
  exact List.any_eq_true.mpr
    ⟨signature, known, occursIn_behind (List.mem_append_left _ known) occurs front⟩

theorem startles_behind {command : String} (startle : startles command = true) (front : String) :
    startles (behind front command) = true := by
  obtain ⟨signature, known, occurs⟩ := List.any_eq_true.mp startle
  exact List.any_eq_true.mpr
    ⟨signature, known, occursIn_behind (List.mem_append_right _ known) occurs front⟩

/-- **No prefix hides a command.** Behind any text with a semicolon and a blank, every dangerous and
every suspicious signature that matches a command still matches. So some threat is still found, the
risk does not sink, and every level that finds danger in the command still finds it. -/
theorem prefix_hides_nothing (front command : String) :
    (∀ signature ∈ Threat.dangerous ++ Threat.suspicious,
      signature.regex.occursIn command.toList = true →
        signature.regex.occursIn (front ++ "; " ++ command).toList = true) ∧
    ((Risk.danger? command).isSome = true →
      (Risk.danger? (front ++ "; " ++ command)).isSome = true) ∧
    ((Risk.suspicion? command).isSome = true →
      (Risk.suspicion? (front ++ "; " ++ command)).isSome = true) ∧
    (Risk.assess command).rank ≤ (Risk.assess (front ++ "; " ++ command)).rank ∧
    ∀ level, (Scan.ofEntries level [.string command]).findings.signals.dangerous = true →
      (Scan.ofEntries level [.string (front ++ "; " ++ command)]).findings.signals.dangerous =
        true := by
  have danger (threat : threatens command = true) :
      threatens (front ++ "; " ++ command) = true := threatens_behind threat front
  refine ⟨fun signature known occurs => occursIn_behind known occurs front, ?_, ?_, ?_, ?_⟩
  · intro found
    exact isDangerous_eq_threatens.trans (danger (isDangerous_eq_threatens.symm.trans found))
  · intro found
    exact isSuspicious_eq_startles.trans
      (startles_behind (isSuspicious_eq_startles.symm.trans found) front)
  · exact Risk.rank_assess_mono fun signature known occurs => occursIn_behind known occurs front
  · intro level found
    rw [dangerous_single] at found ⊢
    exact danger found

/-- A backtick opened in front does not hide the deletion behind it. -/
theorem prefix_hides_no_deletion :
    (Risk.danger? "rm -rf /").isSome = true ∧
      (Risk.danger? ("echo `'" ++ "; " ++ "rm -rf /")).isSome = true := by
  have found : (Risk.danger? "rm -rf /").isSome = true := by decide
  exact ⟨found, (prefix_hides_nothing "echo `'" "rm -rf /").2.1 found⟩

end Findings

end ShellVet
