import ShellVet.Proofs.Regex.Continued
import ShellVet.Proofs.Regex.Shifted
import ShellVet.Proofs.Scan.Assessed

/-!
# Line continuations in a command

The shell joins the lines of a command, and the signatures look at its text as it stands. A
signature that takes white space between two words takes no backslash there, so a continuation
between the words hides them (`split_deletion_hidden`). A continuation hides no more than that: what
a dangerous signature matches on one side of it is left, and so is all that a steady signature
matches (`continuation_beside_harmless`).
-/

namespace ShellVet

open Regex

/-! ## Signatures -/

namespace Threat

theorem looksNear_dangerous :
    (dangerous.all fun signature => signature.regex.looksNear) = true := by
  decide

/-- The dangerous signatures that no continuation behind a blank hides. -/
theorem steady_dangerous :
    (dangerous.filter fun signature => signature.regex.steady).map (·.label.name) =
      ["Root preservation disabled", "Raw disk write", "Filesystem format", "Command substitution",
        "Backtick substitution", "Eval/exec", "Encoded string", "Network relay",
        "Raw socket device", "Scheduled task"] := by
  decide

end Threat

namespace Findings

/-! ## Commands -/

theorem toList_joined (before after : String) :
    (before ++ " " ++ after).toList = Text.joined before.toList after.toList := by
  simp [Text.joined]

theorem toList_continued (before after : String) :
    (before ++ " \\\n" ++ after).toList = Text.continued before.toList after.toList := by
  simp [Text.continued]

/-- **A continuation hides only what it splits.** Put behind a blank of a command, it leaves each
match of a dangerous signature that ends before the blank or starts behind it, and every match of a
steady signature. Where there is such a match, a dangerous threat is found in the continued text,
and under every level its scan finds danger. -/
theorem continuation_beside_harmless (before after : String) :
    let command := before ++ " " ++ after
    let continued := before ++ " \\\n" ++ after
    (∀ signature ∈ Threat.dangerous, signature.regex.occursIn command.toList = true →
      ∃ first last, signature.regex.Stretch command.toList first last) ∧
    ∀ signature ∈ Threat.dangerous, ∀ first last,
      signature.regex.Stretch command.toList first last →
      (last ≤ before.toList.length ∨ before.toList.length < first ∨
        signature.regex.steady = true) →
      signature.regex.occursIn continued.toList = true ∧
        (Risk.danger? continued).isSome = true ∧
        ∀ level, (Scan.ofEntries level [.string continued]).findings.signals.dangerous = true := by
  intro command continued
  have explores := List.all_eq_true.mp Threat.explores_dangerous
  refine ⟨fun signature known => exists_stretch (explores signature known), ?_⟩
  intro signature known first last stretch beside
  have near := List.all_eq_true.mp Threat.looksNear_dangerous signature known
  have occurs : signature.regex.occursIn continued.toList = true := by
    rw [toList_continued]
    rw [toList_joined] at stretch
    exact occursIn_continued (explores signature known) near ⟨first, last, stretch, beside⟩
  have threat : threatens continued = true := List.any_eq_true.mpr ⟨signature, known, occurs⟩
  exact ⟨occurs, isDangerous_eq_threatens.trans threat, fun level => by
    rw [dangerous_single, threat]⟩

/-- A continuation before a substitution does not hide it. -/
theorem continuation_beside_harmless_substitution :
    (Threat.dangerous.any fun signature => signature.regex.steady &&
      signature.regex.occursIn ("echo" ++ " " ++ "$(id)").toList) = true ∧
      (Risk.danger? ("echo" ++ " \\\n" ++ "$(id)")).isSome = true := by
  have found : (Threat.dangerous.any fun signature => signature.regex.steady &&
      signature.regex.occursIn ("echo" ++ " " ++ "$(id)").toList) = true := by
    decide
  obtain ⟨signature, known, holds⟩ := List.any_eq_true.mp found
  rw [Bool.and_eq_true] at holds
  obtain ⟨stretches, spared⟩ := continuation_beside_harmless "echo" "$(id)"
  obtain ⟨first, last, stretch⟩ := stretches signature known holds.2
  exact ⟨found, (spared signature known first last stretch (.inr (.inr holds.1))).2.1⟩

/-- A deletion whose flags are on the next line is not seen, although the shell runs the same. -/
theorem split_deletion_hidden :
    (Risk.danger? "rm -rf /").isSome = true ∧ Risk.danger? "rm \\\n-rf /" = none ∧
      Shell.invocationsOf "rm \\\n-rf /" = Shell.invocationsOf "rm -rf /" := by
  decide +kernel

end Findings

end ShellVet
