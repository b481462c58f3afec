import ShellVet.Proofs.Regex.Covered
import ShellVet.Proofs.Regex.Shifted
import ShellVet.Proofs.Scan.Assessed
import ShellVet.Proofs.Shell.Quiet

/-!
# Command substitutions are dangerous

The grammar finds the command substitutions of a text, and two signatures look for them in its
characters: a dollar right before an opening parenthesis, and two graves. Both find the same, unless
line continuations split a dollar from its parenthesis: the grammar joins the lines, and the
signature does not (`split_substitution_hidden`). A text without such a split that is read into a
tree with a substitution is dangerous under every level (`substitution_threatens`).
-/

namespace ShellVet

/-! ## The two signatures -/

/-- One character in any case. -/
def CharSet.only (c : Char) : CharSet := { items := [.char c], folding := .full }

/-- All other characters. -/
def CharSet.allBut (c : Char) : CharSet := { CharSet.only c with negated := true }

theorem CharSet.has_allBut (c d : Char) : (allBut c).has d = !(only c).has d := by
  simp [has, only, allBut]

namespace Threat

/-- A dangerous signature is a dollar before an opening parenthesis. -/
theorem exists_bracket_signature :
    ∃ signature ∈ dangerous, signature.regex = .seq (.one (.only '$')) (.one (.only '(')) := by
  have listed : (dangerous.any fun signature => decide (signature.regex =
      .seq (.one (.only '$')) (.one (.only '(')))) = true := by
    decide
  simpa using listed

/-- Another is two graves with anything between them. -/
theorem exists_graves_signature :
    ∃ signature ∈ dangerous, signature.regex = .seq (.one (.only Shell.grave))
      (.seq (.many (.one (.allBut Shell.grave))) (.one (.only Shell.grave))) := by
  have listed : (dangerous.any fun signature => decide (signature.regex =
      .seq (.one (.only Shell.grave))
        (.seq (.many (.one (.allBut Shell.grave))) (.one (.only Shell.grave))))) = true := by
    decide
  simpa using listed

end Threat

namespace Findings

open Regex

variable {command : String}

theorem threatens_of_occurs {signature : Signature Threat} (known : signature ∈ Threat.dangerous)
    (occurs : signature.regex.occursIn command.toList = true) : threatens command = true :=
  List.any_eq_true.mpr ⟨signature, known, occurs⟩

theorem threatens_of_bracket (stands : ['$', '('] <:+: command.toList) :
    threatens command = true := by
  obtain ⟨signature, known, same⟩ := Threat.exists_bracket_signature
  have dollar : (CharSet.only '$').has '$' = true := rfl
  have opener : (CharSet.only '(').has '(' = true := rfl
  refine threatens_of_occurs known ?_
  rw [same]
  exact occursIn_of_covers rfl ((covers_one dollar).seq (covers_one opener)) stands

theorem threatens_of_graves (graves : 2 ≤ command.toList.count Shell.grave) :
    threatens command = true := by
  obtain ⟨signature, known, same⟩ := Threat.exists_graves_signature
  refine threatens_of_occurs known ?_
  -- the first grave, and after it the first character that counts as one
  have opens : Shell.grave ∈ command.toList := List.count_pos_iff.mp (by omega)
  obtain ⟨front, rest, whole, apart⟩ := List.eq_append_cons_of_mem opens
  rw [whole, List.count_append, List.count_eq_zero.mpr apart, List.count_cons_self] at graves
  have isGrave : (CharSet.only Shell.grave).has Shell.grave = true := rfl
  have closes : (rest.find? (CharSet.only Shell.grave).has).isSome = true :=
    List.find?_isSome.mpr ⟨Shell.grave, List.count_pos_iff.mp (by omega), isGrave⟩
  obtain ⟨closer, found⟩ := Option.isSome_iff_exists.mp closes
  obtain ⟨isCloser, inner, back, split, others⟩ := List.find?_eq_some_iff_append.mp found
  have between : ∀ c ∈ inner, (CharSet.allBut Shell.grave).has c = true := fun c among =>
    (CharSet.has_allBut Shell.grave c).trans (others c among)
  have inside : (Regex.many (.one (.allBut Shell.grave))).Covers inner :=
    covers_loop_one between (Nat.zero_le _)
  have covers := (covers_one isGrave).seq (inside.seq (covers_one isCloser))
  rw [same]
  refine occursIn_of_covers rfl covers ⟨front, back, ?_⟩
  rw [whole, split]
  simp only [List.append_assoc, List.cons_append, List.nil_append]

/-- A text is dangerous unless it is quiet or splits a dollar from its parenthesis. -/
theorem threatens_of_not_quiet (loud : ¬Shell.Quiet command.toList)
    (unsplit : Shell.splitsMark command.toList = false) : threatens command = true := by
  by_cases marks : Shell.marksCommand command.toList = true
  · rcases Shell.infix_of_marksCommand marks with splits | stands
    · rw [unsplit] at splits
      cases splits
    · exact threatens_of_bracket stands
  · refine threatens_of_graves ?_
    by_contra few
    exact loud ⟨Bool.not_eq_true _ ▸ marks, by omega⟩

/-! ## Scans of substitutions -/

theorem isCommand_of_threatens (threat : threatens command = true) : isCommand command = true := by
  by_contra blank
  rw [not_threatens_of_blank command (Bool.not_eq_true _ ▸ blank)] at threat
  cases threat

/-- A scan of one dangerous command shows it. -/
theorem dangerous_findings_single (level : Level) (threat : threatens command = true) :
    (Scan.ofEntries level [.string command]).findings.dangerous = [command] := by
  rw [findings_single, if_pos (isCommand_of_threatens threat)]
  dsimp only [declared]
  rw [List.filter_cons_of_pos threat]
  rfl

/-- Danger and obfuscation are rated high, or critical where they come together. -/
theorem severity_of_alarm {scan : Scan}
    (found : scan.findings.signals.dangerous = true ∨ scan.findings.signals.obfuscated = true) :
    scan.severity = .high ∨ scan.severity = .critical := by
  unfold Scan.severity severity Severity.ofSignals
  rcases found with found | found
  · rw [found]
    cases scan.findings.signals.obfuscated <;> simp
  · rw [found]
    cases scan.findings.signals.dangerous <;> simp

/-- **Command substitutions are dangerous.** Where a text is read and some path in its statements
leads to a command substitution, a dangerous signature matches the text, unless line continuations
split a dollar from the parenthesis after it. So under every level a scan of the text shows it as
dangerous, with a severity that is high or critical. -/
theorem substitution_threatens (command : String) (trees : List Shell.Tree)
    (readable : Shell.readTrees command = .ok trees)
    (unsplit : Shell.splitsMark command.toList = false)
    (substitutes : ∃ tree ∈ trees, tree.substitutes = true) :
    Risk.danger? command ≠ none ∧
      ∀ level,
        let scan := Scan.ofEntries level [.string command]
        scan.findings.dangerous = [command] ∧
          (scan.severity = .high ∨ scan.severity = .critical) := by
  have threat : threatens command = true := by
    refine threatens_of_not_quiet (fun quiet => ?_) unsplit
    obtain ⟨tree, among, below⟩ := substitutes
    rw [Shell.not_substitutes_of_quiet quiet readable tree among] at below
    cases below
  refine ⟨?_, fun level => ⟨dangerous_findings_single level threat, severity_of_alarm (.inl ?_)⟩⟩
  · rw [← Option.isSome_iff_ne_none]
    exact isDangerous_eq_threatens.trans threat
  · exact (dangerous_single level command).trans threat

/-- A text that is read into trees, with a condition on them that can be computed. -/
theorem exists_trees {command : String} {condition : List Shell.Tree → Bool}
    (checked : (Shell.readTrees command).toOption.any condition = true) :
    ∃ trees, Shell.readTrees command = .ok trees ∧ condition trees = true := by
  cases read : Shell.readTrees command with
  | error error =>
    rw [read] at checked
    cases checked
  | ok trees =>
    rw [read] at checked
    exact ⟨trees, rfl, checked⟩

/-- A substitution inside another one, between quotation marks. -/
theorem substitution_threatens_nested :
    let command := "echo \"$(cat `ls`)\""
    ∃ trees, Shell.readTrees command = .ok trees ∧ Shell.splitsMark command.toList = false ∧
      (∃ tree ∈ trees, tree.substitutes = true) ∧ Risk.danger? command ≠ none ∧
      ∀ level,
        let scan := Scan.ofEntries level [.string command]
        scan.findings.dangerous = [command] ∧
          (scan.severity = .high ∨ scan.severity = .critical) := by
  intro command
  have checked : (Shell.readTrees command).toOption.any (·.any (·.substitutes)) = true := by
    decide +kernel
  obtain ⟨trees, readable, holds⟩ := exists_trees checked
  have unsplit : Shell.splitsMark command.toList = false := by decide
  have substitutes := List.any_eq_true.mp holds
  exact ⟨trees, readable, unsplit, substitutes,
    substitution_threatens command trees readable unsplit substitutes⟩

/-- A dollar that a line continuation splits from its parenthesis hides a substitution: the grammar
finds it, and no signature does. -/
theorem split_substitution_hidden :
    let command := "echo $\\\n(ls)"
    (∃ trees, Shell.readTrees command = .ok trees ∧ ∃ tree ∈ trees, tree.substitutes = true) ∧
      Risk.danger? command = none ∧
      (Scan.ofEntries .permissive [.string command]).severity = .none := by
  intro command
  have checked : (Shell.readTrees command).toOption.any (·.any (·.substitutes)) = true := by
    decide +kernel
  obtain ⟨trees, readable, holds⟩ := exists_trees checked
  refine ⟨⟨trees, readable, List.any_eq_true.mp holds⟩, ?_, ?_⟩
  · decide
  · decide

end Findings

end ShellVet
