import ShellVet.Proofs.Scan.Substituted
import ShellVet.Shell.Overview

/-!
# Markers that no context hides

A dollar before an opening parenthesis, two graves and a socket among the devices are dangerous
whatever stands around them, and so is all that looks like a substitution at a glance
(`marked_of_glance`). The separator of fields is a technique of obfuscation whatever stands around
it. So neither the rest of a command nor the other commands of a batch hide such a marker
(`markers_not_hidden`).
-/

namespace ShellVet

namespace Shell

open Regex

/-- The text holds a dollar before an opening parenthesis, two graves, or a socket among the
devices. -/
inductive Marked : String → Prop
  | bracket (front back : String) : Marked (front ++ "$(" ++ back)
  | graves (front inner back : String) : Marked (front ++ "\x60" ++ inner ++ "\x60" ++ back)
  | socket (front back : String) : Marked (front ++ "/dev/tcp/" ++ back)

/-- The text names the separator of fields as a variable, with a brace or without. -/
inductive NamesSeparator : String → Prop
  | bare (front back : String) : NamesSeparator (front ++ "$IFS" ++ back)
  | braced (front back : String) : NamesSeparator (front ++ "$\x7bIFS" ++ back)

variable {command : String}

theorem marked_of_bracket {front back : List Char}
    (whole : command.toList = front ++ ['$', '('] ++ back) : Marked command := by
  have same : command = String.ofList front ++ "$(" ++ String.ofList back := by
    rw [← String.toList_inj, whole]
    simp
  rw [same]
  exact .bracket _ _

theorem marked_of_graves {front inner back : List Char}
    (whole : command.toList = front ++ ['\x60'] ++ inner ++ ['\x60'] ++ back) : Marked command := by
  have same : command =
      String.ofList front ++ "\x60" ++ String.ofList inner ++ "\x60" ++ String.ofList back := by
    rw [← String.toList_inj, whole]
    simp
  rw [same]
  exact .graves _ _ _

/-- What looks like a substitution at a glance holds a marker. -/
theorem marked_of_glance (glance : substitution.occursIn command.toList = true) :
    Marked command := by
  have explores : substitution.explores = true := by decide
  obtain ⟨front, rest, stop, whole, way⟩ := (occursIn_iff_leads explores).mp glance
  rcases way with ⟨middle, ⟨inside, dollar, opener⟩, -⟩ |
      ⟨opened, opens, inside, ⟨count, -, -, turns⟩, closes⟩
  · have takes := (takes_of_leads_char dollar).trans (takes_of_leads_char opener)
    have whole : command.toList = front ++ ['$', '('] ++ middle.1.after := by
      rw [whole, List.append_assoc]
      exact congrArg (front ++ ·) takes.1
    exact marked_of_bracket whole
  · obtain ⟨inner, -, takes⟩ := takes_of_turns_one turns
    have takes := ((takes_of_leads_char opens).trans takes).trans (takes_of_leads_char closes)
    have whole : command.toList = front ++ ['\x60'] ++ inner ++ ['\x60'] ++ stop.1.after := by
      simp only [whole, List.append_assoc]
      refine congrArg (front ++ ·) (takes.1.trans ?_)
      simp only [List.append_assoc]
      rfl
    exact marked_of_graves whole

end Shell

namespace Findings

open Regex Phrase

variable {level : Level} {command : String} {entries : List Json}

/-! ## One command -/

/-- The signature of a socket among the devices matches wherever one is named. -/
theorem threatens_of_socket (stands : "/dev/tcp/".toList <:+: command.toList) :
    threatens command = true := by
  have known : Threat.sign "Raw socket device" .high
      [spell "/dev/", anyOf ["tcp", "udp"], spell "/"] ∈ Threat.dangerous := by
    simp [Threat.dangerous, Threat.relays]
  have protocol : (anyOf ["tcp", "udp"]).caseless.Covers "tcp".toList :=
    Covers.alt_left (covers_spell_caseless "tcp")
  have covers := (covers_spell_caseless "/dev/").seq (protocol.seq (covers_spell_caseless "/"))
  exact threatens_of_occurs known (occursIn_of_covers (by decide) covers stands)

theorem threatens_of_marked (marked : Shell.Marked command) : threatens command = true := by
  cases marked with
  | bracket front back =>
    refine threatens_of_bracket ⟨front.toList, back.toList, ?_⟩
    simp
  | graves front inner back =>
    refine threatens_of_graves ?_
    simp [Shell.grave, List.count_append]
    omega
  | socket front back =>
    refine threatens_of_socket ⟨front.toList, back.toList, ?_⟩
    rw [String.toList_append, String.toList_append]

/-- The technique of the separator is found wherever the separator is named. -/
theorem usedIn_of_namesSeparator (names : Shell.NamesSeparator command) :
    Obfuscation.Technique.fieldSeparator.usedIn command = true := by
  have bare := (covers_spell "$").seq ((covers_maybe_nil (spell "\x7b")).seq
    ((covers_spell "IFS").seq (covers_maybe_nil (spell "\x7d"))))
  have braced := (covers_spell "$").seq ((covers_spell "\x7b").maybe.seq
    ((covers_spell "IFS").seq (covers_maybe_nil (spell "\x7d"))))
  cases names with
  | bare front back =>
    refine occursIn_of_covers (by decide) bare ⟨front.toList, back.toList, ?_⟩
    rw [String.toList_append, String.toList_append]
    rfl
  | braced front back =>
    refine occursIn_of_covers (by decide) braced ⟨front.toList, back.toList, ?_⟩
    rw [String.toList_append, String.toList_append]
    rfl

/-! ## Batches -/

/-- A batch with a dangerous command is dangerous. -/
theorem dangerous_of_mem (member : Json.string command ∈ entries)
    (threat : threatens command = true) :
    (Scan.ofEntries level entries).findings.signals.dangerous = true := by
  rw [findings_ofEntries, signals_declared]
  exact List.any_eq_true.mpr ⟨command,
    List.mem_filter.mpr ⟨mem_textsOf.mpr member, isCommand_of_threatens threat⟩, threat⟩

/-- A level that blocks obfuscation lists each technique that a command of the batch uses. -/
theorem mem_techniques_of_mem (blocks : level.blocksObfuscation = true)
    (member : Json.string command ∈ entries) {technique : Obfuscation.Technique}
    (known : technique ∈ Obfuscation.techniques) (used : technique.usedIn command = true) :
    technique.name ∈ (Scan.ofEntries level entries).findings.techniques ∧
      (Scan.ofEntries level entries).findings.signals.obfuscated = true := by
  have shown : isCommand command = true := by
    rw [isCommand, Bool.not_eq_true', ← Bool.not_eq_true]
    intro blank
    rw [Obfuscation.not_usedIn_of_blank blank known] at used
    cases used
  have among : command ∈ (Scan.textsOf entries).filter isCommand :=
    List.mem_filter.mpr ⟨mem_textsOf.mpr member, shown⟩
  rw [findings_ofEntries, signals_declared]
  constructor
  · refine List.mem_eraseDups.mpr (List.mem_flatMap.mpr ⟨command, among, ?_⟩)
    rw [techniquesIn, if_pos blocks]
    exact List.mem_map.mpr ⟨technique, List.mem_filter.mpr ⟨known, used⟩, rfl⟩
  · refine List.any_eq_true.mpr ⟨command, among, ?_⟩
    rw [conceals, blocks, Bool.true_and]
    exact List.any_eq_true.mpr ⟨technique, known, used⟩

theorem techniques_permissive {batch : List String} :
    (declared .permissive batch).techniques = [] := by
  have nothing : batch.flatMap (techniquesIn .permissive) = [] :=
    List.flatMap_eq_nil_iff.mpr fun _ _ => rfl
  unfold declared
  rw [nothing]
  rfl

/-- **No context hides a marker.** Whatever else a command and its batch hold, a dollar before an
opening parenthesis, two graves or a socket among the devices make the scan high or critical under
every level, and a reader has to agree; all that looks like a substitution at a glance is marked so.
Where a command names the separator of fields, the two levels that block obfuscation list the
technique and are high or critical, and the permissive level reports no obfuscation. -/
theorem markers_not_hidden (entries : List Json) :
    (∀ command, Shell.substitution.occursIn command.toList = true → Shell.Marked command) ∧
    (∀ command, Json.string command ∈ entries → Shell.Marked command → ∀ level,
      let scan := Scan.ofEntries level entries
      (scan.severity = .high ∨ scan.severity = .critical) ∧ scan.requiresConfirmation = true) ∧
    (∀ command, Json.string command ∈ entries → Shell.NamesSeparator command →
      ∀ level ∈ [Level.strict, .standard],
        let scan := Scan.ofEntries level entries
        "IFS variable bypass" ∈ scan.findings.techniques ∧
          (scan.severity = .high ∨ scan.severity = .critical)) ∧
    let permissive := (Scan.ofEntries .permissive entries).findings
    permissive.obfuscated = [] ∧ permissive.techniques = [] ∧
      permissive.signals.obfuscated = false := by
  refine ⟨fun _ => Shell.marked_of_glance, ?_, ?_, ?_⟩
  · intro command member marked level
    have alarm : (Scan.ofEntries level entries).findings.signals.dangerous = true :=
      dangerous_of_mem member (threatens_of_marked marked)
    have rated := severity_of_alarm (.inl alarm)
    exact ⟨rated, Scan.requiresConfirmation_iff.mpr rated⟩
  · intro command member names level vets
    have blocks : level.blocksObfuscation = true := by
      rcases List.mem_pair.mp vets with rfl | rfl <;> rfl
    obtain ⟨listed, found⟩ := mem_techniques_of_mem blocks member
      (by decide) (usedIn_of_namesSeparator names)
    exact ⟨listed, severity_of_alarm (.inr found)⟩
  · simp [findings_ofEntries, signals, obfuscated_permissive, techniques_permissive]

/-- Neither an open quotation mark nor a harmless command beside it hides a text between graves, and
a word around the separator of fields does not hide it. -/
theorem markers_not_hidden_beside :
    let entries : List Json := [.string "ls", .string ("echo '" ++ "\x60" ++ "id" ++ "\x60" ++ ""),
      .string ("cat" ++ "$IFS" ++ "/etc/passwd")]
    (Scan.ofEntries .permissive entries).requiresConfirmation = true ∧
      "IFS variable bypass" ∈ (Scan.ofEntries .standard entries).findings.techniques := by
  intro entries
  obtain ⟨-, marked, named, -⟩ := markers_not_hidden entries
  exact ⟨(marked _ (.tail _ (.head _)) (.graves "echo '" "id" "") .permissive).2,
    (named _ (.tail _ (.tail _ (.head _))) (.bare "cat" "/etc/passwd") .standard (by decide)).1⟩

end Findings

end ShellVet
