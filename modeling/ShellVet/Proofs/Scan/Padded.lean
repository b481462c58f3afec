import ShellVet.Proofs.Regex.Padded
import ShellVet.Proofs.Regex.Shifted
import ShellVet.Proofs.Scan.Assessed

/-!
# Padding around a command

Padding is blanks, tabs and line ends. Around a command it gives no signature a match that the
signature does not have without it, and behind a command it takes none away. In front of a command
it takes a match away from two signatures only, which look for a scheduled task and for a sourced
script: they serve themselves of the start of the text, but not of a blank, for the start of a
command (`leading_blank_hides_schedule`). All other commands are judged the same with padding and
without (`padding_ignored`).
-/

namespace ShellVet

open Regex Phrase

/-! ## Signatures -/

namespace Threat

/-- A scheduled task at the very start of a text. -/
def openingSchedule : Regex :=
  (row [opening, spell "at", gap,
    choice [spell "now", spell "midnight", spell "noon", spell "teatime", digit]]).caseless

/-- A sourced script at the very start of a text. -/
def openingSourcing : Regex :=
  (row [opening, spell ".", gap, among (wordItem :: chars "~/.$\"'")]).caseless

theorem rigid_dangerous :
    (dangerous.flatMap fun signature => signature.regex.rigid) = [openingSchedule] := by
  decide

theorem rigid_suspicious :
    (suspicious.flatMap fun signature => signature.regex.rigid) = [openingSourcing] := by
  decide

theorem serves_dangerous :
    (dangerous.all fun signature => signature.regex.trails && signature.regex.leadsIn) = true := by
  decide

theorem serves_suspicious :
    (suspicious.all fun signature => signature.regex.trails && signature.regex.leadsIn) = true := by
  decide

end Threat

namespace Signature

/-- What is needed of signatures for padding not to matter. -/
structure SuitPadding {α : Type} (signatures : List (Signature α)) : Prop where
  explores : (signatures.all fun signature => signature.regex.explores) = true
  ink : (signatures.all fun signature => signature.regex.needsInk) = true
  serves :
    (signatures.all fun signature => signature.regex.trails && signature.regex.leadsIn) = true

theorem suitPadding_dangerous : SuitPadding Threat.dangerous :=
  ⟨Threat.explores_dangerous, Threat.needsInk_dangerous, Threat.serves_dangerous⟩

theorem suitPadding_suspicious : SuitPadding Threat.suspicious :=
  ⟨Threat.explores_suspicious, Threat.needsInk_suspicious, Threat.serves_suspicious⟩

variable {α : Type} {signatures : List (Signature α)} {signature : Signature α}
  {front text back : List Char}

theorem SuitPadding.trails_and_leadsIn (suit : SuitPadding signatures)
    (known : signature ∈ signatures) :
    signature.regex.trails = true ∧ signature.regex.leadsIn = true :=
  (Bool.and_eq_true _ _).mp (List.all_eq_true.mp suit.serves signature known)

/-- Padding gives no signature a match. -/
theorem SuitPadding.occursIn_of_padded (suit : SuitPadding signatures)
    (known : signature ∈ signatures) (padding : Text.isPadding front = true)
    (padding' : Text.isPadding back = true)
    (occurs : signature.regex.occursIn (front ++ text ++ back) = true) :
    signature.regex.occursIn text = true := by
  have explores := List.all_eq_true.mp suit.explores signature known
  obtain ⟨trails, leadsIn⟩ := suit.trails_and_leadsIn known
  rw [List.append_assoc] at occurs
  have led : signature.regex.occursIn ([] ++ (text ++ back)) = true :=
    occursIn_led explores leadsIn padding rfl (.inl rfl) occurs
  have trailed : signature.regex.occursIn (text ++ []) = true :=
    occursIn_trailed explores (List.all_eq_true.mp suit.ink signature known) trails padding' rfl led
  rwa [List.append_nil] at trailed

/-- Padding takes no match away, unless it stands before a part that asks for the start of the
text. -/
theorem SuitPadding.occursIn_padded (suit : SuitPadding signatures)
    (known : signature ∈ signatures) (padding : Text.isPadding front = true)
    (padding' : Text.isPadding back = true)
    (free : front = [] ∨ ∀ part ∈ signatures.flatMap (·.regex.rigid), part.occursIn text = false)
    (occurs : signature.regex.occursIn text = true) :
    signature.regex.occursIn (front ++ text ++ back) = true := by
  have explores := List.all_eq_true.mp suit.explores signature known
  obtain ⟨trails, leadsIn⟩ := suit.trails_and_leadsIn known
  have free' : front = [] ∨ ∀ part ∈ signature.regex.rigid, part.occursIn text = false :=
    free.imp_right fun free part among =>
      free part (List.mem_flatMap.mpr ⟨signature, known, among⟩)
  have whole : signature.regex.occursIn ([] ++ text) = true := occurs
  have led : signature.regex.occursIn (front ++ text ++ []) = true := by
    rw [List.append_nil]
    exact occursIn_led explores leadsIn rfl padding free' whole
  exact occursIn_trailed explores (List.all_eq_true.mp suit.ink signature known) trails rfl padding'
    led

/-- Where the same signatures match two texts, so does the same first one. -/
theorem label_first?_congr {other : List Char}
    (same : ∀ signature ∈ signatures,
      signature.regex.occursIn text = signature.regex.occursIn other) :
    (first? signatures text).map (·.label) = (first? signatures other).map (·.label) := by
  induction signatures with
  | nil => rfl
  | cons signature signatures ih =>
    have head := same signature List.mem_cons_self
    have tail := ih fun later among => same later (List.mem_cons_of_mem signature among)
    unfold first? at tail ⊢
    rw [List.findSome?_cons, List.findSome?_cons]
    unfold occursIn at head
    cases found : signature.regex.search text <;> cases found' : signature.regex.search other <;>
      simp_all [find?]

/-- Padding does not change which signature is the first to match, unless it stands before a part
that asks for the start of the text. -/
theorem SuitPadding.label_first?_padded (suit : SuitPadding signatures)
    (padding : Text.isPadding front = true) (padding' : Text.isPadding back = true)
    (free : front = [] ∨ ∀ part ∈ signatures.flatMap (·.regex.rigid), part.occursIn text = false) :
    (first? signatures (front ++ text ++ back)).map (·.label) =
      (first? signatures text).map (·.label) := by
  refine label_first?_congr fun signature known => ?_
  rw [Bool.eq_iff_iff]
  exact ⟨suit.occursIn_of_padded known padding padding',
    suit.occursIn_padded known padding padding' free⟩

end Signature

/-! ## First words -/

theorem Text.firstWord_padded {front text back : List Char} (padding : isPadding front = true)
    (padding' : isPadding back = true) : firstWord (front ++ text ++ back) = firstWord text := by
  have blank {side : List Char} (padding : isPadding side = true) : ∀ c ∈ side, isBlank c = true :=
    List.all_eq_true.mp (isBlankText_of_isPadding padding)
  have ends : back.takeWhile (fun c => !isBlank c) = [] := by
    cases back with
    | nil => rfl
    | cons c back => simp [blank padding' c List.mem_cons_self]
  unfold firstWord
  rw [List.append_assoc, List.dropWhile_append_of_pos (blank padding), List.dropWhile_append]
  split
  · next nothing =>
    rw [List.isEmpty_iff.mp nothing, List.dropWhile_eq_nil_iff.mpr (blank padding')]
  · rw [List.takeWhile_append]
    split
    · next whole =>
      rw [ends, List.append_nil]
      exact ((List.takeWhile_prefix _).eq_of_length whole).symm
    · rfl

namespace Findings

variable {front command back : String}

/-! ## Commands -/

/-- No signature that matches a command with padding around it fails to match it without. -/
theorem occursIn_of_padded {signature : Signature Threat}
    (known : signature ∈ Threat.dangerous ++ Threat.suspicious)
    (padding : Text.isPadding front.toList = true) (padding' : Text.isPadding back.toList = true)
    (occurs : signature.regex.occursIn (front ++ command ++ back).toList = true) :
    signature.regex.occursIn command.toList = true := by
  rw [String.toList_append, String.toList_append] at occurs
  rcases List.mem_append.mp known with known | known
  · exact Signature.suitPadding_dangerous.occursIn_of_padded known padding padding' occurs
  · exact Signature.suitPadding_suspicious.occursIn_of_padded known padding padding' occurs

theorem danger?_padded (padding : Text.isPadding front.toList = true)
    (padding' : Text.isPadding back.toList = true)
    (free : front = "" ∨ Threat.openingSchedule.occursIn command.toList = false) :
    Risk.danger? (front ++ command ++ back) = Risk.danger? command := by
  unfold Risk.danger?
  rw [String.toList_append, String.toList_append]
  refine Signature.suitPadding_dangerous.label_first?_padded padding padding' ?_
  rw [Threat.rigid_dangerous, List.forall_mem_singleton]
  exact free.imp_left fun nothing => by rw [nothing]; rfl

theorem suspicion?_padded (padding : Text.isPadding front.toList = true)
    (padding' : Text.isPadding back.toList = true)
    (free : front = "" ∨ Threat.openingSourcing.occursIn command.toList = false) :
    Risk.suspicion? (front ++ command ++ back) = Risk.suspicion? command := by
  unfold Risk.suspicion?
  rw [String.toList_append, String.toList_append]
  refine Signature.suitPadding_suspicious.label_first?_padded padding padding' ?_
  rw [Threat.rigid_suspicious, List.forall_mem_singleton]
  exact free.imp_left fun nothing => by rw [nothing]; rfl

theorem firstWord_padded (padding : Text.isPadding front.toList = true)
    (padding' : Text.isPadding back.toList = true) :
    firstWord (front ++ command ++ back) = firstWord command := by
  unfold firstWord
  rw [String.toList_append, String.toList_append, Text.firstWord_padded padding padding']

/-- **Padding around a command does not change the verdict.** What a signature matches with padding
around it, it matches without. Behind padding a command shows the same first dangerous threat,
unless it starts with a scheduled task, and the same first suspicious one, unless it starts with a
sourced script. Under every level the scans of the command with padding and without then agree on
danger and on suspicion. -/
theorem padding_ignored (front command back : String)
    (padding : Text.isPadding front.toList = true) (padding' : Text.isPadding back.toList = true) :
    let padded := front ++ command ++ back
    let dangerFree := front = "" ∨ Threat.openingSchedule.occursIn command.toList = false
    let suspicionFree := front = "" ∨ Threat.openingSourcing.occursIn command.toList = false
    (∀ signature ∈ Threat.dangerous ++ Threat.suspicious,
      signature.regex.occursIn padded.toList = true →
        signature.regex.occursIn command.toList = true) ∧
    (dangerFree → Risk.danger? padded = Risk.danger? command) ∧
    (suspicionFree → Risk.suspicion? padded = Risk.suspicion? command) ∧
    ∀ level,
      let signals := (Scan.ofEntries level [.string padded]).findings.signals
      let others := (Scan.ofEntries level [.string command]).findings.signals
      (signals.dangerous = true → others.dangerous = true) ∧
      (dangerFree → signals.dangerous = others.dangerous) ∧
      (dangerFree → suspicionFree → signals.suspicious = others.suspicious) := by
  intro padded dangerFree suspicionFree
  have threat (free : dangerFree) : threatens padded = threatens command :=
    threatens_of_danger?_eq (danger?_padded padding padding' free)
  have startle (free : suspicionFree) : startles padded = startles command :=
    startles_of_suspicion?_eq (suspicion?_padded padding padding' free)
  refine ⟨fun _ known => occursIn_of_padded known padding padding', danger?_padded padding padding',
    suspicion?_padded padding padding', fun level => ⟨?_, ?_, ?_⟩⟩
  · rw [dangerous_single, dangerous_single]
    intro found
    obtain ⟨signature, known, occurs⟩ := List.any_eq_true.mp found
    exact List.any_eq_true.mpr ⟨signature, known,
      occursIn_of_padded (List.mem_append_left _ known) padding padding' occurs⟩
  · intro free
    rw [dangerous_single, dangerous_single, threat free]
  · intro free free'
    rw [suspicious_single, suspicious_single]
    unfold suspects
    rw [threat free, startle free', firstWord_padded padding padding']

/-- Neither a tab nor a line end hides who runs a command. -/
theorem padding_ignored_privileges :
    Text.isPadding "\t ".toList = true ∧ Text.isPadding "\n".toList = true ∧
      Threat.openingSourcing.occursIn "sudo su".toList = false ∧
      Risk.suspicion? ("\t " ++ "sudo su" ++ "\n") = Risk.suspicion? "sudo su" := by
  have padding : Text.isPadding "\t ".toList = true := by decide
  have padding' : Text.isPadding "\n".toList = true := by decide
  have free : Threat.openingSourcing.occursIn "sudo su".toList = false := by decide
  exact ⟨padding, padding', free,
    (padding_ignored "\t " "sudo su" "\n" padding padding').2.2.1 (.inr free)⟩

/-- A task that is scheduled at the start of a text is not seen behind a blank, and neither is a
script that is sourced there. -/
theorem leading_blank_hides_schedule :
    (Risk.danger? "at now").isSome = true ∧ Risk.danger? (" " ++ "at now" ++ "") = none ∧
      (Risk.suspicion? ". ~/x").isSome = true ∧ Risk.suspicion? (" " ++ ". ~/x" ++ "") = none := by
  decide

end Findings

end ShellVet
