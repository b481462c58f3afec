import Mathlib.Data.List.Perm.Basic
import ShellVet.Proofs.Scan.Levels

/-!
# Batches compose

The findings of two batches in a row are the findings of each, joined: `join` puts behind every list
of the first what only the second has, and never looks at a command (`declared_append`). Signals and
rating follow from it. As every list of findings is a list without repetition, entries that the scan
passes over, entries that come again and the order of the batch leave all but the order of the lists
as it is (`scans_compose`).
-/

namespace ShellVet

namespace Severity

/-- The signals that one of two has. -/
def Signals.either (signals more : Signals) : Signals where
  dangerous := signals.dangerous || more.dangerous
  obfuscated := signals.obfuscated || more.obfuscated
  suspicious := signals.suspicious || more.suspicious
  blocked := signals.blocked || more.blocked
  unknown := signals.unknown || more.unknown

variable {signals more : Signals}

theorem Signals.within_either_left : signals.Within (signals.either more) := by
  constructor <;> exact fun signal => Bool.or_eq_true_iff.mpr (Or.inl signal)

theorem Signals.within_either_right : more.Within (signals.either more) := by
  constructor <;> exact fun signal => Bool.or_eq_true_iff.mpr (Or.inr signal)

/-- Two ratings together are at least the higher one. -/
theorem max_rank_le_either :
    max (ofSignals signals).rank (ofSignals more).rank ≤ (ofSignals (signals.either more)).rank :=
  Nat.max_le.mpr ⟨rank_ofSignals_mono Signals.within_either_left,
    rank_ofSignals_mono Signals.within_either_right⟩

theorem ofSignals_eq_critical_iff :
    ofSignals signals = .critical ↔ signals.dangerous = true ∧ signals.obfuscated = true := by
  unfold ofSignals
  cases signals.dangerous <;> cases signals.obfuscated <;> cases signals.suspicious <;>
    cases signals.blocked <;> cases signals.unknown <;> decide

end Severity

namespace Findings

/-! ## Two batches in a row -/

/-- A list, and behind it what only a second one has. -/
def thenNew (items more : List String) : List String :=
  items ++ more.filter fun value => !items.contains value

/-- The findings of one batch with those of a later one. -/
def join (findings more : Findings) : Findings where
  dangerous := thenNew findings.dangerous more.dangerous
  suspicious := thenNew findings.suspicious more.suspicious
  obfuscated := thenNew findings.obfuscated more.obfuscated
  techniques := thenNew findings.techniques more.techniques
  invocations := findings.invocations ++ more.invocations
  blocked := thenNew findings.blocked more.blocked
  unknown := thenNew findings.unknown more.unknown
  unread := findings.unread || more.unread

variable {level : Level} {findings more : Findings} {items values : List String}

theorem insertAll_eq_thenNew : insertAll items values = thenNew items values.eraseDups := by
  have chosen : values.removeAll items = values.filter fun value => !items.contains value := rfl
  rw [insertAll_eq_append_eraseDups, chosen, eraseDups_filter, thenNew]

/-- Adding a batch to earlier findings joins its own findings to them. -/
theorem extend_eq_join (batch : List String) :
    extend level findings batch = findings.join (declared level batch) := by
  unfold extend join declared
  simp only [insertAll_eq_thenNew, ← eraseDups_filter, filter_isUnknown_refused]

theorem declared_append (batch later : List String) :
    declared level (batch ++ later) = (declared level batch).join (declared level later) := by
  rw [← extend_eq_join, ← extend_empty_eq_declared batch, extend_extend, extend_empty_eq_declared]

theorem isEmpty_thenNew :
    (!(thenNew items values).isEmpty) = (!items.isEmpty || !values.isEmpty) := by
  cases items with
  | nil => simp [thenNew]
  | cons value items => rfl

theorem signals_join : (findings.join more).signals = findings.signals.either more.signals := by
  unfold signals Severity.Signals.either join
  simp only [isEmpty_thenNew]

/-! ## Entries that are passed over -/

/-- Whether a scan looks at an entry: it is a text, and not a blank one. -/
def isSpoken : Json → Bool
  | .string text => isCommand text
  | _ => false

theorem textsOf_append (entries later : List Json) :
    Scan.textsOf (entries ++ later) = Scan.textsOf entries ++ Scan.textsOf later :=
  List.filterMap_append

/-- The commands of a batch of entries. -/
def commandsOf (entries : List Json) : List String :=
  (Scan.textsOf entries).filter isCommand

theorem commandsOf_append (entries later : List Json) :
    commandsOf (entries ++ later) = commandsOf entries ++ commandsOf later := by
  rw [commandsOf, textsOf_append, List.filter_append, commandsOf, commandsOf]

theorem commandsOf_cons (entry : Json) (entries : List Json) :
    commandsOf (entry :: entries) = commandsOf [entry] ++ commandsOf entries :=
  commandsOf_append [entry] entries

theorem commandsOf_filter (entries : List Json) :
    commandsOf (entries.filter isSpoken) = commandsOf entries := by
  induction entries with
  | nil => rfl
  | cons entry entries ih =>
    rw [List.filter_cons, commandsOf_cons entry entries]
    cases spoken : isSpoken entry with
    | true => rw [if_pos rfl, commandsOf_cons, ih]
    | false =>
      have silent : commandsOf [entry] = [] := by
        cases entry with
        | string text => simpa [commandsOf, Scan.textsOf, isSpoken] using spoken
        | _ => rfl
      rw [if_neg Bool.false_ne_true, ih, silent, List.nil_append]

theorem ofEntries_eq (level : Level) (entries : List Json) :
    Scan.ofEntries level entries = ⟨level, declared level (commandsOf entries)⟩ := by
  rw [commandsOf, ← findings_ofEntries]
  rfl

/-- A scan sees only the entries that are texts and not blank. -/
theorem ofEntries_congr {entries others : List Json}
    (same : entries.filter isSpoken = others.filter isSpoken) :
    Scan.ofEntries level entries = Scan.ofEntries level others := by
  rw [ofEntries_eq, ofEntries_eq, ← commandsOf_filter entries, same, commandsOf_filter]

/-! ## Entries that come again -/

theorem insertAll_eq_self (present : ∀ value ∈ values, value ∈ items) :
    insertAll items values = items := by
  have nothing : values.removeAll items = [] := by
    simpa [List.removeAll] using present
  rw [insertAll_eq_append_eraseDups, nothing, List.eraseDups_nil, List.append_nil]

/-- Values that were listed before may be left out. -/
theorem eraseDups_append_append {before again after : List String}
    (present : ∀ value ∈ again, value ∈ before) :
    (before ++ (again ++ after)).eraseDups = (before ++ after).eraseDups := by
  have kept : insertAll before.eraseDups again = before.eraseDups :=
    insertAll_eq_self fun value member => List.mem_eraseDups.mpr (present value member)
  rw [← insertAll_nil, ← insertAll_nil, insertAll_append, insertAll_append, insertAll_append,
    insertAll_nil, kept]

/-- Commands that were scanned before add nothing but what they invoke. -/
theorem declared_append_append {before again after : List String}
    (present : ∀ command ∈ again, command ∈ before) :
    declared level (before ++ (again ++ after)) =
      { declared level (before ++ after) with
        invocations := (declared level (before ++ (again ++ after))).invocations } := by
  have chosen (keep : String → Bool) :
      ((before ++ (again ++ after)).filter keep).eraseDups =
        ((before ++ after).filter keep).eraseDups := by
    simp only [List.filter_append]
    refine eraseDups_append_append fun command member => ?_
    obtain ⟨member, kept⟩ := List.mem_filter.mp member
    exact List.mem_filter.mpr ⟨present command member, kept⟩
  have listed (parts : String → List String) :
      ((before ++ (again ++ after)).flatMap parts).eraseDups =
        ((before ++ after).flatMap parts).eraseDups := by
    simp only [List.flatMap_append]
    refine eraseDups_append_append fun value member => ?_
    obtain ⟨command, member, part⟩ := List.mem_flatMap.mp member
    exact List.mem_flatMap.mpr ⟨command, present command member, part⟩
  have refused :
      ((namesIn level (before ++ (again ++ after))).filter
          fun name => !permits level name).eraseDups =
        ((namesIn level (before ++ after)).filter fun name => !permits level name).eraseDups := by
    simp only [namesIn, List.map_flatMap, List.filter_flatMap]
    exact listed _
  have unread :
      (before ++ (again ++ after)).any (misread level) = (before ++ after).any (misread level) := by
    rw [Bool.eq_iff_iff]
    simp only [List.any_eq_true, List.mem_append]
    constructor
    · rintro ⟨command, member | member | member, unread⟩
      · exact ⟨command, Or.inl member, unread⟩
      · exact ⟨command, Or.inl (present command member), unread⟩
      · exact ⟨command, Or.inr member, unread⟩
    · rintro ⟨command, member | member, unread⟩
      · exact ⟨command, Or.inl member, unread⟩
      · exact ⟨command, Or.inr (Or.inr member), unread⟩
  simp only [declared, chosen, listed, refused, unread]

/-- An entry that comes again adds only to what is invoked. -/
theorem findings_ofEntries_again (before middle after : List Json) (entry : Json) :
    let again := Scan.ofEntries level (before ++ entry :: (middle ++ entry :: after))
    again.findings =
      { (Scan.ofEntries level (before ++ entry :: (middle ++ after))).findings with
        invocations := again.findings.invocations } := by
  have twice : before ++ entry :: (middle ++ entry :: after) =
      (before ++ entry :: middle) ++ ([entry] ++ after) := by
    simp
  have once : before ++ entry :: (middle ++ after) = (before ++ entry :: middle) ++ after := by
    simp
  have present : ∀ command ∈ commandsOf [entry],
      command ∈ commandsOf (before ++ entry :: middle) := by
    intro command member
    rw [commandsOf_append, commandsOf_cons entry]
    exact List.mem_append_right _ (List.mem_append_left _ member)
  intro again
  simp only [again, ofEntries_eq]
  rw [twice, once, commandsOf_append _ ([entry] ++ after), commandsOf_append [entry],
    commandsOf_append _ after]
  exact declared_append_append present

/-! ## The order of a batch -/

/-- The same findings in another order. -/
structure Reordered (findings others : Findings) : Prop where
  dangerous : findings.dangerous.Perm others.dangerous
  suspicious : findings.suspicious.Perm others.suspicious
  obfuscated : findings.obfuscated.Perm others.obfuscated
  techniques : findings.techniques.Perm others.techniques
  invocations : findings.invocations.Perm others.invocations
  blocked : findings.blocked.Perm others.blocked
  unknown : findings.unknown.Perm others.unknown
  unread : findings.unread = others.unread

theorem perm_eraseDups {others : List String} (perm : values.Perm others) :
    values.eraseDups.Perm others.eraseDups := by
  rw [List.perm_ext_iff_of_nodup nodup_eraseDups nodup_eraseDups]
  intro value
  rw [List.mem_eraseDups, List.mem_eraseDups]
  exact perm.mem_iff

theorem reordered_declared {batch others : List String} (perm : batch.Perm others) :
    (declared level batch).Reordered (declared level others) := by
  have names : (namesIn level batch).Perm (namesIn level others) := (perm.flatMap_right _).map _
  have refused := perm_eraseDups (names.filter fun name => !permits level name)
  exact
    { dangerous := perm_eraseDups (perm.filter _)
      suspicious := perm_eraseDups (perm.filter _)
      obfuscated := perm_eraseDups (perm.filter _)
      techniques := perm_eraseDups (perm.flatMap_right _)
      invocations := perm.flatMap_right _
      blocked := refused
      unknown := refused.filter _
      unread := perm.any_eq }

theorem Reordered.signals (reordered : findings.Reordered more) :
    findings.signals = more.signals := by
  have empty {values others : List String} (perm : values.Perm others) :
      values.isEmpty = others.isEmpty := by
    rw [Bool.eq_iff_iff, List.isEmpty_iff, List.isEmpty_iff]
    exact ⟨fun none => (none ▸ perm).symm.eq_nil, fun none => (none ▸ perm).eq_nil⟩
  unfold Findings.signals
  rw [empty reordered.dangerous, empty reordered.suspicious, empty reordered.obfuscated,
    empty reordered.blocked, empty reordered.unknown]

theorem commandsOf_perm {entries others : List Json} (perm : entries.Perm others) :
    (commandsOf entries).Perm (commandsOf others) :=
  (perm.filterMap _).filter _

/-- **Batches compose.** The findings of two batches in a row are those of each, joined; their
signals are those of either, and the rating is that of these signals. Entries that are no text or
blank may be put in and left out anywhere. An entry that comes again adds only to what is invoked.
Another order of the batch changes no signal and no rating, and reorders every list of findings. -/
theorem scans_compose (level : Level) :
    (∀ entries later,
      let first := Scan.ofEntries level entries
      let second := Scan.ofEntries level later
      let both := Scan.ofEntries level (entries ++ later)
      both.findings = first.findings.join second.findings ∧
        both.findings.signals = first.findings.signals.either second.findings.signals ∧
        both.severity = .ofSignals (first.findings.signals.either second.findings.signals) ∧
        max first.severity.rank second.severity.rank ≤ both.severity.rank ∧
        (first.findings.signals.dangerous = true ∧ second.findings.signals.obfuscated = true ∨
          first.findings.signals.obfuscated = true ∧ second.findings.signals.dangerous = true →
            both.severity = .critical)) ∧
    (∀ entries others, entries.filter isSpoken = others.filter isSpoken →
      Scan.ofEntries level entries = Scan.ofEntries level others) ∧
    (∀ before entry middle after,
      let once := Scan.ofEntries level (before ++ entry :: (middle ++ after))
      let again := Scan.ofEntries level (before ++ entry :: (middle ++ entry :: after))
      again.findings = { once.findings with invocations := again.findings.invocations } ∧
      again.severity = once.severity ∧ again.warnings = once.warnings ∧
      again.recommendations = once.recommendations) ∧
    (∀ entries others, entries.Perm others →
      let scan := Scan.ofEntries level entries
      let other := Scan.ofEntries level others
      scan.findings.signals = other.findings.signals ∧ scan.severity = other.severity ∧
        scan.findings.Reordered other.findings) := by
  refine ⟨?_, fun entries others same => ofEntries_congr same, ?_, ?_⟩
  · intro entries later first second both
    have joined : both.findings = first.findings.join second.findings := by
      simp only [both, first, second, ofEntries_eq, commandsOf_append, declared_append]
    have signals : both.findings.signals =
        first.findings.signals.either second.findings.signals := by
      rw [joined, signals_join]
    have rated : both.severity =
        .ofSignals (first.findings.signals.either second.findings.signals) := by
      rw [Scan.severity, Findings.severity, signals]
    refine ⟨joined, signals, rated, ?_, ?_⟩
    · rw [rated]
      exact Severity.max_rank_le_either
    · intro split
      rw [rated, Severity.ofSignals_eq_critical_iff]
      rcases split with ⟨dangerous, obfuscated⟩ | ⟨obfuscated, dangerous⟩
      · simp [Severity.Signals.either, dangerous, obfuscated]
      · simp [Severity.Signals.either, dangerous, obfuscated]
  · intro before entry middle after once again
    have same : again.findings =
        { once.findings with invocations := again.findings.invocations } :=
      findings_ofEntries_again before middle after entry
    have rated : again.findings.severity = once.findings.severity := by
      rw [same]
      rfl
    have warned : again.findings.warnings level = once.findings.warnings level := by
      rw [same]
      rfl
    have advised : again.findings.recommendations level = once.findings.recommendations level := by
      rw [same]
      rfl
    exact ⟨same, rated, warned, advised⟩
  · intro entries others perm scan other
    have reordered : scan.findings.Reordered other.findings := by
      simp only [scan, other, ofEntries_eq]
      exact reordered_declared (commandsOf_perm perm)
    have signals := reordered.signals
    exact ⟨signals, congrArg Severity.ofSignals signals, reordered⟩

end Findings

end ShellVet
