import ShellVet.Proofs.Scan.Declared

/-!
# Stricter and looser levels

Each level allows what the stricter ones allow. So a looser level suspects and blocks a part of what
a stricter one does, in the same order, and rates no batch more gravely: `levels_monotone` says this
of the scans of one batch under all three levels.
-/

namespace ShellVet

namespace Severity

/-- Each signal of the first is one of the second. -/
structure Signals.Within (signals larger : Signals) : Prop where
  dangerous : signals.dangerous = true → larger.dangerous = true
  obfuscated : signals.obfuscated = true → larger.obfuscated = true
  suspicious : signals.suspicious = true → larger.suspicious = true
  blocked : signals.blocked = true → larger.blocked = true
  unknown : signals.unknown = true → larger.unknown = true

/-- More signals never lower the rating. -/
theorem rank_ofSignals_mono {signals larger : Signals} (within : signals.Within larger) :
    (ofSignals signals).rank ≤ (ofSignals larger).rank := by
  obtain ⟨dangerous, obfuscated, suspicious, blocked, unknown⟩ := within
  unfold ofSignals
  split
  case isTrue both =>
    rw [Bool.and_eq_true] at both
    simp [dangerous both.1, obfuscated both.2]
  split
  case isTrue either =>
    have either' : (larger.dangerous || larger.obfuscated) = true := by
      rw [Bool.or_eq_true] at either ⊢
      exact either.imp dangerous obfuscated
    simp only [either', if_true]
    split <;> decide
  split
  case isTrue suspect =>
    simp only [suspicious suspect, if_true]
    split
    · decide
    · split <;> decide
  split
  case isTrue refused =>
    have refused' : (larger.blocked || larger.unknown) = true := by
      rw [Bool.or_eq_true] at refused ⊢
      exact refused.imp blocked unknown
    simp only [refused', if_true]
    split
    · decide
    · split
      · decide
      · split <;> decide
  case isFalse => exact Nat.zero_le _

end Severity

namespace Findings

/-! ## Two levels side by side -/

variable {level looser : Level}

/-- Whether one level allows all that another does. -/
def Loosens (looser level : Level) : Prop :=
  ∀ category, level.allows category = true → looser.allows category = true

theorem standard_loosens_strict : Loosens .standard .strict := by
  intro category
  cases category <;> decide

theorem permissive_loosens_standard : Loosens .permissive .standard := by
  intro category
  cases category <;> decide

theorem Loosens.permits (loosens : Loosens looser level) {name : String}
    (permitted : Findings.permits level name = true) : Findings.permits looser name = true := by
  unfold Findings.permits at permitted ⊢
  rw [Option.any_eq_true] at permitted ⊢
  obtain ⟨category, found, allowed⟩ := permitted
  exact ⟨category, found, loosens category allowed⟩

/-- A looser level that is not the strict one suspects a part of what a stricter level suspects. -/
theorem Loosens.suspects (loosens : Loosens looser level) (lax : looser ≠ .strict)
    {command : String} (suspect : Findings.suspects looser command = true) :
    Findings.suspects level command = true := by
  unfold Findings.suspects at suspect ⊢
  have not_strict : (looser == Level.strict) = false := beq_eq_false_iff_ne.mpr lax
  rw [not_strict, Bool.false_or, Bool.and_eq_true, Bool.not_eq_true'] at suspect
  rw [Bool.and_eq_true, Bool.or_eq_true, Bool.not_eq_true']
  refine ⟨suspect.1, Or.inr ?_⟩
  rw [← Bool.not_eq_true]
  intro permitted
  rw [loosens.permits permitted] at suspect
  cases suspect.2

/-- Choosing by a narrower condition is choosing again from what a wider one chose. -/
theorem filter_eraseDups_of_imp {narrow wide : String → Bool} (values : List String)
    (imp : ∀ value, narrow value = true → wide value = true) :
    (values.filter narrow).eraseDups = (values.filter wide).eraseDups.filter narrow := by
  rw [← eraseDups_filter, List.filter_filter]
  congr 1
  apply List.filter_congr
  intro value _
  cases chosen : narrow value with
  | false => rfl
  | true => rw [imp value chosen]; rfl

theorem Loosens.sublist_suspicious (loosens : Loosens looser level) (lax : looser ≠ .strict)
    (batch : List String) :
    (declared looser batch).suspicious.Sublist (declared level batch).suspicious := by
  have part : (declared looser batch).suspicious =
      (declared level batch).suspicious.filter (Findings.suspects looser) :=
    filter_eraseDups_of_imp batch fun _ suspect => loosens.suspects lax suspect
  rw [part]
  exact List.filter_sublist

theorem any_eq_true_of_sublist {values larger : List String} (part : values.Sublist larger)
    (found : (!values.isEmpty) = true) : (!larger.isEmpty) = true := by
  cases larger with
  | nil =>
    rw [List.sublist_nil.mp part] at found
    cases found
  | cons => rfl

/-- Findings that are part of others give no graver rating. -/
theorem rank_severity_mono {findings larger : Findings}
    (dangerous : findings.dangerous.Sublist larger.dangerous)
    (obfuscated : findings.obfuscated.Sublist larger.obfuscated)
    (suspicious : findings.suspicious.Sublist larger.suspicious)
    (blocked : findings.blocked.Sublist larger.blocked)
    (unknown : findings.unknown.Sublist larger.unknown) :
    findings.severity.rank ≤ larger.severity.rank :=
  Severity.rank_ofSignals_mono
    { dangerous := any_eq_true_of_sublist dangerous
      obfuscated := any_eq_true_of_sublist obfuscated
      suspicious := any_eq_true_of_sublist suspicious
      blocked := any_eq_true_of_sublist blocked
      unknown := any_eq_true_of_sublist unknown }

/-! ## The three levels -/

variable (batch : List String)

theorem blocked_standard :
    (declared .standard batch).blocked =
      (declared .strict batch).blocked.filter fun name => !permits .standard name := by
  apply filter_eraseDups_of_imp
  intro name refused
  rw [Bool.not_eq_true', ← Bool.not_eq_true] at refused ⊢
  exact fun permitted => refused (standard_loosens_strict.permits permitted)

theorem unknown_standard :
    (declared .standard batch).unknown = (declared .strict batch).unknown := by
  unfold declared
  simp only [← eraseDups_filter, filter_isUnknown_refused]
  rfl

theorem namesIn_permissive : namesIn .permissive batch = [] := by
  have nothing : batch.flatMap (invoked .permissive) = [] :=
    List.flatMap_eq_nil_iff.mpr fun _ _ => rfl
  rw [namesIn, nothing, List.map_nil]

theorem blocked_permissive : (declared .permissive batch).blocked = [] := by
  unfold declared
  rw [namesIn_permissive]
  rfl

theorem unknown_permissive : (declared .permissive batch).unknown = [] := by
  unfold declared
  rw [namesIn_permissive]
  rfl

theorem obfuscated_permissive : (declared .permissive batch).obfuscated = [] := by
  have nothing : batch.filter (conceals .permissive) = [] :=
    List.filter_eq_nil_iff.mpr fun _ _ => Bool.false_ne_true
  unfold declared
  rw [nothing]
  rfl

theorem rank_severity_standard_le :
    (declared .standard batch).severity.rank ≤ (declared .strict batch).severity.rank := by
  refine rank_severity_mono (List.Sublist.refl _) (List.Sublist.refl _)
    (standard_loosens_strict.sublist_suspicious (by decide) batch) ?_ ?_
  · rw [blocked_standard]
    exact List.filter_sublist
  · rw [unknown_standard]

theorem rank_severity_permissive_le :
    (declared .permissive batch).severity.rank ≤ (declared .standard batch).severity.rank := by
  refine rank_severity_mono (List.Sublist.refl _) ?_
    (permissive_loosens_standard.sublist_suspicious (by decide) batch) ?_ ?_
  · rw [obfuscated_permissive]
    exact List.nil_sublist _
  · rw [blocked_permissive]
    exact List.nil_sublist _
  · rw [unknown_permissive]
    exact List.nil_sublist _

/-- **Levels are monotone.** Of one batch, all levels find the same dangerous commands; the strict
and the standard level agree on all but what they suspect and block; what a looser level blocks or
suspects is a part of what a stricter one does; and no looser level rates the batch more gravely. -/
theorem levels_monotone (entries : List Json) :
    let strict := Scan.ofEntries .strict entries
    let standard := Scan.ofEntries .standard entries
    let permissive := Scan.ofEntries .permissive entries
    (strict.findings.dangerous = standard.findings.dangerous ∧
      standard.findings.dangerous = permissive.findings.dangerous) ∧
    (strict.findings.obfuscated = standard.findings.obfuscated ∧
      strict.findings.techniques = standard.findings.techniques ∧
      strict.findings.invocations = standard.findings.invocations ∧
      strict.findings.unknown = standard.findings.unknown ∧
      strict.findings.unread = standard.findings.unread) ∧
    (standard.findings.blocked = strict.findings.blocked.filter fun name =>
        !Category.allow Level.standard.categories name false) ∧
    permissive.findings.blocked = [] ∧
    (permissive.findings.suspicious.Sublist standard.findings.suspicious ∧
      standard.findings.suspicious.Sublist strict.findings.suspicious) ∧
    (permissive.severity.rank ≤ standard.severity.rank ∧
      standard.severity.rank ≤ strict.severity.rank) := by
  simp only [allow_eq_permits, findings_ofEntries, severity_ofEntries]
  let batch := (Scan.textsOf entries).filter isCommand
  exact ⟨⟨rfl, rfl⟩, ⟨rfl, rfl, rfl, (unknown_standard batch).symm, rfl⟩, blocked_standard batch,
    blocked_permissive batch,
    ⟨permissive_loosens_standard.sublist_suspicious (by decide) batch,
      standard_loosens_strict.sublist_suspicious (by decide) batch⟩,
    rank_severity_permissive_le batch, rank_severity_standard_le batch⟩

end Findings

end ShellVet
