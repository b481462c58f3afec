import Mathlib.Logic.Basic
import ShellVet.Text.Case

/-!
# ASCII among all characters

What holds for 128 codes holds for each ASCII character (`of_ascii`). Caseless matching compares
lower case, and a few characters beyond ASCII have a lower case in ASCII or match one there: these,
the `lookalikeCodes`, are all there are (`ascii_or_lookalike`), as the runs of the case table show.
-/

namespace ShellVet.Text

/-- What holds for each of the first 128 codes holds for each ASCII character. -/
@[elab_as_elim]
theorem of_ascii {holds : Char → Prop} {c : Char} (ascii : c.toNat < 128)
    (known : ∀ code < 128, holds (Char.ofNat code)) : holds c := by
  have found := known c.toNat ascii
  rwa [Char.ofNat_toNat] at found

/-- What holds of the characters of a text can be checked on them, one after another. -/
theorem forall_mem_of_all {holds : Char → Prop} [DecidablePred holds] {text : List Char}
    (all : (text.all fun c => decide (holds c)) = true) : ∀ c ∈ text, holds c :=
  fun c inside => of_decide_eq_true (List.all_eq_true.mp all c inside)

theorem ascii_of_isAlphanum {c : Char} (plain : c.isAlphanum = true) : c.toNat < 128 := by
  change ((decide (65 ≤ c.val ∧ c.val ≤ 90) ||
    decide (97 ≤ c.val) && decide (c.val ≤ 122)) ||
      decide (48 ≤ c.val) && decide (c.val ≤ 57)) = true at plain
  simp only [Bool.or_eq_true, Bool.and_eq_true, decide_eq_true_eq,
    UInt32.le_iff_toNat_le] at plain
  change (((65 ≤ c.toNat ∧ c.toNat ≤ 90) ∨ (97 ≤ c.toNat ∧ c.toNat ≤ 122)) ∨
    (48 ≤ c.toNat ∧ c.toNat ≤ 57)) at plain
  omega

theorem toNat_ofNat {code : Nat} (valid : code.isValidChar) : (Char.ofNat code).toNat = code := by
  rw [Char.ofNat, dif_pos valid]
  rfl

/-! ## Lower case -/

theorem lowerFrom_of_ascii (before : List Char) {text : List Char}
    (ascii : ∀ c ∈ text, c.toNat < 128) : lowerFrom before text = text.map Char.toLower := by
  induction text generalizing before with
  | nil => rfl
  | cons c rest ih =>
    have here := ascii c List.mem_cons_self
    have single : lowerWithin before c rest = [c.toLower] := by
      rw [lowerWithin, if_neg (by omega), if_neg (by omega), lowerChar, if_pos here]
    rw [lowerFrom, single, ih _ fun b inside => ascii b (List.mem_cons_of_mem _ inside)]
    rfl

/-- In a text of ASCII characters lower case is taken one by one. -/
theorem lower_of_ascii {text : List Char} (ascii : ∀ c ∈ text, c.toNat < 128) :
    lower text = text.map Char.toLower :=
  lowerFrom_of_ascii [] ascii

/-! ## Characters that match ASCII letters -/

/-- Code points beyond ASCII that match an ASCII letter where case does not count: the capital I
with a dot, the small i without one, the long s and the sign of the kelvin. -/
def lookalikeCodes : List Nat := [304, 305, 383, 8490]

/-- The lower case ones among them, which have no lower case but themselves. -/
def smallLookalikes : List Nat := [305, 383]

/-- The run takes characters beyond ASCII to other such characters that match no ASCII letter. -/
def CaseRun.isForeign (run : CaseRun) : Bool :=
  let first := run.first + run.distance
  let last := run.last + run.distance
  128 ≤ run.first && (run.last < 0xd800 || 0xdfff < run.first) && run.last < 0x110000 &&
    (128 : Int) ≤ first && (last < 0xd800 || 0xdfff < first) && last < 0x110000 &&
    smallLookalikes.all fun code => code < first || last < code

theorem isForeign_iff {run : CaseRun} : run.isForeign = true ↔
    128 ≤ run.first ∧ (run.last < 0xd800 ∨ 0xdfff < run.first) ∧ run.last < 0x110000 ∧
    128 ≤ run.first + run.distance ∧
    (run.last + run.distance < 0xd800 ∨ 0xdfff < run.first + run.distance) ∧
    run.last + run.distance < 0x110000 ∧
    (305 < run.first + run.distance ∨ run.last + run.distance < 305) ∧
    (383 < run.first + run.distance ∨ run.last + run.distance < 383) := by
  simp [CaseRun.isForeign, smallLookalikes, and_assoc]

/-- Two runs alone reach ASCII: its own letters, and the sign of the kelvin. -/
theorem lowerRuns_cases {run : CaseRun} (known : run ∈ lowerRuns) :
    (run.last = 90 ∧ run.distance = 32) ∨ (run.first = 8490 ∧ run.last = 8490) ∨
      run.isForeign = true := by
  have table : (lowerRuns.all fun run => decide ((run.last = 90 ∧ run.distance = 32) ∨
      (run.first = 8490 ∧ run.last = 8490) ∨ run.isForeign = true)) = true := by
    decide
  exact of_decide_eq_true (List.all_eq_true.mp table run known)

theorem apply_cases (runs : List CaseRun) (code : Nat) :
    CaseRun.apply runs code = code ∨ ∃ run ∈ runs, run.first ≤ code ∧ code ≤ run.last ∧
      CaseRun.apply runs code = (code + run.distance).toNat := by
  unfold CaseRun.apply
  split
  · next run found =>
    have within := List.find?_some found
    simp only [Bool.and_eq_true, decide_eq_true_eq] at within
    exact .inr ⟨run, List.mem_of_find?_eq_some found, within.1.1, within.1.2, rfl⟩
  · exact .inl rfl

/-- A character whose lower case is in ASCII, or matches a letter there, is in ASCII or one of the
lookalikes. -/
theorem ascii_or_lookalike {c : Char}
    (near : (lowerChar c).toNat < 128 ∨ (lowerChar c).toNat ∈ smallLookalikes) :
    c.toNat < 128 ∨ c.toNat ∈ lookalikeCodes := by
  by_cases ascii : c.toNat < 128
  · exact .inl ascii
  right
  by_cases dotted : c.toNat = 304
  · rw [dotted]
    decide
  unfold lowerChar at near
  rw [if_neg ascii, if_neg dotted] at near
  rcases apply_cases lowerRuns c.toNat with same | ⟨run, known, first, last, same⟩
  · rw [same, Char.ofNat_toNat] at near
    simp only [smallLookalikes, lookalikeCodes, List.mem_cons, List.not_mem_nil, or_false] at near ⊢
    omega
  · rcases lowerRuns_cases known with ⟨capital, -⟩ | kelvin | foreign
    · omega
    · have code : c.toNat = 8490 := by omega
      rw [code]
      decide
    · obtain ⟨-, -, -, beyond, whole, small, dotless, long⟩ := isForeign_iff.mp foreign
      -- the image is a code point, so that it is that of its character, beyond ASCII
      have valid : (CaseRun.apply lowerRuns c.toNat).isValidChar := by
        unfold Nat.isValidChar
        omega
      rw [toNat_ofNat valid, same] at near
      simp only [smallLookalikes, List.mem_cons, List.not_mem_nil, or_false] at near
      omega

theorem mem_lowerSources {source c : Char} (member : source ∈ lowerSources c) :
    source = c ∨ source.toNat = 304 ∨ ∃ run ∈ lowerRuns, ∃ code,
      code = ((c.toNat : Int) - run.distance).toNat ∧ run.first ≤ code ∧ code ≤ run.last ∧
      source = Char.ofNat code := by
  unfold lowerSources at member
  dsimp only at member
  have parts : source = c ∨ source ∈ (lowerRuns.filterMap fun run =>
      let code := ((c.toNat : Int) - run.distance).toNat
      if run.first ≤ code && code ≤ run.last && (code - run.first) % run.step == 0 then
        some (Char.ofNat code)
      else none) ∨ source ∈ if c == 'i' then [Char.ofNat 304] else [] := by
    split at member
    · simpa [or_assoc] using member
    · exact .inr (List.mem_append.mp member)
  rcases parts with same | capital | dotted
  · exact .inl same
  · obtain ⟨run, known, found⟩ := List.mem_filterMap.mp capital
    dsimp only at found
    split at found
    · next within =>
      simp only [Bool.and_eq_true, decide_eq_true_eq] at within
      exact .inr (.inr ⟨run, known, _, rfl, within.1.1, within.1.2, (Option.some.inj found).symm⟩)
    · cases found
  · split at dotted
    · rw [List.mem_singleton.mp dotted]
      exact .inr (.inl rfl)
    · cases dotted

/-- An ASCII character is the lower case source of an ASCII character only. -/
theorem ascii_of_mem_lowerSources {source c : Char} (member : source ∈ lowerSources c)
    (ascii : source.toNat < 128) : c.toNat < 128 := by
  rcases mem_lowerSources member with rfl | dotted | ⟨run, known, code, image, first, last, rfl⟩
  · exact ascii
  · omega
  · rcases lowerRuns_cases known with ⟨small, distance⟩ | kelvin | foreign
    · omega
    · have valid : code.isValidChar := by
        unfold Nat.isValidChar
        omega
      rw [toNat_ofNat valid] at ascii
      omega
    · obtain ⟨beyond, whole, least, -⟩ := isForeign_iff.mp foreign
      have valid : code.isValidChar := by
        unfold Nat.isValidChar
        omega
      rw [toNat_ofNat valid] at ascii
      omega

/-- A family holds an ASCII character only if it is that of a lower case lookalike. -/
theorem lookalike_of_mem_caseFamily {c other : Char} (member : other ∈ caseFamily c)
    (ascii : other.toNat < 128) : c.toNat ∈ smallLookalikes := by
  have table : (caseFamilies.all fun family =>
      family.2.all (fun code => decide (128 ≤ (Char.ofNat code).toNat)) ||
        smallLookalikes.contains family.1) = true := by
    decide
  obtain ⟨code, among, rfl⟩ := List.mem_map.mp member
  cases found : caseFamilies.lookup c.toNat with
  | none =>
    rw [found] at among
    cases among
  | some family =>
    rw [found] at among
    obtain ⟨before, after, split, -⟩ := List.lookup_eq_some_iff.mp found
    have known : (c.toNat, family) ∈ caseFamilies := by
      rw [split]
      exact List.mem_append_right _ List.mem_cons_self
    rcases (Bool.or_eq_true _ _).mp (List.all_eq_true.mp table _ known) with all | small
    · have large := of_decide_eq_true (List.all_eq_true.mp all code among)
      omega
    · exact List.contains_iff_mem.mp small

end ShellVet.Text
