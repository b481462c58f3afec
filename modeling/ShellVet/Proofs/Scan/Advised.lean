import ShellVet.Proofs.Scan.Clean

/-!
# The advice to switch to a looser level

A scan advises a switch when it blocks a command that some level allows, and the level it names is
the nearest one that allows all such commands: no nearer level will do (`levelFor?_minimal`). A scan
of the same batch under that level blocks none of them, and a scan under a level in between still
blocks one (`switch_advice_minimal`).
-/

namespace ShellVet

/-! ## Looser levels -/

namespace Level

/-- One level is looser than another: it allows all that the other does, and something else. -/
def IsLooser (looser level : Level) : Prop :=
  Findings.Loosens looser level ∧ ¬Findings.Loosens level looser

theorem loosens_iff {looser level : Level} :
    Findings.Loosens looser level ↔
      ∀ category ∈ Category.all, level.allows category = true → looser.allows category = true := by
  refine ⟨fun loosens category _ => loosens category, fun loosens category => ?_⟩
  exact loosens category (by cases category <;> decide)

/-- The looser levels of a level are the ones listed with it. -/
theorem mem_looser_iff {looser level : Level} : looser ∈ level.looser ↔ IsLooser looser level := by
  rw [IsLooser, loosens_iff, loosens_iff]
  cases level <;> cases looser <;> decide

/-- Nearer levels are listed first. -/
theorem looser_pairwise (level : Level) :
    level.looser.Pairwise fun nearer farther => ¬IsLooser nearer farther := by
  simp only [← mem_looser_iff]
  cases level <;> decide

/-- Only the strict level has levels looser than it, one above the other. -/
theorem eq_of_isLooser {level between target : Level} (looser : between.IsLooser level)
    (nearer : target.IsLooser between) : level = .strict ∧ between = .standard := by
  rw [← mem_looser_iff] at looser nearer
  cases level with
  | strict =>
    cases between with
    | strict => exact absurd looser (by decide)
    | standard => exact ⟨rfl, rfl⟩
    | permissive => exact absurd nearer List.not_mem_nil
  | standard =>
    obtain rfl := List.mem_singleton.mp looser
    exact absurd nearer List.not_mem_nil
  | permissive => exact absurd looser List.not_mem_nil

end Level

namespace Findings

variable {level : Level} {findings : Findings} {batch names : List String} {name : String}

/-! ## Commands that some level allows -/

/-- Whether the name has a category, and not the one that no level allows. -/
def isUnlockable (name : String) : Bool :=
  (Category.ofCommand? name).any (· != .dangerous)

/-- The loosest level allows all these names. -/
theorem permits_permissive (name : String) : permits .permissive name = isUnlockable name := by
  unfold permits isUnlockable
  cases Category.ofCommand? name with
  | none => rfl
  | some category => cases category <;> rfl

theorem isUnlockable_iff :
    isUnlockable name = true ↔
      ∃ category, Category.ofCommand? name = some category ∧ category ≠ .dangerous := by
  simp only [isUnlockable, Option.any_eq_true, bne_iff_ne]

/-- What is blocked and not unknown has a category. -/
theorem knownBlocked_declared :
    (declared level batch).knownBlocked =
      (declared level batch).blocked.filter fun name => !isUnknown name := by
  rw [knownBlocked]
  apply List.filter_congr
  intro name blocked
  have unknown : (declared level batch).unknown.contains name = isUnknown name := by
    rw [List.contains_eq_mem, Bool.eq_iff_iff, decide_eq_true_iff]
    exact List.mem_filter.trans (and_iff_right blocked)
  rw [unknown]

/-- The names that a switch would help are those blocked names that some level allows. -/
theorem unlockable_declared :
    (declared level batch).unlockable = (declared level batch).blocked.filter isUnlockable := by
  rw [unlockable, knownBlocked_declared, List.filter_filter]
  apply List.filter_congr
  intro name _
  unfold isForbidden isUnknown isUnlockable
  cases Category.ofCommand? name with
  | none => rfl
  | some category => cases category <;> rfl

theorem any_isForbidden_declared :
    (declared level batch).knownBlocked.any isForbidden = true ↔
      ∃ name ∈ (declared level batch).blocked, Category.ofCommand? name = some .dangerous := by
  rw [knownBlocked_declared, List.any_filter, List.any_eq_true]
  refine exists_congr fun name => and_congr_right fun _ => ?_
  unfold isForbidden isUnknown
  cases Category.ofCommand? name with
  | none => decide
  | some category => cases category <;> decide

/-! ## The nearest level that helps -/

theorem levelFor?_eq_find? (level : Level) (names : List String) :
    levelFor? level names = level.looser.find? fun looser => names.all (permits looser) := by
  unfold levelFor?
  simp only [allow_eq_permits]

/-- The level is looser and allows all the names; no level between the two does. -/
theorem levelFor?_minimal {target : Level} (found : levelFor? level names = some target) :
    target.IsLooser level ∧ (∀ name ∈ names, permits target name = true) ∧
      ∀ between : Level, between.IsLooser level → target.IsLooser between →
        ∃ name ∈ names, permits between name = false := by
  rw [levelFor?_eq_find?] at found
  obtain ⟨allows, before, after, split, refused⟩ := List.find?_eq_some_iff_append.mp found
  have listed : target ∈ level.looser := split ▸ List.mem_append_right _ List.mem_cons_self
  refine ⟨Level.mem_looser_iff.mp listed, List.all_eq_true.mp allows, ?_⟩
  intro between looser nearer
  have sorted := level.looser_pairwise
  have among := Level.mem_looser_iff.mpr looser
  rw [split] at sorted among
  rcases List.mem_append.mp among with earlier | later
  · have refused := refused between earlier
    rw [Bool.not_eq_true', List.all_eq_false] at refused
    obtain ⟨name, member, refuses⟩ := refused
    exact ⟨name, member, Bool.not_eq_true _ ▸ refuses⟩
  · -- the level itself and those listed after it are not nearer
    rcases List.mem_cons.mp later with rfl | later
    · exact absurd nearer.1 nearer.2
    · have order := List.rel_of_pairwise_cons (List.pairwise_append.mp sorted).2.1 later
      exact absurd nearer order

/-- One command is of a category that the standard level does not allow, so that level is
skipped. -/
example : levelFor? .strict ["go", "yum"] = some .permissive := by decide

/-- A level other than the loosest has a looser one that allows names which some level allows. -/
theorem exists_levelFor? (stricter : level ≠ .permissive)
    (unlockable : ∀ name ∈ names, isUnlockable name = true) :
    ∃ target, levelFor? level names = some target := by
  rw [levelFor?_eq_find?, ← Option.isSome_iff_exists, List.find?_isSome]
  refine ⟨.permissive, ?_, ?_⟩
  · cases level with
    | strict | standard => decide
    | permissive => exact absurd rfl stricter
  · rw [List.all_eq_true]
    intro name member
    rw [permits_permissive]
    exact unlockable name member

/-! ## What other levels block -/

theorem not_permits_of_mem_blocked (blocked : name ∈ (declared level batch).blocked) :
    permits level name = false := by
  have refused := (List.mem_filter.mp (List.mem_eraseDups.mp blocked)).2
  rwa [Bool.not_eq_true'] at refused

/-- What a level blocks, a looser one blocks too unless it allows it. The loosest level reads no
commands, so there has to be one looser still. -/
theorem mem_blocked_of_isLooser {between target : Level} (looser : between.IsLooser level)
    (nearer : target.IsLooser between) (blocked : name ∈ (declared level batch).blocked)
    (refused : permits between name = false) : name ∈ (declared between batch).blocked := by
  obtain ⟨rfl, rfl⟩ := Level.eq_of_isLooser looser nearer
  rw [blocked_standard, List.mem_filter, refused]
  exact ⟨blocked, rfl⟩

/-! ## The text of the advice -/

/-- The advice to switch to a level for the sake of some commands. -/
def switchText (target : Level) (names : List String) : String :=
  "Switch to the " ++ (target.title ++ (" security level to allow: " ++ (listed names ++
    (". " ++ "Only do this if you trust the source of this configuration."))))

/-- The note on commands that no level allows. -/
def forbiddenNote : String :=
  "Commands in the DANGEROUS category are never allowed by any security level. " ++
    "Review them manually before running this configuration."

/-- Whether a recommendation advises a switch. -/
def advisesSwitch (text : String) : Bool :=
  "Switch to the ".toList.isPrefixOf text.toList

theorem mem_switchAdvice_iff {text : String} :
    text ∈ switchAdvice level names ↔
      names ≠ [] ∧ ∃ target, levelFor? level names = some target ∧
        text = switchText target names := by
  unfold switchAdvice
  cases found : levelFor? level names with
  | none => simp
  | some target =>
    have worded : switchText target names =
        s!"Switch to the {target.title} security level to allow: {listed names}. " ++
          "Only do this if you trust the source of this configuration." := by
      simp only [switchText, String.append_assoc]
      rfl
    simp [mem_sayIf, worded]

theorem advisesSwitch_switchText (target : Level) (names : List String) :
    advisesSwitch (switchText target names) = true := by
  rw [advisesSwitch, switchText, String.toList_append, List.isPrefixOf_iff_prefix]
  exact List.prefix_append _ _

/-- A text that starts with another letter advises no switch. -/
theorem advisesSwitch_eq_false {text : String} {first : Char} {rest : List Char}
    (starts : text.toList = first :: rest) (other : 'S' ≠ first) : advisesSwitch text = false := by
  have wanted : "Switch to the ".toList = 'S' :: "witch to the ".toList := rfl
  rw [advisesSwitch, starts, wanted, List.isPrefixOf_cons_cons, beq_false_of_ne other]
  rfl

theorem advisesSwitch_append_eq_false {text : String} {first : Char} {rest : List Char}
    (starts : text.toList = first :: rest) (other : 'S' ≠ first) (behind : String) :
    advisesSwitch (text ++ behind) = false := by
  have written : (text ++ behind).toList = first :: (rest ++ behind.toList) := by
    rw [String.toList_append, starts, List.cons_append]
  exact advisesSwitch_eq_false written other

theorem advisesSwitch_forbiddenNote : advisesSwitch forbiddenNote = false :=
  advisesSwitch_append_eq_false (String.toList_ofList (l := 'C' :: _)) (by decide) _

/-- No other recommendation advises a switch. -/
theorem mem_recommendations_and_advisesSwitch {text : String} :
    text ∈ findings.recommendations level ∧ advisesSwitch text = true ↔
      text ∈ switchAdvice level findings.unlockable := by
  constructor
  · rintro ⟨member, advises⟩
    unfold recommendations at member
    simp only [List.mem_append, mem_sayIf] at member
    rcases member with ((advice | ⟨-, rfl⟩) | ⟨-, rfl⟩) | ⟨-, rfl⟩
    · exact advice
    · exact absurd advises (Bool.eq_false_iff.mp advisesSwitch_forbiddenNote)
    · exact absurd advises (Bool.eq_false_iff.mp
        (advisesSwitch_append_eq_false (String.toList_ofList (l := 'U' :: _)) (by decide) _))
    · exact absurd advises (Bool.eq_false_iff.mp
        (advisesSwitch_eq_false (String.toList_ofList (l := 'R' :: _)) (by decide)))
  · intro advice
    obtain ⟨-, target, -, rfl⟩ := mem_switchAdvice_iff.mp advice
    refine ⟨?_, advisesSwitch_switchText target _⟩
    unfold recommendations
    exact List.mem_append_left _ (List.mem_append_left _ (List.mem_append_left _ advice))

theorem forbiddenNote_mem_iff :
    forbiddenNote ∈ findings.recommendations level ↔
      findings.knownBlocked.any isForbidden = true := by
  unfold recommendations
  simp only [List.mem_append, mem_sayIf]
  constructor
  · rintro (((advice | ⟨forbidden, -⟩) | ⟨-, same⟩) | ⟨-, same⟩)
    · have advises := (mem_recommendations_and_advisesSwitch.mpr advice).2
      exact absurd advises (Bool.eq_false_iff.mp advisesSwitch_forbiddenNote)
    · exact forbidden
    · exact absurd same (by decide)
    · exact absurd same (by decide)
  · exact fun forbidden => .inl (.inl (.inr ⟨forbidden, rfl⟩))

/-! ## What the text says -/

theorem intercalate_pair (x y : Char) (first : List Char) (rest : List (List Char)) :
    [x, y].intercalate (first :: rest) = [x].intercalate (first :: rest.map (y :: ·)) := by
  induction rest generalizing first with
  | nil => rw [List.map_nil, List.intercalate_singleton, List.intercalate_singleton]
  | cons second rest ih =>
    rw [List.intercalate_cons_cons, ih, List.map_cons, List.intercalate_cons_cons,
      List.intercalate_cons_cons_left]
    simp only [List.append_assoc, List.cons_append, List.nil_append]

theorem splitOn_listed {first : String} {rest : List String}
    (plain : ∀ name ∈ first :: rest, ',' ∉ name.toList) :
    (listed (first :: rest)).toList.splitOn ',' =
      first.toList :: rest.map fun name => ' ' :: name.toList := by
  have pieces : (listed (first :: rest)).toList =
      [','].intercalate (first.toList :: rest.map fun name => ' ' :: name.toList) := by
    rw [listed, String.toList_intercalate, List.map_cons]
    exact (intercalate_pair ',' ' ' _ _).trans (by rw [List.map_map]; rfl)
  rw [pieces, List.splitOn_intercalate]
  · intro piece member
    rcases List.mem_cons.mp member with rfl | later
    · exact plain first List.mem_cons_self
    · obtain ⟨name, among, rfl⟩ := List.mem_map.mp later
      have absent := plain name (List.mem_cons_of_mem first among)
      simpa using absent
  · exact List.cons_ne_nil _ _

theorem listed_ne_empty {first : String} (filled : first ≠ "") (rest : List String) :
    listed (first :: rest) ≠ "" := by
  cases rest with
  | nil =>
    rw [listed, String.intercalate_singleton]
    exact filled
  | cons second rest =>
    rw [listed, String.intercalate_cons_cons]
    simp [filled]

/-- Names in a row can be told apart when none is empty or holds a comma. -/
theorem listed_injective {others : List String}
    (filled : ∀ name ∈ names ++ others, name ≠ "")
    (plain : ∀ name ∈ names ++ others, ',' ∉ name.toList)
    (same : listed names = listed others) : names = others := by
  have plainFront := (List.forall_mem_append.mp plain).1
  have plainBack := (List.forall_mem_append.mp plain).2
  cases names with
  | nil =>
    cases others with
    | nil => rfl
    | cons other others =>
      exact absurd same.symm (listed_ne_empty (filled other List.mem_cons_self) others)
  | cons first rest =>
    cases others with
    | nil => exact absurd same (listed_ne_empty (filled first List.mem_cons_self) rest)
    | cons other others =>
      have pieces := splitOn_listed plainFront
      rw [same, splitOn_listed plainBack] at pieces
      obtain ⟨head, tail⟩ := List.cons.inj pieces
      have spaced : Function.Injective fun name : String => ' ' :: name.toList :=
        fun _ _ equal => String.toList_injective (List.cons.inj equal).2
      rw [String.toList_injective head, spaced.list_map tail]

/-- No name of the table is empty or holds a comma. -/
theorem Category.plain_commands :
    (Category.all.all fun category => category.commands.all fun name =>
      name != "" && !name.toList.contains ',') = true := by
  decide

/-- The titles of levels differ in their first three letters. -/
theorem level_of_title {target other : Level} {text text' : String}
    (same : target.title ++ text = other.title ++ text') : target = other := by
  have start (level : Level) (text : String) :
      (level.title ++ text).toList.take 3 = level.title.toList.take 3 := by
    rw [String.toList_append, List.take_append_of_le_length]
    cases level <;> decide
  have letters : target.title.toList.take 3 = other.title.toList.take 3 := by
    rw [← start target text, same, start]
  revert letters
  cases target <;> cases other <;> decide

/-- A name with a category is not empty and holds no comma. -/
theorem plain_of_isUnlockable (unlockable : isUnlockable name = true) :
    name ≠ "" ∧ ',' ∉ name.toList := by
  obtain ⟨category, found, -⟩ := isUnlockable_iff.mp unlockable
  have named := List.find?_some found
  have listed := List.contains_iff_mem.mp named
  have plain := List.all_eq_true.mp (List.all_eq_true.mp Category.plain_commands category
    (List.mem_of_find?_eq_some found)) _ listed
  rw [Bool.and_eq_true, bne_iff_ne, Bool.not_eq_true', List.contains_eq_mem,
    decide_eq_false_iff_not] at plain
  refine ⟨?_, fun comma => plain.2 ?_⟩
  · rintro rfl
    exact plain.1 rfl
  · exact Category.mem_normalName_of_mem comma (by decide) fun _ _ => rfl

/-- The text tells which level it names and which commands. -/
theorem switchText_injective {target other : Level} {others : List String}
    (unlockable : ∀ name ∈ names, isUnlockable name = true)
    (unlockable' : ∀ name ∈ others, isUnlockable name = true)
    (same : switchText target names = switchText other others) :
    target = other ∧ names = others := by
  unfold switchText at same
  rw [String.append_right_inj] at same
  obtain rfl := level_of_title same
  rw [String.append_right_inj, String.append_right_inj, String.append_left_inj] at same
  have known : ∀ name ∈ names ++ others, name ≠ "" ∧ ',' ∉ name.toList := by
    intro name member
    rcases List.mem_append.mp member with front | back
    · exact plain_of_isUnlockable (unlockable name front)
    · exact plain_of_isUnlockable (unlockable' name back)
  exact ⟨rfl, listed_injective (fun name member => (known name member).1)
    (fun name member => (known name member).2) same⟩

/-! ## The advice of a scan -/

theorem recommendations_ofEntries (level : Level) (entries : List Json) :
    (Scan.ofEntries level entries).recommendations =
      (declared level ((Scan.textsOf entries).filter isCommand)).recommendations level := by
  rw [Scan.recommendations, findings_ofEntries]
  rfl

/-- The advice is given for the blocked commands that some level allows. -/
theorem advice_declared_iff {text : String} :
    text ∈ (declared level batch).recommendations level ∧ advisesSwitch text = true ↔
      (declared level batch).blocked.filter isUnlockable ≠ [] ∧
        ∃ target,
          levelFor? level ((declared level batch).blocked.filter isUnlockable) = some target ∧
          text = switchText target ((declared level batch).blocked.filter isUnlockable) := by
  rw [mem_recommendations_and_advisesSwitch, mem_switchAdvice_iff, unlockable_declared]

/-- There is advice where such a command is blocked. -/
theorem exists_advice_iff :
    (∃ text ∈ (declared level batch).recommendations level, advisesSwitch text = true) ↔
      ∃ name ∈ (declared level batch).blocked, isUnlockable name = true := by
  have filled : (declared level batch).blocked.filter isUnlockable ≠ [] ↔
      ∃ name ∈ (declared level batch).blocked, isUnlockable name = true := by
    rw [Ne, List.filter_eq_nil_iff]
    simp only [not_forall, Decidable.not_not, exists_prop]
  simp only [advice_declared_iff, ← filled]
  constructor
  · rintro ⟨text, some, -⟩
    exact some
  · intro some
    have stricter : level ≠ .permissive := by
      rintro rfl
      rw [blocked_permissive] at some
      exact some rfl
    obtain ⟨target, found⟩ := exists_levelFor? stricter fun name member =>
      (List.mem_filter.mp member).2
    exact ⟨_, some, target, found, rfl⟩

/-- **The advice to switch is sound, complete and minimal.** A scan advises to switch to another
level exactly when it blocks a command of a category that some level allows. The text lists just
these commands, in the order in which they were blocked, and no other level and commands give the
same text. The level it names is looser; a scan of the same batch under it blocks none of the
commands, and under each level in between blocks one. The note on commands that no level allows
comes exactly when such a command is blocked. -/
theorem switch_advice_minimal (level : Level) (entries : List Json) :
    let scan := Scan.ofEntries level entries
    let blockedUnder := fun other => (Scan.ofEntries other entries).findings.blocked
    let names := scan.findings.blocked.filter isUnlockable
    ((∃ text ∈ scan.recommendations, advisesSwitch text = true) ↔
      ∃ name ∈ scan.findings.blocked, ∃ category,
        Category.ofCommand? name = some category ∧ category ≠ .dangerous) ∧
    (∀ text ∈ scan.recommendations, advisesSwitch text = true → ∃ target : Level,
      text = switchText target names ∧
      (∀ other others, (∀ name ∈ others, isUnlockable name = true) →
        text = switchText other others → other = target ∧ others = names) ∧
      target.IsLooser level ∧ (∀ name ∈ names, name ∉ blockedUnder target) ∧
      ∀ between : Level, between.IsLooser level → target.IsLooser between →
        ∃ name ∈ names, name ∈ blockedUnder between) ∧
    (forbiddenNote ∈ scan.recommendations ↔
      ∃ name ∈ scan.findings.blocked, Category.ofCommand? name = some .dangerous) := by
  simp only [recommendations_ofEntries, findings_ofEntries, ← isUnlockable_iff]
  refine ⟨exists_advice_iff, ?_, forbiddenNote_mem_iff.trans any_isForbidden_declared⟩
  intro text member advises
  obtain ⟨-, target, found, rfl⟩ := advice_declared_iff.mp ⟨member, advises⟩
  obtain ⟨looser, allows, minimal⟩ := levelFor?_minimal found
  refine ⟨target, rfl, ?_, looser, ?_, ?_⟩
  · intro other others unlockable same
    have readable := switchText_injective (fun name member => (List.mem_filter.mp member).2)
      unlockable same
    exact ⟨readable.1.symm, readable.2.symm⟩
  · intro name member blocked
    have refused := not_permits_of_mem_blocked blocked
    rw [allows name member] at refused
    cases refused
  · intro between looser nearer
    obtain ⟨name, member, refused⟩ := minimal between looser nearer
    exact ⟨name, member,
      mem_blocked_of_isLooser looser nearer (List.mem_filter.mp member).1 refused⟩

end Findings

end ShellVet
