import Mathlib.Data.List.Basic
import ShellVet.Proofs.Terminal.Markup

/-!
# Texts that close nothing

A text in which no bracket stands in front of a slash only switches styles on, or names a colour
that breaks off reading (`active_unclosed`). So such a text can stand unescaped between the tags of
a style: where none of its colours is broken, the markup can be carried out
(`runs_styled_unclosed`). A text that has a broken colour looks up a style with a word for it
(`exists_broken_of_not_sound`).
-/

namespace ShellVet

/-- No piece holds what the list was split at. -/
theorem eq_false_of_mem_splitOnP {α : Type} {splits : α → Bool} {text piece : List α} {c : α}
    (among : piece ∈ text.splitOnP splits) (inside : c ∈ piece) : splits c = false := by
  induction text generalizing piece with
  | nil =>
    rw [List.splitOnP_nil, List.mem_singleton] at among
    rw [among] at inside
    cases inside
  | cons first text ih =>
    rw [List.splitOnP_cons_eq_if_modifyHead] at among
    split at among
    · rcases List.mem_cons.mp among with rfl | later
      · cases inside
      · exact ih later inside
    · next other =>
      cases pieces : text.splitOnP splits with
      | nil =>
        rw [pieces] at among
        cases among
      | cons head rest =>
        rw [pieces, List.modifyHead_cons] at among
        rw [pieces] at ih
        rcases List.mem_cons.mp among with rfl | later
        · rcases List.mem_cons.mp inside with rfl | behind
          · exact Bool.eq_false_iff.mpr other
          · exact ih List.mem_cons_self behind
        · exact ih (List.mem_cons_of_mem _ later) inside

namespace Terminal

/-! ## Broken colours -/

/-- The word is a colour of three parts in digits one of which is no number: empty, or of too many
digits. -/
def IsBrokenColor (word : List Char) : Prop :=
  ∃ red green blue : List Char,
    Text.lower word = "rgb(".toList ++ (red ++ ',' :: (green ++ ',' :: blue)) ++ [')'] ∧
    (∀ part ∈ [red, green, blue], ∀ c ∈ part, Text.isDecimal c = true) ∧
    ∃ part ∈ [red, green, blue], part = [] ∨ 4300 < part.length

theorem eq_of_argumentOf? {opening : String} {word argument : List Char}
    (last : opening.toList.getLast? ≠ some ')')
    (found : argumentOf? opening word = some argument) :
    word = opening.toList ++ argument ++ [')'] := by
  unfold argumentOf? at found
  split at found
  · next good =>
    cases found
    rw [Bool.and_eq_true, beq_iff_eq, List.isPrefixOf_iff_prefix] at good
    obtain ⟨⟨rest, rfl⟩, closing⟩ := good
    have dropped : (opening.toList ++ rest).drop opening.length = rest := by
      rw [← String.length_toList, List.drop_left]
    have ends : rest.getLast? = some ')' := by
      rw [List.getLast?_append] at closing
      cases whole : rest.getLast? with
      | none =>
        rw [whole] at closing
        exact absurd closing last
      | some c => rwa [whole] at closing
    obtain ⟨front, rfl⟩ := List.getLast?_eq_some_iff.mp ends
    rw [dropped, List.dropLast_concat, List.append_assoc]
  · cases found

theorem isBrokenColor_of_mixedParts? {word : List Char} {parts : List (List Char)}
    (found : mixedParts? (Text.lower word) = some parts) (broken : parts.any isBrokenPart = true) :
    IsBrokenColor word := by
  obtain ⟨argument, opened, known⟩ := Option.bind_eq_some_iff.mp found
  dsimp only at known
  split at known
  · next good =>
    cases known
    rw [Bool.and_eq_true, List.all_eq_true, beq_iff_eq] at good
    obtain ⟨digits, three⟩ := good
    obtain ⟨red, green, blue, split⟩ := List.length_eq_three.mp three
    have whole : [','].intercalate (argument.splitOn ',') = argument := List.intercalate_splitOn _
    rw [split] at whole broken
    refine ⟨red, green, blue, ?_, ?_, ?_⟩
    · rw [eq_of_argumentOf? (by decide) opened, ← whole]
      simp [List.intercalate]
    · intro part among c inside
      have member : c ∈ argument := by
        rw [← whole]
        simp only [List.mem_cons, List.not_mem_nil, or_false] at among
        rcases among with rfl | rfl | rfl <;> simp [List.intercalate, inside]
      rw [← split] at among
      have piece : part ∈ argument.splitOnP (· == ',') := among
      have other : c ≠ ',' := by simpa using eq_false_of_mem_splitOnP piece inside
      simpa [other] using digits c member
    · obtain ⟨part, among, bad⟩ := List.any_eq_true.mp broken
      rw [isBrokenPart, Bool.or_eq_true, List.isEmpty_iff, decide_eq_true_iff] at bad
      exact ⟨part, among, bad⟩
  · cases known

theorem isBrokenColor_of_colorOf {word : String} (broken : colorOf word = .error .brokenColor) :
    IsBrokenColor word.toList := by
  unfold colorOf at broken
  dsimp only at broken
  split at broken
  · cases broken
  · split at broken
    · cases broken
    · next parts found =>
      split at broken
      · next bad => exact isBrokenColor_of_mixedParts? found bad
      · split at broken <;> cases broken

/-- Reading words breaks off only at a broken colour. -/
theorem exists_broken_of_read {style : Style} {words : List String}
    (broken : Style.read style words = .error .brokenColor) :
    ∃ word ∈ words, IsBrokenColor word.toList := by
  have behind {rest words : List String} (known : ∃ word ∈ rest, IsBrokenColor word.toList)
      (later : rest ⊆ words) : ∃ word ∈ words, IsBrokenColor word.toList :=
    known.imp fun word found => ⟨later found.1, found.2⟩
  have skipped (first second : String) (rest : List String) : rest ⊆ first :: second :: rest :=
    fun word inside => List.mem_cons_of_mem _ (List.mem_cons_of_mem _ inside)
  fun_induction Style.read style words with
  | case1 => cases broken
  | case2 => cases broken
  | case3 _ first name _ second rest _ _ _ ih =>
    exact behind (ih broken) (skipped first second rest)
  | case4 _ first name _ second rest _ fault bad =>
    cases broken
    exact ⟨second, by simp, isBrokenColor_of_colorOf bad⟩
  | case5 _ first name _ second rest _ _ _ _ ih =>
    exact behind (ih broken) (skipped first second rest)
  | case6 => cases broken
  | case7 _ first name _ second rest _ _ ih => exact behind (ih broken) (skipped first second rest)
  | case8 _ first rest name _ _ _ ih => exact behind (ih broken) (List.subset_cons_self ..)
  | case9 _ first rest name _ _ _ _ ih => exact behind (ih broken) (List.subset_cons_self ..)
  | case10 _ first rest name _ _ fault bad =>
    cases broken
    exact ⟨first, by simp, isBrokenColor_of_colorOf bad⟩

/-- Reading a style breaks off only at a word for a broken colour. -/
theorem exists_broken_of_breaksOff {text : List Char} (broken : breaksOff text = true) :
    ∃ word ∈ wordsFrom [] text, IsBrokenColor word := by
  unfold breaksOff at broken
  split at broken
  · next failed =>
    unfold styleOf at failed
    split at failed
    · cases failed
    · obtain ⟨word, among, bad⟩ := exists_broken_of_read failed
      obtain ⟨chars, inside, rfl⟩ := List.mem_map.mp among
      rw [String.toList_ofList] at bad
      exact ⟨chars, inside, bad⟩
  · cases broken

end Terminal

end ShellVet

namespace ShellVet.Terminal.Markup

variable {text style : List Char} {stack : List Opened} {console : Console}

/-- No bracket of the text stands in front of a slash. -/
def Unclosed (text : List Char) : Prop := ¬ ['[', '/'] <:+: text

instance : DecidablePred Unclosed :=
  fun text => inferInstanceAs (Decidable (¬ ['[', '/'] <:+: text))

theorem Unclosed.of_infix {part : List Char} (unclosed : Unclosed text) (within : part <:+: text) :
    Unclosed part :=
  fun bracket => unclosed (bracket.trans within)

theorem unclosed_cons_iff {c : Char} :
    Unclosed (c :: text) ↔ ¬ (c = '[' ∧ text.head? = some '/') ∧ Unclosed text := by
  have start : ['[', '/'] <+: c :: text ↔ c = '[' ∧ text.head? = some '/' := by
    cases text <;> simp [List.cons_prefix_cons, eq_comm]
  unfold Unclosed
  rw [List.infix_cons_iff, not_or, start]

/-- A blank keeps a bracket in front of it from a slash behind it. -/
theorem Unclosed.append_blank {front : List Char} (unclosedFront : Unclosed front)
    (unclosed : Unclosed text) : Unclosed (front ++ ' ' :: text) := by
  induction front with
  | nil => exact unclosed_cons_iff.mpr ⟨by simp, unclosed⟩
  | cons c front ih =>
    rcases unclosed_cons_iff.mp unclosedFront with ⟨apart, unclosedRest⟩
    refine unclosed_cons_iff.mpr ⟨?_, ih unclosedRest⟩
    cases front with
    | nil => simp
    | cons d front => exact apart

/-- The action switches a style on. -/
def Action.Opens (action : Action) : Prop := ∃ opened, action = .open opened

/-- A tag that starts with no slash switches a style on, unless its name breaks off reading. -/
theorem action_of_head? {mark : Tag} (other : mark.inside.head? ≠ some '/') :
    mark.action.Opens ∨
      mark.action = .breakOff ∧ breaksOff (mark.inside.takeWhile (· != '=')) = true := by
  unfold Tag.action
  split
  case h_1 name taken =>
    have first : (mark.inside.takeWhile (· != '=')).head? = some '/' := by rw [taken]; rfl
    cases inside : mark.inside with
    | nil =>
      rw [inside] at first
      cases first
    | cons c rest =>
      rw [inside] at first other
      rw [List.takeWhile_cons] at first
      split at first
      · exact absurd first other
      · cases first
  case h_2 name _ =>
    split
    · next breaks => exact .inr ⟨rfl, breaks⟩
    · exact .inl ⟨_, rfl⟩

/-- No tag of a text that closes nothing starts with a slash. -/
theorem Unclosed.head?_ne {mark : Tag} (unclosed : Unclosed text)
    (among : .tag mark ∈ parts text) : mark.inside.head? ≠ some '/' := by
  fun_induction parts text with
  | case1 => cases among
  | case2 c rest tag after found _ ih =>
    have whole := eq_of_slashedTag? found
    rcases List.mem_cons.mp among with same | later
    · cases same
      intro slash
      rcases List.head?_eq_some_iff.mp slash with ⟨name, same⟩
      refine unclosed ⟨List.replicate mark.slashes '\\', name ++ ']' :: after, ?_⟩
      rw [whole, same]
      simp
    · refine ih (unclosed.of_infix ?_) later
      refine ⟨List.replicate tag.slashes '\\' ++ '[' :: tag.inside ++ [']'], [], ?_⟩
      rw [whole]
      simp
  | case3 c rest noTag ih =>
    have later : .tag mark ∈ parts rest := by simpa using among
    exact ih (unclosed.of_infix (List.suffix_cons c rest).isInfix) later

/-- The actions of parts are those of the tags that are not protected. -/
theorem mem_actions_iff {action : Action} {pieces : List Part} :
    action ∈ actions pieces ↔
      ∃ mark : Tag, .tag mark ∈ pieces ∧ mark.slashes % 2 = 0 ∧ mark.action = action := by
  induction pieces with
  | nil => simp [actions]
  | cons part pieces ih =>
    cases part with
    | char c => simp [actions, ih]
    | tag first =>
      rw [actions]
      split
      · next odd =>
        have notEven : first.slashes % 2 ≠ 0 := by simp at odd; omega
        rw [ih]
        simp [or_and_right, exists_or, notEven]
      · next other =>
        have even : first.slashes % 2 = 0 := by simp at other; omega
        rw [List.mem_cons, ih]
        simp [or_and_right, exists_or, even, eq_comm]

theorem active_unclosed (unclosed : Unclosed text) :
    ∀ action ∈ active text, action.Opens ∨ action = .breakOff := by
  intro action among
  obtain ⟨mark, inside, -, rfl⟩ := mem_actions_iff.mp among
  exact (action_of_head? (unclosed.head?_ne inside)).imp_right And.left

/-- Styles that are switched on stay on until what comes later. -/
theorem runs_append_of_opens {opens : List Action}
    (all : ∀ action ∈ opens, action.Opens ∧ action.isSound = true) (stack : List Opened) :
    ∃ styles, ∀ later,
      runs console stack (opens ++ later) = runs console (styles ++ stack) later := by
  induction opens generalizing stack with
  | nil => exact ⟨[], fun _ => rfl⟩
  | cons action opens ih =>
    obtain ⟨⟨⟨opened, rfl⟩, sound⟩, others⟩ := List.forall_mem_cons.mp all
    obtain ⟨styles, same⟩ := ih others (opened :: stack)
    refine ⟨styles ++ [opened], fun later => ?_⟩
    rw [List.append_assoc, List.cons_append, runs, sound]
    exact same later

/-- No colour that the text names is broken: neither in the name of a tag, nor where the style of
one is looked up. -/
structure Sound (text : List Char) : Prop where
  named : .breakOff ∉ active text
  looked : ∀ action ∈ active text, action.isSound = true

theorem Sound.of_active {other : List Char} (sound : Sound other)
    (same : active text = active other) : Sound text :=
  ⟨same ▸ sound.named, same ▸ sound.looked⟩

/-- A style that a text looks up: the name of a tag that is not protected, up to an equals sign, or
a style that is switched on with what stands behind that sign. -/
inductive LooksUp (text : List Char) : List Char → Prop
  | name {mark : Tag} (inside : .tag mark ∈ parts text) (even : mark.slashes % 2 = 0) :
      LooksUp text (mark.inside.takeWhile (· != '='))
  | opened {opened : Opened} (among : .open opened ∈ active text) : LooksUp text opened.style

/-- A text that closes nothing and is not sound looks up a style with a word for a broken colour. -/
theorem exists_broken_of_not_sound (unclosed : Unclosed text) (unsound : ¬ Sound text) :
    ∃ style, LooksUp text style ∧ ∃ word ∈ wordsFrom [] style, IsBrokenColor word := by
  by_cases named : .breakOff ∈ active text
  · obtain ⟨mark, inside, even, breaks⟩ := mem_actions_iff.mp named
    rcases action_of_head? (unclosed.head?_ne inside) with ⟨opened, opens⟩ | ⟨-, breaksHere⟩
    · cases opens.symm.trans breaks
    · exact ⟨_, .name inside even, exists_broken_of_breaksOff breaksHere⟩
  · have unlooked : ∃ action ∈ active text, action.isSound = false := by
      by_contra none
      refine unsound ⟨named, fun action among => ?_⟩
      exact Bool.not_eq_false _ |>.mp fun bad => none ⟨action, among, bad⟩
    obtain ⟨action, among, bad⟩ := unlooked
    cases action with
    | «open» opened =>
      refine ⟨_, .opened among, exists_broken_of_breaksOff ?_⟩
      simpa [Action.isSound] using bad
    | _ => cases bad

/-- The actions of a sound text that closes nothing switch styles on that can be looked up. -/
theorem opens_of_sound (unclosed : Unclosed text) (sound : Sound text) :
    ∀ action ∈ active text, action.Opens ∧ action.isSound = true := by
  intro action among
  refine ⟨(active_unclosed unclosed action among).resolve_right ?_, sound.looked action among⟩
  rintro rfl
  exact sound.named among

theorem runs_unclosed (unclosed : Unclosed text) (sound : Sound text) :
    runs console stack (active text) = true := by
  obtain ⟨styles, kept⟩ := runs_append_of_opens (opens_of_sound unclosed sound) stack
  have none := kept []
  rw [List.append_nil] at none
  rw [none]
  rfl

/-- A sound text that closes nothing can stand between the tags of a style. -/
theorem runs_styled_unclosed (fits : isStyle style = true) (unclosed : Unclosed text)
    (sound : Sound text) :
    runs console stack
      (active ('[' :: style ++ ']' :: (text ++ ('[' :: ('/' :: style) ++ [']'])))) = true := by
  have opens : closes ('[' :: ('/' :: style) ++ [']']) = false := rfl
  -- The last backslashes of the text may protect the tag behind it.
  rcases parts_append text opens with ⟨pieces, count, whole, same⟩
  have quiet : active (text ++ ('[' :: ('/' :: style) ++ [']'])) =
      actions pieces ++ if count % 2 == 1 then [] else [.close (normalName style)] := by
    have closing : active (List.replicate count '\\' ++ '[' :: ('/' :: style) ++ ']' :: []) = _ :=
      active_closing fits count
    rw [active_nil, List.append_assoc] at closing
    rw [active, same, actions_append, ← closing]
    rfl
  have inText : ∀ action ∈ actions pieces, action ∈ active text := by
    intro action among
    rw [active, whole, actions_append]
    exact List.mem_append_left _ among
  have all : ∀ action ∈ actions pieces, action.Opens ∧ action.isSound = true :=
    fun action among => opens_of_sound unclosed sound action (inText action among)
  rcases runs_append_of_opens all (styleNamed style :: stack) with ⟨styles, kept⟩
  rw [active_opening fits, quiet, runs, isSound_of_isStyle fits, Action.apply, Bool.true_and]
  dsimp only
  rw [kept]
  split
  · rfl
  · have present : (styles ++ styleNamed style :: stack).any (·.name == normalName style) =
        true := by
      simp [styleNamed]
    rw [runs, apply_close fits, if_pos present]
    rfl

end ShellVet.Terminal.Markup
