import Mathlib.Data.List.DropRight
import ShellVet.Proofs.Terminal.Markup

/-!
# What an escaped text shows

An escaped text in front of a tag is shown as the text, with two differences (`renderParts_escape`).
A backslash in front of a bracket that starts no tag is lost, for escaping leaves it alone and
rendering drops it. Of the backslashes that the text ends with only a single one is doubled: of more
than one, half are lost, and an odd number of them protects the tag. A text is shown as it is
exactly when it has neither (`exposed_eq_self_iff`).
-/

namespace ShellVet.Terminal.Markup

variable {text rest tail inside style : List Char} {stack : List Opened} {console : Console}
  {c : Char}

/-! ## The end of a text -/

/-- The text without the backslashes that it ends with. -/
def stem (text : List Char) : List Char := text.rdropWhile (· == '\\')

/-- The number of backslashes that a text ends with. -/
def trailing (text : List Char) : Nat := (text.rtakeWhile (· == '\\')).length

theorem stem_append_trailing (text : List Char) :
    stem text ++ List.replicate (trailing text) '\\' = text := by
  have slashes : text.rtakeWhile (· == '\\') = List.replicate (trailing text) '\\' :=
    List.eq_replicate_of_mem fun c among => by simpa using List.mem_rtakeWhile_imp among
  unfold stem
  rw [← slashes, List.rdropWhile_append_rtakeWhile]

theorem getLast?_stem (text : List Char) : (stem text).getLast? ≠ some '\\' := by
  intro ends
  rcases List.getLast?_eq_some_iff.mp ends with ⟨front, whole⟩
  have filled : stem text ≠ [] := by simp [whole]
  have last : (stem text).getLast filled = '\\' := by simp only [whole, List.getLast_concat]
  exact List.rdropWhile_last_not (· == '\\') text filled (beq_iff_eq.mpr last)

theorem getLast?_of_trailing_ne_zero (some : trailing text ≠ 0) : text.getLast? = .some '\\' := by
  rcases Nat.exists_eq_succ_of_ne_zero some with ⟨count, same⟩
  rw [← stem_append_trailing text, same, List.replicate_succ', ← List.append_assoc,
    List.getLast?_concat]

/-- Whatever the spelling of its tags, a text ends with the same character. -/
theorem getLast?_respelled (slashes : Nat → Nat) (text : List Char) :
    (respelled slashes text).getLast? = text.getLast? := by
  have same (slashes more : Nat → Nat) (part : Part) :
      (part.spelled slashes).getLast? = (part.spelled more).getLast? := by
    cases part with
    | char c => rfl
    | tag mark =>
      simp only [Part.spelled, Tag.bracketed, ← List.append_assoc, List.getLast?_concat]
  conv_rhs => rw [← respelled_id text]
  unfold respelled
  rw [List.getLast?_flatMap, List.getLast?_flatMap]
  simp only [same slashes id]

/-- In another spelling, a text that ends with no backslash has the same parts with other
backslashes, whatever follows it. -/
theorem parts_respelled_append_of_getLast? (slashes : Nat → Nat)
    (ends : text.getLast? ≠ some '\\') (opens : closes tail = false) :
    parts (respelled slashes text ++ tail) =
      (parts text).map (Part.reslashed slashes) ++ parts tail := by
  rcases parts_respelled_append slashes text opens with ⟨pieces, count, whole, same⟩
  cases count with
  | zero => simpa [whole] using same
  | succ count =>
    refine absurd ?_ ends
    rw [← getLast?_respelled id]
    unfold respelled
    rw [whole, List.replicate_succ', ← List.append_assoc, List.flatMap_append]
    simp [Part.spelled]

/-- The backslashes that escaping leaves at the end of a text: a single one is doubled. -/
def closed (count : Nat) : Nat := if count = 1 then 2 else count

theorem closed_of_le_one {count : Nat} (single : count ≤ 1) :
    closed count / 2 = count ∧ closed count % 2 = 0 := by
  unfold closed
  split <;> omega

theorem closeSlash_append_backslashes (ends : text.getLast? ≠ some '\\') (count : Nat) :
    closeSlash (text ++ List.replicate count '\\') =
      text ++ List.replicate (closed count) '\\' := by
  have single : ¬ ['\\'] <:+ text := by
    rintro ⟨front, rfl⟩
    exact ends List.getLast?_concat
  unfold closeSlash
  rcases count with _ | _ | count
  · have kept : ['\\'].isSuffixOf text = false := by
      rwa [Bool.eq_false_iff, ne_eq, List.isSuffixOf_iff_suffix]
    simp [kept, closed]
  · have one : ['\\'].isSuffixOf (text ++ ['\\']) = true :=
      List.isSuffixOf_iff_suffix.mpr ⟨text, rfl⟩
    have notTwo : ['\\', '\\'].isSuffixOf (text ++ ['\\']) = false := by
      rw [Bool.eq_false_iff, ne_eq, List.isSuffixOf_iff_suffix]
      rintro ⟨front, whole⟩
      have same : (front ++ ['\\']) ++ ['\\'] = text ++ ['\\'] := by simpa using whole
      exact single ⟨front, List.append_cancel_right same⟩
    simp [one, notTwo, closed]
  · have two : ['\\', '\\'].isSuffixOf
        (text ++ List.replicate (count + 1 + 1) '\\') = true :=
      List.isSuffixOf_iff_suffix.mpr
        ⟨text ++ List.replicate count '\\', by simp [List.replicate_succ']⟩
    simp [two, closed]

theorem closes_replicate (count : Nat) : closes (List.replicate count '\\') = false := by
  have same : closes (List.replicate count '\\' ++ []) = closes [] := closes_backslashes count
  rwa [List.append_nil] at same

/-- An escaped text is its tags guarded, and the backslashes at its end. -/
theorem escape_eq (text : List Char) :
    escape text =
      respelled guards (stem text) ++ List.replicate (closed (trailing text)) '\\' := by
  have read : parts text = parts (stem text) ++ parts (List.replicate (trailing text) '\\') := by
    have same := parts_respelled_append_of_getLast? id (getLast?_stem text)
      (closes_replicate (trailing text))
    rwa [respelled_id, stem_append_trailing, map_reslashed_id] at same
  have ends : (respelled guards (stem text)).getLast? ≠ some '\\' := by
    rw [getLast?_respelled]
    exact getLast?_stem text
  have spelledEnd : respelled guards text =
      respelled guards (stem text) ++ List.replicate (trailing text) '\\' := by
    unfold respelled
    rw [read, List.flatMap_append, parts_backslashes]
    simp [List.flatMap_replicate, Part.spelled]
  rw [escape_eq_closeSlash, spelledEnd, closeSlash_append_backslashes ends]

/-- An escaped text in front of a tag: its own tags are protected, and its last backslashes belong
to the tag. -/
theorem parts_escape_append (text : List Char) (fits : isInside inside = true) :
    parts (escape text ++ '[' :: inside ++ ']' :: rest) =
      (parts (stem text)).map (Part.reslashed guards) ++
        .tag ⟨closed (trailing text), inside⟩ :: parts rest := by
  have opens : closes (List.replicate (closed (trailing text)) '\\' ++
      '[' :: inside ++ ']' :: rest) = false := by
    rw [List.append_assoc, closes_backslashes]
    rfl
  have tagged : slashedTag? (List.replicate (closed (trailing text)) '\\' ++
      '[' :: inside ++ ']' :: rest) = some (⟨closed (trailing text), inside⟩, rest) :=
    slashedTag?_bracketed _ fits
  rw [escape_eq, ← parts_of_some tagged,
    ← parts_respelled_append_of_getLast? guards (getLast?_stem text) opens]
  simp only [List.append_assoc]

/-! ## What is shown -/

/-- The text without the backslashes in front of brackets that start no tag. -/
def unslashed : List Char → List Char
  | [] => []
  | c :: rest =>
    if c == '\\' && rest.head? == some '[' && (tag? rest).isNone then unslashed rest
    else c :: unslashed rest

theorem unslashed_slash_open (noTag : tag? ('[' :: rest) = none) :
    unslashed ('\\' :: '[' :: rest) = unslashed ('[' :: rest) := by
  conv_lhs => rw [unslashed]
  simp [noTag]

theorem unslashed_cons (other : c ≠ '\\' ∨ rest.head? ≠ some '[') :
    unslashed (c :: rest) = c :: unslashed rest := by
  rw [unslashed]
  rcases other with other | other <;> simp [other]

theorem unslashed_append_of_all {front : List Char} (plain : ∀ c ∈ front, c ≠ '[')
    (other : rest.head? ≠ some '[') : unslashed (front ++ rest) = front ++ unslashed rest := by
  induction front with
  | nil => rfl
  | cons c front ih =>
    have next : (front ++ rest).head? ≠ some '[' := by
      cases front with
      | nil => exact other
      | cons d front => simpa using plain d (by simp)
    rw [List.cons_append, unslashed_cons (.inr next),
      ih fun d among => plain d (List.mem_cons_of_mem c among), List.cons_append]

/-- A tag stays as it is, with all backslashes in front of it. -/
theorem unslashed_bracketed (count : Nat) (fits : isInside inside = true) :
    unslashed (List.replicate count '\\' ++ '[' :: inside ++ ']' :: rest) =
      List.replicate count '\\' ++ '[' :: inside ++ ']' :: unslashed rest := by
  have tagged : tag? ('[' :: (inside ++ ']' :: rest)) = some (inside, rest) :=
    tag?_bracketed fits
  have plain : ∀ c ∈ inside, c ≠ '[' := by
    rintro c among rfl
    have inTag : isTagChar '[' = true := isTagChar_of_isInside fits among
    cases inTag
  induction count with
  | zero =>
    simp only [List.replicate_zero, List.nil_append, List.cons_append]
    rw [unslashed_cons (.inl (by decide)), unslashed_append_of_all plain (by simp),
      unslashed_cons (.inl (by decide))]
  | succ count ih =>
    simp only [List.replicate_succ, List.cons_append, ← ih]
    rw [unslashed]
    cases count <;> simp [List.replicate_succ, tagged]

theorem renderParts_guarded (count : Nat) (after : List Part) :
    renderParts console stack (.tag ⟨guards count, inside⟩ :: after) =
      (renderParts console stack after).map
        ((List.replicate count '\\' ++ '[' :: inside ++ [']']) ++ ·) := by
  have odd : guards count % 2 = 1 := by simp [guards]
  have half : guards count / 2 = count := by unfold guards; omega
  rw [renderParts]
  simp [odd, half, Tag.bracketed]

theorem renderParts_char {after : List Part}
    (other : c ≠ '\\' ∨ after.head? ≠ some (.char '[')) :
    renderParts console stack (.char c :: after) =
      (renderParts console stack after).map (c :: ·) := by
  rw [renderParts]
  rintro more rfl rfl
  simp at other

/-- Guarded parts in front of a tag start with a bracket only if the text does. -/
theorem head?_guarded_append {tag : Tag} {after : List Part} (other : text.head? ≠ some '[') :
    ((parts text).map (Part.reslashed guards) ++ .tag tag :: after).head? ≠ some (.char '[') := by
  cases text with
  | nil =>
    rw [parts]
    simp
  | cons c rest =>
    cases found : slashedTag? (c :: rest) with
    | some tagged =>
      rw [parts_of_some found]
      simp [Part.reslashed]
    | none =>
      rw [parts_cons_of_none found]
      simpa [Part.reslashed] using other

/-- Guarded parts in front of a tag are shown as the text that they come from, but for its
backslashes in front of brackets that start no tag. -/
theorem renderParts_guarded_append (text : List Char) (tag : Tag) (after : List Part) :
    renderParts console stack ((parts text).map (Part.reslashed guards) ++ .tag tag :: after) =
      (renderParts console stack (.tag tag :: after)).map (unslashed text ++ ·) := by
  have map_map {f g : List Char → List Char} (shown : Except Fault (List Char)) :
      (shown.map f).map g = shown.map (g ∘ f) := by
    cases shown <;> rfl
  fun_induction parts text with
  | case1 =>
    rw [List.map_nil, List.nil_append]
    cases renderParts console stack (.tag tag :: after) <;> rfl
  | case2 c rest mark later found _ ih =>
    rw [eq_of_slashedTag? found, unslashed_bracketed _ (isInside_of_slashedTag? found),
      List.map_cons, Part.reslashed, List.cons_append, renderParts_guarded, ih, map_map]
    simp [Function.comp_def]
  | case3 c rest noTag ih =>
    rw [List.map_cons, Part.reslashed, List.cons_append]
    by_cases dropped : c = '\\' ∧ rest.head? = some '['
    · -- The bracket starts no tag, as the backslash would stand in front of it.
      rcases dropped with ⟨rfl, starts⟩
      rcases List.head?_eq_some_iff.mp starts with ⟨more, rfl⟩
      have noTagHere : tag? ('[' :: more) = none :=
        (slashedTag?_cons_of_ne (by decide)).mp (slashedTag?_backslash.mp noTag)
      rw [unslashed_slash_open noTagHere, ← ih, parts_cons_of_none (slashedTag?_backslash.mp noTag)]
      rfl
    · have kept : c ≠ '\\' ∨ rest.head? ≠ some '[' := not_and_or.mp dropped
      have keptParts : c ≠ '\\' ∨ ((parts rest).map (Part.reslashed guards) ++
          .tag tag :: after).head? ≠ some (.char '[') :=
        kept.imp_right head?_guarded_append
      rw [renderParts_char keptParts, unslashed_cons kept, ih, map_map]
      rfl

/-- What is shown of an escaped text with the tag behind it that closes its style. -/
def exposed (style text : List Char) : List Char :=
  unslashed (stem text) ++ List.replicate (closed (trailing text) / 2) '\\' ++
    if closed (trailing text) % 2 == 1 then '[' :: ('/' :: style) ++ [']'] else []

theorem renderParts_escape (text : List Char) (fits : isStyle style = true)
    (on : stack.any (·.name == normalName style) = true) :
    renderParts console stack (parts (escape text ++ '[' :: ('/' :: style) ++ [']'])) =
      .ok (exposed style text) := by
  have nothing : parts [] = [] := by rw [parts]
  have closing : (Tag.mk (closed (trailing text)) ('/' :: style)).action.apply console stack =
      .ok (stack.eraseP (·.name == normalName style)) := by
    rw [action_closing_of_isStyle fits, apply_close fits, if_pos on]
  rw [parts_escape_append text (isInside_closing fits), renderParts_guarded_append, nothing,
    renderParts, closing]
  unfold exposed
  split <;> simp [renderParts, Except.map, Tag.bracketed, List.append_assoc]

/-! ## Texts that are shown as they are -/

/-- A text of which escaping and rendering lose nothing. -/
structure Faithful (text : List Char) : Prop where
  /-- A bracket behind a backslash starts a tag. -/
  bracket : ∀ front after, text = front ++ '\\' :: '[' :: after → tag? ('[' :: after) ≠ none
  /-- There is at most one backslash at the end. -/
  ending : ¬ ['\\', '\\'] <:+ text

theorem unslashed_sublist (text : List Char) : (unslashed text).Sublist text := by
  induction text with
  | nil => exact .slnil
  | cons c rest ih =>
    rw [unslashed]
    split
    · exact ih.cons c
    · exact ih.cons_cons c

theorem unslashed_eq_self_iff :
    unslashed text = text ↔
      ∀ front after, text = front ++ '\\' :: '[' :: after → tag? ('[' :: after) ≠ none := by
  induction text with
  | nil => simp [unslashed]
  | cons c rest ih =>
    by_cases dropped : (c == '\\' && rest.head? == some '[' && (tag? rest).isNone) = true
    · have shorter : unslashed (c :: rest) ≠ c :: rest := by
        intro same
        rw [unslashed, if_pos dropped] at same
        have bound := (unslashed_sublist rest).length_le
        rw [same, List.length_cons] at bound
        omega
      simp only [Bool.and_eq_true, beq_iff_eq, Option.isNone_iff_eq_none] at dropped
      rcases dropped with ⟨⟨rfl, starts⟩, noTag⟩
      rcases List.head?_eq_some_iff.mp starts with ⟨more, rfl⟩
      exact iff_of_false shorter fun all => all [] more rfl noTag
    · rw [unslashed, if_neg dropped]
      constructor
      · intro same front after whole
        cases front with
        | nil =>
          cases whole
          simpa using dropped
        | cons d front =>
          cases whole
          exact ih.mp (List.cons.inj same).2 front after rfl
      · intro all
        exact congrArg (c :: ·) (ih.mpr fun front after whole =>
          all (c :: front) after (congrArg (c :: ·) whole))

theorem tag?_append (rest : List Char) (opens : closes tail = false) :
    tag? ('[' :: (rest ++ tail)) = none ↔ tag? ('[' :: rest) = none := by
  constructor
  · intro noTag
    by_contra someTag
    rcases Option.ne_none_iff_exists'.mp someTag with ⟨⟨inside, after⟩, found⟩
    rcases spelled_of_tag? found with ⟨fits, whole⟩
    have longer : '[' :: (rest ++ tail) = '[' :: inside ++ ']' :: (after ++ tail) := by
      rw [← List.cons_append, whole]
      simp
    rw [longer, tag?_bracketed fits] at noTag
    cases noTag
  · intro noTag
    have same := tag?_respelled_append id opens noTag
    rwa [respelled_id] at same

theorem unslashed_append_backslashes (text : List Char) (count : Nat) :
    unslashed (text ++ List.replicate count '\\') =
      unslashed text ++ List.replicate count '\\' := by
  induction text with
  | nil =>
    refine unslashed_eq_self_iff.mpr fun front after whole => ?_
    have among : '[' ∈ List.replicate count '\\' := by
      rw [← List.nil_append (List.replicate count '\\'), whole]
      simp
    cases List.eq_of_mem_replicate among
  | cons c rest ih =>
    have alike : ((rest ++ List.replicate count '\\').head? == some '[' &&
        (tag? (rest ++ List.replicate count '\\')).isNone) =
          (rest.head? == some '[' && (tag? rest).isNone) := by
      cases rest with
      | nil => cases count <;> simp [List.replicate_succ]
      | cons d more =>
        by_cases bracket : d = '['
        · subst bracket
          have both := tag?_append more (closes_replicate count)
          rw [← Option.isNone_iff_eq_none, ← Option.isNone_iff_eq_none, ← Bool.eq_iff_iff] at both
          rw [List.cons_append, both]
          rfl
        · have other : (d == '[') = false := beq_false_of_ne bracket
          simp [other]
    rw [List.cons_append, unslashed, unslashed, Bool.and_assoc, Bool.and_assoc, alike, ih]
    split <;> rfl

theorem trailing_le_one_iff : trailing text ≤ 1 ↔ ¬ ['\\', '\\'] <:+ text := by
  constructor
  · rintro single ⟨front, rfl⟩
    have two : front ++ ['\\', '\\'] = (front ++ ['\\']) ++ ['\\'] := by simp
    unfold trailing at single
    rw [two, List.rtakeWhile_concat_pos _ _ _ rfl, List.rtakeWhile_concat_pos _ _ _ rfl] at single
    simp at single
  · intro ending
    by_contra more
    rcases Nat.exists_eq_add_of_le (Nat.lt_of_not_le more) with ⟨size, count⟩
    refine ending ⟨stem text ++ List.replicate size '\\', ?_⟩
    conv_rhs => rw [← stem_append_trailing text, count, Nat.add_comm, List.replicate_add]
    simp

/-- What is shown of a text and the tag behind it is the text exactly when nothing of it is lost. -/
theorem exposed_eq_self_iff : exposed style text = text ↔ Faithful text := by
  have whole := stem_append_trailing text
  have kept : unslashed text = text ↔ unslashed (stem text) = stem text := by
    conv_lhs => rw [← whole, unslashed_append_backslashes]
    exact List.append_left_inj _
  unfold exposed
  constructor
  · intro same
    have even : (closed (trailing text) % 2 == 1) = false := by
      by_contra odd
      rw [Bool.not_eq_false] at odd
      rw [if_pos odd] at same
      have some : trailing text ≠ 0 := by
        intro none
        rw [none] at odd
        cases odd
      -- The tag would end what is shown, and the text ends with a backslash.
      have bracket : text.getLast? = .some ']' := by
        rw [← same, ← List.append_assoc, List.getLast?_concat]
      rw [getLast?_of_trailing_ne_zero some] at bracket
      cases bracket
    rw [even, if_neg Bool.false_ne_true, List.append_nil] at same
    have lengths := congrArg List.length (same.trans whole.symm)
    have shorter := (unslashed_sublist (stem text)).length_le
    simp only [List.length_append, List.length_replicate] at lengths
    have half : closed (trailing text) / 2 ≤ trailing text := by
      unfold closed
      split <;> omega
    have single : trailing text ≤ 1 := by
      unfold closed at lengths
      split at lengths <;> omega
    have stemKept : unslashed (stem text) = stem text :=
      (List.append_inj (same.trans whole.symm) (by omega)).1
    exact ⟨unslashed_eq_self_iff.mp (kept.mpr stemKept), trailing_le_one_iff.mp single⟩
  · intro faithful
    have single := trailing_le_one_iff.mpr faithful.ending
    have stemKept := kept.mp (unslashed_eq_self_iff.mpr faithful.bracket)
    rcases closed_of_le_one single with ⟨half, even⟩
    rw [stemKept, half, even, whole]
    simp

end ShellVet.Terminal.Markup
