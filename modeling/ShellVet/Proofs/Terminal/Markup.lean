import Mathlib.Data.List.TakeWhile
import ShellVet.Terminal.Markup

/-!
# Escaped texts in markup

Whether markup can be rendered depends on its active tags alone, those that no backslash protects
(`renderParts_of_runs`). An escaped text has none, wherever it stands: what follows it is read as if
nothing but backslashes stood in front of it (`active_escape`). These are the backslashes that the
text ends with, so a tag right behind it may turn out protected, but no new tag arises.
-/

namespace ShellVet.Terminal.Markup

variable {text rest tail inside after : List Char} {stack : List Opened} {c first : Char}
  {console : Console}

/-! ## The actions of a text -/

/-- The actions of parts: those of the tags that are not protected. -/
def actions : List Part → List Action
  | [] => []
  | .char _ :: rest => actions rest
  | .tag tag :: rest =>
    if tag.slashes % 2 == 1 then actions rest else tag.action :: actions rest

theorem actions_append (front back : List Part) :
    actions (front ++ back) = actions front ++ actions back := by
  induction front with
  | nil => rfl
  | cons part front ih =>
    cases part with
    | char c => exact ih
    | tag mark =>
      rw [List.cons_append, actions, actions, ih]
      split <;> rfl

/-- Whether the style that the action switches on can be looked up, if it switches one on. -/
def Action.isSound : Action → Bool
  | .open opened => !breaksOff opened.style
  | _ => true

/-- Whether actions can be carried out one after another, and the styles that they switch on looked
up. -/
def runs (console : Console) (stack : List Opened) : List Action → Bool
  | [] => true
  | action :: rest =>
    action.isSound &&
      match action.apply console stack with
      | .ok next => runs console next rest
      | .error _ => false

theorem isSound_of_runs {tasks : List Action} (carried : runs console stack tasks = true) :
    ∀ action ∈ tasks, action.isSound = true := by
  induction tasks generalizing stack with
  | nil => nofun
  | cons action tasks ih =>
    obtain ⟨sound, goes⟩ := Bool.and_eq_true_iff.mp carried
    refine List.forall_mem_cons.mpr ⟨sound, ?_⟩
    split at goes
    · exact ih goes
    · cases goes

/-- The actions of a text. -/
def active (text : List Char) : List Action := actions (parts text)

theorem active_nil : active [] = [] := by
  unfold active
  rw [parts]
  rfl

/-- Parts whose actions can be carried out are shown. -/
theorem renderParts_of_runs {pieces : List Part}
    (carried : runs console stack (actions pieces) = true) :
    ∃ shown, renderParts console stack pieces = .ok shown := by
  fun_induction renderParts console stack pieces with
  | case1 => exact ⟨[], rfl⟩
  | case2 stack rest ih =>
    obtain ⟨shown, found⟩ := ih carried
    exact ⟨_, by rw [found]; rfl⟩
  | case3 stack c rest notBracket ih =>
    obtain ⟨shown, found⟩ := ih carried
    exact ⟨_, by rw [found]; rfl⟩
  | case4 stack tag rest slashes odd ih =>
    obtain ⟨shown, found⟩ := ih (by simpa only [actions, odd, if_true] using carried)
    exact ⟨_, by rw [found]; rfl⟩
  | case5 stack tag rest slashes even next applied ih =>
    simp only [actions, even, if_false, runs, applied, Bool.false_eq_true] at carried
    obtain ⟨shown, found⟩ := ih (Bool.and_eq_true_iff.mp carried).2
    exact ⟨_, by rw [found]; rfl⟩
  | case6 stack tag rest even fault refused =>
    simp only [actions, even, if_false, runs, refused, Bool.false_eq_true, Bool.and_false]
      at carried

/-! ## Reading parts one after another -/

/-- Whether the first bracket of a text closes a tag. -/
def closes (text : List Char) : Bool := (text.dropWhile isTagChar).head? == some ']'

theorem closes_cons_of_isTagChar (inTag : isTagChar c = true) :
    closes (c :: rest) = closes rest := by
  unfold closes
  rw [List.dropWhile_cons_of_pos inTag]

theorem closes_cons_open : closes ('[' :: rest) = false := rfl

theorem closes_backslashes (count : Nat) :
    closes (List.replicate count '\\' ++ rest) = closes rest := by
  induction count with
  | zero => rfl
  | succ count ih => rw [List.replicate_succ, List.cons_append, closes_cons_of_isTagChar rfl, ih]

theorem tag?_eq_none_iff :
    tag? ('[' :: first :: rest) = none ↔ isTagStart first = false ∨ closes rest = false := by
  unfold tag? closes
  cases starts : isTagStart first with
  | false => simp [starts]
  | true =>
    cases left : rest.dropWhile isTagChar with
    | nil => simp [starts, left]
    | cons c after => by_cases closing : c = ']' <;> simp [starts, left, closing]

theorem tag?_cons_of_ne (other : c ≠ '[') : tag? (c :: rest) = none := by
  unfold tag?
  split
  case h_1 same => exact absurd (List.cons.inj same).1 other
  case h_2 => rfl

theorem slashedTag?_eq_none_iff :
    slashedTag? text = none ↔ tag? (text.dropWhile (· == '\\')) = none :=
  Option.map_eq_none_iff

theorem slashedTag?_backslash :
    slashedTag? ('\\' :: rest) = none ↔ slashedTag? rest = none := by
  rw [slashedTag?_eq_none_iff, slashedTag?_eq_none_iff, List.dropWhile_cons_of_pos rfl]

theorem slashedTag?_cons_of_ne (notBackslash : c ≠ '\\') :
    slashedTag? (c :: rest) = none ↔ tag? (c :: rest) = none := by
  rw [slashedTag?_eq_none_iff, List.dropWhile_cons_of_neg (by simpa using notBackslash)]

theorem parts_cons_of_none (noTag : slashedTag? (c :: rest) = none) :
    parts (c :: rest) = .char c :: parts rest := by
  rw [parts]
  split
  case h_1 found => rw [noTag] at found; cases found
  case h_2 => rfl

theorem parts_of_some {tag : Tag} (found : slashedTag? text = some (tag, after)) :
    parts text = .tag tag :: parts after := by
  cases text with
  | nil => cases found
  | cons c rest =>
    rw [parts]
    split
    case h_1 other => rw [found] at other; cases other; rfl
    case h_2 noTag => rw [noTag] at found; cases found

/-- Whether characters can stand between the brackets of a tag. -/
def isInside : List Char → Bool
  | [] => false
  | first :: rest => isTagStart first && rest.all isTagChar

theorem isTagChar_of_isTagStart (starts : isTagStart first = true) : isTagChar first = true := by
  have notOpen : first ≠ '[' := by rintro rfl; cases starts
  have notClose : first ≠ ']' := by rintro rfl; cases starts
  simp [isTagChar, notOpen, notClose]

theorem isTagChar_of_isInside (fits : isInside inside = true) (among : c ∈ inside) :
    isTagChar c = true := by
  cases inside with
  | nil => cases among
  | cons first more =>
    obtain ⟨starts, inTag⟩ := Bool.and_eq_true_iff.mp fits
    rcases List.mem_cons.mp among with rfl | later
    · exact isTagChar_of_isTagStart starts
    · exact List.all_eq_true.mp inTag c later

/-- A tag that is found is spelled out at the start of the text. -/
theorem spelled_of_tag? (found : tag? text = some (inside, after)) :
    isInside inside = true ∧ text = '[' :: inside ++ ']' :: after := by
  unfold tag? at found
  split at found
  case h_1 first more =>
    split at found
    case isTrue starts =>
      split at found
      case h_1 closing =>
        obtain ⟨rfl, rfl⟩ := Prod.mk.inj (Option.some.inj found)
        have whole : more = more.takeWhile isTagChar ++ more.dropWhile isTagChar :=
          List.takeWhile_append_dropWhile.symm
        rw [closing] at whole
        exact ⟨by simp [isInside, starts], congrArg ('[' :: first :: ·) whole⟩
      case h_2 => cases found
    case isFalse => cases found
  case h_2 => cases found

theorem isInside_of_slashedTag? {tag : Tag} (found : slashedTag? text = some (tag, after)) :
    isInside tag.inside = true := by
  obtain ⟨⟨inside, rest⟩, inner, same⟩ := Option.map_eq_some_iff.mp found
  obtain ⟨rfl, rfl⟩ := Prod.mk.inj same
  exact (spelled_of_tag? inner).1

theorem eq_of_slashedTag? {tag : Tag} (found : slashedTag? text = some (tag, after)) :
    text = List.replicate tag.slashes '\\' ++ '[' :: tag.inside ++ ']' :: after := by
  obtain ⟨⟨inside, rest⟩, inner, same⟩ := Option.map_eq_some_iff.mp found
  obtain ⟨rfl, rfl⟩ := Prod.mk.inj same
  have slashes : text.takeWhile (· == '\\') =
      List.replicate (text.takeWhile (· == '\\')).length '\\' :=
    List.eq_replicate_of_mem fun c among => by simpa using List.mem_takeWhile_imp among
  rw [List.append_assoc, ← (spelled_of_tag? inner).2, ← slashes, List.takeWhile_append_dropWhile]

theorem tag?_bracketed (fits : isInside inside = true) :
    tag? ('[' :: inside ++ ']' :: rest) = some (inside, rest) := by
  cases inside with
  | nil => cases fits
  | cons first more =>
    obtain ⟨starts, inTag⟩ := Bool.and_eq_true_iff.mp fits
    have passes : ∀ c ∈ more, isTagChar c = true := List.all_eq_true.mp inTag
    have taken : (more ++ ']' :: rest).takeWhile isTagChar = more := by
      rw [List.takeWhile_append_of_pos passes, List.takeWhile_cons_of_neg (by decide),
        List.append_nil]
    have dropped : (more ++ ']' :: rest).dropWhile isTagChar = ']' :: rest := by
      rw [List.dropWhile_append_of_pos passes, List.dropWhile_cons_of_neg (by decide)]
    simp only [List.cons_append, tag?, starts, dropped, taken, if_true]

theorem slashedTag?_bracketed (count : Nat) (fits : isInside inside = true) :
    slashedTag? (List.replicate count '\\' ++ '[' :: inside ++ ']' :: rest) =
      some (⟨count, inside⟩, rest) := by
  have slashes : ∀ c ∈ List.replicate count '\\', (c == '\\') = true := by
    intro c inside
    rw [List.eq_of_mem_replicate inside]
    rfl
  unfold slashedTag?
  rw [List.append_assoc, List.dropWhile_append_of_pos slashes, List.takeWhile_append_of_pos slashes]
  rw [List.cons_append, List.dropWhile_cons_of_neg (by decide),
    List.takeWhile_cons_of_neg (by decide), ← List.cons_append, tag?_bracketed fits]
  simp

/-- Backslashes and a tag: an odd number of them protects it. -/
theorem active_bracketed (count : Nat) (fits : isInside inside = true) :
    active (List.replicate count '\\' ++ '[' :: inside ++ ']' :: rest) =
      if count % 2 == 1 then active rest else (Tag.mk count inside).action :: active rest := by
  unfold active
  rw [parts_of_some (slashedTag?_bracketed count fits), actions]

theorem active_cons_of_none (noTag : slashedTag? (c :: rest) = none) :
    active (c :: rest) = active rest := by
  unfold active
  rw [parts_cons_of_none noTag, actions]

/-- Backslashes in front of what starts with no tag protect nothing. -/
theorem active_backslashes (count : Nat) (noTag : slashedTag? rest = none) :
    active (List.replicate count '\\' ++ rest) = active rest := by
  have noTagBehind (size : Nat) : slashedTag? (List.replicate size '\\' ++ rest) = none := by
    induction size with
    | zero => exact noTag
    | succ size ih =>
      rw [List.replicate_succ, List.cons_append]
      exact slashedTag?_backslash.mpr ih
  induction count with
  | zero => rfl
  | succ count ih =>
    have noTagHere := noTagBehind (count + 1)
    rw [List.replicate_succ, List.cons_append] at noTagHere ⊢
    rw [active_cons_of_none noTagHere, ih]

/-! ## Respelled texts -/

/-- A part with as many backslashes in front of a tag as a function makes of theirs. -/
def Part.reslashed (slashes : Nat → Nat) : Part → Part
  | .char c => .char c
  | .tag mark => .tag ⟨slashes mark.slashes, mark.inside⟩

/-- The characters of a part, with as many backslashes in front of a tag. -/
def Part.spelled (slashes : Nat → Nat) : Part → List Char
  | .char c => [c]
  | .tag mark => List.replicate (slashes mark.slashes) '\\' ++ mark.bracketed

/-- The text with other numbers of backslashes in front of its tags. -/
def respelled (slashes : Nat → Nat) (text : List Char) : List Char :=
  (parts text).flatMap (Part.spelled slashes)

section Respelled

variable {slashes : Nat → Nat}

theorem respelled_nil : respelled slashes [] = [] := by
  unfold respelled
  rw [parts]
  rfl

theorem respelled_cons_of_none (noTag : slashedTag? (c :: rest) = none) :
    respelled slashes (c :: rest) = c :: respelled slashes rest := by
  unfold respelled
  rw [parts_cons_of_none noTag]
  rfl

theorem respelled_of_some {tag : Tag} (found : slashedTag? text = some (tag, after)) :
    respelled slashes text =
      List.replicate (slashes tag.slashes) '\\' ++
        '[' :: tag.inside ++ ']' :: respelled slashes after := by
  unfold respelled
  rw [parts_of_some found, List.flatMap_cons, Part.spelled, Tag.bracketed]
  simp

/-- A text is spelled with the backslashes that it has. -/
theorem respelled_id (text : List Char) : respelled id text = text := by
  fun_induction parts text with
  | case1 => exact respelled_nil
  | case2 c rest tag after found _ ih =>
    rw [respelled_of_some found, ih]
    exact (eq_of_slashedTag? found).symm
  | case3 c rest noTag ih => rw [respelled_cons_of_none noTag, ih]

/-- Another spelling closes no bracket. -/
theorem closes_respelled_append (opens : closes tail = false) (notClosed : closes text = false) :
    closes (respelled slashes text ++ tail) = false := by
  fun_induction parts text with
  | case1 => rwa [respelled_nil]
  | case2 c rest tag after found _ ih =>
    rw [respelled_of_some found, List.append_assoc, List.append_assoc, closes_backslashes]
    rfl
  | case3 c rest noTag ih =>
    rw [respelled_cons_of_none noTag, List.cons_append]
    by_cases isOpen : c = '['
    · rw [isOpen]
      rfl
    · have notClose : c ≠ ']' := by rintro rfl; cases notClosed
      have inTag : isTagChar c = true := by simp [isTagChar, isOpen, notClose]
      rw [closes_cons_of_isTagChar inTag] at notClosed ⊢
      exact ih notClosed

/-- A bracket that starts no tag starts none in another spelling either. -/
theorem tag?_respelled_append (slashes : Nat → Nat) (opens : closes tail = false)
    (noTag : tag? ('[' :: rest) = none) :
    tag? ('[' :: (respelled slashes rest ++ tail)) = none := by
  cases rest with
  | nil =>
    rw [respelled_nil, List.nil_append]
    cases tail with
    | nil => rfl
    | cons first more =>
      rw [tag?_eq_none_iff]
      cases starts : isTagStart first with
      | false => exact Or.inl rfl
      | true =>
        rw [closes_cons_of_isTagChar (isTagChar_of_isTagStart starts)] at opens
        exact Or.inr opens
  | cons first more =>
    cases found : slashedTag? (first :: more) with
    | some tagged =>
      -- What stands behind the bracket is a backslash or another bracket.
      rw [respelled_of_some found]
      cases slashes tagged.1.slashes <;> exact tag?_eq_none_iff.mpr (Or.inl rfl)
    | none =>
      rw [respelled_cons_of_none found, List.cons_append, tag?_eq_none_iff]
      rcases tag?_eq_none_iff.mp noTag with noStart | notClosed
      · exact Or.inl noStart
      · exact Or.inr (closes_respelled_append opens notClosed)

/-- Where a text starts with no tag, it starts with none in another spelling, unless it is all
backslashes: these may stand in front of a tag that follows. -/
theorem starts_respelled_append (opens : closes tail = false) (noTag : slashedTag? text = none) :
    (∃ count, text = List.replicate count '\\' ∧ respelled slashes text = text) ∨
      slashedTag? (respelled slashes text ++ tail) = none := by
  induction text with
  | nil => exact Or.inl ⟨0, rfl, respelled_nil⟩
  | cons c rest ih =>
    by_cases backslash : c = '\\'
    · subst backslash
      rw [respelled_cons_of_none noTag]
      rcases ih (slashedTag?_backslash.mp noTag) with ⟨count, rfl, kept⟩ | none
      · exact Or.inl ⟨count + 1, List.replicate_succ.symm, by rw [kept]⟩
      · exact Or.inr (slashedTag?_backslash.mpr none)
    · refine Or.inr ?_
      rw [respelled_cons_of_none noTag, List.cons_append, slashedTag?_cons_of_ne backslash]
      rw [slashedTag?_cons_of_ne backslash] at noTag
      by_cases bracket : c = '['
      · subst bracket
        exact tag?_respelled_append slashes opens noTag
      · exact tag?_cons_of_ne bracket

theorem parts_backslashes (count : Nat) :
    parts (List.replicate count '\\') = List.replicate count (.char '\\') := by
  have noTag (size : Nat) : slashedTag? (List.replicate size '\\') = none := by
    induction size with
    | zero => rfl
    | succ size ih => exact slashedTag?_backslash.mpr ih
  induction count with
  | zero =>
    rw [List.replicate_zero, parts]
    rfl
  | succ count ih =>
    have noTagHere := noTag (count + 1)
    rw [List.replicate_succ] at noTagHere ⊢
    rw [parts_cons_of_none noTagHere, ih]
    rfl

/-- In another spelling a text has the same parts with other backslashes, but for those that it ends
with: they may belong to a tag behind it. -/
theorem parts_respelled_append (slashes : Nat → Nat) (text : List Char)
    (opens : closes tail = false) :
    ∃ pieces count, parts text = pieces ++ List.replicate count (.char '\\') ∧
      parts (respelled slashes text ++ tail) =
        pieces.map (Part.reslashed slashes) ++ parts (List.replicate count '\\' ++ tail) := by
  fun_induction parts text with
  | case1 => exact ⟨[], 0, rfl, by rw [respelled_nil]; rfl⟩
  | case2 c rest tag after found _ ih =>
    obtain ⟨pieces, count, whole, same⟩ := ih
    refine ⟨.tag tag :: pieces, count, congrArg (.tag tag :: ·) whole, ?_⟩
    rw [respelled_of_some found, List.append_assoc, List.cons_append,
      parts_of_some (slashedTag?_bracketed _ (isInside_of_slashedTag? found)), same]
    rfl
  | case3 c rest noTag ih =>
    rcases starts_respelled_append opens noTag with ⟨size, whole, kept⟩ | none
    · refine ⟨[], size, ?_, by rw [kept, whole]; rfl⟩
      rw [← parts_cons_of_none noTag, whole, parts_backslashes]
      rfl
    · obtain ⟨pieces, count, whole, same⟩ := ih
      refine ⟨.char c :: pieces, count, congrArg (.char c :: ·) whole, ?_⟩
      rw [respelled_cons_of_none noTag, List.cons_append] at none ⊢
      rw [parts_cons_of_none none, same]
      rfl

end Respelled

theorem map_reslashed_id (pieces : List Part) : pieces.map (Part.reslashed id) = pieces :=
  List.map_id'' (fun part => by cases part <;> rfl) pieces

/-- A text in front of another one has the same parts, but for the backslashes that it ends with. -/
theorem parts_append (text : List Char) (opens : closes tail = false) :
    ∃ pieces count, parts text = pieces ++ List.replicate count (.char '\\') ∧
      parts (text ++ tail) = pieces ++ parts (List.replicate count '\\' ++ tail) := by
  have found := parts_respelled_append id text opens
  simpa only [respelled_id, map_reslashed_id] using found

/-! ## Escaped texts -/

/-- The backslashes that escaping puts in front of a tag: those that stand there twice, and one. -/
def guards (count : Nat) : Nat := 2 * count + 1

theorem escape_eq_closeSlash (text : List Char) :
    escape text = closeSlash (respelled guards text) := by
  have same : Part.escaped = Part.spelled guards := by
    funext part
    cases part <;> rfl
  unfold escape respelled
  rw [same]

/-- Guarded tags are all protected. -/
theorem actions_guarded (pieces : List Part) :
    actions (pieces.map (Part.reslashed guards)) = [] := by
  induction pieces with
  | nil => rfl
  | cons part pieces ih =>
    cases part with
    | char c => exact ih
    | tag mark =>
      have odd : (guards mark.slashes % 2 == 1) = true := by simp [guards]
      rw [List.map_cons, Part.reslashed, actions, if_pos odd, ih]

theorem active_guarded_append (text : List Char) (opens : closes tail = false) :
    ∃ count,
      active (respelled guards text ++ tail) = active (List.replicate count '\\' ++ tail) := by
  obtain ⟨pieces, count, -, same⟩ := parts_respelled_append guards text opens
  refine ⟨count, ?_⟩
  unfold active
  rw [same, actions_append, actions_guarded, List.nil_append]

/-- An escaped text has no actions: what follows it is read as if backslashes stood in front. -/
theorem active_escape (text : List Char) (opens : closes tail = false) :
    ∃ count, active (escape text ++ tail) = active (List.replicate count '\\' ++ tail) := by
  rw [escape_eq_closeSlash]
  unfold closeSlash
  split
  · have stillOpens : closes ('\\' :: tail) = false := by
      rwa [closes_cons_of_isTagChar rfl]
    obtain ⟨count, same⟩ := active_guarded_append text stillOpens
    refine ⟨count + 1, ?_⟩
    rw [List.append_assoc, List.replicate_succ', List.append_assoc]
    exact same
  · exact active_guarded_append text opens

/-! ## Styled texts -/

/-- The style that the tag of a name switches on. -/
def styleNamed (style : List Char) : Opened := ⟨normalName style, none⟩

/-- Whether a style can be named between brackets as it is, and is no call. -/
def isStyle (style : List Char) : Bool :=
  isInside style && style.head? != some '/' && style.all (· != '=') &&
    Text.trim style == style && !Text.isBlankText style && !breaksOff style &&
    (normalName style).toList.head? != some '@' && !breaksOff (styleNamed style).style

/-- Whether a text is read the same wherever it stands: it has no brackets and no backslashes. -/
def isBare (text : List Char) : Bool := text.all fun c => c != '[' && c != '\\'

theorem parts_append_of_isBare (bare : isBare text = true) :
    parts (text ++ rest) = text.map .char ++ parts rest := by
  induction text with
  | nil => rfl
  | cons c text ih =>
    obtain ⟨this, others⟩ := Bool.and_eq_true_iff.mp bare
    obtain ⟨notBracket, notBackslash⟩ := Bool.and_eq_true_iff.mp this
    have noTag : slashedTag? (c :: (text ++ rest)) = none :=
      (slashedTag?_cons_of_ne (bne_iff_ne.mp notBackslash)).mpr
        (tag?_cons_of_ne (bne_iff_ne.mp notBracket))
    rw [List.cons_append, parts_cons_of_none noTag, ih others]
    rfl

theorem active_append_of_isBare (bare : isBare text = true) :
    active (text ++ rest) = active rest := by
  have quiet : actions (text.map .char) = [] := by
    induction text with
    | nil => rfl
    | cons c text ih => exact ih (Bool.and_eq_true_iff.mp bare).2
  unfold active
  rw [parts_append_of_isBare bare, actions_append, quiet, List.nil_append]

section Style

variable {style : List Char}

theorem isInside_of_isStyle (fits : isStyle style = true) : isInside style = true := by
  simp only [isStyle, Bool.and_eq_true] at fits
  exact fits.1.1.1.1.1.1.1

theorem isInside_closing (fits : isStyle style = true) : isInside ('/' :: style) = true := by
  have passes : ∀ c ∈ style, isTagChar c = true :=
    fun c among => isTagChar_of_isInside (isInside_of_isStyle fits) among
  exact Bool.and_eq_true_iff.mpr ⟨rfl, List.all_eq_true.mpr passes⟩

theorem ne_equals_of_isStyle (fits : isStyle style = true) : ∀ c ∈ style, (c != '=') = true := by
  simp only [isStyle, Bool.and_eq_true] at fits
  exact List.all_eq_true.mp fits.1.1.1.1.1.2

theorem takeWhile_of_isStyle (fits : isStyle style = true) :
    style.takeWhile (· != '=') = style :=
  List.takeWhile_eq_self_iff.mpr (ne_equals_of_isStyle fits)

theorem breaksOff_of_isStyle (fits : isStyle style = true) : breaksOff style = false := by
  simp only [isStyle, Bool.and_eq_true, Bool.not_eq_true'] at fits
  exact fits.1.1.2

theorem isSound_of_isStyle (fits : isStyle style = true) :
    (Action.open (styleNamed style)).isSound = true := by
  simp only [isStyle, Bool.and_eq_true] at fits
  exact fits.2

/-- A style of this name can be switched off. -/
theorem canClose_of_isStyle (fits : isStyle style = true) {opened : Opened}
    (named : opened.name = normalName style) : opened.canClose console = true := by
  simp only [isStyle, Bool.and_eq_true] at fits
  unfold Opened.canClose
  rw [named, fits.1.2, Bool.true_or]

/-- What closes a style closes the last one of its name. -/
theorem apply_close (fits : isStyle style = true) (console : Console) (stack : List Opened) :
    (Action.close (normalName style)).apply console stack =
      if stack.any (·.name == normalName style) then
        .ok (stack.eraseP (·.name == normalName style))
      else .error (.unopened (normalName style)) := by
  simp only [Action.apply]
  cases found : stack.find? (·.name == normalName style) with
  | none =>
    have absent : stack.any (·.name == normalName style) = false := by
      simpa only [List.any_eq_false, List.find?_eq_none] using found
    rw [if_neg (by rw [absent]; decide)]
  | some opened =>
    have same : (opened.name == normalName style) = true :=
      List.find?_some (p := fun other : Opened => other.name == normalName style) found
    have named : opened.name = normalName style := beq_iff_eq.mp same
    have present : stack.any (·.name == normalName style) = true :=
      List.any_eq_true.mpr ⟨opened, List.mem_of_find?_eq_some found, same⟩
    rw [if_pos present]
    exact if_pos (canClose_of_isStyle fits named)

theorem action_of_isStyle (fits : isStyle style = true) (count : Nat) :
    (Tag.mk count style).action = .open (styleNamed style) := by
  have noParameters : style.dropWhile (· != '=') = [] :=
    List.dropWhile_eq_nil_iff.mpr (ne_equals_of_isStyle fits)
  unfold Tag.action
  rw [takeWhile_of_isStyle fits]
  split
  case h_1 name => cases name <;> simp [isStyle] at fits
  case h_2 =>
    simp only [breaksOff_of_isStyle fits, noParameters, List.isEmpty_nil, if_true,
      Bool.false_eq_true, if_false]
    rfl

theorem action_closing_of_isStyle (fits : isStyle style = true) (count : Nat) :
    (Tag.mk count ('/' :: style)).action = .close (normalName style) := by
  have trimmed : Text.trim style = style ∧ Text.isBlankText style = false := by
    simp only [isStyle, Bool.and_eq_true, beq_iff_eq, Bool.not_eq_true'] at fits
    exact ⟨fits.1.1.1.1.2, fits.1.1.1.2⟩
  unfold Tag.action
  rw [List.takeWhile_cons_of_pos (by decide), takeWhile_of_isStyle fits]
  simp only [trimmed, breaksOff_of_isStyle fits, if_false, Bool.false_eq_true]

theorem active_opening (fits : isStyle style = true) :
    active ('[' :: style ++ ']' :: rest) = .open (styleNamed style) :: active rest := by
  have read : active (List.replicate 0 '\\' ++ '[' :: style ++ ']' :: rest) = _ :=
    active_bracketed 0 (isInside_of_isStyle fits)
  rwa [action_of_isStyle fits] at read

/-- What closes a style, behind backslashes: an odd number of them protects it. -/
theorem active_closing (fits : isStyle style = true) (count : Nat) :
    active (List.replicate count '\\' ++ '[' :: ('/' :: style) ++ ']' :: rest) =
      if count % 2 == 1 then active rest else .close (normalName style) :: active rest := by
  rw [active_bracketed count (isInside_closing fits), action_closing_of_isStyle fits]

end Style

end ShellVet.Terminal.Markup
