import ShellVet.Proofs.Report.Shown
import ShellVet.Proofs.Terminal.Escaped

/-!
# Texts from outside in a report

A line of a report puts a text from outside between tags of its own (`outside_text_framed`). No tag
of the text is carried out. The text is shown as it is, and all tags of the line are carried out,
exactly when the text is faithful: each of its backslashes in front of a bracket protects a tag, and
it ends with one backslash at most.
-/

namespace ShellVet.Report

open Terminal Terminal.Markup

variable {console : Console} {text rest : List Char} {line sign style body value : String}
  {front : List Part}

/-! ## What the terminal is sent -/

/-- Whether a character is sent as it is. -/
def isPlain (c : Char) : Bool := !isCursorControl c && c != '\t'

theorem expandTabs_eq_self {column : Nat} (noTab : ∀ c ∈ text, c ≠ '\t') :
    expandTabs column text = text := by
  fun_induction expandTabs column text with
  | case1 => rfl
  | case2 column c rest newline ih =>
    rw [ih fun d among => noTab d (List.mem_cons_of_mem c among)]
  | case3 column c rest _ tab =>
    exact absurd (beq_iff_eq.mp tab) (noTab c List.mem_cons_self)
  | case4 column c rest _ _ ih =>
    rw [ih fun d among => noTab d (List.mem_cons_of_mem c among)]

theorem mem_expandTabs {column : Nat} {c : Char} (among : c ∈ expandTabs column text) :
    c = ' ' ∨ c ∈ text ∧ c ≠ '\t' := by
  have behind {d : Char} {rest : List Char} (inside : c = ' ' ∨ c ∈ rest ∧ c ≠ '\t') :
      c = ' ' ∨ c ∈ d :: rest ∧ c ≠ '\t' :=
    inside.imp_right fun both => ⟨List.mem_cons_of_mem d both.1, both.2⟩
  fun_induction expandTabs column text with
  | case1 => cases among
  | case2 column d rest newline ih =>
    rcases List.mem_cons.mp among with rfl | later
    · exact .inr ⟨List.mem_cons_self, by rintro rfl; cases newline⟩
    · exact behind (ih later)
  | case3 column d rest _ tab ih =>
    rcases List.mem_append.mp among with blank | later
    · exact .inl (List.eq_of_mem_replicate blank)
    · exact behind (ih later)
  | case4 column d rest _ noTab ih =>
    rcases List.mem_cons.mp among with rfl | later
    · exact .inr ⟨List.mem_cons_self, by rintro rfl; exact noTab rfl⟩
    · exact behind (ih later)

theorem screened_eq_self (plain : text.all isPlain = true) : screened text = text := by
  have each : ∀ c ∈ text, (!isCursorControl c) = true ∧ c ≠ '\t' :=
    fun c among => by simpa [isPlain] using List.all_eq_true.mp plain c among
  unfold screened
  rw [List.filter_eq_self.mpr fun c among => (each c among).1]
  exact expandTabs_eq_self fun c among => (each c among).2

theorem all_screened (text : List Char) : (screened text).all isPlain = true := by
  refine List.all_eq_true.mpr fun c among => ?_
  rcases mem_expandTabs among with rfl | ⟨left, noTab⟩
  · rfl
  · simpa [isPlain, noTab] using (List.mem_filter.mp left).2

/-! ## Lines around a text from outside -/

/-- How a line with a text from outside is read and what it shows, given the parts in front of the
text, the sign that they show, and the style of the text. -/
structure Framed (console : Console) (line : String) (front : List Part)
    (sign style value : String) : Prop where
  /-- Between the line's own parts no tag is carried out. -/
  read : ∃ inner, actions inner = [] ∧
    parts line.toList =
      front ++ inner ++ [.tag ⟨closed (trailing value.toList), '/' :: style.toList⟩]
  shown : render console line.toList = .ok (sign.toList ++ exposed style.toList value.toList)
  /-- A faithful text is shown as it is, and all tags of the line are carried out. -/
  exact :
    render console line.toList = .ok (sign.toList ++ value.toList) ∧
        active line.toList = actions front ++ [.close style] ↔
      Faithful value.toList
  /-- A faithful text is sent as it is where it holds no tabs and no controls that are not sent, on
  a line as long as it takes. -/
  sent :
    Audience.human.sent console line = .ok (sign ++ value ++ "\n") ↔
      Faithful value.toList ∧ value.toList.all isPlain = true

theorem all_exposed {style : List Char} (plainStyle : style.all isPlain = true)
    (plain : text.all isPlain = true) : (exposed style text).all isPlain = true := by
  have kept : (unslashed (stem text)).all isPlain = true :=
    List.all_eq_true.mpr fun c among => List.all_eq_true.mp plain c
      ((List.rdropWhile_prefix _ _).subset ((unslashed_sublist _).subset among))
  have slashes (count : Nat) : (List.replicate count '\\').all isPlain = true :=
    List.all_eq_true.mpr fun c among => List.eq_of_mem_replicate among ▸ rfl
  unfold exposed
  rw [List.all_append, List.all_append, kept, slashes]
  split
  · rw [List.all_append, List.all_cons, List.all_cons, plainStyle]
    rfl
  · rfl

/-- Behind a sign, the text is sent as it is exactly when it is shown so and all of it is sent. -/
theorem screened_exposed_eq_iff {sign style : List Char} (plainSign : sign.all isPlain = true)
    (plainStyle : style.all isPlain = true) :
    screened (sign ++ exposed style text) = sign ++ text ↔
      Faithful text ∧ text.all isPlain = true := by
  constructor
  · intro same
    have plainBoth : (sign ++ text).all isPlain = true := same ▸ all_screened _
    rw [List.all_append, plainSign, Bool.true_and] at plainBoth
    have plainShown : (sign ++ exposed style text).all isPlain = true := by
      rw [List.all_append, plainSign, all_exposed plainStyle plainBoth]
      rfl
    rw [screened_eq_self plainShown, List.append_right_inj] at same
    exact ⟨exposed_eq_self_iff.mp same, plainBoth⟩
  · intro both
    rw [exposed_eq_self_iff.mpr both.1]
    refine screened_eq_self ?_
    rw [List.all_append, plainSign, both.2]
    rfl

/-- A line shows its sign and what the text from outside comes to. -/
theorem render_of_parts (fits : isStyle style.toList = true)
    (led : parts line.toList =
      front ++ parts (escape value.toList ++ '[' :: ('/' :: style.toList) ++ [']']))
    (opened : ∀ more, renderParts console [] (front ++ more) =
      (renderParts console [styleNamed style.toList] more).map (sign.toList ++ ·)) :
    render console line.toList = .ok (sign.toList ++ exposed style.toList value.toList) := by
  unfold render
  rw [led, opened, renderParts_escape value.toList fits (by simp [styleNamed])]
  rfl

theorem framed_of_parts (fits : isStyle style.toList = true)
    (named : normalName style.toList = style) (plainSign : sign.toList.all isPlain = true)
    (plainStyle : style.toList.all isPlain = true)
    (led : parts line.toList =
      front ++ parts (escape value.toList ++ '[' :: ('/' :: style.toList) ++ [']']))
    (sound : ∀ action ∈ actions front, action.isSound = true)
    (opened : ∀ more, renderParts console [] (front ++ more) =
      (renderParts console [styleNamed style.toList] more).map (sign.toList ++ ·)) :
    Framed console line front sign style value := by
  have shown := render_of_parts fits led opened
  have nothing : parts [] = [] := by rw [parts]
  have read : parts line.toList =
      front ++ (parts (stem value.toList)).map (Part.reslashed guards) ++
        [.tag ⟨closed (trailing value.toList), '/' :: style.toList⟩] := by
    rw [led, parts_escape_append _ (isInside_closing fits), nothing, List.append_assoc]
  refine ⟨⟨_, actions_guarded _, read⟩, shown, ?_, ?_⟩
  · rw [shown, Except.ok.injEq, List.append_right_inj, exposed_eq_self_iff, and_iff_left_iff_imp]
    intro faithful
    have single := trailing_le_one_iff.mpr faithful.ending
    have closing : actions [.tag ⟨closed (trailing value.toList), '/' :: style.toList⟩] =
        [.close style] := by
      rw [actions, (closed_of_le_one single).2, action_closing_of_isStyle fits, named]
      rfl
    unfold active
    rw [read, actions_append, actions_append, actions_guarded, List.append_nil, closing]
  · have all : ∀ action ∈ active line.toList, action.isSound = true := by
      unfold active
      rw [read, actions_append, actions_append, actions_guarded, List.append_nil]
      refine List.forall_mem_append.mpr ⟨sound, ?_⟩
      rw [actions, action_closing_of_isStyle fits]
      split
      · exact List.forall_mem_nil _
      · exact List.forall_mem_singleton.mpr rfl
    have sends : Audience.human.sent console line =
        .ok (String.ofList (screened (sign.toList ++ exposed style.toList value.toList)) ++ "\n") :=
      congrArg (Except.map (· ++ "\n")) (sent_of_render shown all)
    rw [sends, Except.ok.injEq, ← String.toList_inj, String.toList_append, String.toList_append,
      String.toList_append, String.toList_ofList, List.append_left_inj]
    exact screened_exposed_eq_iff plainSign plainStyle

/-! ## Commands and warnings -/

theorem parts_bracketed {inside : List Char} (fits : isInside inside = true) :
    parts ('[' :: inside ++ ']' :: rest) = .tag ⟨0, inside⟩ :: parts rest :=
  parts_of_some (slashedTag?_bracketed 0 fits)

theorem parts_styled_append (fits : isStyle style.toList = true) :
    parts ((Audience.styled style body).toList ++ rest) =
      .tag ⟨0, style.toList⟩ ::
        parts (body.toList ++ ('[' :: ('/' :: style.toList) ++ ']' :: rest)) := by
  rw [toList_styled_append, parts_bracketed (isInside_of_isStyle fits)]

theorem renderParts_tag {stack next : List Opened} {inside : List Char} {after : List Part}
    (applied : (Tag.mk 0 inside).action.apply console stack = .ok next) :
    renderParts console stack (.tag ⟨0, inside⟩ :: after) = renderParts console next after := by
  rw [renderParts]
  simp only [applied]
  cases renderParts console next after <;> rfl

theorem renderParts_opening {stack : List Opened} {style : List Char} {after : List Part}
    (fits : isStyle style = true) :
    renderParts console stack (.tag ⟨0, style⟩ :: after) =
      renderParts console (styleNamed style :: stack) after :=
  renderParts_tag (by rw [action_of_isStyle fits]; rfl)

theorem renderParts_closing {stack : List Opened} {style : List Char} {after : List Part}
    (fits : isStyle style = true) :
    renderParts console (styleNamed style :: stack) (.tag ⟨0, '/' :: style⟩ :: after) =
      renderParts console stack after := by
  refine renderParts_tag ?_
  rw [action_closing_of_isStyle fits, apply_close fits]
  simp [styleNamed]

/-- What a command's line puts in front of the command. -/
def commandFront : List Part :=
  [.char ' ', .char ' ', .tag ⟨0, "dim".toList⟩, .char '-', .tag ⟨0, "/dim".toList⟩, .char ' ',
    .tag ⟨0, "white".toList⟩]

/-- What a warning's line puts in front of the text. -/
def warningFront : List Part :=
  [.tag ⟨0, "yellow".toList⟩, .char '⚠', .char ' ', .char ' ']

theorem toList_text (value : String) :
    (Audience.human.text value).toList = escape value.toList := by
  unfold Audience.text
  exact String.toList_ofList

theorem parts_command (value : String) :
    parts (Audience.human.command value).toList =
      commandFront ++ parts (escape value.toList ++ '[' :: ('/' :: "white".toList) ++ [']']) := by
  have spelled : (Audience.human.command value).toList =
      "  ".toList ++ ((Audience.styled "dim" "-").toList ++
        (" ".toList ++ ((Audience.styled "white" (Audience.human.text value)).toList ++ []))) := by
    unfold Audience.command
    simp only [String.toList_append, List.append_assoc, List.append_nil]
  rw [spelled, parts_append_of_isBare (by decide), parts_styled_append (by decide),
    parts_append_of_isBare (by decide), parts_bracketed (by decide),
    parts_append_of_isBare (by decide), parts_styled_append (by decide), toList_text]
  simp [commandFront]

theorem parts_warning (value : String) :
    parts (Audience.human.warning (Audience.human.text value)).toList =
      warningFront ++ parts (escape value.toList ++ '[' :: ('/' :: "yellow".toList) ++ [']']) := by
  have spelled : (Audience.human.warning (Audience.human.text value)).toList =
      (Audience.styled "yellow" ("⚠  " ++ Audience.human.text value)).toList ++ [] := by
    rw [List.append_nil]
    rfl
  rw [spelled, parts_styled_append (by decide), String.toList_append, List.append_assoc,
    parts_append_of_isBare (by decide), toList_text]
  simp [warningFront]

theorem renderParts_commandFront (more : List Part) :
    renderParts console [] (commandFront ++ more) =
      (renderParts console [styleNamed "white".toList] more).map ("  - ".toList ++ ·) := by
  have dim : isStyle "dim".toList = true := by decide
  have white : isStyle "white".toList = true := by decide
  have closing : "/dim".toList = '/' :: "dim".toList := rfl
  simp only [commandFront, List.cons_append, List.nil_append]
  rw [renderParts_char (.inl (by decide)), renderParts_char (.inl (by decide)),
    renderParts_opening dim, renderParts_char (.inl (by decide)), closing, renderParts_closing dim,
    renderParts_char (.inl (by decide)), renderParts_opening white]
  cases renderParts console [styleNamed "white".toList] more <;> rfl

theorem renderParts_warningFront (more : List Part) :
    renderParts console [] (warningFront ++ more) =
      (renderParts console [styleNamed "yellow".toList] more).map ("⚠  ".toList ++ ·) := by
  have yellow : isStyle "yellow".toList = true := by decide
  simp only [warningFront, List.cons_append, List.nil_append]
  rw [renderParts_opening yellow, renderParts_char (.inl (by decide)),
    renderParts_char (.inl (by decide)), renderParts_char (.inl (by decide))]
  cases renderParts console [styleNamed "yellow".toList] more <;> rfl

/-- A command's line and a warning around a text from outside are framed: whatever the text, its
tags are not carried out, and what becomes of it is known. -/
theorem outside_text_framed (console : Console) (value : String) :
    Framed console (Audience.human.command value) commandFront "  - " "white" value ∧
      Framed console (Audience.human.warning (Audience.human.text value)) warningFront "⚠  "
        "yellow" value := by
  constructor
  · have fits : isStyle "white".toList = true := by decide
    exact framed_of_parts fits (by decide) (by decide) (by decide) (parts_command value)
      (by decide +kernel) renderParts_commandFront
  · have fits : isStyle "yellow".toList = true := by decide
    exact framed_of_parts fits (by decide) (by decide) (by decide) (parts_warning value)
      (by decide +kernel) renderParts_warningFront

example : actions commandFront = [.open ⟨"dim", none⟩, .close "dim", .open ⟨"white", none⟩] := by
  decide

/-- A backslash is lost in front of a bracket, and three at the end bring the closing tag out. -/
theorem outside_text_changed :
    (∀ console : Console,
      render console (Audience.human.command "\\[A").toList = .ok "  - [A".toList) ∧
    ∀ console : Console,
      render console (Audience.human.command "\\\\\\").toList = .ok "  - \\[/white]".toList := by
  have shown (console : Console) (value : String) :=
    render_of_parts (by decide) (parts_command value) (@renderParts_commandFront console)
  constructor
  · intro console
    rw [shown]
    decide
  · intro console
    rw [shown]
    decide

end ShellVet.Report
