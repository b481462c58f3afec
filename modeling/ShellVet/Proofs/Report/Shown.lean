import ShellVet.Proofs.Terminal.Sent
import ShellVet.Report.Lines

/-!
# Every report is shown

No line of a report fails as markup, whatever texts from outside stand in it
(`shown_of_mem_ofScan`). The pieces of a line are inert texts, behind which the markup is read as if
they were not there, but for a tag right behind them that their last backslashes may protect.
-/

namespace ShellVet.Report

open Terminal.Markup

/-- Markup behind the text is read as if only backslashes stood in front of it. -/
def Inert (text : List Char) : Prop :=
  ∀ rest, closes rest = false →
    ∃ count, active (text ++ rest) = active (List.replicate count '\\' ++ rest)

/-- The line is written, with something in it, wherever it is sent to. -/
def Shown (audience : Audience) (line : String) : Prop :=
  ∀ console, ∃ text, audience.sent console line = .ok text ∧ text ≠ ""

variable {text sign rest : List Char} {style body : String}

theorem ne_empty_of_newline (text : String) : text ++ "\n" ≠ "" := by
  intro empty
  have chars := congrArg String.toList empty
  simp at chars

theorem shown_agent (line : String) : Shown .agent line :=
  fun _ => ⟨_, rfl, ne_empty_of_newline _⟩

theorem shown_of_runs {line : String}
    (carried : ∀ console, runs console [] (active line.toList) = true) : Shown .human line := by
  intro console
  obtain ⟨shown, sent⟩ := Terminal.sent_of_runs (carried console)
  exact ⟨_, congrArg (Except.map (· ++ "\n")) sent, ne_empty_of_newline _⟩

/-! ## Inert texts -/

theorem inert_escape (text : List Char) : Inert (escape text) :=
  fun _ opens => active_escape text opens

theorem inert_of_isBare (bare : isBare text = true) : Inert text :=
  fun _ _ => ⟨0, active_append_of_isBare bare⟩

theorem Inert.behind (inert : Inert text) (bare : isBare sign = true) : Inert (sign ++ text) := by
  intro rest opens
  obtain ⟨count, same⟩ := inert rest opens
  exact ⟨count, by rw [List.append_assoc, active_append_of_isBare bare, same]⟩

theorem slashedTag?_blank : slashedTag? (' ' :: rest) = none :=
  (slashedTag?_cons_of_ne (by decide)).mpr (tag?_cons_of_ne (by decide))

/-- A blank behind an inert text keeps it from protecting anything. -/
theorem Inert.active_blank (inert : Inert text) (opens : closes rest = false) :
    active (text ++ ' ' :: rest) = active rest := by
  obtain ⟨count, same⟩ := inert (' ' :: rest) (by rwa [closes_cons_of_isTagChar rfl])
  rw [same, active_backslashes count slashedTag?_blank, active_cons_of_none slashedTag?_blank]

theorem closes_append_of_all {more : List Char} (inTag : more.all isTagChar = true) :
    closes (more ++ rest) = closes rest := by
  unfold closes
  rw [List.dropWhile_append_of_pos (List.all_eq_true.mp inTag)]

/-- An inert text stays inert with a blank and plain text behind it. -/
theorem Inert.before (inert : Inert text) (more : List Char) (bare : isBare more = true)
    (inTag : more.all isTagChar = true) : Inert (text ++ ' ' :: more) := by
  intro rest opens
  have stillOpens : closes (more ++ rest) = false := by rwa [closes_append_of_all inTag]
  refine ⟨0, ?_⟩
  rw [List.append_assoc, List.cons_append, inert.active_blank stillOpens,
    active_append_of_isBare bare]
  rfl

/-! ## Styled texts -/

theorem toList_styled_append :
    (Audience.styled style body).toList ++ rest =
      '[' :: style.toList ++
        ']' :: (body.toList ++ ('[' :: ('/' :: style.toList) ++ ']' :: rest)) := by
  unfold Audience.styled
  simp only [String.toList_append, toString]
  simp

/-- A styled text switches its style on, and off again unless the text ends in a backslash that
protects the tag. -/
theorem active_styled (fits : isStyle style.toList = true) (inert : Inert body.toList) :
    ∃ count, active ((Audience.styled style body).toList ++ rest) =
      .open (styleNamed style.toList) ::
        if count % 2 == 1 then active rest
        else .close (Terminal.normalName style.toList) :: active rest := by
  obtain ⟨count, same⟩ := inert ('[' :: ('/' :: style.toList) ++ ']' :: rest) closes_cons_open
  refine ⟨count, ?_⟩
  rw [toList_styled_append, active_opening fits, same, ← List.append_assoc, active_closing fits]

theorem active_styled_of_isBare (fits : isStyle style.toList = true)
    (bare : isBare body.toList = true) :
    active ((Audience.styled style body).toList ++ rest) =
      .open (styleNamed style.toList) :: .close (Terminal.normalName style.toList) ::
        active rest := by
  rw [toList_styled_append, active_opening fits, active_append_of_isBare bare]
  exact congrArg _ (active_closing fits 0)

theorem runs_open_close (fits : isStyle style.toList = true) (console : Console)
    (stack : List Opened) (later : List Terminal.Markup.Action) :
    runs console stack (.open (styleNamed style.toList) ::
      .close (Terminal.normalName style.toList) :: later) = runs console stack later := by
  have first : (styleNamed style.toList).name = Terminal.normalName style.toList := rfl
  rw [runs, isSound_of_isStyle fits, Action.apply, Bool.true_and]
  dsimp only
  rw [runs, apply_close fits]
  simp [first, Terminal.Markup.Action.isSound]

/-! ## The pieces of a report -/

/-- In front of other markup, the text makes no difference to whether it fails. -/
def Neutral (text : String) : Prop :=
  ∀ console rest, runs console [] (active (text.toList ++ rest)) = runs console [] (active rest)

theorem neutral_of_isBare {text : String} (bare : isBare text.toList = true) : Neutral text :=
  fun console rest => by rw [active_append_of_isBare bare]

theorem neutral_styled (fits : isStyle style.toList = true) (bare : isBare body.toList = true) :
    Neutral (Audience.styled style body) :=
  fun console rest => by rw [active_styled_of_isBare fits bare, runs_open_close fits]

theorem Neutral.append {text more : String} (neutral : Neutral text) (neutralMore : Neutral more) :
    Neutral (text ++ more) :=
  fun console rest => by rw [String.toList_append, List.append_assoc, neutral, neutralMore]

theorem Neutral.shown {line : String} (neutral : Neutral line) : Shown .human line := by
  refine shown_of_runs fun console => ?_
  have quiet := neutral console []
  rw [List.append_nil] at quiet
  rw [quiet, active_nil]
  rfl

theorem shown_of_isBare {line : String} (audience : Audience) (bare : isBare line.toList = true) :
    Shown audience line := by
  cases audience with
  | agent => exact shown_agent line
  | human => exact (neutral_of_isBare bare).shown

theorem shown_append_styled {before : String} (neutral : Neutral before)
    (fits : isStyle style.toList = true) (inert : Inert body.toList) :
    Shown .human (before ++ Audience.styled style body) := by
  refine shown_of_runs fun console => ?_
  obtain ⟨count, same⟩ : ∃ count, active ((Audience.styled style body).toList ++ []) = _ :=
    active_styled fits inert
  rw [List.append_nil] at same
  have quiet := neutral console (Audience.styled style body).toList
  rw [String.toList_append, quiet, same, active_nil]
  split
  · rw [runs, isSound_of_isStyle fits]
    rfl
  · rw [runs_open_close fits]
    rfl

theorem inert_text (value : String) : Inert (Audience.human.text value).toList := by
  unfold Audience.text
  rw [String.toList_ofList]
  exact inert_escape value.toList

/-- A text from outside is inert for a human, to whom alone markup is written. -/
theorem inert_text_of_human {audience : Audience} (value : String) (human : audience = .human) :
    Inert (audience.text value).toList :=
  human ▸ inert_text value

theorem shown_message {sign tag value : String} (audience : Audience)
    (fits : isStyle style.toList = true) (bare : isBare sign.toList = true)
    (inert : audience = .human → Inert value.toList) :
    Shown audience (Audience.message style sign tag audience value) := by
  cases audience with
  | agent => exact shown_agent _
  | human =>
    have body : Inert (sign ++ value).toList := by
      rw [String.toList_append]
      exact (inert rfl).behind bare
    have nothing : Neutral "" := neutral_of_isBare rfl
    have shown := shown_append_styled nothing fits body
    rwa [String.empty_append] at shown

theorem shown_command (audience : Audience) (value : String) :
    Shown audience (audience.command value) := by
  cases audience with
  | agent => exact shown_agent _
  | human =>
    have neutral : Neutral ("  " ++ Audience.styled "dim" "-" ++ " ") :=
      ((neutral_of_isBare rfl).append (neutral_styled (by decide) rfl)).append
        (neutral_of_isBare rfl)
    exact shown_append_styled neutral (by decide) (inert_text value)

theorem shown_field {label value : String} (audience : Audience)
    (bare : isBare (label ++ ":").toList = true) (neutral : Neutral value) :
    Shown audience (audience.field label value) := by
  cases audience with
  | agent => exact shown_agent _
  | human =>
    exact (((neutral_styled (by decide) bare).append (neutral_of_isBare rfl)).append neutral).shown

/-- The actions of a title: its styles are switched on and off in turn, whatever it says. -/
theorem active_header {title : String} (inert : Inert title.toList) :
    active (Audience.human.header title).toList =
      [.open (styleNamed "bold".toList), .open (styleNamed "cyan".toList),
        .close (Terminal.normalName "cyan".toList), .open (styleNamed "cyan".toList),
        .close (Terminal.normalName "cyan".toList),
        .close (Terminal.normalName "bold".toList)] := by
  have lastLine : active ['\n'] = [] := by
    rw [← active_nil]
    exact @active_append_of_isBare ['\n'] [] rfl
  have bold : isStyle "bold".toList = true := by decide
  have cyan : isStyle "cyan".toList = true := by decide
  have behindTitle : active (title.toList ++ ' ' :: ((Audience.styled "cyan" "─┐").toList ++
      ('[' :: ('/' :: "bold".toList) ++ [']', '\n']))) =
      [.open (styleNamed "cyan".toList), .close (Terminal.normalName "cyan".toList),
        .close (Terminal.normalName "bold".toList)] := by
    rw [inert.active_blank (by rw [toList_styled_append]; rfl), active_styled_of_isBare cyan rfl]
    have closing : active (List.replicate 0 '\\' ++ '[' :: ('/' :: "bold".toList) ++
      ']' :: ['\n']) = _ := active_closing bold 0
    rw [lastLine] at closing
    exact congrArg _ (congrArg _ closing)
  have blank := (active_cons_of_none slashedTag?_blank).trans behindTitle
  have whole : (Audience.human.header title).toList = "\n".toList ++ ((Audience.styled "bold"
      (Audience.styled "cyan" "┌─" ++ s!" {title} " ++ Audience.styled "cyan" "─┐")).toList ++
      ['\n']) := by
    rw [Audience.header, String.toList_append, String.toList_append, List.append_assoc]
    rfl
  rw [whole, active_append_of_isBare rfl, toList_styled_append, active_opening bold,
    String.toList_append, String.toList_append, List.append_assoc, List.append_assoc,
    active_styled_of_isBare cyan rfl]
  simp only [toString, String.toList_append]
  simpa using blank

theorem shown_header {title : String} (audience : Audience)
    (inert : audience = .human → Inert title.toList) : Shown audience (audience.header title) := by
  cases audience with
  | agent => exact shown_agent _
  | human =>
    have bold : isStyle "bold".toList = true := by decide
    have cyan : isStyle "cyan".toList = true := by decide
    refine shown_of_runs fun console => ?_
    rw [active_header (inert rfl), runs, isSound_of_isStyle bold, Bool.true_and]
    dsimp only [Terminal.Markup.Action.apply]
    rw [runs_open_close cyan, runs_open_close cyan, runs, apply_close bold]
    rfl

/-! ## The report of a scan -/

variable {audience : Audience} {line : String} {scan : Scan}

theorem neutral_severity (severity : Severity) :
    Neutral (Audience.human.severity severity.name) := by
  have known : Audience.human.severity severity.name = Audience.styled
      (Audience.severityStyle severity)
      (" " ++ String.ofList (Text.upper severity.name.toList) ++ " ") := by
    cases severity <;> rfl
  rw [known]
  exact neutral_styled (by cases severity <;> decide +kernel) (by cases severity <;> decide)

theorem isBare_toString (number : Nat) : isBare (toString number).toList = true := by
  rw [Nat.toString_eq_ofList_toDigits, String.toList_ofList]
  refine List.all_eq_true.mpr fun c inside => ?_
  have digit : c.isDigit = true := Nat.isDigit_of_mem_toDigits (by decide) (by decide) inside
  have notBracket : c ≠ '[' := by rintro rfl; cases digit
  have notBackslash : c ≠ '\\' := by rintro rfl; cases digit
  simp [notBracket, notBackslash]

theorem shown_of_mem_overview {source : Option String} {total : Nat}
    (inside : line ∈ overview audience source total scan) : Shown audience line := by
  unfold overview at inside
  simp only [List.mem_cons, List.not_mem_nil, or_false] at inside
  rcases inside with rfl | rfl | rfl | rfl
  · refine shown_header audience fun human => ?_
    subst human
    cases source with
    | none => exact inert_of_isBare rfl
    | some source =>
      dsimp only
      rw [String.toList_append]
      exact (inert_text source).behind rfl
  · exact shown_field audience rfl (neutral_of_isBare (by cases scan.level <;> rfl))
  · exact shown_field audience rfl (neutral_of_isBare (isBare_toString total))
  · cases audience with
    | agent => exact shown_agent _
    | human => exact shown_field .human rfl (neutral_severity scan.severity)

theorem shown_of_mem_listing {title : String} {commands : List String}
    (bare : isBare (s!"\n{title}:").toList = true)
    (inside : line ∈ listing audience title commands) : Shown audience line := by
  unfold listing at inside
  split at inside
  · cases inside
  · rcases List.mem_cons.mp inside with rfl | listed
    · exact shown_of_isBare audience bare
    · obtain ⟨command, -, rfl⟩ := List.mem_map.mp listed
      exact shown_command audience command

theorem shown_of_mem_hints {recommendations : List String}
    (inside : line ∈ hints audience recommendations) : Shown audience line := by
  unfold hints at inside
  split at inside
  · cases inside
  · rcases List.mem_cons.mp inside with rfl | listed
    · exact shown_of_isBare audience rfl
    · obtain ⟨recommendation, -, rfl⟩ := List.mem_map.mp listed
      exact shown_message audience (by decide) rfl (inert_text_of_human recommendation)

theorem shown_divider : Shown audience audience.divider := by
  cases audience with
  | agent => exact shown_agent _
  | human => exact (neutral_styled (by decide) (by decide +kernel)).shown

theorem shown_of_mem_details (inside : line ∈ details audience scan) : Shown audience line := by
  simp only [details, List.cons_append, List.mem_cons, List.mem_append, List.mem_map,
    List.not_mem_nil, or_false] at inside
  rcases inside with
    rfl | (((((⟨warning, -, rfl⟩ | listed) | listed) | listed) | listed) | hinted) | rfl
  · exact shown_of_isBare audience rfl
  · exact shown_message audience (by decide) rfl (inert_text_of_human warning)
  · exact shown_of_mem_listing rfl listed
  · exact shown_of_mem_listing rfl listed
  · exact shown_of_mem_listing rfl listed
  · exact shown_of_mem_listing rfl listed
  · exact shown_of_mem_hints hinted
  · exact shown_divider

/-- Each line of a report is shown, whatever the source is called and the commands are. -/
theorem shown_of_mem_ofScan {source : Option String} {total : Nat}
    (inside : line ∈ ofScan audience source total scan) : Shown audience line := by
  rcases List.mem_append.mp inside with start | rest
  · exact shown_of_mem_overview start
  · split at rest
    · rw [List.mem_singleton.mp rest]
      exact shown_message audience (by decide) rfl fun _ => inert_of_isBare rfl
    · exact shown_of_mem_details rest

end ShellVet.Report
