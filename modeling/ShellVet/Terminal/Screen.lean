import ShellVet.Terminal.Markup
import ShellVet.Terminal.WidthTable

/-!
# What a terminal is sent

The text that markup shows goes out line by line without the controls that would move the cursor,
and with tabs as blanks up to the next column that is a multiple of eight. The lines are taken to be
short enough for the terminal, which would break longer ones. Text for programs goes out as it is,
without the sequences that switch colours.
-/

namespace ShellVet.Terminal

/-- Columns that a character takes. -/
def width (c : Char) : Nat :=
  if c.toNat < 127 then (if c.toNat < 32 then 0 else 1)
  else if zeroWidthRanges.has c.toNat then 0
  else if wideRanges.has c.toNat then 2
  else 1

/-- Controls that are not sent: bell, backspace, vertical tab, form feed, carriage return. -/
def isCursorControl (c : Char) : Bool :=
  c == '\x07' || c == '\x08' || c == '\x0b' || c == '\x0c' || c == '\x0d'

/-- Columns between two stops of the tabulator. -/
def tabSize : Nat := 8

/-- Blanks from a column up to the next stop. -/
def tabBlanks (column : Nat) : Nat := tabSize - column % tabSize

/-- The text with tabs as blanks, from a column on. -/
def expandTabs (column : Nat) : List Char → List Char
  | [] => []
  | c :: rest =>
    if c == '\n' then c :: expandTabs 0 rest
    else if c == '\t' then
      List.replicate (tabBlanks column) ' ' ++ expandTabs (column + tabBlanks column) rest
    else c :: expandTabs (column + width c) rest

/-- The styles that are looked up to show parts. A text that is taken apart at line ends and tabs
keeps only the styles that some of its characters have. -/
def stylesFor (console : Markup.Console) (shown : List Char) (parts : List Markup.Part) :
    List Markup.Opened :=
  if shown.any fun c => c == '\n' || c == '\t' then
    Markup.stylesOn console (fun c => !isCursorControl c && c != '\n') [] parts
  else parts.filterMap Markup.Part.opened?

/-- What a terminal is sent for markup, on lines as long as need be. -/
def sent (console : Markup.Console) (markup : String) : Except Markup.Fault String := do
  let parts := Markup.parts markup.toList
  let shown ← Markup.renderParts console [] parts
  if (stylesFor console shown parts).any fun opened => breaksOff opened.style then
    throw .brokenColor
  return String.ofList (expandTabs 0 (shown.filter fun c => !isCursorControl c))

/-- Whether the character may stand inside a sequence that switches colours. -/
def isSequenceChar (c : Char) : Bool := c == ';' || c == '?' || ('0' ≤ c && c ≤ '9')

/-- Whether the character ends a sequence. -/
def isSequenceEnd (c : Char) : Bool := ('a' ≤ c && c ≤ 'z') || ('A' ≤ c && c ≤ 'Z')

/-- The text behind the sequence that it starts with. -/
def afterSequence? : List Char → Option (List Char)
  | '\x1b' :: '[' :: rest =>
    match rest.dropWhile isSequenceChar with
    | c :: after => if isSequenceEnd c then some after else none
    | [] => none
  | _ => none

/-- What is behind a sequence is shorter than the text. -/
theorem length_of_afterSequence? {text after : List Char}
    (found : afterSequence? text = some after) :
    after.length < text.length := by
  unfold afterSequence? at found
  split at found
  · rename_i rest
    have shorter := Markup.length_dropWhile_le isSequenceChar rest
    split at found
    · rename_i c rest' same
      rw [same] at shorter
      split at found
      · simp only [Option.some.injEq] at found
        subst found
        simp only [List.length_cons] at shorter ⊢
        omega
      · simp at found
    · simp at found
  · simp at found

/-- The text without sequences that switch colours. -/
def withoutSequences (text : List Char) : List Char :=
  match text with
  | [] => []
  | c :: rest =>
    match found : afterSequence? (c :: rest) with
    | some after =>
      have : after.length < (c :: rest).length := length_of_afterSequence? found
      withoutSequences after
    | none => c :: withoutSequences rest
termination_by text.length
decreasing_by
  · assumption
  · exact Nat.lt_succ_self rest.length

end ShellVet.Terminal
