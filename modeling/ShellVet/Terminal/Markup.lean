import ShellVet.Terminal.Style

/-!
# Markup

A text for the terminal holds tags between square brackets that switch styles on and off. A tag
starts with a small letter, `#`, `/` or `@` behind its bracket and holds no other opening bracket.
Backslashes in front of a tag protect it: two of them stand for one, and one that is left over makes
the tag ordinary text. `escape` protects all tags of a text, and `render` carries the tags out.

What stands behind an equals sign are the parameters of a tag. They join its name where its style is
looked up; those of a tag with `@` are a call instead, whose arguments are read when the tag is
closed. Whether they can be read is for the `Console` to say. Names of pictures between colons are
not replaced here.
-/

namespace ShellVet.Terminal.Markup

/-- Whether a tag may start with the character. -/
def isTagStart (c : Char) : Bool :=
  ('a' ≤ c && c ≤ 'z') || c == '#' || c == '/' || c == '@'

/-- Whether a tag may go on with the character. -/
def isTagChar (c : Char) : Bool := c != '[' && c != ']'

/-- The inside of the tag at the start of a text, and the text after the tag. -/
def tag? : List Char → Option (List Char × List Char)
  | '[' :: first :: rest =>
    if isTagStart first then
      match rest.dropWhile isTagChar with
      | ']' :: after => some (first :: rest.takeWhile isTagChar, after)
      | _ => none
    else none
  | _ => none

/-- A tag with the backslashes in front of it. -/
structure Tag where
  slashes : Nat
  inside : List Char
  deriving DecidableEq, Repr

/-- The tag that a text starts with, behind any backslashes, and the text after the tag. -/
def slashedTag? (text : List Char) : Option (Tag × List Char) :=
  (tag? (text.dropWhile (· == '\\'))).map fun (inside, after) =>
    (⟨(text.takeWhile (· == '\\')).length, inside⟩, after)

/-- What is left of a text behind its first characters of a kind is no longer than the text. -/
theorem length_dropWhile_le (kind : Char → Bool) (text : List Char) :
    (text.dropWhile kind).length ≤ text.length :=
  (List.dropWhile_sublist kind).length_le

/-- A tag takes at least one character. -/
theorem length_of_tag? {text inside after : List Char} (found : tag? text = some (inside, after)) :
    after.length < text.length := by
  unfold tag? at found
  split at found
  · rename_i first rest
    split at found
    · split at found
      · rename_i rest' closing
        have shorter := length_dropWhile_le isTagChar rest
        rw [closing] at shorter
        simp only [Option.some.injEq, Prod.mk.injEq] at found
        obtain ⟨-, rfl⟩ := found
        simp only [List.length_cons] at shorter ⊢
        omega
      · simp at found
    · simp at found
  · simp at found

/-- A tag behind backslashes takes at least one character. -/
theorem length_of_slashedTag? {text : List Char} {tag : Tag} {after : List Char}
    (found : slashedTag? text = some (tag, after)) : after.length < text.length := by
  unfold slashedTag? at found
  obtain ⟨⟨inside, rest⟩, inner, same⟩ := Option.map_eq_some_iff.1 found
  simp only [Prod.mk.injEq] at same
  obtain ⟨-, rfl⟩ := same
  exact Nat.lt_of_lt_of_le (length_of_tag? inner) (length_dropWhile_le _ text)

/-- A tag, or a character outside of tags. -/
inductive Part where
  | char (c : Char)
  | tag (tag : Tag)
  deriving DecidableEq, Repr

/-- The parts of a text. -/
def parts (text : List Char) : List Part :=
  match text with
  | [] => []
  | c :: rest =>
    match found : slashedTag? (c :: rest) with
    | some (tag, after) =>
      have : after.length < (c :: rest).length := length_of_slashedTag? found
      .tag tag :: parts after
    | none => .char c :: parts rest
termination_by text.length
decreasing_by
  · assumption
  · exact Nat.lt_succ_self rest.length

/-- A tag between its brackets. -/
def Tag.bracketed (tag : Tag) : List Char := '[' :: tag.inside ++ [']']

/-- A part with a backslash that protects it. Those in front of it are doubled. -/
def Part.escaped : Part → List Char
  | .char c => [c]
  | .tag mark => List.replicate (2 * mark.slashes + 1) '\\' ++ mark.bracketed

/-- Doubles a single backslash at the end, where it would protect a tag that follows. -/
def closeSlash (text : List Char) : List Char :=
  if ['\\'].isSuffixOf text && !(['\\', '\\'].isSuffixOf text) then text ++ ['\\'] else text

/-- The text with all its tags protected. -/
def escape (text : List Char) : List Char :=
  closeSlash ((parts text).flatMap Part.escaped)

/-- What carrying out markup takes from where it runs. -/
structure Console where
  /-- Whether the text is a literal of the language that calls are written in. -/
  isLiteral : List Char → Bool

/-- A style that is switched on: the name of its tag in normal form, and the parameters behind an
equals sign. -/
structure Opened where
  name : String
  parameters : Option (List Char) := none
  deriving DecidableEq, Repr

namespace Opened

/-- The text that the style is looked up by. -/
def style (opened : Opened) : List Char :=
  opened.name.toList ++
    match opened.parameters with
    | some parameters => ' ' :: parameters
    | none => []

/-- The arguments of a call; a text that is no call is all arguments. -/
def arguments (parameters : List Char) : List Char :=
  let call := Text.trim parameters
  match call.dropWhile fun c => Text.isNameChar c || c == '.' with
  | [] => ['(', ')']
  | '(' :: rest =>
    if rest.getLast? == some ')' && !rest.contains '\n' then '(' :: rest else call
  | _ => call

/-- Whether the style can be switched off: if it is a call, its arguments can be read. -/
def canClose (console : Console) (opened : Opened) : Bool :=
  opened.name.toList.head? != some '@' ||
    match opened.parameters with
    | none | some [] => true
    | some parameters => console.isLiteral (arguments parameters)

end Opened

/-- What a tag does. -/
inductive Action where
  /-- Switches a style on. -/
  | open (opened : Opened)
  /-- Switches off the last style of a name. -/
  | close (name : String)
  /-- Switches off the last style. -/
  | closeLast
  /-- Its name breaks off reading. -/
  | breakOff
  deriving DecidableEq, Repr

/-- The action of a tag. What follows an equals sign is not part of its name. -/
def Tag.action (tag : Tag) : Action :=
  match tag.inside.takeWhile (· != '=') with
  | '/' :: name =>
    if Text.isBlankText name then .closeLast
    else if breaksOff (Text.trim name) then .breakOff
    else .close (normalName (Text.trim name))
  | name =>
    if breaksOff name then .breakOff
    else
      let behind := tag.inside.dropWhile (· != '=')
      .open ⟨normalName name, if behind.isEmpty then none else some (behind.drop 1)⟩

/-- Why a text cannot be rendered. -/
inductive Fault where
  /-- A tag closes a style that is not on. -/
  | unopened (name : String)
  | nothingOpen
  /-- A tag closes a call whose arguments cannot be read. -/
  | unreadable (parameters : List Char)
  /-- A part of a colour is no number. -/
  | brokenColor
  deriving DecidableEq, Repr

/-- Switches a style off. -/
def Opened.close (console : Console) (opened : Opened) (stack : List Opened) :
    Except Fault (List Opened) :=
  if opened.canClose console then .ok stack
  else .error (.unreadable (opened.parameters.getD []))

/-- Carries an action out on the styles that are on, the last one first. -/
def Action.apply (console : Console) (stack : List Opened) : Action → Except Fault (List Opened)
  | .open opened => .ok (opened :: stack)
  | .close name =>
    match stack.find? (·.name == name) with
    | some opened => opened.close console (stack.eraseP (·.name == name))
    | none => .error (.unopened name)
  | .closeLast =>
    match stack with
    | opened :: rest => opened.close console rest
    | [] => .error .nothingOpen
  | .breakOff => .error .brokenColor

/-- The text that parts show, given the styles that are on. A backslash in front of a bracket that
starts no tag is not shown. -/
def renderParts (console : Console) (stack : List Opened) : List Part → Except Fault (List Char)
  | [] => .ok []
  | .char '\\' :: .char '[' :: rest => (renderParts console stack rest).map ('[' :: ·)
  | .char c :: rest => (renderParts console stack rest).map (c :: ·)
  | .tag tag :: rest =>
    let slashes := List.replicate (tag.slashes / 2) '\\'
    if tag.slashes % 2 == 1 then
      (renderParts console stack rest).map (slashes ++ tag.bracketed ++ ·)
    else
      match tag.action.apply console stack with
      | .ok stack => (renderParts console stack rest).map (slashes ++ ·)
      | .error fault => .error fault

/-- The text that a markup text shows. -/
def render (console : Console) (text : List Char) : Except Fault (List Char) :=
  renderParts console [] (parts text)

/-! ## The styles that are looked up -/

/-- The style that a part switches on. -/
def Part.opened? : Part → Option Opened
  | .char _ => none
  | .tag mark =>
    if mark.slashes % 2 == 1 then none
    else match mark.action with
      | .open opened => some opened
      | _ => none

/-- The styles of the characters that parts show, given those that are on. Only characters of a kind
count. -/
def stylesOn (console : Console) (counts : Char → Bool) (stack : List Opened) :
    List Part → List Opened
  | [] => []
  | .char c :: rest => (if counts c then stack else []) ++ stylesOn console counts stack rest
  | .tag tag :: rest =>
    (if 0 < tag.slashes then stack else []) ++
      if tag.slashes % 2 == 1 then stylesOn console counts stack rest
      else match tag.action.apply console stack with
        | .ok stack => stylesOn console counts stack rest
        | .error _ => []

end ShellVet.Terminal.Markup
