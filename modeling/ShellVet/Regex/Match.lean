import ShellVet.Regex.Basic

/-!
# Matching

`Regex.run` follows a pattern from a place in a text and hands every place it can end at, in order
of preference, to a continuation, until the continuation succeeds. A repetition may take the empty
text once: it stops where its last turn started. `Regex.search` tries the places of a text from the
left.
-/

namespace ShellVet

/-- A place in a text: the characters before it, last one first, and those after it. -/
structure Spot where
  pos : Nat
  before : List Char
  after : List Char
  deriving DecidableEq, Repr

/-- The start of a text. -/
def Spot.start (text : List Char) : Spot := ⟨0, [], text⟩

/-- The place after the next character. -/
def Spot.next? (spot : Spot) : Option (Char × Spot) :=
  match spot.after with
  | [] => none
  | c :: rest => some (c, ⟨spot.pos + 1, c :: spot.before, rest⟩)

/-- The place some characters back. -/
def Spot.back? (spot : Spot) : Nat → Option Spot
  | 0 => some spot
  | count + 1 =>
    match spot.before with
    | [] => none
    | c :: rest => Spot.back? ⟨spot.pos - 1, rest, c :: spot.after⟩ count

/-- The characters from one place to a later one. -/
def Spot.upTo (spot later : Spot) : List Char :=
  spot.after.take (later.pos - spot.pos)

/-- The place after a text, if the text stands here. -/
def Spot.over? (folding : Folding) (spot : Spot) : List Char → Option Spot
  | [] => some spot
  | wanted :: rest =>
    match spot.next? with
    | some (c, later) =>
      if folding.lower c == folding.lower wanted then later.over? folding rest else none
    | none => none

/-- Whether an anchor holds at a place. -/
def Anchor.holds (spot : Spot) : Anchor → Bool
  | .textStart => spot.before.isEmpty
  | .textEnd => spot.after.isEmpty
  | .lastLineEnd => spot.after.isEmpty || spot.after == ['\n']
  | .lineStart => spot.before.isEmpty || spot.before.head? == some '\n'
  | .lineEnd => spot.after.isEmpty || spot.after.head? == some '\n'
  | .wordEdge asciiOnly inside =>
    let isWord (side : List Char) :=
      (side.head?.map fun c => CharClass.word.has asciiOnly c).getD false
    !(spot.before.isEmpty && spot.after.isEmpty) &&
      (isWord spot.before != isWord spot.after) != inside

/-- Number of characters in the text of a place. -/
def Spot.size (spot : Spot) : Nat := spot.before.length + spot.after.length

/-- The texts remembered so far, the latest first, each from one place to a later one. -/
abbrev Captures := List (Nat × Spot × Spot)

/-- What is to be done at a place with the texts remembered. -/
abbrev Continuation (α : Type) := Spot → Captures → Option α

/-- Repeats a step. `count` turns are done, and `last` is where the latest turn beyond the required
ones started. -/
def repeatStep {α : Type} (step : Spot → Captures → Continuation α → Option α) (lazy : Bool)
    (least : Nat) (most : Option Nat) (done : Continuation α) :
    Nat → Nat → Option Nat → Continuation α
  | 0, _, _, _, _ => none
  | fuel + 1, count, last, spot, captures =>
    if count < least then
      step spot captures fun later held =>
        repeatStep step lazy least most done fuel (count + 1) last later held
    else
      let again := most.all (count < ·) && last != some spot.pos
      let turn (_ : Unit) : Option α :=
        if again then
          step spot captures fun later held =>
            repeatStep step lazy least most done fuel (count + 1) (some spot.pos) later held
        else none
      if lazy then
        match done spot captures with
        | some found => some found
        | none => turn ()
      else
        match turn () with
        | some found => some found
        | none => done spot captures

namespace Regex

/-- Follows a pattern in a text of at most `size` characters. -/
def run {α : Type} (size : Nat) : Regex → Spot → Captures → Continuation α → Option α
  | .empty, spot, captures, done => done spot captures
  | .one set, spot, captures, done =>
    match spot.next? with
    | some (c, later) => if set.has c then done later captures else none
    | none => none
  | .seq first second, spot, captures, done =>
    first.run size spot captures fun later held => second.run size later held done
  | .alt first second, spot, captures, done =>
    match first.run size spot captures done with
    | some found => some found
    | none => second.run size spot captures done
  | .loop lazy least most body, spot, captures, done =>
    repeatStep (body.run size) lazy least most done (least + size + 2) 0 none spot captures
  | .group index body, spot, captures, done =>
    body.run size spot captures fun later held => done later ((index, spot, later) :: held)
  | .again folding index, spot, captures, done =>
    match captures.lookup index with
    | some (start, stop) =>
      match spot.over? folding (start.upTo stop) with
      | some later => done later captures
      | none => none
    | none => none
  | .anchor kind, spot, captures, done => if kind.holds spot then done spot captures else none
  | .ahead positive body, spot, captures, done =>
    match body.run size spot captures fun _ held => some held with
    | some held => if positive then done spot held else none
    | none => if positive then none else done spot captures
  | .behind positive width body, spot, captures, done =>
    match (spot.back? width).bind fun earlier =>
        body.run size earlier captures fun _ held => some held with
    | some held => if positive then done spot held else none
    | none => if positive then none else done spot captures
  | .atomic body, spot, captures, done =>
    match body.run size spot captures fun later held => some (later, held) with
    | some (later, held) => done later held
    | none => none
  | .given index yes no, spot, captures, done =>
    if (captures.lookup index).isSome then yes.run size spot captures done
    else no.run size spot captures done

/-- Where the first match from a place ends. -/
def matchAt (regex : Regex) (spot : Spot) : Option Spot :=
  regex.run spot.size spot [] fun later _ => some later

end Regex

/-- A match: where it starts and what it takes. -/
structure Match where
  start : Nat
  text : List Char
  deriving DecidableEq, Repr

namespace Regex

/-- The leftmost match at a place of the text or further on. -/
def searchFrom (regex : Regex) (pos : Nat) (before : List Char) : List Char → Option Match
  | [] =>
    let spot : Spot := ⟨pos, before, []⟩
    (regex.matchAt spot).map fun later => ⟨pos, spot.upTo later⟩
  | c :: rest =>
    let spot : Spot := ⟨pos, before, c :: rest⟩
    match regex.matchAt spot with
    | some later => some ⟨pos, spot.upTo later⟩
    | none => searchFrom regex (pos + 1) (c :: before) rest

/-- The leftmost match in a text. -/
def search (regex : Regex) (text : List Char) : Option Match :=
  regex.searchFrom 0 [] text

/-- The text from a place on, with each match replaced. Matches are taken from the left and do not
overlap; empty ones are passed over. The next `skip` characters belong to a match. -/
def replaceFrom (regex : Regex) (replacement : List Char) (skip pos : Nat) (before : List Char) :
    List Char → List Char
  | [] => []
  | c :: rest =>
    let next (skip : Nat) := replaceFrom regex replacement skip (pos + 1) (c :: before) rest
    if skip > 0 then next (skip - 1)
    else match regex.matchAt ⟨pos, before, c :: rest⟩ with
      | some later =>
        if pos < later.pos then replacement ++ next (later.pos - pos - 1) else c :: next 0
      | none => c :: next 0

/-- The text with each match replaced. -/
def replace (regex : Regex) (replacement text : List Char) : List Char :=
  regex.replaceFrom replacement 0 0 [] text

/-- Whether the pattern matches somewhere in the text. -/
def occursIn (regex : Regex) (text : List Char) : Bool :=
  (regex.search text).isSome

end Regex

end ShellVet
