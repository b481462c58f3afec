import ShellVet.Proofs.Settled
import ShellVet.Yaml.Scalar
import Mathlib.Data.List.Basic

/-!
# Reading scalars

Each reader of scalars goes on in its text. It gives up where the syntax is broken, or at an escape
for a code point, and then the digits of that one stand in the text behind a backslash and the
letter that says how many they are.
-/

namespace ShellVet.Yaml

variable {text : List Char} {place : Place}

/-! ## Going on -/

/-- What comes after the place is the end of the text. -/
def Place.IsIn (place : Place) (text : List Char) : Prop := place.rest <:+ text

theorem Place.step_rest (place : Place) : place.step.rest = place.rest.tail := by
  unfold step
  split
  · next ends => rw [ends, List.tail_nil]
  · next c rest goes =>
    dsimp only
    split <;> rw [goes, List.tail_cons]

theorem Place.steps_rest (place : Place) (count : Nat) :
    (place.steps count).rest = place.rest.drop count := by
  induction count generalizing place with
  | zero => rfl
  | succ count ih => rw [steps, ih, step_rest, List.drop_tail]

namespace Place.IsIn

variable (part : place.IsIn text)

include part

theorem steps (count : Nat) : (place.steps count).IsIn text := by
  unfold IsIn
  rw [steps_rest]
  exact (List.drop_suffix count place.rest).trans part

theorem step : place.step.IsIn text :=
  part.steps 1

theorem skip (kind : Char → Bool) : (place.skip kind).IsIn text :=
  part.steps _

theorem skipBlanks : place.skipBlanks.IsIn text :=
  part.skip _

theorem skipLine : place.skipLine.IsIn text :=
  part.skip _

theorem skipTo (column : Nat) : (place.skipTo column).IsIn text :=
  part.steps _

theorem lineBreak : place.lineBreak.2.IsIn text := by
  unfold Place.lineBreak
  dsimp only
  split
  · exact part.steps 2
  · split
    · exact part.step
    · split
      · exact part.step
      · exact part

end Place.IsIn

/-! ## Escapes -/

/-- A code point stands in the text as an escape, in as many hexadecimal digits as its letter
says. -/
def HoldsCode (text : List Char) (code : Nat) : Prop :=
  ∃ letter digits, codeLength? letter = some digits.length ∧
    (∀ c ∈ digits, isHexDigit c = true) ∧ Decimal.ofDigits 16 digits = code ∧
    '\\' :: letter :: digits <:+: text

/-- An anchor and an alias of one name stand in the text. -/
def HoldsAlias (text : List Char) : Prop :=
  ∃ name, '&' :: name <:+: text ∧ '*' :: name <:+: text

/-- The fault is a break of the syntax, or the text holds the escape or the alias it is about. -/
def Fault.IsOf (text : List Char) : Fault → Prop
  | .malformed => True
  | .codePoint => ∃ code, 0x110000 ≤ code ∧ HoldsCode text code
  | .hugeCodePoint => ∃ code, 0x80000000 ≤ code ∧ HoldsCode text code
  | .endless => HoldsAlias text
  | _ => False

/-- The reader comes to a place in the text, or its fault is one of the text. -/
def ReadsIn {α : Type} (text : List Char) : Except Fault (α × Place) → Prop :=
  Settles (fun read => read.2.IsIn text) (Fault.IsOf text)

theorem settles_pointOfDigits {digits : List Char}
    (stands : HoldsCode text (Decimal.ofDigits 16 digits)) :
    Settles (fun _ => True) (Fault.IsOf text) (pointOfDigits digits) := by
  unfold pointOfDigits
  dsimp only
  split
  · next huge => exact ⟨_, huge, stands⟩
  · split
    · next beyond => exact ⟨_, beyond, stands⟩
    · trivial

/-! ## Quoted scalars -/

theorem readsIn_quotedBreaks (fuel : Nat) (part : place.IsIn text) :
    ReadsIn text (quotedBreaks fuel place) := by
  induction fuel generalizing place with
  | zero => trivial
  | succ fuel ih =>
    unfold quotedBreaks
    split
    · trivial
    · dsimp only
      split
      · exact (ih (part.skip _).lineBreak).bind fun read last => last
      · exact part.skip _

theorem readsIn_quotedGap (part : place.IsIn text) : ReadsIn text (quotedGap place) := by
  unfold quotedGap
  dsimp only
  split
  · trivial
  · split
    · exact (readsIn_quotedBreaks _ (part.skip _).lineBreak).bind fun read last => last
    · exact part.skip _

theorem next_cons {c : Char} (some : c ≠ endChar) (comes : place.next = c) :
    place.rest = c :: place.step.rest := by
  rw [Place.step_rest]
  unfold Place.next at comes
  cases rest : place.rest with
  | nil =>
    rw [rest] at comes
    exact absurd comes.symm some
  | cons first others =>
    rw [rest] at comes
    rw [← comes]
    rfl

theorem readsIn_quotedEscape (behind : '\\' :: place.rest <:+ text) :
    ReadsIn text (quotedEscape place) := by
  have part : place.IsIn text := (List.suffix_cons _ _).trans behind
  unfold quotedEscape
  split
  · exact part.step
  · next count none length =>
    dsimp only
    split
    · next hexadecimal =>
      obtain ⟨enough, hexadecimal⟩ := Bool.and_eq_true_iff.mp hexadecimal
      have letter : place.next ≠ endChar := by
        intro ends
        rw [ends] at length
        cases length
      have prefixed : '\\' :: place.next :: place.step.rest.take count <+: '\\' :: place.rest := by
        rw [next_cons letter rfl]
        exact (List.prefix_cons_inj _).mpr ((List.prefix_cons_inj _).mpr (List.take_prefix _ _))
      refine Settles.bind (settles_pointOfDigits ⟨place.next, place.step.rest.take count, ?_,
        List.all_eq_true.mp hexadecimal, rfl, prefixed.isInfix.trans behind.isInfix⟩)
        fun c _ => part.steps _
      rw [of_decide_eq_true enough, length]
    · trivial
  · split
    · exact (readsIn_quotedBreaks _ part.lineBreak).bind fun read last => last
    · trivial

theorem readsIn_quotedFrom (quote : Char) (fuel : Nat) (done : List CodePoint)
    (part : place.IsIn text) : ReadsIn text (quotedFrom quote fuel done place) := by
  induction fuel generalizing done place with
  | zero => trivial
  | succ fuel ih =>
    unfold quotedFrom
    dsimp only
    split
    · exact ih _ (part.steps 2)
    · split
      · trivial
      · split
        · exact part.step
        · split
          · next escapes =>
            have slash : place.next = '\\' := by
              simpa using (Bool.and_eq_true_iff.mp escapes).1
            have behind : '\\' :: place.step.rest <:+ text := by
              rw [← next_cons (by decide) slash]
              exact part
            exact (readsIn_quotedEscape behind).bind fun read after => ih _ after
          · split
            · exact (readsIn_quotedGap part).bind fun read after => ih _ after
            · exact ih _ part.step

theorem readsIn_quotedScalar (part : place.IsIn text) : ReadsIn text (quotedScalar place) :=
  readsIn_quotedFrom _ _ _ part.step

/-! ## Plain scalars -/

theorem isIn_plainBreaks (fuel : Nat) (part : place.IsIn text) :
    (plainBreaks fuel place).2.IsIn text := by
  induction fuel generalizing place with
  | zero => exact part
  | succ fuel ih =>
    unfold plainBreaks
    split
    · exact ih part.step
    · split
      · dsimp only
        split
        · exact part.lineBreak
        · exact ih part.lineBreak
      · exact part

theorem isIn_plainGap (part : place.IsIn text) : (plainGap place).2.2.IsIn text := by
  have after := part.skipBlanks.lineBreak
  unfold plainGap
  dsimp only
  split
  · split
    · exact after
    · have last := isIn_plainBreaks ((place.skipBlanks.lineBreak.2).rest.length + 1) after
      split <;> next read => rwa [read] at last
  · exact part.skipBlanks

theorem isIn_plainFrom (inFlow : Bool) (indent fuel : Nat) (done gap : List Char) (broken : Bool)
    (part : place.IsIn text) :
    (plainFrom inFlow indent fuel done gap broken place).2.2.IsIn text := by
  induction fuel generalizing done gap broken place with
  | zero => exact part
  | succ fuel ih =>
    unfold plainFrom
    dsimp only
    generalize (if place.next == '#' then [] else plainRun inFlow place.rest) = run
    have after := isIn_plainGap (part.steps run.length)
    split
    · exact part
    · split
      · exact after
      · exact ih _ _ _ after

theorem isIn_plainScalar (inFlow : Bool) (indent : Nat) (part : place.IsIn text) :
    (plainScalar inFlow indent place).2.2.IsIn text :=
  isIn_plainFrom _ _ _ _ _ _ part

/-! ## Block scalars -/

theorem settles_indentationOf (c : Char) :
    Settles (fun _ => True) (Fault.IsOf text) (indentationOf c) := by
  unfold indentationOf
  split <;> trivial

theorem settles_blockSigns (part : place.IsIn text) :
    Settles (fun read => read.2.2.IsIn text) (Fault.IsOf text) (blockSigns place) := by
  unfold blockSigns
  split
  · dsimp only
    split
    · exact Settles.bind (settles_indentationOf _) fun _ _ => part.step.step
    · exact part.step
  · split
    · refine Settles.bind (settles_indentationOf _) fun _ _ => ?_
      dsimp only
      split
      · exact part.step.step
      · exact part.step
    · exact part

theorem settles_restOfLine (part : place.IsIn text) :
    Settles (fun after => after.IsIn text) (Fault.IsOf text) (restOfLine place) := by
  unfold restOfLine
  dsimp only
  split
  · split
    · exact part.skipBlanks.skipLine.lineBreak
    · trivial
  · split
    · exact part.skipBlanks.lineBreak
    · trivial

theorem isIn_leadingBreaks (fuel widest : Nat) (part : place.IsIn text) :
    (leadingBreaks fuel widest place).2.2.IsIn text := by
  induction fuel generalizing widest place with
  | zero => exact part
  | succ fuel ih =>
    unfold leadingBreaks
    split
    · exact ih _ part.step
    · split
      · exact ih _ part.lineBreak
      · exact part

theorem isIn_blockBreaks (indent fuel : Nat) (part : place.IsIn text) :
    (blockBreaks indent fuel place).2.IsIn text := by
  induction fuel generalizing place with
  | zero => exact part
  | succ fuel ih =>
    unfold blockBreaks
    dsimp only
    split
    · exact ih (part.skipTo indent).lineBreak
    · exact part.skipTo indent

theorem isIn_blockLines (folded : Bool) (indent fuel : Nat) (done breaks : List Char)
    (part : place.IsIn text) :
    (blockLines folded indent fuel done breaks place).2.2.2.IsIn text := by
  induction fuel generalizing done breaks place with
  | zero => exact part
  | succ fuel ih =>
    have after := isIn_blockBreaks indent
      (((place.steps (place.ahead fun c => !isBreak c).length).lineBreak.2).rest.length + 1)
      (part.steps (place.ahead fun c => !isBreak c).length).lineBreak
    unfold blockLines
    dsimp only
    split
    · exact ih _ _ after
    · exact after

theorem isIn_linesIf (condition : Prop) [Decidable condition] (folded : Bool) (indent fuel : Nat)
    (breaks : List Char) (part : place.IsIn text) :
    (if condition then blockLines folded indent fuel [] breaks place
      else ([], [], breaks, place)).2.2.2.IsIn text := by
  split
  · exact isIn_blockLines _ _ _ _ _ part
  · exact part

theorem readsIn_blockScalar (folded : Bool) (parent : Nat) (part : place.IsIn text) :
    ReadsIn text (blockScalar folded parent place) := by
  unfold blockScalar
  refine Settles.bind (settles_blockSigns part) ?_
  rintro ⟨chomping, indentation, place⟩ after
  dsimp only
  split
  · trivial
  · refine Settles.bind (settles_restOfLine after) fun first inside => ?_
    cases indentation with
    | none => exact isIn_linesIf _ folded _ _ _ (isIn_leadingBreaks _ _ inside)
    | some indentation => exact isIn_linesIf _ folded _ _ _ (isIn_blockBreaks _ _ inside)

end ShellVet.Yaml
