import ShellVet.Text.Codes
import Mathlib.Data.List.Chain

/-!
# Texts of characters among those of code points

A text of code points is one of characters if none of its points is a half of a pair
(`string?_eq_some_iff`). The halves of pairs are apart in it if joining them changes nothing
(`isJoined_of_isChain`), as in texts of characters.
-/

namespace ShellVet

/-! ## Pairs -/

/-- The code points are no first half with a second half behind it. -/
def CodePoint.Apart (one next : CodePoint) : Prop :=
  ∀ first second, one = .high first → next ≠ .low second

theorem CodePoint.joined_of_isChain {points : List CodePoint} (apart : points.IsChain Apart) :
    joined points = points := by
  induction points using joined.induct with
  | case1 first second points =>
    cases apart with
    | cons_cons here _ => exact absurd rfl (here first second rfl)
  | case2 point points alone ih =>
    rw [joined, ih apart.tail]
    exact alone
  | case3 => rfl

/-- No first half in the text has a second half behind it. -/
def CodeText.IsJoined (text : CodeText) : Prop := text.joined = text

theorem CodeText.isJoined_of_isChain {text : CodeText}
    (apart : text.points.IsChain CodePoint.Apart) : text.IsJoined := by
  unfold IsJoined joined
  rw [CodePoint.joined_of_isChain apart]

/-- Texts of characters hold no halves. -/
theorem CodeText.isJoined_ofString (text : String) : (ofString text).IsJoined := by
  refine isJoined_of_isChain ?_
  change (text.toList.map CodePoint.char).IsChain CodePoint.Apart
  induction text.toList with
  | nil => exact .nil
  | cons c chars ih => exact List.isChain_cons.mpr ⟨fun _ _ _ _ => nofun, ih⟩

/-! ## Characters -/

theorem CodePoint.mapM_char? (chars : List Char) :
    (chars.map char).mapM char? = some chars := by
  induction chars with
  | nil => rfl
  | cons c chars ih => simp [List.mapM_cons, ih, char?]

theorem CodePoint.mapM_char?_eq_some_iff {points : List CodePoint} {chars : List Char} :
    points.mapM char? = some chars ↔ points = chars.map char := by
  constructor
  · intro given
    induction points generalizing chars with
    | nil =>
      cases given
      rfl
    | cons point points ih =>
      cases point with
      | char c =>
        rw [List.mapM_cons] at given
        cases rest : points.mapM char? with
        | none => simp [rest, char?] at given
        | some others =>
          simp only [rest, char?, Option.bind_eq_bind, Option.bind_some, Option.pure_def,
            Option.some.injEq] at given
          rw [← given, List.map_cons, ih rest]
      | _ => simp [List.mapM_cons, char?] at given
  · rintro rfl
    exact mapM_char? chars

theorem CodeText.string?_eq_some_iff {text : CodeText} {chars : String} :
    Coded.string? text = some chars ↔ text = ofString chars := by
  unfold Coded.string? Coded.points
  rw [Option.map_eq_some_iff]
  constructor
  · rintro ⟨given, whole, rfl⟩
    cases text with
    | mk points =>
      have same := CodePoint.mapM_char?_eq_some_iff.mp whole
      change points = given.map .char at same
      rw [same, ofString, String.toList_ofList]
      rfl
  · rintro rfl
    exact ⟨chars.toList, CodePoint.mapM_char? _, String.ofList_toList⟩

@[simp]
theorem CodeText.string?_ofString (text : String) : Coded.string? (ofString text) = some text :=
  string?_eq_some_iff.mpr rfl

theorem CodeText.mapM_string?_ofString (texts : List String) :
    (texts.map ofString).mapM Coded.string? = some texts := by
  induction texts with
  | nil => rfl
  | cons text texts ih => simp [ih]

theorem CodeText.ofString_injective {one other : String} (same : ofString one = ofString other) :
    one = other := by
  have read := string?_ofString one
  rw [same, string?_ofString] at read
  exact (Option.some.inj read).symm

end ShellVet
