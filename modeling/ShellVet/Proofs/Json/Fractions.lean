import ShellVet.Proofs.Json.Scalars

/-!
# Numbers with a fraction as they are written

A number with a fraction or an exponent is written in parts: digits, a point and digits, an exponent
(`Parts`). Whatever the number is, its text is made of such parts behind a sign, or is one of three
words (`floatText_cases`), so it is read as a number of this kind again (`reads_float`). Which one
it is read as (`rereadFloat`) is not said here: that the text leads back to the number is a fact
about rounding.
-/

namespace ShellVet

namespace Decimal

/-! ## The digits of the shortest decimal -/

/-- The digits of a numeral are digits of a number other than zero, or the numeral is the one of
zero. -/
def Numeral.Proper (numeral : Numeral) : Prop :=
  (∀ c ∈ numeral.digits, Json.isDigit c = true) ∧
    (numeral.digits = [] ∧ numeral.point = 1 ∨
      ∃ first rest, numeral.digits = first :: rest ∧ first ≠ '0')

theorem stripZeros_cons {first : Char} (ink : first ≠ '0') (rest : List Char) :
    stripZeros (first :: rest) = first :: stripZeros rest := by
  unfold stripZeros
  rw [List.reverse_cons, List.dropWhile_append]
  split
  case isTrue zeros =>
    rw [List.isEmpty_iff.mp zeros]
    simp [ink]
  case isFalse => simp

theorem mem_of_mem_stripZeros {digits : List Char} {c : Char} (inside : c ∈ stripZeros digits) :
    c ∈ digits :=
  List.mem_reverse.mp ((List.dropWhile_sublist _).mem (List.mem_reverse.mp inside))

theorem low_spanOf_pos {significand : Nat} (positive : 0 < significand) (exponent : Int) :
    0 < (spanOf significand exponent).low := by
  have unit : 0 < (scaleDown 1 1 (2 - exponent)).1 := by
    unfold scaleDown
    split
    · exact Nat.one_pos
    · rw [Nat.one_mul]
      exact Nat.pow_pos (by decide)
  refine Nat.mul_pos ?_ unit
  split <;> omega

/-- Zero is in no span of a number other than zero. -/
theorem not_has_zero {span : Span} (positive : 0 < span.low) (k : Int) : span.has 0 k = false := by
  have den : 0 < (tenTo k).2 := by
    unfold tenTo
    split
    · exact Nat.one_pos
    · exact Nat.pow_pos (by decide)
  have above : 0 < span.low * (tenTo k).2 := Nat.mul_pos positive den
  unfold Span.has
  dsimp only
  rw [Nat.zero_mul, Nat.zero_mul]
  split
  · simp only [Bool.and_eq_false_iff, decide_eq_false_iff_not]
    omega
  · simp only [Bool.and_eq_false_iff, decide_eq_false_iff_not]
    omega

theorem has_of_onGrid {span : Span} {k : Int} {c : Nat} (found : span.onGrid k = some c) :
    span.has c k = true := by
  unfold Span.onGrid at found
  dsimp only at found
  split at found
  case h_1 below above =>
    rw [← Option.some.inj found]
    split
    · exact below
    · exact above
  case h_2 below _ =>
    rw [← Option.some.inj found]
    exact below
  case h_3 _ above =>
    rw [← Option.some.inj found]
    exact above
  case h_4 => cases found

theorem proper_shortest {significand : Nat} (positive : 0 < significand) (exponent : Int) :
    (shortest significand exponent).Proper := by
  unfold shortest
  dsimp only
  generalize search : List.findSome? _ _ = found
  cases found with
  | none => exact ⟨nofun, .inl ⟨rfl, rfl⟩⟩
  | some grid =>
    obtain ⟨c, k⟩ := grid
    obtain ⟨n, -, tried⟩ := List.exists_of_findSome?_eq_some search
    obtain ⟨_, best, same⟩ := Option.map_eq_some_iff.mp tried
    cases same
    have has := has_of_onGrid best
    have nonzero : 0 < c := by
      refine Nat.pos_of_ne_zero ?_
      rintro rfl
      rw [not_has_zero (low_spanOf_pos positive exponent)] at has
      cases has
    obtain ⟨first, rest, digits⟩ := List.exists_cons_of_ne_nil
      (Nat.toDigits_ne_nil (n := c) (b := 10))
    have ink : first ≠ '0' := by
      rintro rfl
      refine Json.head_toDigits_ne_zero nonzero ?_
      rw [digits]
      rfl
    refine ⟨fun d inside => Json.isDigit_of_mem_toDigits (mem_of_mem_stripZeros inside), .inr ?_⟩
    exact ⟨first, stripZeros rest,
      (congrArg stripZeros digits).trans (stripZeros_cons ink rest), ink⟩

end Decimal

namespace Json

/-! ## The parts of a number -/

/-- What a number is written with behind its sign, where it is no integer: digits, a fraction, and
an exponent with its sign, of which one of the last two may be missing. -/
structure Parts where
  whole : List Char
  fraction : List Char
  exponent : Option (Bool × List Char)
  leads : LeadsNumber whole
  plain : ∀ c ∈ whole ++ fraction, isDigit c = true
  power : ∀ negative digits, exponent = some (negative, digits) →
    digits ≠ [] ∧ ∀ c ∈ digits, isDigit c = true
  broken : fraction ≠ [] ∨ exponent ≠ none

namespace Parts

/-- The text of a fraction. -/
def fractionText (parts : Parts) : List Char :=
  if parts.fraction = [] then [] else '.' :: parts.fraction

/-- The text of an exponent. -/
def exponentText (parts : Parts) : List Char :=
  match parts.exponent with
  | none => []
  | some (negative, digits) => 'e' :: (if negative then '-' else '+') :: digits

/-- The text of a number of these parts. -/
def text (parts : Parts) : List Char :=
  parts.whole ++ (parts.fractionText ++ parts.exponentText)

variable {parts : Parts} {rest : List Char}

/-- No digit stands before an exponent, or at the end of a number without one. -/
theorem head?_exponentText (ends : EndsNumber rest) :
    ∀ c ∈ (parts.exponentText ++ rest).head?, isDigit c = false := by
  unfold exponentText
  cases parts.exponent with
  | none => exact fun c first => (ends c first).1
  | some power =>
    rintro _ ⟨⟩
    rfl

theorem head?_fractionText (ends : EndsNumber rest) :
    ∀ c ∈ (parts.fractionText ++ (parts.exponentText ++ rest)).head?, isDigit c = false := by
  unfold fractionText
  split
  · exact head?_exponentText ends
  · rintro _ ⟨⟩
    rfl

theorem fractionDigits_text (ends : EndsNumber rest) :
    fractionDigits (parts.fractionText ++ (parts.exponentText ++ rest)) = parts.fraction := by
  unfold fractionText
  split
  case isTrue missing =>
    rw [missing, List.nil_append]
    unfold exponentText
    split
    · exact fractionDigits_of_endsNumber ends
    · rfl
  case isFalse =>
    exact takeWhile_isDigit_append
      (fun c inside => parts.plain c (List.mem_append_right _ inside)) (head?_exponentText ends)

/-- An exponent is taken with its sign, and none where none is written. -/
theorem exponentPart_text (parts : Parts) :
    ∃ power, (parts.exponent = none → power = none) ∧
      (parts.exponent ≠ none → ∃ size, power = some (size, parts.exponentText.length)) ∧
      ∀ rest, EndsNumber rest → exponentPart (parts.exponentText ++ rest) = power := by
  unfold exponentText
  cases given : parts.exponent with
  | none =>
    exact ⟨none, fun _ => rfl, fun written => absurd rfl written,
      fun rest ends => exponentPart_of_endsNumber ends⟩
  | some power =>
    obtain ⟨negative, digits⟩ := power
    obtain ⟨nonempty, plain⟩ := parts.power negative digits given
    have written : digits.isEmpty = false := List.isEmpty_eq_false_iff.mpr nonempty
    let size : Int := Decimal.ofDigits 10 digits
    refine ⟨some (if negative then -size else size, 1 + 1 + digits.length), nofun,
      fun _ => ⟨if negative then -size else size, congrArg (fun taken => some (_, taken)) ?_⟩,
      fun rest ends => ?_⟩
    · rw [List.length_cons, List.length_cons]
      omega
    · have taken : leadingDigits (digits ++ rest) = digits :=
        takeWhile_isDigit_append plain fun c first => (ends c first).1
      cases negative <;> simp [exponentPart, taken, written, size]

/-- What is written in parts is read as a number that is no integer. -/
theorem reads_unsigned (parts : Parts) (negative : Bool) :
    ∃ value, ∀ start rest pos, EndsNumber rest →
      Reads (readUnsigned start negative ⟨parts.text ++ rest, pos⟩) (.float value) rest := by
  obtain ⟨power, missing, present, taken⟩ := parts.exponentPart_text
  refine ⟨Decimal.ofParts negative parts.whole parts.fraction ((power.map (·.1)).getD 0),
    fun start rest pos ends => ?_⟩
  have whole : wholeDigits (parts.text ++ rest) = parts.whole := by
    rw [text, List.append_assoc, List.append_assoc]
    exact wholeDigits_append parts.leads
      (fun c inside => parts.plain c (List.mem_append_left _ inside)) (head?_fractionText ends)
  have nonempty : parts.whole.isEmpty = false := by
    rw [List.isEmpty_eq_false_iff]
    rcases parts.leads with zero | ⟨first, more, ink, -⟩
    · rw [zero]
      exact List.cons_ne_nil _ _
    · rw [ink]
      exact List.cons_ne_nil _ _
  have afterWhole : Place.drop ⟨parts.text ++ rest, pos⟩ parts.whole.length =
      ⟨parts.fractionText ++ (parts.exponentText ++ rest), pos + parts.whole.length⟩ := by
    simp [Place.drop, text]
  have afterFraction : ∃ later, (if parts.fraction.isEmpty then
        ⟨parts.fractionText ++ (parts.exponentText ++ rest), pos + parts.whole.length⟩
      else Place.drop ⟨parts.fractionText ++ (parts.exponentText ++ rest),
        pos + parts.whole.length⟩ (parts.fraction.length + 1)) =
      (⟨parts.exponentText ++ rest, later⟩ : Place) := by
    unfold fractionText
    cases parts.fraction with
    | nil => exact ⟨_, rfl⟩
    | cons first more => exact ⟨_, by simp [Place.drop]; rfl⟩
  obtain ⟨later, afterFraction⟩ := afterFraction
  unfold readUnsigned
  dsimp only
  rw [whole, nonempty, afterWhole]
  dsimp only
  rw [fractionDigits_text ends, afterFraction]
  dsimp only
  rw [taken rest ends]
  cases given : parts.exponent with
  | none =>
    have unwritten : parts.fraction.isEmpty = false :=
      List.isEmpty_eq_false_iff.mpr (parts.broken.resolve_right (absurd given))
    have bare : parts.exponentText = [] := by
      rw [exponentText, given]
    rw [missing given, unwritten, bare]
    exact ⟨_, rfl⟩
  | some written =>
    obtain ⟨size, same⟩ := present (by rw [given]; exact Option.some_ne_none written)
    rw [same]
    exact ⟨later + parts.exponentText.length, by simp [Place.drop]⟩

/-- The characters of a number of parts. -/
theorem mem_text {c : Char} (inside : c ∈ parts.text) :
    isDigit c = true ∨ c ∈ ['.', 'e', '+', '-'] := by
  have fraction : c ∈ parts.fractionText → isDigit c = true ∨ c ∈ ['.', 'e', '+', '-'] := by
    unfold fractionText
    split
    · nofun
    · rintro (_ | ⟨_, inside⟩)
      · exact .inr List.mem_cons_self
      · exact .inl (parts.plain c (List.mem_append_right _ inside))
  have exponent : c ∈ parts.exponentText → isDigit c = true ∨ c ∈ ['.', 'e', '+', '-'] := by
    unfold exponentText
    split
    · nofun
    · next negative digits given =>
      rintro (_ | ⟨_, _ | ⟨_, inside⟩⟩)
      · exact .inr (by decide)
      · exact .inr (by cases negative <;> decide)
      · exact .inl ((parts.power negative digits given).2 c inside)
  rcases List.mem_append.mp inside with whole | inside
  · exact .inl (parts.plain c (List.mem_append_left _ whole))
  · exact (List.mem_append.mp inside).elim fraction exponent

/-- A number of parts starts with a digit. -/
theorem text_starts (parts : Parts) : ∃ c tail, parts.text = c :: tail ∧ isDigit c = true := by
  obtain ⟨c, more, whole⟩ : ∃ c more, parts.whole = c :: more := by
    rcases parts.leads with zero | ⟨first, more, ink, -⟩
    · exact ⟨_, _, zero⟩
    · exact ⟨first, more, ink⟩
  refine ⟨c, more ++ (parts.fractionText ++ parts.exponentText), ?_, ?_⟩
  · rw [text, whole, List.cons_append]
  · exact parts.plain c (by rw [whole]; exact List.mem_cons_self)

end Parts

/-! ## The text of a number -/

/-- Digits with a point among them are parts of a number. -/
theorem exists_parts_point {whole fraction : List Char} (leads : LeadsNumber whole)
    (plain : ∀ c ∈ whole ++ fraction, isDigit c = true) (nonempty : fraction ≠ []) :
    ∃ parts : Parts, parts.text = whole ++ '.' :: fraction := by
  refine ⟨⟨whole, fraction, none, leads, plain, nofun, .inl nonempty⟩, ?_⟩
  simp [Parts.text, Parts.fractionText, Parts.exponentText, nonempty]

/-- Digits and an exponent are parts of a number, with a point behind the first digit or not. -/
theorem exists_parts_power {first : Char} {fraction : List Char} (ink : first ≠ '0')
    (plain : ∀ c ∈ first :: fraction, isDigit c = true) (exponent : Int) :
    ∃ parts : Parts, parts.text = first :: ((if fraction = [] then [] else '.' :: fraction) ++
      'e' :: Decimal.exponentText exponent) := by
  let digits := Nat.toDigits 10 exponent.natAbs
  let padded := if digits.length < 2 then '0' :: digits else digits
  have digitsPlain : ∀ c ∈ digits, isDigit c = true := fun c => isDigit_of_mem_toDigits
  have paddedPlain : ∀ c ∈ padded, isDigit c = true := by
    unfold padded
    split
    · exact List.forall_mem_cons.mpr ⟨rfl, digitsPlain⟩
    · exact digitsPlain
  have nonempty : padded ≠ [] := by
    unfold padded
    split
    · exact List.cons_ne_nil _ _
    · exact Nat.toDigits_ne_nil
  refine ⟨⟨[first], fraction, some (decide (exponent < 0), padded), .inr ⟨first, [], rfl, ink⟩,
    plain, ?_, .inr (Option.some_ne_none _)⟩, ?_⟩
  · rintro _ _ ⟨⟩
    exact ⟨nonempty, paddedPlain⟩
  · simp [Parts.text, Parts.fractionText, Parts.exponentText, Decimal.exponentText, padded, digits]

theorem isDigit_of_mem_zeros {count : Nat} :
    ∀ c ∈ List.replicate count '0', isDigit c = true := by
  intro c inside
  rw [List.eq_of_mem_replicate inside]
  rfl

/-- A proper numeral is written in parts: zeros and all its digits behind the point, all its digits
and zeros before it, the point among the digits, or an exponent. -/
theorem exists_parts_of_proper {numeral : Decimal.Numeral} (proper : numeral.Proper) :
    ∃ parts : Parts, parts.text = numeral.text := by
  obtain ⟨digits, point⟩ := numeral
  obtain ⟨plain, leads⟩ := proper
  dsimp only at plain leads
  -- the numeral of zero has its point behind the first place
  have inked : point ≠ 1 → ∃ first rest, digits = first :: rest ∧ first ≠ '0' := fun other =>
    leads.resolve_left fun zero => other zero.2
  unfold Decimal.Numeral.text
  dsimp only
  split
  case isTrue low =>
    rw [Bool.and_eq_true, decide_eq_true_iff, decide_eq_true_iff] at low
    obtain ⟨first, rest, rfl, -⟩ := inked (by omega)
    have behind : ∀ c ∈ ['0'] ++ (List.replicate (-point).toNat '0' ++ first :: rest),
        isDigit c = true := by
      simp only [List.forall_mem_append, List.forall_mem_singleton]
      exact ⟨rfl, isDigit_of_mem_zeros, plain⟩
    exact exists_parts_point (.inl rfl) behind (by simp)
  case isFalse =>
    split
    case isTrue middle =>
      rw [Bool.and_eq_true, decide_eq_true_iff, decide_eq_true_iff] at middle
      split
      case isTrue =>
        refine exists_parts_point ?_ ?_ (List.cons_ne_nil '0' [])
        · rcases leads with ⟨rfl, rfl⟩ | ⟨first, rest, rfl, ink⟩
          · exact .inl rfl
          · exact .inr ⟨first, _, rfl, ink⟩
        · simp only [List.forall_mem_append, List.forall_mem_singleton]
          exact ⟨⟨plain, isDigit_of_mem_zeros⟩, rfl⟩
      case isFalse long =>
        refine exists_parts_point (.inr ?_) ?_ (mt List.drop_eq_nil_iff.mp long)
        · obtain ⟨more, count⟩ := Nat.exists_eq_add_one.mpr (show 0 < point.toNat by omega)
          rcases leads with ⟨rfl, -⟩ | ⟨first, rest, rfl, ink⟩
          · exact absurd (Nat.zero_le _) long
          · exact ⟨first, rest.take more, by rw [count]; rfl, ink⟩
        · rwa [List.take_append_drop]
    case isFalse far =>
      rw [Bool.and_eq_true, decide_eq_true_iff, decide_eq_true_iff] at far
      obtain ⟨first, rest, rfl, ink⟩ := inked (by omega)
      obtain ⟨parts, same⟩ := exists_parts_power ink plain (point - 1)
      refine ⟨parts, same.trans ?_⟩
      cases rest with
      | nil => rfl
      | cons second rest => simp

/-- A number that is finite is written in parts. -/
theorem exists_parts (significand : Nat) (exponent : Int) :
    ∃ parts : Parts, parts.text = (Decimal.Magnitude.finite significand exponent).text := by
  rcases Nat.eq_zero_or_pos significand with rfl | positive
  · let zero : Parts :=
      ⟨['0'], ['0'], none, .inl rfl, List.all_eq_true.mp rfl, nofun, .inl (List.cons_ne_nil _ _)⟩
    exact ⟨zero, rfl⟩
  · obtain ⟨parts, same⟩ := exists_parts_of_proper (Decimal.proper_shortest positive exponent)
    refine ⟨parts, same.trans ?_⟩
    unfold Decimal.Magnitude.text
    split
    case h_3 zero => cases zero; cases positive
    case h_4 same => cases same; rfl
    all_goals contradiction

/-- The text of a number with a fraction is one of three words, or parts behind a sign. -/
theorem floatText_cases (value : Float) :
    floatText value ∈ [['N', 'a', 'N'], "Infinity".toList, "-Infinity".toList] ∨
      ∃ negative, ∃ parts : Parts, floatText value = signText negative ++ parts.text := by
  unfold floatText Decimal.text
  obtain ⟨negative, magnitude⟩ := Decimal.decode value
  cases magnitude with
  | notNumber => exact .inl List.mem_cons_self
  | infinite => cases negative <;> simp
  | finite significand exponent =>
    obtain ⟨parts, same⟩ := exists_parts significand exponent
    refine .inr ⟨negative, parts, ?_⟩
    rw [same]
    cases negative <;> simp [signText]

/-- A number with a fraction is read as such a number. -/
theorem reads_some_float (value : Float) :
    ∃ result, ∀ rest pos, EndsNumber rest →
      Reads (readScalar ⟨floatText value ++ rest, pos⟩) (.float result) rest := by
  rcases floatText_cases value with word | ⟨negative, parts, same⟩
  · simp only [List.mem_cons, List.not_mem_nil, or_false] at word
    rcases word with same | same | same <;> rw [same]
    · exact ⟨_, fun rest pos _ => ⟨pos + 3, rfl⟩⟩
    · exact ⟨_, fun rest pos _ => ⟨pos + 8, rfl⟩⟩
    · exact ⟨_, fun rest pos _ => ⟨pos + 9, rfl⟩⟩
  · obtain ⟨result, read⟩ := parts.reads_unsigned negative
    obtain ⟨c, tail, text, digit⟩ := parts.text_starts
    refine ⟨result, fun rest pos ends => ?_⟩
    have scalar := read ⟨signText negative ++ c :: (tail ++ rest), pos⟩ rest
      (pos + (signText negative).length) ends
    rw [text, List.cons_append, ← readScalar_signed negative digit] at scalar
    rw [same, text, List.append_assoc, List.cons_append]
    exact scalar

/-- The number that the text of a number is read as. -/
def rereadFloat (value : Float) : Float :=
  match readScalar ⟨floatText value, 0⟩ with
  | .ok (.float result, _) => result
  | _ => value

theorem reads_float (value : Float) {rest : List Char} (ends : EndsNumber rest) (pos : Nat) :
    Reads (readScalar ⟨floatText value ++ rest, pos⟩) (.float (rereadFloat value)) rest := by
  obtain ⟨result, read⟩ := reads_some_float value
  obtain ⟨last, alone⟩ := read [] 0 nofun
  rw [List.append_nil] at alone
  have same : rereadFloat value = result := by
    rw [rereadFloat, alone]
  rw [same]
  exact read rest pos ends

/-- A number with a fraction starts with a digit, a sign or one of two letters. -/
theorem floatText_starts (value : Float) :
    ∃ c tail, floatText value = c :: tail ∧ (isDigit c = true ∨ c ∈ ['N', 'I', '-']) := by
  rcases floatText_cases value with word | ⟨negative, parts, same⟩
  · simp only [List.mem_cons, List.not_mem_nil, or_false] at word
    rcases word with same | same | same <;> exact ⟨_, _, same, .inr (by decide)⟩
  · obtain ⟨c, tail, text, digit⟩ := parts.text_starts
    rw [same, text]
    cases negative with
    | true => exact ⟨'-', c :: tail, rfl, .inr (by decide)⟩
    | false => exact ⟨c, tail, rfl, .inl digit⟩

theorem return_not_mem_floatText (value : Float) : '\r' ∉ floatText value := by
  rcases floatText_cases value with word | ⟨negative, parts, same⟩
  · simp only [List.mem_cons, List.not_mem_nil, or_false] at word
    rcases word with same | same | same <;> rw [same] <;> decide
  · rw [same, List.mem_append, not_or]
    refine ⟨by cases negative <;> decide, fun inside => ?_⟩
    rcases Parts.mem_text inside with digit | mark
    · cases digit
    · revert mark
      decide

end Json
end ShellVet
