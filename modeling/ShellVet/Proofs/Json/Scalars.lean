import ShellVet.Json.Writer
import ShellVet.Proofs.Json.Tidy

/-!
# Strings and integers as they are written

Strings are read back point by point (`reads_string`): a code point is written as itself or as an
escape, and an escape is read as the code point. Only a first half with the second half behind it
comes back as the one character that the two spell. Integers are read back by their digits
(`reads_int`), as long as nothing behind them can be taken for a part of the number.
-/

namespace ShellVet.Json

/-- The computation reads a value and leaves the rest of the text. -/
def Reads {α : Type} (computation : Except Fault (α × Place)) (value : α) (rest : List Char) :
    Prop :=
  ∃ pos, computation = .ok (value, ⟨rest, pos⟩)

/-! ## Strings -/

theorem hexValue?_hexDigit : ∀ digit < 16, hexValue? (Text.hexDigit digit) = some digit := by
  decide

theorem hexFour?_hexDigits {code : Nat} (small : code < 0x10000) (c : Char) (rest : List Char) :
    hexFour? (Text.hexDigits 4 code ++ c :: rest) = some code := by
  have digits : Text.hexDigits 4 code = [Text.hexDigit (code / 16 / 16 / 16 % 16),
      Text.hexDigit (code / 16 / 16 % 16), Text.hexDigit (code / 16 % 16),
      Text.hexDigit (code % 16)] := rfl
  have value (n : Nat) : hexValue? (Text.hexDigit (n % 16)) = some (n % 16) :=
    hexValue?_hexDigit _ (Nat.mod_lt _ (by decide))
  rw [digits]
  change (do return (((← hexValue? _) * 16 + (← hexValue? _)) * 16 + (← hexValue? _)) * 16 +
    (← hexValue? _)) = some code
  rw [value, value, value, value]
  have whole : ((code / 16 / 16 / 16 % 16 * 16 + code / 16 / 16 % 16) * 16 + code / 16 % 16) * 16 +
      code % 16 = code := by
    omega
  exact congrArg some whole

theorem unicodeEscape_hexDigits {code : Nat} (small : code < 0x10000) (c : Char) (rest : List Char)
    (pos : Nat) : unicodeEscape ⟨Text.hexDigits 4 code ++ c :: rest, pos⟩ = .ok code := by
  unfold unicodeEscape
  dsimp only
  rw [hexFour?_hexDigits small]

variable {start fuel pos : Nat} {done : List CodePoint}

/-! ### Codes -/

/-- A code point is known by its number. -/
theorem ofCode_code (point : CodePoint) : CodePoint.ofCode point.code = point := by
  cases point with
  | char c =>
    have valid : c.toNat < 0xd800 ∨ 0xdfff < c.toNat ∧ c.toNat < 0x110000 := c.valid
    have notHigh : ¬(0xd800 ≤ c.toNat ∧ c.toNat < 0xdc00) := by omega
    have notLow : ¬(0xdc00 ≤ c.toNat ∧ c.toNat < 0xe000) := by omega
    unfold CodePoint.ofCode CodePoint.code
    rw [dif_neg notHigh, dif_neg notLow, Char.ofNat_toNat]
  | high first =>
    have isHigh : 0xd800 ≤ 0xd800 + first.val ∧ 0xd800 + first.val < 0xdc00 := by omega
    unfold CodePoint.ofCode CodePoint.code
    rw [dif_pos isHigh]
    exact congrArg CodePoint.high (Fin.ext (Nat.add_sub_cancel_left ..))
  | low second =>
    have notHigh : ¬(0xd800 ≤ 0xdc00 + second.val ∧ 0xdc00 + second.val < 0xdc00) := by omega
    have isLow : 0xdc00 ≤ 0xdc00 + second.val ∧ 0xdc00 + second.val < 0xe000 := by omega
    unfold CodePoint.ofCode CodePoint.code
    rw [dif_neg notHigh, dif_pos isLow]
    exact congrArg CodePoint.low (Fin.ext (Nat.add_sub_cancel_left ..))

theorem code_high_lt (first : Fin 0x400) : (CodePoint.high first).code < 0x10000 := by
  change 0xd800 + first.val < 0x10000
  omega

theorem code_low_lt (second : Fin 0x400) : (CodePoint.low second).code < 0x10000 := by
  change 0xdc00 + second.val < 0x10000
  omega

/-- An escape of a code point that is no first half is read as the code point. -/
theorem readChars_codeEscape (point : CodePoint) (small : point.code < 0x10000)
    (single : ∀ first, point ≠ .high first) (c : Char) (rest : List Char) :
    readChars start (fuel + 1) done ⟨codeEscape point.code ++ c :: rest, pos⟩ =
      readChars start fuel (point :: done) ⟨c :: rest, pos + 6⟩ := by
  have opens : codeEscape point.code ++ c :: rest =
    '\\' :: 'u' :: (Text.hexDigits 4 point.code ++ c :: rest) := rfl
  have read : unicodeEscape (Place.drop ⟨codeEscape point.code ++ c :: rest, pos⟩ 2) =
      .ok point.code :=
    unicodeEscape_hexDigits small c rest _
  rw [opens] at read ⊢
  simp only [readChars, read]
  dsimp only [bind, Except.bind]
  rw [ofCode_code]
  cases point with
  | high first => exact absurd rfl (single first)
  | _ => rfl

/-- The escapes of the two halves of a pair are read as the character of the pair. -/
theorem readChars_pair (first second : Fin 0x400) (c : Char) (rest : List Char) :
    readChars start (fuel + 1) done
        ⟨codeEscape (CodePoint.high first).code ++
          (codeEscape (CodePoint.low second).code ++ c :: rest), pos⟩ =
      readChars start fuel (.char (CodePoint.ofHalves first second) :: done)
        ⟨c :: rest, pos + 12⟩ := by
  have opens : codeEscape (CodePoint.high first).code ++
      (codeEscape (CodePoint.low second).code ++ c :: rest) = '\\' :: 'u' ::
    (Text.hexDigits 4 (CodePoint.high first).code ++
      '\\' :: ('u' :: (Text.hexDigits 4 (CodePoint.low second).code ++ c :: rest))) := rfl
  rw [opens]
  generalize whole : Text.hexDigits 4 (CodePoint.high first).code ++ _ = behind
  have one : unicodeEscape (Place.drop ⟨'\\' :: 'u' :: behind, pos⟩ 2) =
      .ok (CodePoint.high first).code := by
    rw [← whole]
    exact unicodeEscape_hexDigits (code_high_lt first) _ _ _
  have marked : (Place.drop ⟨'\\' :: 'u' :: behind, pos⟩ 6).rest =
      '\\' :: 'u' :: (Text.hexDigits 4 (CodePoint.low second).code ++ c :: rest) := by
    rw [← whole]
    rfl
  have other : unicodeEscape (Place.drop ⟨'\\' :: 'u' :: behind, pos⟩ 8) =
      .ok (CodePoint.low second).code := by
    rw [← whole]
    exact unicodeEscape_hexDigits (code_low_lt second) c rest _
  have after : Place.drop ⟨'\\' :: 'u' :: behind, pos⟩ 12 = ⟨c :: rest, pos + 12⟩ := by
    rw [← whole]
    rfl
  simp only [readChars, one, other, after]
  dsimp only [bind, Except.bind]
  rw [ofCode_code, marked, ofCode_code]
  rfl

/-- The text does not start with the escape of a second half, and if it starts with an escape of a
code, then with a complete one. -/
def Unpaired (text : List Char) : Prop :=
  ∀ tail, text = '\\' :: 'u' :: tail → ∃ point : CodePoint,
    (∀ pos, unicodeEscape ⟨tail, pos⟩ = .ok point.code) ∧ ∀ second, point ≠ .low second

/-- The escape of a first half without its partner is read as the half. -/
theorem readChars_high (first : Fin 0x400) {behind : List Char} (more : behind ≠ [])
    (unpaired : Unpaired behind) :
    readChars start (fuel + 1) done ⟨codeEscape (CodePoint.high first).code ++ behind, pos⟩ =
      readChars start fuel (.high first :: done) ⟨behind, pos + 6⟩ := by
  obtain ⟨c, rest, rfl⟩ := List.exists_cons_of_ne_nil more
  have opens : codeEscape (CodePoint.high first).code ++ c :: rest =
    '\\' :: 'u' :: (Text.hexDigits 4 (CodePoint.high first).code ++ c :: rest) := rfl
  rw [opens]
  generalize whole : Text.hexDigits 4 (CodePoint.high first).code ++ _ = digits
  have one : unicodeEscape (Place.drop ⟨'\\' :: 'u' :: digits, pos⟩ 2) =
      .ok (CodePoint.high first).code := by
    rw [← whole]
    exact unicodeEscape_hexDigits (code_high_lt first) _ _ _
  have after : Place.drop ⟨'\\' :: 'u' :: digits, pos⟩ 6 = ⟨c :: rest, pos + 6⟩ := by
    rw [← whole]
    rfl
  have further : Place.drop ⟨'\\' :: 'u' :: digits, pos⟩ 8 = ⟨rest.drop 1, pos + 8⟩ := by
    rw [← whole]
    rfl
  simp only [readChars, one, after, further]
  dsimp only [bind, Except.bind]
  rw [ofCode_code]
  split
  · next same =>
    cases same
    obtain ⟨point, read, single⟩ := unpaired _ rfl
    have code : unicodeEscape ⟨List.drop 1 ('u' :: _), pos + 8⟩ = .ok point.code := read _
    rw [code]
    dsimp only
    rw [ofCode_code]
    cases point with
    | low second => exact absurd rfl (single second)
    | _ => rfl
  · rfl

/-! ### Characters -/

/-- The halves that a character beyond the first 65536 is written as. -/
theorem exists_halves {c : Char} (large : 0x10000 ≤ c.toNat) : ∃ first second : Fin 0x400,
    CodePoint.ofHalves first second = c ∧
    (CodePoint.high first).code = 0xd800 + (c.toNat - 0x10000) / 0x400 ∧
    (CodePoint.low second).code = 0xdc00 + (c.toNat - 0x10000) % 0x400 := by
  have valid : c.toNat < 0xd800 ∨ 0xdfff < c.toNat ∧ c.toNat < 0x110000 := c.valid
  refine ⟨⟨(c.toNat - 0x10000) / 0x400, by omega⟩, ⟨(c.toNat - 0x10000) % 0x400, by omega⟩, ?_,
    rfl, rfl⟩
  unfold CodePoint.ofHalves
  dsimp only
  rw [show 0x10000 + (c.toNat - 0x10000) / 0x400 * 0x400 + (c.toNat - 0x10000) % 0x400 = c.toNat
    by omega]
  exact Char.ofNat_toNat c

/-- A character is written as an escape with a letter, as itself, as an escape of its code, or as
the escapes of a pair of halves. -/
theorem escapeChar_cases (c : Char) :
    (∃ letter, letter ≠ 'u' ∧ letterEscape? letter = some c ∧ escapeChar c = ['\\', letter]) ∨
    (c ≠ '"' ∧ c ≠ '\\' ∧ 32 ≤ c.toNat ∧ c.toNat < 127 ∧ escapeChar c = [c]) ∨
    (c.toNat < 0x10000 ∧ escapeChar c = codeEscape c.toNat) ∨
    ∃ first second : Fin 0x400, CodePoint.ofHalves first second = c ∧
      escapeChar c = codeEscape (CodePoint.high first).code ++
        codeEscape (CodePoint.low second).code := by
  by_cases lettered : c ∈ ['"', '\\', '\n', '\r', '\t', '\x08', '\x0c']
  · have known : (['"', '\\', '\n', '\r', '\t', '\x08', '\x0c'].all fun c =>
        ['"', '\\', 'n', 'r', 't', 'b', 'f'].any fun letter => decide
          (letter ≠ 'u' ∧ letterEscape? letter = some c ∧
            escapeChar c = ['\\', letter])) = true := by
      decide
    obtain ⟨letter, -, found⟩ := List.any_eq_true.mp (List.all_eq_true.mp known c lettered)
    exact .inl ⟨letter, of_decide_eq_true found⟩
  · simp only [List.mem_cons, List.not_mem_nil, or_false, not_or] at lettered
    unfold escapeChar
    simp only [beq_iff_eq, lettered, if_false]
    split
    case isTrue plain =>
      rw [Bool.and_eq_true, decide_eq_true_iff, decide_eq_true_iff] at plain
      exact .inr (.inl ⟨lettered.1, lettered.2.1, plain.1, plain.2, rfl⟩)
    case isFalse =>
      split
      case isTrue small => exact .inr (.inr (.inl ⟨small, rfl⟩))
      case isFalse large =>
        obtain ⟨first, second, joined, high, low⟩ := exists_halves (Nat.le_of_not_lt large)
        exact .inr (.inr (.inr ⟨first, second, joined, by rw [high, low]⟩))

/-- One character of a string is read back. -/
theorem readChars_escapeChar (c next : Char) (rest : List Char) :
    ∃ later, readChars start (fuel + 1) done ⟨escapeChar c ++ next :: rest, pos⟩ =
      readChars start fuel (.char c :: done) ⟨next :: rest, later⟩ := by
  rcases escapeChar_cases c with
    ⟨letter, notCode, found, same⟩ | ⟨noQuote, noSlash, visible, -, same⟩ | ⟨small, same⟩ |
      ⟨first, second, joined, same⟩
  · refine ⟨pos + 2, ?_⟩
    rw [same]
    conv => lhs; unfold readChars
    simp [found, Place.drop]
  · refine ⟨pos + 1, ?_⟩
    have printed : ¬ c.toNat < 32 := Nat.not_lt.mpr visible
    rw [same]
    conv => lhs; unfold readChars
    simp [noSlash, printed]
  · rw [same]
    exact ⟨_, readChars_codeEscape (.char c) small nofun next rest⟩
  · rw [same, List.append_assoc, readChars_pair, joined]
    exact ⟨_, rfl⟩

/-! ### Texts -/

theorem escapePoint_ne_nil (point : CodePoint) : escapePoint point ≠ [] := by
  cases point with
  | char c =>
    rcases escapeChar_cases c with
      ⟨letter, -, -, same⟩ | ⟨-, -, -, -, same⟩ | ⟨-, same⟩ | ⟨_, _, -, same⟩ <;>
      simp [escapePoint, same, codeEscape]
  | _ => exact nofun

theorem length_le_escaped (points : List CodePoint) :
    points.length ≤ (points.flatMap escapePoint).length := by
  induction points with
  | nil => exact Nat.le_refl _
  | cons point points ih =>
    have first := List.length_pos_iff.mpr (escapePoint_ne_nil point)
    rw [List.flatMap_cons, List.length_append, List.length_cons]
    omega

/-- The escape of a code point that is no second half is no partner of a first half before it. -/
theorem unpaired_codeEscape (point : CodePoint) (small : point.code < 0x10000)
    (single : ∀ second, point ≠ .low second) (c : Char) (rest : List Char) :
    Unpaired (codeEscape point.code ++ c :: rest) := by
  rintro _ ⟨⟩
  exact ⟨point, fun pos => unicodeEscape_hexDigits small c rest pos, single⟩

theorem unpaired_escapePoint {point : CodePoint} (single : ∀ second, point ≠ .low second) (c : Char)
    (rest : List Char) : Unpaired (escapePoint point ++ c :: rest) := by
  cases point with
  | char d =>
    change Unpaired (escapeChar d ++ c :: rest)
    rcases escapeChar_cases d with
      ⟨letter, notCode, -, same⟩ | ⟨-, noSlash, -, -, same⟩ | ⟨small, same⟩ |
        ⟨first, second, -, same⟩
    · rw [same]
      rintro _ ⟨⟩
      exact absurd rfl notCode
    · rw [same]
      rintro _ ⟨⟩
      exact absurd rfl noSlash
    · rw [same]
      exact unpaired_codeEscape (.char d) small nofun c rest
    · rw [same, List.append_assoc]
      exact unpaired_codeEscape _ (code_high_lt first) nofun _ _
  | high first => exact unpaired_codeEscape _ (code_high_lt first) nofun c rest
  | low second => exact absurd rfl (single second)

/-- The points of a string are read back, each pair of halves as its character. -/
theorem reads_chars (start fuel pos : Nat) (done points : List CodePoint) (rest : List Char)
    (enough : points.length < fuel) :
    Reads (readChars start fuel done ⟨points.flatMap escapePoint ++ '"' :: rest, pos⟩)
      ⟨done.reverse ++ CodePoint.joined points⟩ rest := by
  have some (points : List CodePoint) :
      ∃ next more, points.flatMap escapePoint ++ '"' :: rest = next :: more :=
    List.exists_cons_of_ne_nil (by simp)
  induction points using CodePoint.joined.induct generalizing fuel done pos with
  | case1 first second points ih =>
    obtain ⟨fuel, rfl⟩ := Nat.exists_eq_add_one.mpr (Nat.zero_lt_of_lt enough)
    obtain ⟨next, more, whole⟩ := some points
    have onward := ih fuel (pos + 12) (.char (CodePoint.ofHalves first second) :: done) (by
      simp only [List.length_cons] at enough
      omega)
    rw [whole] at onward
    rw [List.flatMap_cons, List.flatMap_cons, List.append_assoc, List.append_assoc, whole]
    unfold escapePoint
    rw [readChars_pair, CodePoint.joined]
    simpa using onward
  | case2 point points alone ih =>
    obtain ⟨fuel, rfl⟩ := Nat.exists_eq_add_one.mpr (Nat.zero_lt_of_lt enough)
    obtain ⟨next, more, whole⟩ := some points
    obtain ⟨later, read⟩ : ∃ later, readChars start (fuel + 1) done
        ⟨escapePoint point ++ next :: more, pos⟩ =
          readChars start fuel (point :: done) ⟨next :: more, later⟩ := by
      cases point with
      | char c => exact readChars_escapeChar c next more
      | low second => exact ⟨_, readChars_codeEscape _ (code_low_lt second) nofun next more⟩
      | high first =>
        -- what follows is the end of the string or a code point that is no second half
        refine ⟨_, readChars_high first (by simp) ?_⟩
        rw [← whole]
        cases points with
        | nil => rintro _ ⟨⟩
        | cons other points =>
          obtain ⟨next, more, whole⟩ := some points
          rw [List.flatMap_cons, List.append_assoc, whole]
          exact unpaired_escapePoint (fun second same => alone first second points rfl
            (same ▸ rfl)) next more
    have onward := ih fuel later (point :: done) (Nat.lt_of_succ_lt_succ enough)
    rw [List.reverse_cons, List.append_assoc, whole] at onward
    rw [List.flatMap_cons, List.append_assoc, whole, read, CodePoint.joined]
    · exact onward
    · exact alone
  | case3 =>
    obtain ⟨fuel, rfl⟩ := Nat.exists_eq_add_one.mpr enough
    rw [CodePoint.joined, List.append_nil]
    exact ⟨pos + 1, rfl⟩

/-- A string is read back, from after its opening quote. -/
theorem reads_string (text : CodeText) (rest : List Char) (pos : Nat) :
    Reads (readString ⟨text.points.flatMap escapePoint ++ '"' :: rest, pos⟩) text.joined rest := by
  have enough : text.points.length <
      (text.points.flatMap escapePoint ++ '"' :: rest).length + 1 := by
    have short := length_le_escaped text.points
    rw [List.length_append]
    omega
  exact reads_chars (pos - 1) _ pos [] text.points rest enough

/-! ## Integers -/

/-- Nothing at the start of the text can be taken for a part of a number before it. -/
def EndsNumber (rest : List Char) : Prop :=
  ∀ c ∈ rest.head?, isDigit c = false ∧ c ≠ '.' ∧ c ≠ 'e' ∧ c ≠ 'E'

theorem isDigit_of_mem_toDigits {size : Nat} {c : Char} (inside : c ∈ Nat.toDigits 10 size) :
    isDigit c = true := by
  have digit := Nat.isDigit_of_mem_toDigits (by decide) (by decide) inside
  unfold Char.isDigit at digit
  rwa [isDigit_iff, ← decide_eq_true_iff (p := _ ∧ _), Bool.decide_and]

theorem head?_append_of_ne_nil {text rest : List Char} (nonempty : text ≠ []) :
    (text ++ rest).head? = text.head? := by
  cases text with
  | nil => exact absurd rfl nonempty
  | cons => rfl

theorem head_toDigits_ne_zero {size : Nat} (positive : 0 < size) :
    (Nat.toDigits 10 size).head? ≠ some '0' := by
  induction size using Nat.strongRecOn with
  | ind size ih =>
    by_cases small : size < 10
    · rw [Nat.toDigits_of_lt_base small]
      intro zero
      have isZero := Nat.digitChar_eq_zero.mp (Option.some.inj zero)
      omega
    · have longer := Nat.toDigits_of_base_le (by decide) (Nat.le_of_not_lt small)
      rw [longer, head?_append_of_ne_nil Nat.toDigits_ne_nil]
      exact ih _ (by omega) (by omega)

theorem takeWhile_isDigit_append {digits rest : List Char} (plain : ∀ c ∈ digits, isDigit c = true)
    (ends : ∀ c ∈ rest.head?, isDigit c = false) :
    (digits ++ rest).takeWhile isDigit = digits := by
  rw [List.takeWhile_append_of_pos plain]
  cases rest with
  | nil => simp
  | cons c rest => simp [ends c rfl]

/-- The text is a zero alone, or starts with another character. -/
def LeadsNumber (digits : List Char) : Prop :=
  digits = ['0'] ∨ ∃ first rest, digits = first :: rest ∧ first ≠ '0'

/-- The digits of a number are taken as a whole. -/
theorem wholeDigits_append {digits rest : List Char} (leads : LeadsNumber digits)
    (plain : ∀ c ∈ digits, isDigit c = true) (ends : ∀ c ∈ rest.head?, isDigit c = false) :
    wholeDigits (digits ++ rest) = digits := by
  rcases leads with rfl | ⟨first, tail, rfl, ink⟩
  · rfl
  · unfold wholeDigits
    split
    case h_1 more zero => exact absurd (List.cons.inj zero).1 ink
    case h_2 => exact takeWhile_isDigit_append plain ends

theorem leadsNumber_toDigits (size : Nat) : LeadsNumber (Nat.toDigits 10 size) := by
  rcases Nat.eq_zero_or_pos size with rfl | positive
  · exact .inl rfl
  · obtain ⟨first, rest, digits⟩ := List.exists_cons_of_ne_nil
      (Nat.toDigits_ne_nil (n := size) (b := 10))
    refine .inr ⟨first, rest, digits, ?_⟩
    rintro rfl
    refine head_toDigits_ne_zero positive ?_
    rw [digits]
    rfl

theorem fractionDigits_of_endsNumber {rest : List Char} (ends : EndsNumber rest) :
    fractionDigits rest = [] := by
  unfold fractionDigits
  split
  case h_1 => exact absurd rfl (ends '.' rfl).2.1
  case h_2 => rfl

theorem exponentPart_of_endsNumber {rest : List Char} (ends : EndsNumber rest) :
    exponentPart rest = none := by
  cases rest with
  | nil => rfl
  | cons c rest =>
    obtain ⟨-, -, lower, upper⟩ := ends c rfl
    simp [exponentPart, lower, upper]

theorem reads_unsigned (start : Place) (negative : Bool) {size : Nat}
    (short : (Nat.toDigits 10 size).length ≤ digitLimit) {rest : List Char} (ends : EndsNumber rest)
    (pos : Nat) : Reads (readUnsigned start negative ⟨Nat.toDigits 10 size ++ rest, pos⟩)
      (.int (if negative then -size else size)) rest := by
  have value : Decimal.ofDigits 10 (Nat.toDigits 10 size) = size := by
    rw [ofDigits_eq _ fun c => isDigit_of_mem_toDigits, Nat.ofDigitChars_ten_toDigits]
  have whole : wholeDigits (Nat.toDigits 10 size ++ rest) = Nat.toDigits 10 size :=
    wholeDigits_append (leadsNumber_toDigits size) (fun c => isDigit_of_mem_toDigits)
      fun c first => (ends c first).1
  have nonempty : (Nat.toDigits 10 size).isEmpty = false := by
    rw [List.isEmpty_eq_false_iff]
    exact Nat.toDigits_ne_nil
  refine ⟨pos + (Nat.toDigits 10 size).length, ?_⟩
  unfold readUnsigned
  simp [whole, nonempty, Place.drop, fractionDigits_of_endsNumber ends,
    exponentPart_of_endsNumber ends, value, Nat.not_lt.mpr short]

theorem toList_toString (value : Int) :
    (toString value).toList =
      if value < 0 then '-' :: Nat.toDigits 10 value.natAbs else Nat.toDigits 10 value.natAbs := by
  rw [Int.toString_eq_repr, Int.repr_eq_if]
  split
  case isTrue positive =>
    have same : value.toNat = value.natAbs := by omega
    rw [if_neg (Int.not_lt.mpr positive), Nat.toList_repr, same]
  case isFalse negative =>
    have same : (-value).toNat = value.natAbs := by omega
    rw [if_pos (Int.not_le.mp negative), String.toList_append, Nat.toList_repr, same]
    rfl

/-- No word starts as a number does. -/
theorem find?_wordValues_eq_none {c : Char} (digit : isDigit c = true) (tail : List Char) :
    (wordValues.find? fun word => word.1.isPrefixOf (c :: tail)) = none ∧
      (wordValues.find? fun word => word.1.isPrefixOf ('-' :: c :: tail)) = none := by
  have letters : (['n', 't', 'f', 'N', 'I', '-'].all fun letter => !isDigit letter) = true := by
    decide
  have other : ∀ letter ∈ ['n', 't', 'f', 'N', 'I', '-'], (letter == c) = false := by
    intro letter known
    rw [beq_eq_false_iff_ne]
    rintro rfl
    have nondigit := List.all_eq_true.mp letters letter known
    rw [digit] at nondigit
    cases nondigit
  simp only [List.mem_cons, List.not_mem_nil, or_false, forall_eq_or_imp, forall_eq] at other
  simp [wordValues, List.isPrefixOf, other]

/-- The sign of a number as it is written. -/
def signText (negative : Bool) : List Char :=
  if negative then ['-'] else []

/-- A scalar that starts with a digit, behind a sign or not, is read as a number. -/
theorem readScalar_signed (negative : Bool) {c : Char} (digit : isDigit c = true) (tail : List Char)
    (pos : Nat) :
    readScalar ⟨signText negative ++ c :: tail, pos⟩ =
      readUnsigned ⟨signText negative ++ c :: tail, pos⟩ negative
        ⟨c :: tail, pos + (signText negative).length⟩ := by
  obtain ⟨noWord, noSigned⟩ := find?_wordValues_eq_none digit tail
  have found : (wordValues.find? fun word => word.1.isPrefixOf
      (Place.rest ⟨signText negative ++ c :: tail, pos⟩)) = none := by
    cases negative with
    | true => exact noSigned
    | false => exact noWord
  unfold readScalar
  rw [found]
  cases negative with
  | true => rfl
  | false =>
    have unsigned : c ≠ '-' := by
      rintro rfl
      cases digit
    simp [readNumber, signText, unsigned]

/-- An integer is read back. -/
theorem reads_int {value : Int} (tidy : (Json.int value : Json CodeText).IsTidy) {rest : List Char}
    (ends : EndsNumber rest) (pos : Nat) :
    Reads (readScalar ⟨(toString value).toList ++ rest, pos⟩) (.int value) rest := by
  obtain ⟨c, tail, digits⟩ := List.exists_cons_of_ne_nil (Nat.toDigits_ne_nil (n := value.natAbs)
    (b := 10))
  have digit : isDigit c = true :=
    isDigit_of_mem_toDigits (digits ▸ List.mem_cons_self)
  have text : (toString value).toList ++ rest =
      signText (decide (value < 0)) ++ (c :: (tail ++ rest)) := by
    rw [toList_toString, digits]
    by_cases negative : value < 0 <;> simp [negative, signText]
  have same : (if decide (value < 0) then -(value.natAbs : Int) else value.natAbs) = value := by
    by_cases negative : value < 0
    · rw [decide_eq_true negative, if_pos rfl]
      omega
    · rw [decide_eq_false negative, if_neg Bool.false_ne_true]
      omega
  have read := reads_unsigned ⟨signText (decide (value < 0)) ++ (c :: (tail ++ rest)), pos⟩
    (decide (value < 0)) tidy ends (pos + (signText (decide (value < 0))).length)
  rw [same, digits] at read
  rw [text, readScalar_signed _ digit]
  exact read

/-! ## Carriage returns -/

theorem return_not_mem_hexDigits (width code : Nat) : '\r' ∉ Text.hexDigits width code := by
  have digits : ∀ digit < 16, Text.hexDigit digit ≠ '\r' := by decide
  induction width generalizing code with
  | zero => exact List.not_mem_nil
  | succ width ih =>
    rw [Text.hexDigits, List.mem_append, List.mem_singleton, not_or]
    exact ⟨ih _, (digits _ (Nat.mod_lt _ (by decide))).symm⟩

theorem return_not_mem_codeEscape (code : Nat) : '\r' ∉ codeEscape code := by
  have digits := return_not_mem_hexDigits 4 code
  simp [codeEscape, digits]

theorem return_not_mem_escapeChar (c : Char) : '\r' ∉ escapeChar c := by
  rcases escapeChar_cases c with
    ⟨letter, -, found, same⟩ | ⟨-, -, visible, -, same⟩ | ⟨-, same⟩ | ⟨_, _, -, same⟩
  · rw [same]
    have other : letter ≠ '\r' := by
      rintro rfl
      cases found
    simpa using other.symm
  · rw [same, List.mem_singleton]
    rintro rfl
    revert visible
    decide
  · rw [same]
    exact return_not_mem_codeEscape _
  · rw [same, List.mem_append, not_or]
    exact ⟨return_not_mem_codeEscape _, return_not_mem_codeEscape _⟩

theorem return_not_mem_stringText {τ : Type} [Coded τ] (value : τ) : '\r' ∉ stringText value := by
  have inside : '\r' ∉ (Coded.points value).flatMap escapePoint := by
    intro member
    obtain ⟨point, -, member⟩ := List.mem_flatMap.mp member
    cases point with
    | char c => exact return_not_mem_escapeChar c member
    | _ => exact return_not_mem_codeEscape _ member
  rw [stringText, List.mem_append, List.mem_cons, List.mem_singleton, not_or, not_or]
  exact ⟨⟨by decide, inside⟩, by decide⟩

end ShellVet.Json
