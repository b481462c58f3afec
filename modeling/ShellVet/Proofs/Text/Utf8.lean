import Mathlib.Data.List.TakeWhile
import Mathlib.Data.UInt
import ShellVet.Files.Basic

/-!
# Decoded bytes

Bytes decode if and only if they are the encoding of a text, and then to its characters
(`decode_eq_ok_iff`). One way, each step of `decodeFrom` takes exactly the bytes of one character
(`encode_codeOf`); the other way, the bytes of a character are read as this character wherever they
stand (`readAs_utf8EncodeChar`).
-/

namespace ShellVet

namespace Text

variable {first second third fourth : UInt8} {more rest bytes : List UInt8}

/-! ## The bytes of one character -/

/-- The encoding of a code point, on its number. -/
theorem utf8EncodeChar_ofNat {code : Nat} (valid : code.isValidChar) :
    String.utf8EncodeChar (Char.ofNat code) =
      if code ≤ 0x7f then [UInt8.ofNat code]
      else if code ≤ 0x7ff then [UInt8.ofNat (code / 64 % 32 + 192), UInt8.ofNat (code % 64 + 128)]
      else if code ≤ 0xffff then
        [UInt8.ofNat (code / 4096 % 16 + 224), UInt8.ofNat (code / 64 % 64 + 128),
          UInt8.ofNat (code % 64 + 128)]
      else
        [UInt8.ofNat (code / 262144 % 8 + 240), UInt8.ofNat (code / 4096 % 64 + 128),
          UInt8.ofNat (code / 64 % 64 + 128), UInt8.ofNat (code % 64 + 128)] := by
  have number : (Char.ofNat code).val.toNat = code := by
    rw [Char.ofNat, dif_pos valid]
    rfl
  unfold String.utf8EncodeChar
  simp only [number]

theorem ofNat_eq_byte (byte : UInt8) {code : Nat} (same : code = byte.toNat) :
    UInt8.ofNat code = byte := by
  rw [same, UInt8.ofNat_toNat]

theorem isContinuation_iff {byte : UInt8} :
    isContinuation byte = true ↔ 128 ≤ byte.toNat ∧ byte.toNat < 192 := by
  simp [isContinuation, UInt8.le_iff_toNat_le, UInt8.lt_iff_toNat_lt]

/-- What the second byte of a character may be, in numbers. -/
theorem fitsFirst_iff :
    fitsFirst first second = true ↔
      (128 ≤ second.toNat ∧ second.toNat < 192) ∧
        (first.toNat = 224 → 160 ≤ second.toNat) ∧ (first.toNat = 237 → second.toNat < 160) ∧
        (first.toNat = 240 → 144 ≤ second.toNat) ∧ (first.toNat = 244 → second.toNat < 144) := by
  have byteEq (number : UInt8) : first = number ↔ first.toNat = number.toNat := UInt8.toNat_inj.symm
  unfold fitsFirst
  rw [Bool.and_eq_true, isContinuation_iff]
  simp only [byteEq]
  repeat' split
  all_goals simp_all [UInt8.le_iff_toNat_le, UInt8.lt_iff_toNat_lt]

theorem encode_one (small : first.toNat < 128) :
    String.utf8EncodeChar (Char.ofNat (codeOf first [])) = [first] := by
  have code : codeOf first [] = first.toNat := rfl
  rw [code, utf8EncodeChar_ofNat (Or.inl (by omega)), if_pos (by omega), UInt8.ofNat_toNat]

theorem encode_two (lead : 194 ≤ first.toNat ∧ first.toNat < 224)
    (fits : fitsFirst first second = true) :
    String.utf8EncodeChar (Char.ofNat (codeOf first [second])) = [first, second] := by
  obtain ⟨follows, -⟩ := fitsFirst_iff.mp fits
  have code : codeOf first [second] = (first.toNat - 192) * 64 + (second.toNat - 128) := rfl
  rw [code, utf8EncodeChar_ofNat (Or.inl (by omega)), if_neg (by omega), if_pos (by omega),
    ofNat_eq_byte first (by omega), ofNat_eq_byte second (by omega)]

theorem encode_three (lead : 224 ≤ first.toNat ∧ first.toNat < 240)
    (fits : fitsFirst first second = true) (follows : isContinuation third = true) :
    String.utf8EncodeChar (Char.ofNat (codeOf first [second, third])) = [first, second, third] := by
  obtain ⟨range, notOverlong, noSurrogate, -⟩ := fitsFirst_iff.mp fits
  have rangeThird := isContinuation_iff.mp follows
  have code : codeOf first [second, third] =
      ((first.toNat - 224) * 64 + (second.toNat - 128)) * 64 + (third.toNat - 128) := rfl
  have valid : (codeOf first [second, third]).isValidChar := by
    unfold Nat.isValidChar
    omega
  rw [utf8EncodeChar_ofNat valid, code, if_neg (by omega), if_neg (by omega), if_pos (by omega),
    ofNat_eq_byte first (by omega), ofNat_eq_byte second (by omega),
    ofNat_eq_byte third (by omega)]

theorem encode_four (lead : 240 ≤ first.toNat ∧ first.toNat < 245)
    (fits : fitsFirst first second = true) (follows : isContinuation third = true)
    (last : isContinuation fourth = true) :
    String.utf8EncodeChar (Char.ofNat (codeOf first [second, third, fourth])) =
      [first, second, third, fourth] := by
  obtain ⟨range, -, -, notOverlong, notAbove⟩ := fitsFirst_iff.mp fits
  have rangeThird := isContinuation_iff.mp follows
  have rangeFourth := isContinuation_iff.mp last
  have code : codeOf first [second, third, fourth] =
      (((first.toNat - 240) * 64 + (second.toNat - 128)) * 64 + (third.toNat - 128)) * 64 +
        (fourth.toNat - 128) := rfl
  have valid : (codeOf first [second, third, fourth]).isValidChar := by
    unfold Nat.isValidChar
    omega
  rw [utf8EncodeChar_ofNat valid, code, if_neg (by omega), if_neg (by omega), if_neg (by omega),
    ofNat_eq_byte first (by omega), ofNat_eq_byte second (by omega),
    ofNat_eq_byte third (by omega), ofNat_eq_byte fourth (by omega)]

/-! ## One step of the loop -/

/-- Where as many bytes fit as are wanted, the first fits the lead and the others continue. -/
theorem fits_of_fittingCount {wanted : Nat}
    (all : fittingCount first (wanted + 1) rest = wanted + 1) :
    ∃ second more tail, rest = second :: (more ++ tail) ∧ more.length = wanted ∧
      fitsFirst first second = true ∧ ∀ byte ∈ more, isContinuation byte = true := by
  cases rest with
  | nil => simp [fittingCount] at all
  | cons second rest =>
    cases fits : fitsFirst first second with
    | false => simp [fittingCount, fits] at all
    | true =>
      have count : ((rest.take wanted).takeWhile isContinuation).length = wanted := by
        simp [fittingCount, fits] at all
        omega
      have kept := List.takeWhile_prefix isContinuation (l := rest.take wanted)
      have whole : (rest.take wanted).takeWhile isContinuation = rest.take wanted :=
        kept.eq_of_length_le (by rw [count]; exact List.length_take_le wanted rest)
      refine ⟨second, rest.take wanted, rest.drop wanted, ?_, whole ▸ count, fits, ?_⟩
      · rw [List.take_append_drop]
      · exact List.takeWhile_eq_self_iff.mp whole

/-- The lead byte by the length of its character. -/
theorem lead_of_sequenceLength (first : UInt8) :
    (sequenceLength first = 1 ↔ first.toNat < 128) ∧
      (sequenceLength first = 2 ↔ 194 ≤ first.toNat ∧ first.toNat < 224) ∧
      (sequenceLength first = 3 ↔ 224 ≤ first.toNat ∧ first.toNat < 240) ∧
      (sequenceLength first = 4 ↔ 240 ≤ first.toNat ∧ first.toNat < 245) ∧
      sequenceLength first < 5 := by
  have small : first < 0x80 ↔ first.toNat < 128 := UInt8.lt_iff_toNat_lt
  have start : first < 0xc2 ↔ first.toNat < 194 := UInt8.lt_iff_toNat_lt
  have two : first < 0xe0 ↔ first.toNat < 224 := UInt8.lt_iff_toNat_lt
  have three : first < 0xf0 ↔ first.toNat < 240 := UInt8.lt_iff_toNat_lt
  have four : first < 0xf5 ↔ first.toNat < 245 := UInt8.lt_iff_toNat_lt
  unfold sequenceLength
  simp only [small, start, two, three, four]
  repeat' split
  all_goals omega

/-- The character of a lead byte with the bytes it wants is encoded by these bytes. -/
theorem encode_codeOf (leads : sequenceLength first ≠ 0)
    (fitting : fittingCount first (sequenceLength first - 1) rest = sequenceLength first - 1) :
    String.utf8EncodeChar (Char.ofNat (codeOf first (rest.take (sequenceLength first - 1)))) =
      first :: rest.take (sequenceLength first - 1) := by
  obtain ⟨one, two, three, four, bound⟩ := lead_of_sequenceLength first
  generalize sequenceLength first = size at *
  match size, bound with
  | 1, _ => exact encode_one (one.mp rfl)
  | 2, _ =>
    obtain ⟨second, more, tail, rfl, size, fits, -⟩ := fits_of_fittingCount fitting
    obtain rfl := List.length_eq_zero_iff.mp size
    exact encode_two (two.mp rfl) fits
  | 3, _ =>
    obtain ⟨second, more, tail, rfl, size, fits, continues⟩ := fits_of_fittingCount fitting
    obtain ⟨third, rfl⟩ := List.length_eq_one_iff.mp size
    exact encode_three (three.mp rfl) fits (continues third (by simp))
  | 4, _ =>
    obtain ⟨second, more, tail, rfl, size, fits, continues⟩ := fits_of_fittingCount fitting
    obtain ⟨third, fourth, rfl⟩ := List.length_eq_two.mp size
    exact encode_four (four.mp rfl) fits (continues third (by simp)) (continues fourth (by simp))

/-! ## The loop -/

theorem drop_eq_of_decodeFrom {pos skip : Nat} {chars : List Char}
    (decoded : decodeFrom pos skip bytes = .ok chars) :
    bytes.drop skip = chars.flatMap String.utf8EncodeChar := by
  induction bytes generalizing pos skip chars with
  | nil =>
    obtain rfl : [] = chars := by simpa [decodeFrom] using decoded
    exact List.drop_nil
  | cons first rest ih =>
    rw [decodeFrom] at decoded
    split at decoded
    case isTrue inside =>
      obtain ⟨before, rfl⟩ : ∃ before, skip = before + 1 := ⟨skip - 1, by omega⟩
      exact ih decoded
    case isFalse outside =>
      obtain rfl : skip = 0 := by omega
      dsimp only at decoded
      split at decoded
      case isTrue => cases decoded
      case isFalse leads =>
        split at decoded
        case isTrue fitting =>
          cases later : decodeFrom (pos + 1) (sequenceLength first - 1) rest with
          | error fault => rw [later] at decoded; cases decoded
          | ok chars =>
            rw [later] at decoded
            cases decoded
            rw [List.flatMap_cons, encode_codeOf leads fitting, ← ih later, List.drop_zero,
              List.cons_append, List.take_append_drop]
        case isFalse => split at decoded <;> cases decoded

theorem toList_loop (array : ByteArray) (place : Nat) (done : List UInt8) :
    ByteArray.toList.loop array place done = done.reverse ++ array.data.toList.drop place := by
  fun_induction ByteArray.toList.loop array place done with
  | case1 place done inside ih =>
    have place_lt : place < array.data.toList.length := by simpa using inside
    rw [ih, List.drop_eq_getElem_cons place_lt, List.reverse_cons, List.append_assoc]
    simp [ByteArray.get!, inside]
  | case2 place done outside =>
    rw [List.drop_eq_nil_of_le (by simpa using outside), List.append_nil]

theorem bytesOf_ofList (chars : List Char) :
    Files.bytesOf (String.ofList chars) = chars.flatMap String.utf8EncodeChar := by
  have data : (String.ofList chars).toUTF8.data.toList = chars.flatMap String.utf8EncodeChar := by
    rw [String.toUTF8_eq_toByteArray, String.toByteArray_ofList, List.utf8Encode,
      List.toList_data_toByteArray]
  unfold Files.bytesOf ByteArray.toList
  rw [toList_loop, data]
  rfl

/-- Bytes that decode are the encoding of the text they give. -/
theorem eq_bytesOf_of_decode {chars : List Char} (decoded : decode bytes = .ok chars) :
    bytes = Files.bytesOf (String.ofList chars) := by
  rw [bytesOf_ofList]
  exact drop_eq_of_decodeFrom decoded

/-! ## Every text decodes -/

/-- Bytes of a character already read are passed over. -/
theorem decodeFrom_append {pos : Nat} (more rest : List UInt8) :
    decodeFrom pos more.length (more ++ rest) = decodeFrom (pos + more.length) 0 rest := by
  induction more generalizing pos with
  | nil => rfl
  | cons byte more ih =>
    rw [List.cons_append, decodeFrom, if_pos (by simp), List.length_cons, Nat.add_sub_cancel, ih]
    congr 1
    omega

/-- Wherever the bytes stand, they are read as the character. -/
def ReadAs (bytes : List UInt8) (c : Char) : Prop :=
  ∀ pos rest, ∃ after, decodeFrom pos 0 (bytes ++ rest) = (c :: ·) <$> decodeFrom after 0 rest

/-- A lead byte with the bytes it wants is read as their character. -/
theorem readAs_of_fitting (more : List UInt8) (size : sequenceLength first = more.length + 1)
    (fitting : ∀ rest, fittingCount first more.length (more ++ rest) = more.length) :
    ReadAs (first :: more) (Char.ofNat (codeOf first more)) := by
  intro pos rest
  refine ⟨pos + 1 + more.length, ?_⟩
  rw [List.cons_append, decodeFrom, if_neg (by decide)]
  dsimp only
  rw [size, Nat.add_sub_cancel, if_neg (by omega), if_pos (fitting rest), decodeFrom_append,
    List.take_left]
  rfl

theorem readAs_of_continues (more : List UInt8) (size : sequenceLength first = more.length + 2)
    (fits : fitsFirst first second = true)
    (continues : ∀ byte ∈ more, isContinuation byte = true) :
    ReadAs (first :: second :: more) (Char.ofNat (codeOf first (second :: more))) := by
  refine readAs_of_fitting (second :: more) size fun rest => ?_
  have whole : more.takeWhile isContinuation = more := List.takeWhile_eq_self_iff.mpr continues
  simp [fittingCount, fits, whole]
  omega

section Number

variable {code : Nat}

theorem toNat_continuation : (UInt8.ofNat (code % 64 + 128)).toNat = code % 64 + 128 :=
  UInt8.toNat_ofNat_of_lt (show _ < 256 by omega)

theorem isContinuation_ofNat : isContinuation (UInt8.ofNat (code % 64 + 128)) = true := by
  rw [isContinuation_iff, toNat_continuation]
  omega

theorem readAs_one (range : code ≤ 0x7f) : ReadAs [UInt8.ofNat code] (Char.ofNat code) := by
  have lead : (UInt8.ofNat code).toNat = code := UInt8.toNat_ofNat_of_lt (show _ < 256 by omega)
  have size : sequenceLength (UInt8.ofNat code) = 1 := (lead_of_sequenceLength _).1.mpr (by omega)
  have read := readAs_of_fitting [] size fun rest => by cases rest <;> rfl
  rwa [show codeOf (UInt8.ofNat code) [] = code from lead] at read

theorem readAs_two (range : 0x7f < code ∧ code ≤ 0x7ff) :
    ReadAs [UInt8.ofNat (code / 64 % 32 + 192), UInt8.ofNat (code % 64 + 128)]
      (Char.ofNat code) := by
  have lead : (UInt8.ofNat (code / 64 % 32 + 192)).toNat = code / 64 % 32 + 192 :=
    UInt8.toNat_ofNat_of_lt (show _ < 256 by omega)
  have fits : fitsFirst (UInt8.ofNat (code / 64 % 32 + 192))
      (UInt8.ofNat (code % 64 + 128)) = true := by
    rw [fitsFirst_iff, lead, toNat_continuation]
    omega
  have value :
      codeOf (UInt8.ofNat (code / 64 % 32 + 192)) [UInt8.ofNat (code % 64 + 128)] = code := by
    change ((UInt8.ofNat _).toNat - 192) * 64 + ((UInt8.ofNat _).toNat - 128) = code
    rw [lead, toNat_continuation]
    omega
  have read := readAs_of_continues []
    ((lead_of_sequenceLength _).2.1.mpr (by omega)) fits (by simp)
  rwa [value] at read

theorem readAs_three (range : 0x7ff < code ∧ code ≤ 0xffff)
    (noSurrogate : code < 0xd800 ∨ 0xdfff < code) :
    ReadAs [UInt8.ofNat (code / 4096 % 16 + 224), UInt8.ofNat (code / 64 % 64 + 128),
      UInt8.ofNat (code % 64 + 128)] (Char.ofNat code) := by
  have lead : (UInt8.ofNat (code / 4096 % 16 + 224)).toNat = code / 4096 % 16 + 224 :=
    UInt8.toNat_ofNat_of_lt (show _ < 256 by omega)
  have fits : fitsFirst (UInt8.ofNat (code / 4096 % 16 + 224))
      (UInt8.ofNat (code / 64 % 64 + 128)) = true := by
    rw [fitsFirst_iff, lead, toNat_continuation]
    omega
  have value : codeOf (UInt8.ofNat (code / 4096 % 16 + 224))
      [UInt8.ofNat (code / 64 % 64 + 128), UInt8.ofNat (code % 64 + 128)] = code := by
    change (((UInt8.ofNat _).toNat - 224) * 64 + ((UInt8.ofNat _).toNat - 128)) * 64 +
      ((UInt8.ofNat _).toNat - 128) = code
    rw [lead, toNat_continuation, toNat_continuation]
    omega
  have read := readAs_of_continues [UInt8.ofNat (code % 64 + 128)]
    ((lead_of_sequenceLength _).2.2.1.mpr (by omega)) fits
    (List.forall_mem_singleton.mpr isContinuation_ofNat)
  rwa [value] at read

theorem readAs_four (range : 0xffff < code ∧ code < 0x110000) :
    ReadAs [UInt8.ofNat (code / 262144 % 8 + 240), UInt8.ofNat (code / 4096 % 64 + 128),
      UInt8.ofNat (code / 64 % 64 + 128), UInt8.ofNat (code % 64 + 128)] (Char.ofNat code) := by
  have lead : (UInt8.ofNat (code / 262144 % 8 + 240)).toNat = code / 262144 % 8 + 240 :=
    UInt8.toNat_ofNat_of_lt (show _ < 256 by omega)
  have fits : fitsFirst (UInt8.ofNat (code / 262144 % 8 + 240))
      (UInt8.ofNat (code / 4096 % 64 + 128)) = true := by
    rw [fitsFirst_iff, lead, toNat_continuation]
    omega
  have value : codeOf (UInt8.ofNat (code / 262144 % 8 + 240))
      [UInt8.ofNat (code / 4096 % 64 + 128), UInt8.ofNat (code / 64 % 64 + 128),
        UInt8.ofNat (code % 64 + 128)] = code := by
    change ((((UInt8.ofNat _).toNat - 240) * 64 + ((UInt8.ofNat _).toNat - 128)) * 64 +
      ((UInt8.ofNat _).toNat - 128)) * 64 + ((UInt8.ofNat _).toNat - 128) = code
    rw [lead, toNat_continuation, toNat_continuation, toNat_continuation]
    omega
  have read := readAs_of_continues
    [UInt8.ofNat (code / 64 % 64 + 128), UInt8.ofNat (code % 64 + 128)]
    ((lead_of_sequenceLength _).2.2.2.1.mpr (by omega)) fits
    (List.forall_mem_cons.mpr
      ⟨isContinuation_ofNat, List.forall_mem_singleton.mpr isContinuation_ofNat⟩)
  rwa [value] at read

end Number

/-- The encoding of a character is read as this character. -/
theorem readAs_utf8EncodeChar (c : Char) : ReadAs (String.utf8EncodeChar c) c := by
  obtain ⟨code, valid, rfl⟩ : ∃ code, code.isValidChar ∧ c = Char.ofNat code :=
    ⟨c.toNat, c.valid, (Char.ofNat_toNat c).symm⟩
  have range : code < 0xd800 ∨ 0xdfff < code ∧ code < 0x110000 := valid
  rw [utf8EncodeChar_ofNat valid]
  split
  case isTrue one => exact readAs_one one
  case isFalse =>
    split
    case isTrue => exact readAs_two (by omega)
    case isFalse =>
      split
      case isTrue => exact readAs_three (by omega) (by omega)
      case isFalse => exact readAs_four (by omega)

theorem decodeFrom_flatMap (pos : Nat) (chars : List Char) :
    decodeFrom pos 0 (chars.flatMap String.utf8EncodeChar) = .ok chars := by
  induction chars generalizing pos with
  | nil => rfl
  | cons c chars ih =>
    obtain ⟨after, read⟩ := readAs_utf8EncodeChar c pos (chars.flatMap String.utf8EncodeChar)
    rw [List.flatMap_cons, read, ih after]
    rfl

/-- Bytes decode to characters if and only if they are the encoding of their text. -/
theorem decode_eq_ok_iff {chars : List Char} :
    decode bytes = .ok chars ↔ bytes = Files.bytesOf (String.ofList chars) := by
  refine ⟨eq_bytesOf_of_decode, fun encoded => ?_⟩
  rw [encoded, bytesOf_ofList]
  exact decodeFrom_flatMap 0 chars

theorem decode_bytesOf (text : String) : decode (Files.bytesOf text) = .ok text.toList :=
  decode_eq_ok_iff.mpr (by rw [String.ofList_toList])

end Text

end ShellVet
