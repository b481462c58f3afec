import ShellVet.Proofs.Json.Tidy
import ShellVet.Proofs.Settled
import Mathlib.Data.List.Basic

/-!
# Faults of JSON texts

Each reader goes on in its text and gives up at a flaw, at a number of more digits than are
converted, or where the room for nested data is used up. All the digits then stand in the text in a
row (`holdsDigits_of_read`), and more arrays and objects are opened in it than there is room for
(`lt_openings_of_read`). A text that opens so many arrays at once is refused whatever follows
(`read_openings`).
-/

namespace ShellVet.Json

/-- The text has so many digits in a row, and they are more than are converted. -/
def HoldsDigits (text : List Char) (count : Nat) : Prop :=
  digitLimit < count ∧
    ∃ digits, digits <:+: text ∧ digits.length = count ∧ ∀ c ∈ digits, isDigit c = true

/-- How many arrays and objects the text can open. -/
def openings (text : List Char) : Nat :=
  text.countP fun c => c == '[' || c == '\x7b'

/-- The fault is a flaw, or it is about digits of the text, or the text opens more than there is
room for. -/
def Fault.IsAbout (room : Nat) (text : List Char) : Fault → Prop
  | .flaw .. => True
  | .tooManyDigits count => HoldsDigits text count
  | .tooDeep => room < openings text

/-- The reader comes to a place in the text, or its fault is about the text. -/
def ReadsIn {α : Type} (room : Nat) (text : List Char) : Except Fault (α × Place) → Prop :=
  Settles (fun read => read.2.rest <:+ text) (Fault.IsAbout room text)

variable {room : Nat} {text : List Char} {place : Place}

section

variable (part : place.rest <:+ text)

include part

theorem drop_isSuffix (count : Nat) : (place.drop count).rest <:+ text :=
  (List.drop_suffix count place.rest).trans part

theorem trimmed_isSuffix : place.trimmed.rest <:+ text :=
  (List.dropWhile_suffix isSpace).trans part

/-- Behind a sign and what is blank around it, the text goes on. -/
theorem behindSign_isSuffix : (place.trimmed.drop 1).trimmed.rest <:+ text :=
  trimmed_isSuffix (drop_isSuffix (trimmed_isSuffix part) 1)

end

/-- What is read behind an opening bracket is read in the text with the bracket, where there is room
for one level more. -/
theorem ReadsIn.opened {α : Type} {computation : Except Fault (α × Place)} {c : Char}
    {tail : List Char} (reads : ReadsIn room tail computation)
    (opens : (c == '[' || c == '\x7b') = true) (part : c :: tail <:+ text) :
    ReadsIn (room + 1) text computation := by
  have inside : tail <:+ text := (List.suffix_cons c tail).trans part
  refine (Settles.imp reads fun read after => after.trans inside).blame ?_
  rintro (kind | count | _) about
  · trivial
  · obtain ⟨many, digits, within, rest⟩ := about
    exact ⟨many, digits, within.trans inside.isInfix, rest⟩
  · have counted : openings (c :: tail) = openings tail + 1 := List.countP_cons_of_pos opens
    have fewer : openings (c :: tail) ≤ openings text := part.sublist.countP_le
    change room < openings tail at about
    change room + 1 < openings text
    omega

/-! ## Scalars -/

theorem settles_unicodeEscape (place : Place) :
    Settles (fun _ => True) (Fault.IsAbout room text) (unicodeEscape place) := by
  unfold unicodeEscape
  split <;> trivial

theorem readsIn_readChars (start fuel : Nat) (done : List CodePoint) (part : place.rest <:+ text) :
    ReadsIn room text (readChars start fuel done place) := by
  induction fuel generalizing done place with
  | zero => trivial
  | succ fuel ih =>
    unfold readChars
    split
    · trivial
    · exact drop_isSuffix part 1
    · trivial
    · refine Settles.bind (settles_unicodeEscape _) fun code _ => ?_
      dsimp only
      split
      · refine Settles.bind (settles_unicodeEscape _) fun second _ => ?_
        split
        · exact ih _ (drop_isSuffix part 12)
        · exact ih _ (drop_isSuffix part 6)
      · exact ih _ (drop_isSuffix part 6)
    · split
      · exact ih _ (drop_isSuffix part 2)
      · trivial
    · next c rest _ _ _ _ whole =>
      split
      · trivial
      · rw [whole] at part
        exact ih _ ((List.suffix_cons c rest).trans part)

theorem readsIn_readString (part : place.rest <:+ text) : ReadsIn room text (readString place) :=
  readsIn_readChars _ _ _ part

theorem wholeDigits_isPrefix (rest : List Char) : wholeDigits rest <+: rest := by
  unfold wholeDigits
  split
  · exact List.prefix_append ['0'] _
  · exact List.takeWhile_prefix isDigit

theorem readsIn_readUnsigned (start : Place) (negative : Bool) (part : place.rest <:+ text) :
    ReadsIn room text (readUnsigned start negative place) := by
  have afterWhole (count : Nat) := drop_isSuffix part count
  unfold readUnsigned
  dsimp only
  split
  · trivial
  · split
    · refine drop_isSuffix ?_ _
      split
      · exact afterWhole _
      · exact drop_isSuffix (afterWhole _) _
    · split
      · split
        · exact afterWhole _
        · exact drop_isSuffix (afterWhole _) _
      · split
        · next long =>
          refine ⟨long, wholeDigits place.rest, ?_, rfl, fun c => isDigit_of_mem_wholeDigits⟩
          exact (wholeDigits_isPrefix _).isInfix.trans part.isInfix
        · exact afterWhole _

theorem readsIn_readScalar (part : place.rest <:+ text) : ReadsIn room text (readScalar place) := by
  unfold readScalar
  split
  · exact drop_isSuffix part _
  · unfold readNumber
    split
    · exact readsIn_readUnsigned _ _ (drop_isSuffix part 1)
    · exact readsIn_readUnsigned _ _ part

/-! ## Values -/

/-- With this fuel the readers stay in their texts. -/
structure ReadersIn (fuel : Nat) : Prop where
  value {room : Nat} {text : List Char} {place : Place} :
    place.rest <:+ text → ReadsIn room text (readValue fuel room place)
  items {room : Nat} {text : List Char} {place : Place} :
    place.rest <:+ text → ReadsIn room text (readItems fuel room place)
  members {room : Nat} {text : List Char} {place : Place} :
    place.rest <:+ text → ReadsIn room text (readMembers fuel room place)

section

variable {fuel : Nat} (readers : ReadersIn fuel) (part : place.rest <:+ text)

include readers part

theorem readsIn_readValue : ReadsIn room text (readValue (fuel + 1) room place) := by
  have inside {c : Char} {tail : List Char} (whole : place.rest = c :: tail) :
      (place.drop 1).trimmed.rest <:+ tail := by
    refine trimmed_isSuffix ?_
    rw [Place.drop, whole]
    exact List.suffix_rfl
  have opening {c : Char} {tail : List Char} (opens : (c == '[' || c == '\x7b') = true)
      (whole : place.rest = c :: tail) : 0 < openings text := by
    rw [whole] at part
    have counted : openings (c :: tail) = openings tail + 1 := List.countP_cons_of_pos opens
    have fewer : openings (c :: tail) ≤ openings text := part.sublist.countP_le
    omega
  unfold readValue
  split
  · trivial
  · exact (readsIn_readString (drop_isSuffix part 1)).bind fun read after => after
  · next whole => exact opening rfl whole
  · next whole => exact opening rfl whole
  · next tail room whole =>
    refine ReadsIn.opened ?_ rfl (whole ▸ part)
    dsimp only
    split
    · exact drop_isSuffix (inside whole) 1
    · exact (readers.items (inside whole)).bind fun read after => after
  · next tail room whole =>
    refine ReadsIn.opened ?_ rfl (whole ▸ part)
    dsimp only
    split
    · exact drop_isSuffix (inside whole) 1
    · exact (readers.members (inside whole)).bind fun read after => after
  · exact readsIn_readScalar part

theorem readsIn_readItems : ReadsIn room text (readItems (fuel + 1) room place) := by
  unfold readItems
  refine (readers.value part).bind fun read after => ?_
  dsimp only
  split
  · exact drop_isSuffix (trimmed_isSuffix after) 1
  · exact (readers.items (behindSign_isSuffix after)).bind fun read last => last
  · trivial

theorem readsIn_readMembers : ReadsIn room text (readMembers (fuel + 1) room place) := by
  unfold readMembers
  split
  · refine (readsIn_readString (drop_isSuffix part 1)).bind fun read after => ?_
    dsimp only
    split
    · refine (readers.value (behindSign_isSuffix after)).bind fun read after => ?_
      split
      · exact drop_isSuffix (trimmed_isSuffix after) 1
      · exact (readers.members (behindSign_isSuffix after)).bind fun read last => last
      · trivial
    · trivial
  · trivial

end

theorem readersIn (fuel : Nat) : ReadersIn fuel := by
  -- the three readers call one another with one unit of fuel less, so the induction is on that
  induction fuel with
  | zero => exact ⟨fun _ => trivial, fun _ => trivial, fun _ => trivial⟩
  | succ fuel readers =>
    exact ⟨readsIn_readValue readers, readsIn_readItems readers, readsIn_readMembers readers⟩

/-! ## Texts -/

/-- What a text is refused for is about the text. -/
theorem isAbout_of_read {fault : Fault} (refused : read room text = .error fault) :
    fault.IsAbout room text := by
  have settles : Settles (fun _ => True) (Fault.IsAbout room text) (read room text) := by
    unfold read
    split
    · trivial
    · refine Settles.bind ((readersIn _).value (trimmed_isSuffix List.suffix_rfl))
        fun read after => ?_
      dsimp only
      split <;> trivial
  rw [refused] at settles
  exact settles

/-- A text that is refused for a number of too many digits has that number of digits in a row. -/
theorem holdsDigits_of_read {count : Nat}
    (refused : read room text = .error (.tooManyDigits count)) : HoldsDigits text count :=
  isAbout_of_read refused

/-- A text that is refused for its depth opens more arrays and objects than there is room for. -/
theorem lt_openings_of_read (refused : read room text = .error .tooDeep) : room < openings text :=
  isAbout_of_read refused

theorem readValue_openings (rest : List Char) (room fuel pos : Nat) (enough : 2 * room < fuel) :
    readValue fuel room ⟨List.replicate (room + 1) '[' ++ rest, pos⟩ = .error .tooDeep := by
  induction room generalizing fuel pos with
  | zero =>
    obtain ⟨fuel, rfl⟩ := Nat.exists_eq_add_one.mpr enough
    rfl
  | succ room ih =>
    obtain ⟨fuel, rfl⟩ := Nat.exists_eq_add_of_le' (show 2 ≤ fuel by omega)
    have inside := ih fuel (pos + 1) (by omega)
    rw [List.replicate_succ, List.cons_append] at inside ⊢
    have first : (Place.drop ⟨'[' :: '[' :: (List.replicate room '[' ++ rest), pos⟩ 1).trimmed =
        ⟨'[' :: (List.replicate room '[' ++ rest), pos + 1⟩ := rfl
    rw [List.replicate_succ, List.cons_append]
    simp only [readValue, first, readItems, inside]
    rfl

/-- A text that opens more arrays than there is room for, one right behind the other, is refused for
its depth, whatever follows. -/
theorem read_openings {count : Nat} (deep : room < count) (rest : List Char) :
    read room (List.replicate count '[' ++ rest) = .error .tooDeep := by
  obtain ⟨more, rfl⟩ := Nat.exists_eq_add_of_le (show room + 1 ≤ count from deep)
  rw [List.replicate_add, List.append_assoc]
  generalize List.replicate more '[' ++ rest = rest
  have value := readValue_openings rest room
    (2 * (List.replicate (room + 1) '[' ++ rest).length + 2) 0
    (by rw [List.length_append, List.length_replicate]; omega)
  rw [List.replicate_succ, List.cons_append] at value ⊢
  have unmarked : ('[' :: (List.replicate room '[' ++ rest)).head? ≠ some '\ufeff' := by
    rintro ⟨⟩
  unfold read
  rw [if_neg unmarked]
  change readValue _ room ⟨'[' :: (List.replicate room '[' ++ rest), 0⟩ >>= _ = _
  rw [value]
  rfl

end ShellVet.Json
