import ShellVet.Proofs.Json.Limits
import ShellVet.Proofs.Text.Codes

/-!
# Pairs of halves

Two halves of a surrogate pair that follow each other are one character as soon as they were written
and read. No document that is read from a text holds them apart (`spelled_of_read`): the reader
looks behind each first half for the second one, so none is behind what it has read
(`isChain_of_readChars`).
-/

namespace ShellVet.Json

/-! ## Reading -/

variable {start fuel : Nat} {done : List CodePoint} {place after : Place} {value : CodeText}

/-- The code points that were read, the last ones first, are apart, and behind a first half no
escape of a second half comes. -/
structure ApartUpTo (done : List CodePoint) (place : Place) : Prop where
  chain : done.IsChain fun next one => CodePoint.Apart one next
  next : ∀ first earlier, done = .high first :: earlier → ∀ tail, place.rest = '\\' :: 'u' :: tail →
    ∀ code, unicodeEscape (place.drop 2) = .ok code → ∀ second, CodePoint.ofCode code ≠ .low second

/-- A character goes behind any code point and before any. -/
theorem ApartUpTo.char (apart : ApartUpTo done place) (c : Char) (later : Place) :
    ApartUpTo (.char c :: done) later where
  chain := List.isChain_cons.mpr ⟨fun _ _ _ _ _ => nofun, apart.chain⟩
  next := by rintro first earlier ⟨⟩

/-- The code points that are read are apart, if those before are. -/
theorem isChain_of_readChars (read : readChars start fuel done place = .ok (value, after))
    (apart : ApartUpTo done place) : value.points.IsChain CodePoint.Apart := by
  induction fuel generalizing done place with
  | zero => cases read
  | succ fuel ih =>
    unfold readChars at read
    split at read
    · cases read
    · cases read
      exact List.isChain_reverse.mpr apart.chain
    · cases read
    · next tail escaped =>
      obtain ⟨code, given, read⟩ := bind_eq_ok.mp read
      have behind : (CodePoint.ofCode code :: done).IsChain fun next one =>
          CodePoint.Apart one next := by
        refine List.isChain_cons.mpr ⟨fun point last first second same => ?_, apart.chain⟩
        obtain ⟨earlier, rfl⟩ := List.head?_eq_some_iff.mp last
        exact apart.next first earlier (by rw [same]) tail escaped code given second
      dsimp only at read
      split at read
      · next first more high pair =>
        obtain ⟨other, given, read⟩ := bind_eq_ok.mp read
        split at read
        · exact ih read (apart.char _ _)
        · next single =>
          refine ih read ⟨behind, fun _ _ _ tail _ code again second low => ?_⟩
          have same : unicodeEscape (place.drop 8) = .ok code := by
            rw [← again]
            simp [Place.drop, List.drop_drop]
          rw [given] at same
          cases same
          exact single second low
      · next other =>
        refine ih read ⟨behind, fun first earlier same tail escaped => ?_⟩
        exact absurd escaped (other first tail (List.cons.inj same).1)
    · split at read
      · exact ih read (apart.char _ _)
      · cases read
    · split at read
      · cases read
      · exact ih read (apart.char _ _)

theorem isJoined_of_readString (read : readString place = .ok (value, after)) : value.IsJoined :=
  CodeText.isJoined_of_isChain (isChain_of_readChars read ⟨.nil, nofun⟩)

/-! ## Documents -/

/-- The document may stand in a text: directly in it no key comes twice, and no text and no key has
a first half with the second half behind it. -/
def IsSpelled : Json CodeText → Prop
  | .string value => value.IsJoined
  | .object members =>
    (members.map (·.1)).Nodup ∧ ∀ member ∈ members, member.1.IsJoined
  | _ => True

/-- The document with all that is in it may stand in a text. This is so for all that is read from
one, and but for fractions and integers of too many digits for nothing else (`exists_read_iff`). -/
def Spelled (document : Json CodeText) : Prop :=
  document.Everywhere IsSpelled

theorem spelled_of_readScalar {document : Json CodeText}
    (read : readScalar place = .ok (document, after)) : document.Spelled := by
  obtain ⟨empty, -, noString⟩ := readScalar_plain read
  refine .leaf ?_ empty
  cases document with
  | string text => exact absurd rfl (noString text)
  | object members =>
    rw [List.map_eq_nil_iff.mp empty]
    exact ⟨List.nodup_nil, nofun⟩
  | _ => exact trivial

theorem readClosed_spelled : ReadClosed CodeText.IsJoined fun _ document =>
    document.Spelled where
  read := isJoined_of_readString
  string joined := .leaf joined rfl
  scalar := spelled_of_readScalar
  array inside := .intro trivial inside
  object {_ members} inside := by
    refine everywhere_object ⟨nodup_distinct members, fun member known => ?_⟩
      fun member known => ?_
    · exact (inside member (mem_of_mem_distinct known)).1
    · exact (inside member (mem_of_mem_distinct known)).2

/-- What is read from a text may stand in it. -/
theorem spelled_of_read {room : Nat} {document : Json CodeText} {text : List Char}
    (read : Json.read room text = .ok document) : document.Spelled :=
  readClosed_spelled.of_read read

/-- The document is the same after it was written and read: it may stand in a text, and no number in
it has a fraction or an exponent. -/
def Plain (document : Json CodeText) : Prop :=
  document.Everywhere fun part => part.IsSpelled ∧ ¬ part.IsFloat

section

variable {document : Json CodeText} {members target changes : Members CodeText}

theorem Spelled.plain (spelled : document.Spelled) (floatFree : document.FloatFree) :
    document.Plain :=
  spelled.and floatFree

theorem plain_ofString (text : String) : (Json.string (text : CodeText)).Plain :=
  .leaf ⟨CodeText.isJoined_ofString text, id⟩ rfl

/-- The members of two plain objects make a plain object. -/
theorem Plain.merge (plain : (Json.object target).Plain) (new : (Json.object changes).Plain) :
    (Json.object (merge target changes)).Plain :=
  have named (members : Members CodeText) :
      ((object members).IsSpelled ∧ ¬ (object members).IsFloat) ↔
        (members.map (·.1)).Nodup ∧ ∀ member ∈ members, member.1.IsJoined :=
    ⟨And.left, fun named => ⟨named, id⟩⟩
  Everywhere.merge named plain new

end

end ShellVet.Json
