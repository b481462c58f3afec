import ShellVet.Json.Shown
import ShellVet.Proofs.Json.Tidy
import Mathlib.Logic.Basic

/-!
# Depth and digits

A document nests no deeper than there was room to read it (`depth_of_read`), so it can be shown and
written where there is as much room. What stands in the way of that otherwise is its depth or one of
its integers (`limit?_eq_none_iff`). Unless the room is used up, more room makes no difference to
what is read (`read_grows`).
-/

namespace ShellVet.Json

section

variable {τ : Type} {document : Json τ} {items : List (Json τ)} {members : Members τ}

/-! ## Depth -/

theorem depthOfItems_le_iff {bound : Nat} :
    depthOfItems items ≤ bound ↔ ∀ item ∈ items, item.depth ≤ bound := by
  induction items with
  | nil => simp [depthOfItems]
  | cons item items ih => rw [depthOfItems, Nat.max_le, ih, List.forall_mem_cons]

theorem depthOfMembers_le_iff {bound : Nat} :
    depthOfMembers members ≤ bound ↔ ∀ member ∈ members, member.2.depth ≤ bound := by
  induction members with
  | nil => simp [depthOfMembers]
  | cons member members ih => rw [depthOfMembers, Nat.max_le, ih, List.forall_mem_cons]

theorem depth_array_le_iff {bound : Nat} :
    (Json.array items).depth ≤ bound + 1 ↔ ∀ item ∈ items, item.depth ≤ bound := by
  rw [depth, Nat.add_comm, Nat.add_le_add_iff_right, depthOfItems_le_iff]

theorem depth_object_le_iff {bound : Nat} :
    (Json.object members).depth ≤ bound + 1 ↔ ∀ member ∈ members, member.2.depth ≤ bound := by
  rw [depth, Nat.add_comm, Nat.add_le_add_iff_right, depthOfMembers_le_iff]

theorem depth_array_pos : 0 < (Json.array items).depth := by
  rw [depth]
  omega

theorem depth_object_pos : 0 < (Json.object members).depth := by
  rw [depth]
  omega

/-- A part of a document nests less deep than the document. -/
theorem depth_lt_of_mem_parts {part : Json τ} (inside : part ∈ document.parts) :
    part.depth < document.depth := by
  cases document with
  | array items =>
    rw [depth, Nat.add_comm]
    exact Nat.lt_succ_of_le (depthOfItems_le_iff.mp (Nat.le_refl _) part inside)
  | object members =>
    obtain ⟨member, known, rfl⟩ := List.mem_map.mp inside
    rw [depth, Nat.add_comm]
    exact Nat.lt_succ_of_le (depthOfMembers_le_iff.mp (Nat.le_refl _) member known)
  | _ => cases inside

/-! ## Digits -/

theorem isOverlong_eq_false_iff {value : Int} :
    isOverlong value = false ↔ (Nat.toDigits 10 value.natAbs).length ≤ digitLimit := by
  rw [isOverlong, decide_eq_false_iff_not, Nat.not_le,
    Nat.length_toDigits_le_iff (by decide) (show 0 < digitLimit by decide), Nat.pow_eq]

/-- The document is no integer of too many digits. -/
def IsShort (document : Json τ) : Prop :=
  ∀ value, document = .int value → isOverlong value = false

theorem Tidy.short (tidy : document.Tidy) : document.Everywhere IsShort := by
  refine Everywhere.imp (fun part here value same => ?_) tidy
  rw [same] at here
  exact isOverlong_eq_false_iff.mpr here

/-! ## Limits -/

theorem limitOfItems?_eq_none_iff {room : Nat} :
    limitOfItems? room items = none ↔ ∀ item ∈ items, item.limit? room = none := by
  induction items with
  | nil => simp [limitOfItems?]
  | cons item items ih =>
    rw [limitOfItems?, List.forall_mem_cons, ← ih, Option.orElse_eq_orElse, Option.orElse_eq_or,
      Option.or_eq_none_iff]

theorem limitOfMembers?_eq_none_iff {room : Nat} :
    limitOfMembers? room members = none ↔ ∀ member ∈ members, member.2.limit? room = none := by
  induction members with
  | nil => simp [limitOfMembers?]
  | cons member members ih =>
    rw [limitOfMembers?, List.forall_mem_cons, ← ih, Option.orElse_eq_orElse,
      Option.orElse_eq_or, Option.or_eq_none_iff]

theorem limit?_array {room : Nat} :
    (Json.array items).limit? (room + 1) = none ↔ ∀ item ∈ items, item.limit? room = none := by
  rw [limit?, limitOfItems?_eq_none_iff]

theorem limit?_object {room : Nat} :
    (Json.object members).limit? (room + 1) = none ↔
      ∀ member ∈ members, member.2.limit? room = none := by
  rw [limit?, limitOfMembers?_eq_none_iff]

theorem isShort_of_not_int (other : ∀ value, document ≠ .int value) : document.IsShort :=
  fun value same => absurd same (other value)

theorem everywhere_short_of_parts {document : Json τ} (other : ∀ value, document ≠ .int value) :
    document.Everywhere IsShort ↔ ∀ part ∈ document.parts, part.Everywhere IsShort :=
  ⟨fun everywhere _ => everywhere.inside, .intro (isShort_of_not_int other)⟩

/-- Nothing stands in the way of a document that nests no deeper than there is room and has no
integer of too many digits, and only of such a document. -/
theorem limit?_eq_none_iff {room : Nat} :
    document.limit? room = none ↔ document.depth ≤ room ∧ document.Everywhere IsShort := by
  induction document using partInduction generalizing room with
  | step document ih =>
    cases document with
    | int value =>
      have short : (Json.int value : Json τ).Everywhere IsShort ↔ isOverlong value = false :=
        ⟨fun everywhere => everywhere.here value rfl,
          fun short => .leaf (fun _ same => Json.int.inj same ▸ short) rfl⟩
      rw [limit?, short]
      simp [depth]
    | array items =>
      rw [everywhere_short_of_parts (by rintro _ ⟨⟩)]
      cases room with
      | zero => simp [limit?, Nat.ne_of_gt depth_array_pos]
      | succ room =>
        rw [limit?_array, depth_array_le_iff]
        change _ ↔ _ ∧ ∀ item ∈ items, item.Everywhere IsShort
        rw [← forall₂_and]
        exact forall₂_congr fun item known => ih item known
    | object members =>
      rw [everywhere_short_of_parts (by rintro _ ⟨⟩)]
      cases room with
      | zero => simp [limit?, Nat.ne_of_gt depth_object_pos]
      | succ room =>
        rw [limit?_object, depth_object_le_iff]
        have inside (part : Json τ) : part ∈ (Json.object members).parts ↔
            ∃ member ∈ members, member.2 = part := List.mem_map
        simp only [inside, forall_exists_index, and_imp, forall_apply_eq_imp_iff₂]
        rw [← forall₂_and]
        exact forall₂_congr fun member known => ih member.2 (List.mem_map_of_mem known)
    | _ =>
      rw [everywhere_short_of_parts (by rintro _ ⟨⟩)]
      cases room <;> simp [limit?, depth, parts]

theorem limitOfItems?_ne_depth {room : Nat}
    (within : ∀ item ∈ items, item.limit? room ≠ some .depth) :
    limitOfItems? room items ≠ some .depth := by
  induction items with
  | nil => exact nofun
  | cons item items ih =>
    obtain ⟨here, later⟩ := List.forall_mem_cons.mp within
    rw [limitOfItems?]
    cases limited : item.limit? room with
    | none => exact ih later
    | some limit =>
      rw [limited] at here
      exact here

theorem limitOfMembers?_ne_depth {room : Nat}
    (within : ∀ member ∈ members, member.2.limit? room ≠ some .depth) :
    limitOfMembers? room members ≠ some .depth := by
  induction members with
  | nil => exact nofun
  | cons member members ih =>
    obtain ⟨here, later⟩ := List.forall_mem_cons.mp within
    rw [limitOfMembers?]
    cases limited : member.2.limit? room with
    | none => exact ih later
    | some limit =>
      rw [limited] at here
      exact here

/-- A document that nests no deeper than there is room is not too deep. -/
theorem limit?_ne_depth {room : Nat} (fits : document.depth ≤ room) :
    document.limit? room ≠ some .depth := by
  induction document using partInduction generalizing room with
  | step document ih =>
    cases document with
    | int value =>
      rw [limit?]
      split <;> nofun
    | array items =>
      obtain ⟨room, rfl⟩ := Nat.exists_eq_add_one.mpr (Nat.lt_of_lt_of_le depth_array_pos fits)
      rw [limit?]
      exact limitOfItems?_ne_depth fun item known =>
        ih item known (depth_array_le_iff.mp fits item known)
    | object members =>
      obtain ⟨room, rfl⟩ := Nat.exists_eq_add_one.mpr (Nat.lt_of_lt_of_le depth_object_pos fits)
      rw [limit?]
      exact limitOfMembers?_ne_depth fun member known =>
        ih member.2 (List.mem_map_of_mem known) (depth_object_le_iff.mp fits member known)
    | _ => cases room <;> simp [limit?]

/-- What is within the depth and still too much holds an integer of too many digits. -/
theorem limit?_eq_some {room : Nat} {limit : Limit} (fits : document.depth ≤ room)
    (limited : document.limit? room = some limit) :
    limit = .digits ∧ ¬ document.Everywhere IsShort := by
  constructor
  · cases limit with
    | depth => exact absurd limited (limit?_ne_depth fits)
    | digits => rfl
  · intro short
    rw [limit?_eq_none_iff.mpr ⟨fits, short⟩] at limited
    cases limited

end

/-! ## Reading -/

variable {room : Nat} {document : Json CodeText}

/-- A scalar is no string and has nothing inside. -/
theorem readScalar_plain {place after : Place} (read : readScalar place = .ok (document, after)) :
    document.parts = [] ∧ document.depth = 0 ∧ ∀ text, document ≠ .string text := by
  have unsigned {start place : Place} {negative : Bool}
      (read : readUnsigned start negative place = .ok (document, after)) :
      document.parts = [] ∧ document.depth = 0 ∧ ∀ text, document ≠ .string text := by
    unfold readUnsigned at read
    dsimp only at read
    repeat' split at read
    all_goals cases read
    all_goals exact ⟨rfl, rfl, by simp⟩
  have words : ∀ word ∈ wordValues,
      word.2.parts = [] ∧ word.2.depth = 0 ∧ ∀ text, word.2 ≠ .string text := by
    intro word known
    simp only [wordValues, List.mem_cons, List.not_mem_nil, or_false] at known
    rcases known with rfl | rfl | rfl | rfl | rfl | rfl <;> exact ⟨rfl, rfl, by simp⟩
  unfold readScalar at read
  split at read
  case h_1 word value found =>
    cases read
    exact words _ (List.mem_of_find?_eq_some found)
  case h_2 =>
    unfold readNumber at read
    split at read <;> exact unsigned read

theorem readClosed_depth :
    ReadClosed (fun _ => True) fun room document => document.depth ≤ room where
  read _ := trivial
  string _ := Nat.zero_le _
  scalar read := by
    rw [(readScalar_plain read).2.1]
    exact Nat.zero_le _
  array inside := depth_array_le_iff.mpr inside
  object inside :=
    depth_object_le_iff.mpr fun member known => (inside member (mem_of_mem_distinct known)).2

/-- What is read nests no deeper than there was room. -/
theorem depth_of_read {text : List Char} (read : Json.read room text = .ok document) :
    document.depth ≤ room :=
  readClosed_depth.of_read read

/-! ## More room -/

/-- With more room the result is the same, unless the room is used up. -/
def Grows {α : Type} (computation larger : Except Fault α) : Prop :=
  computation = .error .tooDeep ∨ larger = computation

theorem Grows.refl {α : Type} (computation : Except Fault α) : Grows computation computation :=
  .inr rfl

theorem Grows.bind {α β : Type} {computation larger : Except Fault α}
    {next further : α → Except Fault β}
    (grows : Grows computation larger) (onward : ∀ value, Grows (next value) (further value)) :
    Grows (computation >>= next) (larger >>= further) := by
  rcases grows with rfl | rfl
  · exact .inl rfl
  · cases larger with
    | error fault => exact .refl _
    | ok value => exact onward value

/-- What opens no string, array or object is read as a scalar. -/
theorem readValue_scalar {c : Char} (plain : c ≠ '"' ∧ c ≠ '[' ∧ c ≠ '\x7b') (fuel room : Nat)
    (tail : List Char) (pos : Nat) :
    readValue (fuel + 1) room ⟨c :: tail, pos⟩ = readScalar ⟨c :: tail, pos⟩ := by
  obtain ⟨noQuote, noBracket, noBrace⟩ := plain
  simp [readValue, noQuote, noBracket, noBrace]

/-- With this fuel more room makes no difference to the readers, unless it is used up. -/
structure ReadersGrow (fuel : Nat) : Prop where
  value {room more : Nat} (fits : room ≤ more) (place : Place) :
    Grows (readValue fuel room place) (readValue fuel more place)
  items {room more : Nat} (fits : room ≤ more) (place : Place) :
    Grows (readItems fuel room place) (readItems fuel more place)
  members {room more : Nat} (fits : room ≤ more) (place : Place) :
    Grows (readMembers fuel room place) (readMembers fuel more place)

section

variable {fuel more : Nat} (grow : ReadersGrow fuel) (fits : room ≤ more) (place : Place)

include grow fits

theorem readValue_grows :
    Grows (readValue (fuel + 1) room place) (readValue (fuel + 1) more place) := by
  obtain ⟨rest, pos⟩ := place
  cases rest with
  | nil => exact .refl _
  | cons c tail =>
    by_cases quote : c = '"'
    · subst quote
      simp only [readValue]
      exact .refl _
    by_cases bracket : c = '['
    · subst bracket
      cases room with
      | zero => exact .inl (by simp only [readValue])
      | succ room =>
        obtain ⟨more, rfl⟩ := Nat.exists_eq_add_of_le' (show 1 ≤ more by omega)
        simp only [readValue]
        split
        · exact .refl _
        · exact (grow.items (Nat.le_of_succ_le_succ fits) _).bind fun _ => .refl _
    by_cases brace : c = '\x7b'
    · subst brace
      cases room with
      | zero => exact .inl (by simp only [readValue])
      | succ room =>
        obtain ⟨more, rfl⟩ := Nat.exists_eq_add_of_le' (show 1 ≤ more by omega)
        simp only [readValue]
        split
        · exact .refl _
        · exact (grow.members (Nat.le_of_succ_le_succ fits) _).bind fun _ => .refl _
    rw [readValue_scalar ⟨quote, bracket, brace⟩, readValue_scalar ⟨quote, bracket, brace⟩]
    exact .refl _

theorem readItems_grows :
    Grows (readItems (fuel + 1) room place) (readItems (fuel + 1) more place) := by
  unfold readItems
  refine (grow.value fits place).bind fun first => ?_
  dsimp only
  split
  · exact .refl _
  · exact (grow.items fits _).bind fun _ => .refl _
  · exact .refl _

theorem readMembers_grows :
    Grows (readMembers (fuel + 1) room place) (readMembers (fuel + 1) more place) := by
  unfold readMembers
  dsimp only
  split
  case h_2 => exact .refl _
  refine (Grows.refl _).bind fun key => ?_
  split
  · refine (grow.value fits _).bind fun first => ?_
    split
    · exact .refl _
    · exact (grow.members fits _).bind fun _ => .refl _
    · exact .refl _
  · exact .refl _

end

theorem readersGrow (fuel : Nat) : ReadersGrow fuel := by
  -- the three readers call one another with one unit of fuel less, so the induction is on that
  induction fuel with
  | zero => exact ⟨fun _ _ => .refl _, fun _ _ => .refl _, fun _ _ => .refl _⟩
  | succ fuel grow => exact ⟨readValue_grows grow, readItems_grows grow, readMembers_grows grow⟩

/-- More room makes no difference to what a text is read as, unless it is used up. -/
theorem read_grows {more : Nat} (fits : room ≤ more) (text : List Char) :
    Grows (Json.read room text) (Json.read more text) := by
  unfold Json.read
  split
  · exact .refl _
  · exact ((readersGrow _).value fits _).bind fun _ => .refl _

/-- Two readings of a text give the same, whatever room there is for each, unless it is used up. -/
theorem read_eq_read {more : Nat} {text : List Char} (one : Json.read room text ≠ .error .tooDeep)
    (other : Json.read more text ≠ .error .tooDeep) :
    Json.read room text = Json.read more text := by
  have first := (read_grows (Nat.le_max_left room more) text).resolve_left one
  exact first.symm.trans ((read_grows (Nat.le_max_right room more) text).resolve_left other)

/-! ## Limits of what is read -/

theorem limit?_of_le {τ : Type} {document : Json τ} {more : Nat} (fits : room ≤ more)
    (unlimited : document.limit? room = none) : document.limit? more = none := by
  obtain ⟨depth, short⟩ := limit?_eq_none_iff.mp unlimited
  exact limit?_eq_none_iff.mpr ⟨Nat.le_trans depth fits, short⟩

theorem limit?_of_mem_parts {τ : Type} {document part : Json τ}
    (unlimited : document.limit? room = none) (inside : part ∈ document.parts) :
    part.limit? room = none := by
  obtain ⟨depth, short⟩ := limit?_eq_none_iff.mp unlimited
  exact limit?_eq_none_iff.mpr
    ⟨Nat.le_trans (Nat.le_of_lt (depth_lt_of_mem_parts inside)) depth, short.inside inside⟩

/-- What is read can be shown where there is as much room. -/
theorem limit?_of_read {text : List Char} (read : Json.read room text = .ok document) :
    document.limit? room = none :=
  limit?_eq_none_iff.mpr ⟨depth_of_read read, (tidy_of_read read).short⟩

end ShellVet.Json
