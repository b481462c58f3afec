import ShellVet.Json.Merge
import ShellVet.Json.Reader
import Mathlib.Algebra.Group.Nat.Defs

/-!
# Tidy documents

A document is tidy if no object in it has a key twice and no integer in it has more digits than are
converted. Reading gives tidy documents (`tidy_of_read`). A property of documents that asks of
objects no more than something of their keys is kept by merging (`Everywhere.merge`).
-/

namespace ShellVet.Json

section

variable {τ : Type}

/-- The documents directly inside a document. -/
def parts : Json τ → List (Json τ)
  | .array items => items
  | .object members => members.map (·.2)
  | _ => []

/-- The property holds of the document and of all documents in it. -/
inductive Everywhere (holds : Json τ → Prop) : Json τ → Prop where
  | intro {document : Json τ} (here : holds document)
      (inside : ∀ part ∈ document.parts, Everywhere holds part) : Everywhere holds document

/-- No key comes twice in the object; the integer has no more digits than are converted. -/
def IsTidy : Json τ → Prop
  | .int value => (Nat.toDigits 10 value.natAbs).length ≤ digitLimit
  | .object members => (members.map (·.1)).Nodup
  | _ => True

/-- The document is a number with a fraction or an exponent. -/
def IsFloat : Json τ → Prop
  | .float _ => True
  | _ => False

/-- No object has a key twice, and no integer has too many digits. -/
def Tidy (document : Json τ) : Prop :=
  document.Everywhere IsTidy

/-- No number has a fraction or an exponent. -/
def FloatFree (document : Json τ) : Prop :=
  document.Everywhere fun part => ¬ part.IsFloat

section

variable {holds others : Json τ → Prop} {document : Json τ}

theorem Everywhere.here (everywhere : document.Everywhere holds) : holds document := by
  cases everywhere with
  | intro here _ => exact here

theorem Everywhere.inside (everywhere : document.Everywhere holds) {part : Json τ}
    (member : part ∈ document.parts) : part.Everywhere holds := by
  cases everywhere with
  | intro _ inside => exact inside part member

theorem Everywhere.and (first : document.Everywhere holds) (second : document.Everywhere others) :
    document.Everywhere fun part => holds part ∧ others part := by
  induction first with
  | intro here _ ih =>
    exact .intro ⟨here, second.here⟩ fun part member => ih part member (second.inside member)

theorem Everywhere.imp (weaker : ∀ part, holds part → others part)
    (everywhere : document.Everywhere holds) : document.Everywhere others := by
  induction everywhere with
  | intro here _ ih => exact .intro (weaker _ here) ih

theorem Everywhere.member {members : Members τ}
    (everywhere : (Json.object members).Everywhere holds) {member : τ × Json τ}
    (inside : member ∈ members) : member.2.Everywhere holds :=
  everywhere.inside (List.mem_map_of_mem inside)

/-- A document with nothing inside. -/
theorem Everywhere.leaf (here : holds document) (empty : document.parts = []) :
    document.Everywhere holds :=
  .intro here fun part member => by rw [empty] at member; cases member

theorem everywhere_object {members : Members τ} (here : holds (.object members))
    (inside : ∀ member ∈ members, member.2.Everywhere holds) :
    (Json.object members).Everywhere holds := by
  refine .intro here fun part listed => ?_
  obtain ⟨member, known, rfl⟩ := List.mem_map.mp listed
  exact inside member known

theorem sizeOf_lt_of_mem_parts {part document : Json τ} (inside : part ∈ document.parts) :
    sizeOf part < sizeOf document := by
  cases document with
  | array items =>
    have smaller : sizeOf part < sizeOf items := List.sizeOf_lt_of_mem inside
    rw [array.sizeOf_spec]
    omega
  | object members =>
    obtain ⟨⟨key, value⟩, known, rfl⟩ := List.mem_map.mp inside
    have smaller := List.sizeOf_lt_of_mem known
    rw [Prod.mk.sizeOf_spec] at smaller
    rw [object.sizeOf_spec]
    dsimp only
    omega
  | _ => cases inside

/-- Induction on a document along its parts. -/
theorem partInduction {holds : Json τ → Prop}
    (step : ∀ document, (∀ part ∈ document.parts, holds part) → holds document)
    (document : Json τ) : holds document :=
  step document fun part _ => partInduction step part
termination_by sizeOf document
decreasing_by exact sizeOf_lt_of_mem_parts ‹_›

end

/-! ## Keys -/

variable [DecidableEq τ] {key : τ} {value : Json τ} {members : Members τ}

theorem put_of_not_mem (absent : key ∉ members.map (·.1)) :
    put key value members = members ++ [(key, value)] := by
  induction members with
  | nil => rfl
  | cons member members ih =>
    rw [List.map_cons, List.mem_cons, not_or] at absent
    rw [put, if_neg (Ne.symm absent.1), ih absent.2]
    rfl

theorem keys_put_of_mem (present : key ∈ members.map (·.1)) :
    (put key value members).map (·.1) = members.map (·.1) := by
  induction members with
  | nil => cases present
  | cons member members ih =>
    unfold put
    split
    case isTrue => rfl
    case isFalse other =>
      rw [List.map_cons, List.mem_cons, or_iff_right (Ne.symm other)] at present
      rw [List.map_cons, List.map_cons, ih present]

theorem nodup_put (nodup : (members.map (·.1)).Nodup) :
    ((put key value members).map (·.1)).Nodup := by
  by_cases present : key ∈ members.map (·.1)
  · rwa [keys_put_of_mem present]
  · rw [put_of_not_mem present, List.map_append]
    refine List.nodup_append.mpr ⟨nodup, List.pairwise_singleton .., ?_⟩
    intro first known second last same
    rw [List.map_singleton, List.mem_singleton] at last
    rw [same, last] at known
    exact present known

theorem mem_of_mem_put {member : τ × Json τ} (inside : member ∈ put key value members) :
    member = (key, value) ∨ member ∈ members := by
  induction members with
  | nil => exact .inl (List.mem_singleton.mp inside)
  | cons first members ih =>
    unfold put at inside
    split at inside
    case isTrue same =>
      rw [same] at inside
      exact (List.mem_cons.mp inside).imp id (List.mem_cons_of_mem _)
    case isFalse =>
      rcases List.mem_cons.mp inside with rfl | later
      · exact .inr List.mem_cons_self
      · exact (ih later).imp id (List.mem_cons_of_mem _)

theorem mem_of_lookup {text : τ} (found : members.lookup text = some value) :
    ∃ member ∈ members, member.2 = value := by
  induction members with
  | nil => cases found
  | cons member members ih =>
    rw [List.lookup_cons] at found
    split at found
    · exact ⟨member, List.mem_cons_self, Option.some.inj found⟩
    · obtain ⟨other, known, same⟩ := ih found
      exact ⟨other, List.mem_cons_of_mem _ known, same⟩

theorem foldl_put_of_nodup (members : Members τ) {later : Members τ}
    (nodup : ((members ++ later).map (·.1)).Nodup) :
    later.foldl (fun done member => put member.1 member.2 done) members = members ++ later := by
  induction later generalizing members with
  | nil => rw [List.append_nil]; rfl
  | cons member later ih =>
    have absent : member.1 ∉ members.map (·.1) := by
      rw [List.map_append, List.map_cons] at nodup
      intro present
      exact (List.nodup_append.mp nodup).2.2 _ present _ List.mem_cons_self rfl
    rw [List.foldl_cons, put_of_not_mem absent, ih]
    · rw [List.append_assoc]
      rfl
    · rwa [List.append_assoc]

/-- Members whose keys come once each are distinct already. -/
theorem distinct_of_nodup (nodup : (members.map (·.1)).Nodup) : distinct members = members :=
  foldl_put_of_nodup [] nodup

theorem nodup_distinct (members : Members τ) : ((distinct members).map (·.1)).Nodup := by
  have kept : ∀ done : Members τ, (done.map (·.1)).Nodup →
      ((members.foldl (fun done member => put member.1 member.2 done) done).map (·.1)).Nodup := by
    induction members with
    | nil => exact fun done nodup => nodup
    | cons member members ih => exact fun done nodup => ih _ (nodup_put nodup)
  exact kept [] List.nodup_nil

/-- Distinct members are among the given ones. -/
theorem mem_of_mem_distinct {member : τ × Json τ} (inside : member ∈ distinct members) :
    member ∈ members := by
  have kept : ∀ done : Members τ,
      member ∈ members.foldl (fun done member => put member.1 member.2 done) done →
        member ∈ done ∨ member ∈ members := by
    clear inside
    induction members with
    | nil => exact fun done inside => .inl inside
    | cons first members ih =>
      intro done inside
      rcases ih _ inside with known | later
      · rcases mem_of_mem_put known with rfl | known
        · exact .inr List.mem_cons_self
        · exact .inl known
      · exact .inr (List.mem_cons_of_mem _ later)
  exact (kept [] inside).resolve_left List.not_mem_nil

/-- The last member whose key is of a kind is the first such member from behind. -/
theorem find?_reverse_eq_some_iff {τ : Type} {members : Members τ} {value : Json τ}
    (kind : τ → Bool) :
    (members.reverse.find? fun member => kind member.1).map (·.2) = some value ↔
      ∃ before key after, members = before ++ (key, value) :: after ∧ kind key = true ∧
        ∀ member ∈ after, kind member.1 = false := by
  rw [Option.map_eq_some_iff]
  constructor
  · rintro ⟨⟨key, value⟩, found, rfl⟩
    obtain ⟨fits, after, before, whole, others⟩ := List.find?_eq_some_iff_append.mp found
    refine ⟨before.reverse, key, after.reverse, ?_, fits, ?_⟩
    · rw [← List.reverse_reverse members, whole]
      simp
    · intro member inside
      simpa using others member (List.mem_reverse.mp inside)
  · rintro ⟨before, key, after, rfl, fits, others⟩
    refine ⟨(key, value), List.find?_eq_some_iff_append.mpr ⟨fits, after.reverse, before.reverse,
      by simp, ?_⟩, rfl⟩
    intro member inside
    simpa using others member (List.mem_reverse.mp inside)

end

/-! ## Reading -/

theorem bind_eq_ok {α β : Type} {first : Except Fault α} {next : α → Except Fault β} {result : β} :
    (first >>= next) = .ok result ↔ ∃ value, first = .ok value ∧ next value = .ok result := by
  cases first with
  | error fault => exact ⟨nofun, nofun⟩
  | ok value => exact ⟨fun done => ⟨value, rfl, done⟩, by rintro ⟨_, ⟨⟩, done⟩; exact done⟩

theorem isDigit_iff {c : Char} : isDigit c = true ↔ 48 ≤ c.toNat ∧ c.toNat ≤ 57 := by
  unfold isDigit
  rw [Bool.and_eq_true, decide_eq_true_iff, decide_eq_true_iff]
  exact Iff.rfl

/-- Digits spell in base ten what they spell one by one. -/
theorem ofDigits_eq (digits : List Char) (plain : ∀ c ∈ digits, isDigit c = true) :
    Decimal.ofDigits 10 digits = Nat.ofDigitChars 10 digits 0 := by
  have step : ∀ size : Nat, digits.foldl (fun n c => n * 10 + (Decimal.digitValue? c).getD 0) size =
      Nat.ofDigitChars 10 digits size := by
    induction digits with
    | nil => exact fun size => rfl
    | cons c digits ih =>
      intro size
      have digit := plain c List.mem_cons_self
      have value : Decimal.digitValue? c = some (c.toNat - 48) := if_pos digit
      rw [List.foldl_cons, value, Nat.ofDigitChars_cons, ih fun c known =>
        plain c (List.mem_cons_of_mem _ known), Nat.mul_comm]
      rfl
  exact step 0

theorem ofDigitChars_lt (digits : List Char) (plain : ∀ c ∈ digits, isDigit c = true) :
    Nat.ofDigitChars 10 digits 0 < 10 ^ digits.length := by
  induction digits with
  | nil => exact Nat.one_pos
  | cons c digits ih =>
    have digit := isDigit_iff.mp (plain c List.mem_cons_self)
    have rest := ih fun c known => plain c (List.mem_cons_of_mem _ known)
    have small : c.toNat - 48 ≤ 9 := by omega
    have first := Nat.mul_le_mul_left (10 ^ digits.length) small
    rw [Nat.ofDigitChars_cons, Nat.ofDigitChars_eq_ofDigitChars_zero, List.length_cons,
      Nat.pow_succ, Nat.mul_zero, Nat.zero_add]
    change 10 ^ digits.length * (c.toNat - 48) + _ < _
    omega

theorem isDigit_of_mem_wholeDigits {text : List Char} {c : Char} (inside : c ∈ wholeDigits text) :
    isDigit c = true := by
  unfold wholeDigits at inside
  split at inside
  · cases List.mem_singleton.mp inside
    rfl
  · exact List.all_eq_true.mp List.all_takeWhile c inside

/-- An integer that digits spell needs no more digits. -/
theorem tidy_int {digits : List Char} (plain : ∀ c ∈ digits, isDigit c = true)
    (short : digits.length ≤ digitLimit) {value : Int}
    (size : value.natAbs = Decimal.ofDigits 10 digits) : (Json.int value : Json CodeText).Tidy := by
  refine .leaf ?_ rfl
  change (Nat.toDigits 10 value.natAbs).length ≤ digitLimit
  rw [size, ofDigits_eq digits plain,
    Nat.length_toDigits_le_iff (by decide) (show 0 < digitLimit by decide)]
  exact Nat.lt_of_lt_of_le (ofDigitChars_lt digits plain) (Nat.pow_le_pow_right (by decide) short)

variable {place after : Place} {document : Json CodeText} {room : Nat}

theorem tidy_of_readUnsigned {start : Place} {negative : Bool}
    (read : readUnsigned start negative place = .ok (document, after)) : document.Tidy := by
  unfold readUnsigned at read
  dsimp only at read
  split at read
  · cases read
  · split at read
    · cases read
      exact .leaf trivial rfl
    · split at read
      · cases read
        exact .leaf trivial rfl
      · split at read
        · cases read
        · next short =>
          cases read
          refine tidy_int (fun c inside => isDigit_of_mem_wholeDigits inside)
            (Nat.le_of_not_gt short) ?_
          cases negative with
          | true => exact Int.natAbs_neg _
          | false => rfl

theorem tidy_of_readScalar (read : readScalar place = .ok (document, after)) : document.Tidy := by
  have words : ∀ word ∈ wordValues, word.2.Tidy := by
    intro word known
    simp only [wordValues, List.mem_cons, List.not_mem_nil, or_false] at known
    rcases known with rfl | rfl | rfl | rfl | rfl | rfl <;> exact .leaf trivial rfl
  unfold readScalar at read
  split at read
  case h_1 word value found =>
    cases read
    exact words _ (List.mem_of_find?_eq_some found)
  case h_2 =>
    unfold readNumber at read
    split at read <;> exact tidy_of_readUnsigned read

/-! ### What is read, from its parts -/

/-- A property of texts, and one of documents for the room they were read in, which strings have as
they are read, and documents if their parts have it. -/
structure ReadClosed (text : CodeText → Prop) (holds : Nat → Json CodeText → Prop) : Prop where
  read {place after : Place} {value : CodeText} :
    readString place = .ok (value, after) → text value
  string {room : Nat} {value : CodeText} : text value → holds room (.string value)
  scalar {room : Nat} {place after : Place} {document : Json CodeText} :
    readScalar place = .ok (document, after) → holds room document
  array {room : Nat} {items : List (Json CodeText)} :
    (∀ item ∈ items, holds room item) → holds (room + 1) (.array items)
  object {room : Nat} {members : Members CodeText} :
    (∀ member ∈ members, text member.1 ∧ holds room member.2) →
      holds (room + 1) (.object (distinct members))

/-- With this fuel the readers give what has the property. -/
structure GivesAll (text : CodeText → Prop) (holds : Nat → Json CodeText → Prop) (fuel : Nat) :
    Prop where
  value {room : Nat} {place after : Place} {document : Json CodeText} :
    readValue fuel room place = .ok (document, after) → holds room document
  items {room : Nat} {place after : Place} {items : List (Json CodeText)} :
    readItems fuel room place = .ok (items, after) → ∀ item ∈ items, holds room item
  members {room : Nat} {place after : Place} {members : Members CodeText} :
    readMembers fuel room place = .ok (members, after) →
      ∀ member ∈ members, text member.1 ∧ holds room member.2

section

variable {text : CodeText → Prop} {holds : Nat → Json CodeText → Prop} {fuel : Nat}
  (closed : ReadClosed text holds) (gives : GivesAll text holds fuel)

include closed gives

theorem ReadClosed.of_readValue (read : readValue (fuel + 1) room place = .ok (document, after)) :
    holds room document := by
  unfold readValue at read
  split at read
  · cases read
  · obtain ⟨_, string, ⟨⟩⟩ := bind_eq_ok.mp read
    exact closed.string (closed.read string)
  · cases read
  · cases read
  · dsimp only at read
    split at read
    · cases read
      exact closed.array nofun
    · obtain ⟨_, row, ⟨⟩⟩ := bind_eq_ok.mp read
      exact closed.array (gives.items row)
  · dsimp only at read
    split at read
    · cases read
      exact closed.object (nofun : ∀ member ∈ ([] : Members CodeText), _)
    · obtain ⟨_, row, ⟨⟩⟩ := bind_eq_ok.mp read
      exact closed.object (gives.members row)
  · exact closed.scalar read

omit closed in
theorem GivesAll.of_readItems {items : List (Json CodeText)}
    (read : readItems (fuel + 1) room place = .ok (items, after)) :
    ∀ item ∈ items, holds room item := by
  unfold readItems at read
  obtain ⟨⟨item, rest⟩, first, read⟩ := bind_eq_ok.mp read
  dsimp only at read
  split at read
  · cases read
    exact List.forall_mem_singleton.mpr (gives.value first)
  · obtain ⟨⟨more, last⟩, later, ⟨⟩⟩ := bind_eq_ok.mp read
    exact List.forall_mem_cons.mpr ⟨gives.value first, gives.items later⟩
  · cases read

theorem ReadClosed.of_readMembers {members : Members CodeText}
    (read : readMembers (fuel + 1) room place = .ok (members, after)) :
    ∀ member ∈ members, text member.1 ∧ holds room member.2 := by
  unfold readMembers at read
  dsimp only at read
  split at read
  · obtain ⟨⟨key, rest⟩, string, read⟩ := bind_eq_ok.mp read
    dsimp only at read
    split at read
    · obtain ⟨⟨document, rest⟩, first, read⟩ := bind_eq_ok.mp read
      have member := And.intro (closed.read string) (gives.value first)
      dsimp only at read
      split at read
      · cases read
        exact List.forall_mem_singleton.mpr member
      · obtain ⟨⟨more, last⟩, later, ⟨⟩⟩ := bind_eq_ok.mp read
        exact List.forall_mem_cons.mpr ⟨member, gives.members later⟩
      · cases read
    · cases read
  · cases read

end

theorem ReadClosed.givesAll {text : CodeText → Prop} {holds : Nat → Json CodeText → Prop}
    (closed : ReadClosed text holds) (fuel : Nat) : GivesAll text holds fuel := by
  induction fuel with
  | zero => exact ⟨nofun, nofun, nofun⟩
  | succ fuel gives =>
    exact ⟨closed.of_readValue gives, gives.of_readItems, closed.of_readMembers gives⟩

/-- What a text holds has every such property. -/
theorem ReadClosed.of_read {text : CodeText → Prop} {holds : Nat → Json CodeText → Prop}
    (closed : ReadClosed text holds) {given : List Char}
    (read : Json.read room given = .ok document) : holds room document := by
  unfold Json.read at read
  split at read
  · cases read
  · obtain ⟨⟨value, after⟩, given, read⟩ := bind_eq_ok.mp read
    dsimp only at read
    split at read
    · cases read
      exact (closed.givesAll _).value given
    · cases read

theorem readClosed_tidy : ReadClosed (fun _ => True) fun _ document => document.Tidy where
  read _ := trivial
  string _ := .leaf trivial rfl
  scalar := tidy_of_readScalar
  array inside := .intro trivial inside
  object {_ members} inside := by
    refine everywhere_object (nodup_distinct members) fun member known => ?_
    exact (inside member (mem_of_mem_distinct known)).2

/-- What a text holds is tidy. -/
theorem tidy_of_read {text : List Char} (read : Json.read room text = .ok document) :
    document.Tidy :=
  readClosed_tidy.of_read read

/-! ## Merging -/

section

variable {τ : Type} [DecidableEq τ] {holds : Json τ → Prop} {key : τ} {value : Json τ}
  {members : Members τ}

theorem Everywhere.lookup (everywhere : (Json.object members).Everywhere holds) {text : τ}
    (found : members.lookup text = some value) : value.Everywhere holds := by
  obtain ⟨member, inside, rfl⟩ := mem_of_lookup found
  exact everywhere.member inside

-- of objects the property asks that no key comes twice and each key is good, and nothing else
variable {good : τ → Prop} (keyed : ∀ members, holds (.object members) ↔
  (members.map (·.1)).Nodup ∧ ∀ member ∈ members, good member.1)

include keyed

theorem everywhere_put (everywhere : (Json.object members).Everywhere holds) (named : good key)
    (new : value.Everywhere holds) : (Json.object (put key value members)).Everywhere holds := by
  obtain ⟨nodup, keys⟩ := (keyed _).mp everywhere.here
  refine everywhere_object ((keyed _).mpr ⟨nodup_put nodup, ?_⟩) ?_
  · intro member inside
    rcases mem_of_mem_put inside with rfl | known
    · exact named
    · exact keys member known
  · intro member inside
    rcases mem_of_mem_put inside with rfl | known
    · exact new
    · exact everywhere.member known

/-- Merging members whose merged values have the property. -/
theorem everywhere_mergeRows {target rows : Members τ}
    (everywhere : (Json.object target).Everywhere holds)
    (named : ∀ row ∈ rows, good row.1)
    (merged : ∀ row ∈ rows, ∀ old : Option (Json τ), (∀ value ∈ old, value.Everywhere holds) →
      (mergeValue old row.2).Everywhere holds) :
    (Json.object (merge target rows)).Everywhere holds := by
  induction rows generalizing target with
  | nil =>
    rw [merge]
    exact everywhere
  | cons row rows ih =>
    rw [merge]
    have new := merged row List.mem_cons_self (target.lookup row.1) fun value found =>
      everywhere.lookup found
    exact ih (everywhere_put keyed everywhere (named row List.mem_cons_self) new)
      (fun row inside => named row (List.mem_cons_of_mem _ inside))
      fun row inside => merged row (List.mem_cons_of_mem _ inside)

theorem everywhere_mergeValue {new : Json τ} (everywhere : new.Everywhere holds)
    {old : Option (Json τ)} (known : ∀ value ∈ old, value.Everywhere holds) :
    (mergeValue old new).Everywhere holds := by
  induction everywhere generalizing old with
  | @intro new here inside ih =>
    have same : new.Everywhere holds := .intro here inside
    cases new with
    | object rows =>
      unfold mergeValue
      split
      · next members =>
        refine everywhere_mergeRows keyed (known _ rfl) ((keyed _).mp here).2
          fun row listed old known => ?_
        exact ih row.2 (List.mem_map_of_mem listed) known
      · exact same
    | _ =>
      unfold mergeValue
      exact same

/-- What holds everywhere in two objects holds everywhere in the merged one. -/
theorem Everywhere.merge {target changes : Members τ}
    (everywhere : (Json.object target).Everywhere holds)
    (new : (Json.object changes).Everywhere holds) :
    (Json.object (Json.merge target changes)).Everywhere holds :=
  everywhere_mergeRows keyed everywhere ((keyed _).mp new.here).2 fun _ inside _ known =>
    everywhere_mergeValue keyed (new.member inside) known

end

end ShellVet.Json
