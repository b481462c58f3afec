import ShellVet.Proofs.Json.Fractions
import ShellVet.Proofs.Json.Pairs

/-!
# Reading what was written

A document that can be written is read back from its text, in any layout whose gaps are white space;
only its numbers with a fraction are what their texts are read as, and in its texts the two halves
of a pair are one character (`reread`, `read_write_reread`). So a document without fractions that
may stand in a text is read back as it is (`Plain.reread_eq`). The proof is by induction on the
document, at every level and with any text behind it that ends a number. Where every item has its
line, the text is without carriage returns, so that nothing in it is taken for another line end.
-/

namespace ShellVet.Json

variable {fuel pos : Nat}

/-! ## Rereading -/

mutual

/-- The document as its text is read. -/
def reread : Json CodeText → Json CodeText
  | .null => .null
  | .bool value => .bool value
  | .int value => .int value
  | .float value => .float (rereadFloat value)
  | .string value => .string value.joined
  | .array items => .array (rereadItems items)
  | .object members => .object (distinct (rereadMembers members))

/-- The items of an array as their texts are read. -/
def rereadItems : List (Json CodeText) → List (Json CodeText)
  | [] => []
  | item :: items => item.reread :: rereadItems items

/-- The members of an object as their texts are read. -/
def rereadMembers : Members CodeText → Members CodeText
  | [] => []
  | (key, value) :: members => (key.joined, value.reread) :: rereadMembers members

end

/-- A member as its text is read. -/
def rereadMember (member : CodeText × Json CodeText) : CodeText × Json CodeText :=
  (member.1.joined, member.2.reread)

theorem rereadItems_eq (items : List (Json CodeText)) : rereadItems items = items.map reread := by
  induction items with
  | nil => rfl
  | cons item items ih => rw [rereadItems, ih, List.map_cons]

theorem rereadMembers_eq (members : Members CodeText) :
    rereadMembers members = members.map rereadMember := by
  induction members with
  | nil => rfl
  | cons member members ih => rw [rereadMembers, ih, List.map_cons, rereadMember]

/-- A plain document is read as it is. -/
theorem Plain.reread_eq {document : Json CodeText} (plain : document.Plain) :
    document.reread = document := by
  induction plain with
  | @intro document here _ part =>
    obtain ⟨spelled, whole⟩ := here
    cases document with
    | float value => exact absurd trivial whole
    | string value =>
      have joined : value.joined = value := spelled
      rw [reread, joined]
    | array items =>
      have same : items.map reread = items.map id := List.map_congr_left part
      rw [reread, rereadItems_eq, same, List.map_id]
    | object members =>
      obtain ⟨nodup, joined⟩ := spelled
      have same (member : CodeText × Json CodeText) (known : member ∈ members) :
          rereadMember member = member :=
        Prod.ext (joined member known) (part member.2 (List.mem_map_of_mem known))
      rw [reread, rereadMembers_eq, List.map_congr_left same, List.map_id', distinct_of_nodup nodup]
    | _ => rw [reread]

/-! ## Layouts -/

/-- The gaps of the layout are white space, after a comma between two items. -/
structure Layout.Spaced (layout : Layout) : Prop where
  opening : ∀ level, ∀ c ∈ layout.opening level, isSpace c = true
  between : ∀ level, ∃ gap, layout.between level = ',' :: gap ∧ ∀ c ∈ gap, isSpace c = true
  closing : ∀ level, ∀ c ∈ layout.closing level, isSpace c = true

theorem isSpace_of_mem_lineBreak {level : Nat} {c : Char} (inside : c ∈ lineBreak level) :
    isSpace c = true := by
  rcases List.mem_cons.mp inside with rfl | blank
  · rfl
  · rw [List.eq_of_mem_replicate blank]
    rfl

theorem Layout.spaced_manyLines : Layout.manyLines.Spaced where
  opening _ _ := isSpace_of_mem_lineBreak
  between level := ⟨lineBreak (level + 1), rfl, fun _ => isSpace_of_mem_lineBreak⟩
  closing _ _ := isSpace_of_mem_lineBreak

theorem trimmed_append (gap : List Char) (blank : ∀ c ∈ gap, isSpace c = true) {c : Char}
    (ink : isSpace c = false) (rest : List Char) (pos : Nat) :
    Place.trimmed ⟨gap ++ c :: rest, pos⟩ = ⟨c :: rest, pos + gap.length⟩ := by
  unfold Place.trimmed Place.skip
  dsimp only
  rw [List.dropWhile_append_of_pos blank, List.takeWhile_append_of_pos blank]
  simp [ink]

theorem trimmed_cons {c : Char} (ink : isSpace c = false) (rest : List Char) (pos : Nat) :
    Place.trimmed ⟨c :: rest, pos⟩ = ⟨c :: rest, pos⟩ :=
  trimmed_append [] nofun ink rest pos

theorem endsNumber_append (gap : List Char) (blank : ∀ c ∈ gap, isSpace c = true) {c : Char}
    (mark : c = ',' ∨ c = ']' ∨ c = '\x7d') (rest : List Char) :
    EndsNumber (gap ++ c :: rest) := by
  cases gap with
  | nil =>
    rintro _ ⟨⟩
    rcases mark with rfl | rfl | rfl <;> decide
  | cons space gap =>
    rintro _ ⟨⟩
    have space := blank _ List.mem_cons_self
    simp only [isSpace, Bool.or_eq_true, beq_iff_eq] at space
    rcases space with ((rfl | rfl) | rfl) | rfl <;> decide

/-- The character is no white space, closes nothing and marks no byte order. -/
def startsValue (c : Char) : Bool :=
  !isSpace c && c != ']' && c != '\x7d' && c != '\ufeff'

theorem startsValue_of_isDigit {c : Char} (digit : isDigit c = true) : startsValue c = true := by
  have plain : ([' ', '\t', '\n', '\r', ']', '\x7d', '\ufeff'].all
      fun mark => !isDigit mark) = true := by
    decide
  have other : ∀ mark ∈ [' ', '\t', '\n', '\r', ']', '\x7d', '\ufeff'], c ≠ mark := by
    rintro mark known rfl
    have nondigit := List.all_eq_true.mp plain c known
    rw [digit] at nondigit
    cases nondigit
  simp only [List.mem_cons, List.not_mem_nil, or_false, forall_eq_or_imp, forall_eq] at other
  simp [startsValue, isSpace, other]

/-- The character is a digit, or may start a number or one of its words otherwise. -/
def StartsNumber (c : Char) : Prop :=
  isDigit c = true ∨ c ∈ ['N', 'I', '-']

theorem StartsNumber.startsValue {c : Char} (starts : StartsNumber c) : startsValue c = true := by
  rcases starts with digit | known
  · exact startsValue_of_isDigit digit
  · exact List.all_eq_true.mp (rfl : ['N', 'I', '-'].all Json.startsValue = true) c known

/-- A number opens no string, array or object. -/
theorem StartsNumber.plain {c : Char} (starts : StartsNumber c) :
    c ≠ '"' ∧ c ≠ '[' ∧ c ≠ '\x7b' := by
  rcases starts with digit | known
  · refine ⟨?_, ?_, ?_⟩ <;> (rintro rfl; cases digit)
  · refine ⟨?_, ?_, ?_⟩ <;> (rintro rfl; revert known; decide)

theorem toString_starts (value : Int) :
    ∃ c tail, (toString value).toList = c :: tail ∧ StartsNumber c := by
  rw [toList_toString]
  split
  · exact ⟨_, _, rfl, .inr (by decide)⟩
  · obtain ⟨c, tail, digits⟩ := List.exists_cons_of_ne_nil
      (Nat.toDigits_ne_nil (n := value.natAbs) (b := 10))
    exact ⟨c, tail, digits, .inl (isDigit_of_mem_toDigits (digits ▸ List.mem_cons_self))⟩

theorem not_isSpace_of_startsValue {c : Char} (starts : startsValue c = true) :
    isSpace c = false := by
  simp only [startsValue, Bool.and_eq_true, Bool.not_eq_true'] at starts
  exact starts.1.1.1

theorem startsValue_write (layout : Layout) (level : Nat) (document : Json CodeText) :
    ∃ c tail, write layout level document = c :: tail ∧ startsValue c = true := by
  cases document with
  | null => exact ⟨_, _, rfl, by decide⟩
  | bool value => cases value <;> exact ⟨_, _, rfl, by decide⟩
  | int value =>
    obtain ⟨c, tail, text, starts⟩ := toString_starts value
    exact ⟨c, tail, text, starts.startsValue⟩
  | float value =>
    obtain ⟨c, tail, text, starts⟩ := floatText_starts value
    exact ⟨c, tail, text, StartsNumber.startsValue starts⟩
  | string value => exact ⟨_, _, rfl, by decide⟩
  | array items => cases items <;> exact ⟨_, _, rfl, by decide⟩
  | object members =>
    cases members with
    | nil => exact ⟨_, _, rfl, by decide⟩
    | cons member members => exact ⟨_, _, rfl, by decide⟩

/-! ## Rows -/

/-- A reader of rows: parts one after another, with a comma between two and a closer behind the
last. -/
structure ReadsRow {α : Type} (reads : Nat → Place → α → Place → Prop) (closer : Char)
    (readRow : Nat → Place → Except Fault (List α × Place)) : Prop where
  mark : closer = ']' ∨ closer = '\x7d'
  last {fuel pos : Nat} {place after : Place} {part : α} {rest : List Char} :
    reads fuel place part after → after.trimmed = ⟨closer :: rest, pos⟩ →
      readRow (fuel + 1) place = .ok ([part], ⟨rest, pos + 1⟩)
  more {fuel pos : Nat} {place after last : Place} {part : α} {parts : List α} {rest : List Char} :
    reads fuel place part after → after.trimmed = ⟨',' :: rest, pos⟩ →
      readRow fuel (Place.trimmed ⟨rest, pos + 1⟩) = .ok (parts, last) →
        readRow (fuel + 1) place = .ok (part :: parts, last)

/-- The text starts a value and is read as this part, with any text behind it that ends a number. -/
structure ReadsPart {α : Type} (reads : Nat → Place → α → Place → Prop) (text : List Char)
    (part : α) : Prop where
  starts : ∃ c tail, text = c :: tail ∧ startsValue c = true
  back : ∀ fuel pos rest, EndsNumber rest → 2 * (text ++ rest).length ≤ fuel →
    ∃ last, reads fuel ⟨text ++ rest, pos⟩ part ⟨rest, last⟩

/-- The text of a row at a level from its first part on: the other parts, each behind its gap, the
closer, and what follows. -/
def rowText {α : Type} (layout : Layout) (level : Nat) (closer : Char) (text : α → List Char)
    (rest : List Char) (part : α) (parts : List α) : List Char :=
  text part ++ (parts.flatMap (fun other => layout.between level ++ text other) ++
    (layout.closing level ++ closer :: rest))

section

variable {α β : Type} {reads : Nat → Place → β → Place → Prop} {closer : Char}
  {readRow : Nat → Place → Except Fault (List β × Place)} {layout : Layout} {level : Nat}
  {text : α → List Char} {result : α → β} {part next : α} {parts : List α} {rest : List Char}

theorem rowText_cons :
    rowText layout level closer text rest part (next :: parts) =
      text part ++ (layout.between level ++ rowText layout level closer text rest next parts) := by
  simp [rowText]

/-- The gap before a row is skipped. -/
theorem trimmed_rowText (read : ReadsPart reads (text part) (result part)) {gap : List Char}
    (blank : ∀ c ∈ gap, isSpace c = true) (pos : Nat) :
    Place.trimmed ⟨gap ++ rowText layout level closer text rest part parts, pos⟩ =
      ⟨rowText layout level closer text rest part parts, pos + gap.length⟩ := by
  obtain ⟨c, tail, same, starts⟩ := read.starts
  rw [rowText, same, List.cons_append]
  exact trimmed_append gap blank (not_isSpace_of_startsValue starts) _ pos

theorem head?_rowText_ne (mark : closer = ']' ∨ closer = '\x7d')
    (read : ReadsPart reads (text part) (result part)) :
    (rowText layout level closer text rest part parts).head? ≠ some closer := by
  obtain ⟨c, tail, same, starts⟩ := read.starts
  rw [rowText, same]
  rintro ⟨⟩
  rcases mark with rfl | rfl <;> cases starts

/-- A row is read if its parts are, by induction on the parts behind the first. -/
theorem ReadsRow.reads_rowText (row : ReadsRow reads closer readRow) (spaced : layout.Spaced)
    (level : Nat) (rest : List Char)
    (back : ∀ other ∈ part :: parts, ReadsPart reads (text other) (result other)) (fuel pos : Nat)
    (enough : 2 * (rowText layout level closer text rest part parts).length + 1 ≤ fuel) :
    Reads (readRow fuel ⟨rowText layout level closer text rest part parts, pos⟩)
      ((part :: parts).map result) rest := by
  induction parts generalizing part fuel pos with
  | nil =>
    obtain ⟨fuel, rfl⟩ := Nat.exists_eq_add_one.mpr (Nat.lt_of_lt_of_le (Nat.succ_pos _) enough)
    have ink : isSpace closer = false := by
      rcases row.mark with rfl | rfl <;> rfl
    have ends := endsNumber_append _ (spaced.closing level) (.inr row.mark) rest
    obtain ⟨last, read⟩ := (back part List.mem_cons_self).back fuel pos _ ends
      (Nat.le_of_succ_le_succ enough)
    exact ⟨_, row.last read (trimmed_append _ (spaced.closing level) ink rest last)⟩
  | cons next parts ih =>
    obtain ⟨fuel, rfl⟩ := Nat.exists_eq_add_one.mpr (Nat.lt_of_lt_of_le (Nat.succ_pos _) enough)
    obtain ⟨gap, comma, blank⟩ := spaced.between level
    rw [rowText_cons, comma, List.cons_append] at enough ⊢
    have ends := endsNumber_append [] nofun (.inl rfl)
      (gap ++ rowText layout level closer text rest next parts)
    obtain ⟨last, read⟩ := (back part List.mem_cons_self).back fuel pos _ ends
      (Nat.le_of_succ_le_succ enough)
    have further : ∀ other ∈ next :: parts, ReadsPart reads (text other) (result other) :=
      fun other inside => back other (List.mem_cons_of_mem _ inside)
    obtain ⟨final, later⟩ := ih further fuel (last + 1 + gap.length) (by
      simp only [List.length_append, List.length_cons] at enough
      omega)
    refine ⟨final, row.more read (trimmed_cons (by decide) _ last) ?_⟩
    rw [trimmed_rowText (further next List.mem_cons_self) blank]
    exact later

end

/-! ## Steps of the reader -/

section

variable {place last : Place}

theorem ok_bind {α β : Type} (value : α) (next : α → Except Fault β) :
    (Except.ok value >>= next) = next value :=
  rfl

/-- An item is read as a value. -/
def ReadsItem (room fuel : Nat) (place : Place) (item : Json CodeText) (after : Place) : Prop :=
  readValue fuel room place = .ok (item, after)

theorem readsRow_items (room : Nat) :
    ReadsRow (ReadsItem room) ']' fun fuel => readItems fuel room where
  mark := .inl rfl
  last := by
    intro fuel pos place after item rest read closes
    rw [readItems, read, ok_bind]
    dsimp only
    rw [closes]
    rfl
  more := by
    intro fuel pos place after last item items rest read goesOn later
    rw [readItems, read, ok_bind]
    dsimp only
    rw [goesOn]
    change (readItems fuel room (Place.trimmed ⟨rest, pos + 1⟩) >>= _) = _
    rw [later]
    rfl

/-- A member is read up to the end of its value: the key in quotes, a colon, and the value. -/
def ReadsMember (room fuel : Nat) (place : Place) (member : CodeText × Json CodeText)
    (after : Place) : Prop :=
  ∃ text pos, place = ⟨'"' :: text, pos⟩ ∧ ∃ colon rest later,
    readString ⟨text, pos + 1⟩ = .ok (member.1, colon) ∧ colon.trimmed = ⟨':' :: rest, later⟩ ∧
      readValue fuel room (Place.trimmed ⟨rest, later + 1⟩) = .ok (member.2, after)

theorem readsRow_members (room : Nat) :
    ReadsRow (ReadsMember room) '\x7d' fun fuel => readMembers fuel room where
  mark := .inr rfl
  last := by
    intro fuel pos place after member rest read closes
    obtain ⟨text, _, rfl, colon, more, later, string, marked, value⟩ := read
    rw [readMembers]
    change (readString ⟨text, _⟩ >>= _) = _
    rw [string, ok_bind]
    dsimp only
    rw [marked]
    change (readValue fuel room (Place.trimmed ⟨more, later + 1⟩) >>= _) = _
    rw [value, ok_bind]
    dsimp only
    rw [closes]
    rfl
  more := by
    intro fuel pos place after last member members rest read goesOn later
    obtain ⟨text, _, rfl, colon, more, next, string, marked, value⟩ := read
    rw [readMembers]
    change (readString ⟨text, _⟩ >>= _) = _
    rw [string, ok_bind]
    dsimp only
    rw [marked]
    change (readValue fuel room (Place.trimmed ⟨more, next + 1⟩) >>= _) = _
    rw [value, ok_bind]
    dsimp only
    rw [goesOn]
    change (readMembers fuel room (Place.trimmed ⟨rest, pos + 1⟩) >>= _) = _
    rw [later]
    rfl

theorem readValue_items {room : Nat} {text : List Char} {items : List (Json CodeText)}
    (inside : Place.trimmed ⟨text, pos + 1⟩ = place) (opens : place.rest.head? ≠ some ']')
    (read : readItems fuel room place = .ok (items, last)) :
    readValue (fuel + 1) (room + 1) ⟨'[' :: text, pos⟩ = .ok (.array items, last) := by
  have first : (Place.drop ⟨'[' :: text, pos⟩ 1).trimmed = place := inside
  simp only [readValue, first, read]
  split
  · next closes =>
    rw [closes] at opens
    exact absurd rfl opens
  · rfl

theorem readValue_members {room : Nat} {text : List Char} {members : Members CodeText}
    (inside : Place.trimmed ⟨text, pos + 1⟩ = place) (opens : place.rest.head? ≠ some '\x7d')
    (read : readMembers fuel room place = .ok (members, last)) :
    readValue (fuel + 1) (room + 1) ⟨'\x7b' :: text, pos⟩ =
      .ok (.object (distinct members), last) := by
  have first : (Place.drop ⟨'\x7b' :: text, pos⟩ 1).trimmed = place := inside
  simp only [readValue, first, read]
  split
  · next closes =>
    rw [closes] at opens
    exact absurd rfl opens
  · rfl

end

/-! ## Parts -/

/-- The document is read again at every level, wherever there is room for it, with any text behind
it that ends a number. -/
def ReadsBack (layout : Layout) (document : Json CodeText) : Prop :=
  ∀ level room fuel pos rest, document.depth ≤ room → EndsNumber rest →
    2 * (write layout level document ++ rest).length ≤ fuel →
      Reads (readValue fuel room ⟨write layout level document ++ rest, pos⟩) document.reread rest

variable {layout : Layout} {room : Nat}

theorem ReadsBack.readsItem {document : Json CodeText} (back : ReadsBack layout document)
    (fits : document.depth ≤ room) (level : Nat) :
    ReadsPart (ReadsItem room) (write layout (level + 1) document) document.reread where
  starts := startsValue_write layout (level + 1) document
  back fuel pos rest ends enough := back (level + 1) room fuel pos rest fits ends enough

/-- The text of a member at a level. -/
def memberText (layout : Layout) (level : Nat) (member : CodeText × Json CodeText) : List Char :=
  stringText member.1 ++ ([':', ' '] ++ write layout (level + 1) member.2)

theorem ReadsBack.readsMember {member : CodeText × Json CodeText}
    (back : ReadsBack layout member.2) (fits : member.2.depth ≤ room) (level : Nat) :
    ReadsPart (ReadsMember room) (memberText layout level member) (rereadMember member) := by
  refine ⟨⟨_, _, rfl, by decide⟩, fun fuel pos rest ends enough => ?_⟩
  obtain ⟨c, tail, text, starts⟩ := startsValue_write layout (level + 1) member.2
  let value := write layout (level + 1) member.2 ++ rest
  have whole : memberText layout level member ++ rest =
      '"' :: (member.1.points.flatMap escapePoint ++ '"' :: (':' :: (' ' :: value))) := by
    simp [memberText, stringText, value, Coded.points]
  rw [whole] at enough ⊢
  obtain ⟨colon, string⟩ := reads_string member.1 (':' :: (' ' :: value)) (pos + 1)
  have trimmed : Place.trimmed ⟨' ' :: value, colon + 1⟩ = ⟨value, colon + 1 + 1⟩ := by
    simp only [value, text, List.cons_append]
    exact trimmed_append [' '] (List.forall_mem_singleton.mpr rfl)
      (not_isSpace_of_startsValue starts) _ _
  obtain ⟨last, read⟩ := back (level + 1) room fuel (colon + 1 + 1) rest fits ends (by
    simp only [List.length_append, List.length_cons, value] at enough ⊢
    omega)
  refine ⟨last, _, pos, rfl, _, ' ' :: value, colon, string, trimmed_cons (by decide) _ colon, ?_⟩
  rw [trimmed]
  exact read

theorem writeItems_eq (level : Nat) (items : List (Json CodeText)) :
    writeItems layout level items =
      items.flatMap fun item => layout.between level ++ write layout (level + 1) item := by
  induction items with
  | nil => rfl
  | cons item items ih => rw [writeItems, ih, List.flatMap_cons]

theorem writeMembers_eq (level : Nat) (members : Members CodeText) :
    writeMembers layout level members =
      members.flatMap fun member => layout.between level ++ memberText layout level member := by
  induction members with
  | nil => rfl
  | cons member members ih => simp [writeMembers, ih, memberText]

/-! ## Documents -/

theorem readsBack_scalar {document : Json CodeText} {c : Char} {tail : List Char}
    (text : ∀ level, write layout level document = c :: tail)
    (plain : c ≠ '"' ∧ c ≠ '[' ∧ c ≠ '\x7b')
    (read : ∀ rest pos, EndsNumber rest →
      Reads (readScalar ⟨c :: tail ++ rest, pos⟩) document.reread rest) :
    ReadsBack layout document := by
  intro level room fuel pos rest _ ends enough
  rw [text] at enough ⊢
  obtain ⟨fuel, rfl⟩ := Nat.exists_eq_add_one.mpr
    (Nat.lt_of_lt_of_le (by simp : 0 < 2 * (c :: tail ++ rest).length) enough)
  rw [List.cons_append, readValue_scalar plain]
  exact read rest pos ends

theorem readsBack_int {value : Int} (short : (Json.int value : Json CodeText).IsShort) :
    ReadsBack layout (.int value) := by
  obtain ⟨c, tail, text, starts⟩ := toString_starts value
  refine readsBack_scalar (fun _ => text) starts.plain fun rest pos ends => ?_
  rw [← text, reread]
  exact reads_int (isOverlong_eq_false_iff.mp (short value rfl)) ends pos

theorem readsBack_float (value : Float) : ReadsBack layout (.float value) := by
  obtain ⟨c, tail, text, starts⟩ := floatText_starts value
  refine readsBack_scalar (fun _ => text) (StartsNumber.plain starts) fun rest pos ends => ?_
  rw [← text, reread]
  exact reads_float value ends pos

theorem readsBack_string (value : CodeText) : ReadsBack layout (.string value) := by
  intro level room fuel pos rest _ _ enough
  obtain ⟨fuel, rfl⟩ := Nat.exists_eq_add_one.mpr
    (Nat.lt_of_lt_of_le (by simp [write, stringText]) enough)
  have whole : write layout level (.string value) ++ rest =
      '"' :: (value.points.flatMap escapePoint ++ '"' :: rest) := by
    simp [write, stringText, Coded.points]
  obtain ⟨last, read⟩ := reads_string value rest (pos + 1)
  have first : readString (Place.drop ⟨'"' :: (value.points.flatMap escapePoint ++ '"' :: rest),
      pos⟩ 1) = .ok (value.joined, ⟨rest, last⟩) := read
  rw [whole, reread]
  refine ⟨last, ?_⟩
  simp only [readValue, first]
  rfl

theorem readsBack_array (spaced : layout.Spaced) {items : List (Json CodeText)}
    (back : ∀ part ∈ items, ReadsBack layout part) : ReadsBack layout (.array items) := by
  intro level room fuel pos rest fits _ enough
  obtain ⟨room, rfl⟩ := Nat.exists_eq_add_one.mpr (Nat.lt_of_lt_of_le depth_array_pos fits)
  have fits := depth_array_le_iff.mp fits
  obtain ⟨fuel, rfl⟩ := Nat.exists_eq_add_one.mpr
    (Nat.lt_of_lt_of_le (by cases items <;> simp [write]) enough)
  cases items with
  | nil => exact ⟨pos + 2, rfl⟩
  | cons item items =>
    let row := rowText layout level ']' (write layout (level + 1)) rest item items
    have whole : write layout level (.array (item :: items)) ++ rest =
        '[' :: (layout.opening level ++ row) := by
      simp [write, writeItems_eq, row, rowText]
    rw [reread, rereadItems_eq]
    rw [whole] at enough ⊢
    have parts (part : Json CodeText) (known : part ∈ item :: items) :=
      (back part known).readsItem (fits part known) level
    have first := parts item List.mem_cons_self
    obtain ⟨last, read⟩ := (readsRow_items room).reads_rowText spaced level rest parts fuel
      (pos + 1 + (layout.opening level).length) (by
        simp only [List.length_append, List.length_cons, row] at enough
        omega)
    exact ⟨last, readValue_items (trimmed_rowText first (spaced.opening level) (pos + 1))
      (head?_rowText_ne (.inl rfl) first) read⟩

theorem readsBack_object (spaced : layout.Spaced) {members : Members CodeText}
    (back : ∀ part ∈ members, ReadsBack layout part.2) : ReadsBack layout (.object members) := by
  intro level room fuel pos rest fits _ enough
  obtain ⟨room, rfl⟩ := Nat.exists_eq_add_one.mpr (Nat.lt_of_lt_of_le depth_object_pos fits)
  have fits := depth_object_le_iff.mp fits
  obtain ⟨fuel, rfl⟩ := Nat.exists_eq_add_one.mpr
    (Nat.lt_of_lt_of_le (by cases members <;> simp [write]) enough)
  cases members with
  | nil => exact ⟨pos + 2, rfl⟩
  | cons member members =>
    let row := rowText layout level '\x7d' (memberText layout level) rest member members
    have whole : write layout level (.object (member :: members)) ++ rest =
        '\x7b' :: (layout.opening level ++ row) := by
      simp [write, writeMembers_eq, memberText, row, rowText]
    rw [whole] at enough ⊢
    have parts (part : CodeText × Json CodeText) (known : part ∈ member :: members) :=
      (back part known).readsMember (fits part known) level
    have first := parts member List.mem_cons_self
    obtain ⟨last, read⟩ := (readsRow_members room).reads_rowText spaced level rest parts fuel
      (pos + 1 + (layout.opening level).length) (by
        simp only [List.length_append, List.length_cons, row] at enough
        omega)
    rw [reread, rereadMembers_eq]
    exact ⟨last, readValue_members (trimmed_rowText first (spaced.opening level) (pos + 1))
      (head?_rowText_ne (.inr rfl) first) read⟩

/-- Documents without integers of too many digits are read again. -/
theorem readsBack_of_short (spaced : layout.Spaced) {document : Json CodeText}
    (short : document.Everywhere IsShort) : ReadsBack layout document := by
  induction short with
  | @intro document here inside ih =>
    cases document with
    | null =>
      exact readsBack_scalar (fun _ => rfl) (by decide) fun rest pos _ => ⟨pos + 4, rfl⟩
    | bool value =>
      cases value with
      | true => exact readsBack_scalar (fun _ => rfl) (by decide) fun rest pos _ => ⟨pos + 4, rfl⟩
      | false => exact readsBack_scalar (fun _ => rfl) (by decide) fun rest pos _ => ⟨pos + 5, rfl⟩
    | int value => exact readsBack_int here
    | float value => exact readsBack_float value
    | string value => exact readsBack_string value
    | array items => exact readsBack_array spaced ih
    | object members =>
      exact readsBack_object spaced fun member known => ih member.2 (List.mem_map_of_mem known)

/-- **What was written is read.** A document within the limits is read back from its text in any
layout whose gaps are white space, with its fractions and its pairs of halves as their texts are
read. -/
theorem read_write_reread (spaced : layout.Spaced) {document : Json CodeText}
    (unlimited : document.limit? room = none) :
    Json.read room (write layout 0 document) = .ok document.reread := by
  obtain ⟨fits, short⟩ := limit?_eq_none_iff.mp unlimited
  obtain ⟨c, tail, text, starts⟩ := startsValue_write layout 0 document
  have unmarked : (write layout 0 document).head? ≠ some '\ufeff' := by
    rw [text]
    rintro ⟨⟩
    cases starts
  have inside : Place.trimmed ⟨write layout 0 document, 0⟩ = ⟨write layout 0 document, 0⟩ := by
    rw [text]
    exact trimmed_cons (not_isSpace_of_startsValue starts) tail 0
  obtain ⟨last, read⟩ := readsBack_of_short spaced short 0 room
    (2 * (write layout 0 document).length + 2) 0 [] fits nofun (by rw [List.append_nil]; omega)
  rw [List.append_nil] at read
  rw [Json.read, if_neg unmarked, inside, read]
  rfl

/-- **Which documents there are in JSON.** Among those without fractions and without integers of too
many digits, the documents that texts are read as are those that may stand in one. -/
theorem exists_read_iff {document : Json CodeText} (floatFree : document.FloatFree)
    (short : document.Everywhere IsShort) :
    (∃ room text, Json.read room text = .ok document) ↔ document.Spelled := by
  constructor
  · rintro ⟨room, text, read⟩
    exact spelled_of_read read
  · intro spelled
    have written := read_write_reread Layout.spaced_manyLines
      (limit?_eq_none_iff.mpr ⟨Nat.le_refl document.depth, short⟩)
    rw [(spelled.plain floatFree).reread_eq] at written
    exact ⟨_, _, written⟩

/-! ## Line ends -/

theorem return_not_mem_lineBreak (level : Nat) : '\r' ∉ lineBreak level := by
  simp [lineBreak]

theorem return_not_mem_between (level : Nat) : '\r' ∉ Layout.manyLines.between level := by
  simp [Layout.manyLines, return_not_mem_lineBreak]

theorem return_not_mem_further {α : Type} {text : α → List Char} {parts : List α} (level : Nat)
    (plain : ∀ part ∈ parts, '\r' ∉ text part) :
    '\r' ∉ parts.flatMap fun part => Layout.manyLines.between level ++ text part := by
  intro inside
  obtain ⟨part, known, inside⟩ := List.mem_flatMap.mp inside
  rcases List.mem_append.mp inside with gap | inside
  · exact return_not_mem_between level gap
  · exact plain part known inside

/-- A document is written without a carriage return. -/
theorem return_not_mem_write (document : Json CodeText) (level : Nat) :
    '\r' ∉ write .manyLines level document := by
  have opening : '\r' ∉ Layout.manyLines.opening level := return_not_mem_lineBreak _
  have closing : '\r' ∉ Layout.manyLines.closing level := return_not_mem_lineBreak _
  induction document using partInduction generalizing level with
  | step document ih =>
    cases document with
    | null => simp [write]
    | bool value => cases value <;> simp [write]
    | int value =>
      have digits : '\r' ∉ Nat.toDigits 10 value.natAbs := fun member =>
        absurd (isDigit_of_mem_toDigits member) (by decide)
      rw [write, toList_toString]
      split
      · simp [digits]
      · exact digits
    | float value => exact return_not_mem_floatText value
    | string value => exact return_not_mem_stringText value
    | array items =>
      have plain (part : Json CodeText) (known : part ∈ items) :
          '\r' ∉ write .manyLines (level + 1) part :=
        ih part known (level + 1) (return_not_mem_lineBreak _) (return_not_mem_lineBreak _)
      cases items with
      | nil => simp [write]
      | cons item items =>
        have first := plain item List.mem_cons_self
        have later := return_not_mem_further level fun part known =>
          plain part (List.mem_cons_of_mem _ known)
        rw [← writeItems_eq] at later
        simp [write, opening, closing, first, later]
    | object members =>
      have plain (member : CodeText × Json CodeText) (known : member ∈ members) :
          '\r' ∉ memberText .manyLines level member := by
        have value := ih member.2 (List.mem_map_of_mem known) (level + 1)
          (return_not_mem_lineBreak _) (return_not_mem_lineBreak _)
        simp [memberText, return_not_mem_stringText, value]
      cases members with
      | nil => simp [write]
      | cons member members =>
        have first := plain member List.mem_cons_self
        have later := return_not_mem_further level fun part known =>
          plain part (List.mem_cons_of_mem _ known)
        rw [← writeMembers_eq] at later
        simp only [memberText, List.mem_append, not_or] at first
        simp [write, opening, closing, first, later]

end ShellVet.Json
