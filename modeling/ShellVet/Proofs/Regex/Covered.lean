import ShellVet.Proofs.Regex.Ways
import ShellVet.Signature.Phrase

/-!
# Texts that a pattern covers

A pattern covers a text if it leads from the front of the text to its back, wherever the text
stands. What the pieces of a pattern cover, one after the other, the pattern covers as a whole, and
a pattern that explores and covers a text occurs in every text that holds it (`occursIn_of_covers`).
The other way round, what a set or a repeated set takes are characters that it holds.
-/

namespace ShellVet.Regex

/-- The pattern leads over the text, whatever stands before it and behind it. -/
def Covers (regex : Regex) (text : List Char) : Prop :=
  ∀ before after held,
    regex.Leads (.between before (text ++ after), held) (.between (before ++ text) after, held)

variable {regex first second body : Regex} {part front back : List Char}

theorem covers_one {set : CharSet} {c : Char} (has : set.has c = true) : (one set).Covers [c] := by
  intro before after held
  refine ⟨c, ?_, has, rfl⟩
  simp [Spot.between, Spot.next?]

theorem Covers.seq (covers : first.Covers front) (further : second.Covers back) :
    (seq first second).Covers (front ++ back) := by
  intro before after held
  refine ⟨(.between (before ++ front) (back ++ after), held), ?_, ?_⟩
  · rw [List.append_assoc]
    exact covers before (back ++ after) held
  · rw [← List.append_assoc]
    exact further (before ++ front) after held

theorem Covers.alt_left (covers : first.Covers part) : (alt first second).Covers part :=
  fun before after held => .inl (covers before after held)

theorem Covers.alt_right (covers : second.Covers part) : (alt first second).Covers part :=
  fun before after held => .inr (covers before after held)

/-! ## Repetitions -/

theorem turns_of_covers {pieces : List (List Char)} (covers : ∀ piece ∈ pieces, body.Covers piece)
    (before after : List Char) (held : Captures) :
    Turns body.Leads pieces.length (.between before (pieces.flatten ++ after), held)
      (.between (before ++ pieces.flatten) after, held) := by
  induction pieces generalizing before with
  | nil =>
    rw [List.flatten_nil, List.append_nil]
    rfl
  | cons piece pieces ih =>
    rw [List.flatten_cons, List.append_assoc, ← List.append_assoc before]
    exact ⟨_, covers piece List.mem_cons_self before (pieces.flatten ++ after) held,
      ih (fun piece among => covers piece (List.mem_cons_of_mem _ among)) (before ++ piece)⟩

/-- A repetition covers what its turns cover one after the other. -/
theorem Covers.loop {pieces : List (List Char)} {lazy : Bool} {least : Nat} {most : Option Nat}
    (covers : ∀ piece ∈ pieces, body.Covers piece) (enough : least ≤ pieces.length)
    (bounded : ∀ bound ∈ most, pieces.length ≤ max least bound) :
    (loop lazy least most body).Covers pieces.flatten := by
  intro before after held
  refine ⟨pieces.length, ?_, ?_, turns_of_covers covers before after held⟩
  · rwa [Nat.zero_add]
  · rwa [Nat.zero_add]

/-- A set that holds all characters of a text can be repeated over it. -/
theorem covers_loop_one {set : CharSet} {lazy : Bool} {least : Nat}
    (has : ∀ c ∈ part, set.has c = true) (enough : least ≤ part.length) :
    (Regex.loop lazy least none (one set)).Covers part := by
  have each : ∀ piece ∈ part.map fun c => [c], (one set).Covers piece := by
    intro piece among
    obtain ⟨c, member, rfl⟩ := List.mem_map.mp among
    exact covers_one (has c member)
  have whole : (part.map fun c => [c]).flatten = part := by
    rw [← List.flatMap_def, List.flatMap_singleton']
  have covers : (Regex.loop lazy least none (one set)).Covers (part.map fun c => [c]).flatten :=
    Covers.loop each (by rwa [List.length_map]) nofun
  rwa [whole] at covers

theorem covers_maybe_nil (body : Regex) : (maybe body).Covers [] := by
  have skipped : (Regex.maybe body).Covers ([] : List (List Char)).flatten :=
    Covers.loop nofun (Nat.zero_le _) fun _ _ => Nat.zero_le _
  exact skipped

theorem Covers.maybe (covers : body.Covers part) : (Regex.maybe body).Covers part := by
  have once : ∀ piece ∈ [part], body.Covers piece := fun piece among =>
    List.mem_singleton.mp among ▸ covers
  have turned : (Regex.maybe body).Covers [part].flatten :=
    Covers.loop once (Nat.zero_le 1) (by simp)
  rwa [List.flatten_singleton] at turned

/-! ## The end of a text -/

/-- The pattern leads over the text where nothing follows it, whatever stands before it. -/
def CoversLast (regex : Regex) (text : List Char) : Prop :=
  ∀ before held, regex.Leads (.between before text, held) (.between (before ++ text) [], held)

theorem Covers.seq_last (covers : first.Covers front) (further : second.CoversLast back) :
    (Regex.seq first second).CoversLast (front ++ back) := by
  intro before held
  refine ⟨(.between (before ++ front) back, held), covers before back held, ?_⟩
  rw [← List.append_assoc]
  exact further (before ++ front) held

/-! ## Spelled texts -/

theorem covers_spelled {letter : Char → Regex} (covers : ∀ c, (letter c).Covers [c])
    (text : List Char) : (row (text.map letter)).Covers text := by
  induction text with
  | nil => exact fun before after held => by rw [List.append_nil]; rfl
  | cons c text ih =>
    cases text with
    | nil => exact covers c
    | cons d text => exact (covers c).seq ih

theorem has_char_iff {c d : Char} : ({ items := [.char c] } : CharSet).has d = true ↔ d = c := by
  simp [CharSet.has, CharItem.has, Folding.same]

theorem covers_spell (text : String) : (Phrase.spell text).Covers text.toList :=
  covers_spelled (fun _ => covers_one (has_char_iff.mpr rfl)) text.toList

theorem caseless_row (pieces : List Regex) :
    (row pieces).caseless = row (pieces.map caseless) := by
  fun_induction row pieces with
  | case1 => rfl
  | case2 => rfl
  | case3 piece pieces more ih =>
    cases pieces with
    | nil => exact absurd rfl more
    | cons next pieces => rw [caseless, ih]; rfl

/-- A text is spelled in any case, its own included. -/
theorem covers_spell_caseless (text : String) :
    (Phrase.spell text).caseless.Covers text.toList := by
  rw [Phrase.spell, caseless_row, List.map_map]
  exact covers_spelled (fun c => covers_one (by simp [CharSet.has, CharItem.has, Folding.same]))
    text.toList

/-! ## What sets take -/

theorem takes_of_leads_one {set : CharSet} {start stop : Stage}
    (leads : (one set).Leads start stop) :
    ∃ c, set.has c = true ∧ start.1.Takes [c] stop.1 := by
  obtain ⟨c, next, has, -⟩ := leads
  exact ⟨c, has, Spot.takes_of_next? next⟩

/-- A character that stands for itself takes itself alone. -/
theorem takes_of_leads_char {c : Char} {start stop : Stage}
    (leads : (Phrase.among [.char c]).Leads start stop) : start.1.Takes [c] stop.1 := by
  obtain ⟨d, has, takes⟩ := takes_of_leads_one leads
  rwa [has_char_iff.mp has] at takes

/-- A set that is repeated takes characters that it holds. -/
theorem takes_of_turns_one {set : CharSet} {count : Nat} {start stop : Stage}
    (turns : Turns (one set).Leads count start stop) :
    ∃ taken, (∀ c ∈ taken, set.has c = true) ∧ start.1.Takes taken stop.1 := by
  induction count generalizing start with
  | zero =>
    cases turns
    exact ⟨[], nofun, .refl _⟩
  | succ count ih =>
    obtain ⟨middle, first, rest⟩ := turns
    obtain ⟨c, has, takes⟩ := takes_of_leads_one first
    obtain ⟨taken, among, takes'⟩ := ih rest
    refine ⟨c :: taken, ?_, takes.trans takes'⟩
    rintro d (_ | ⟨_, member⟩)
    · exact has
    · exact among d member

/-- A set that is repeated at least once takes at least one character. -/
theorem takes_of_leads_several {set : CharSet} {start stop : Stage}
    (leads : (several (one set)).Leads start stop) :
    ∃ taken, taken ≠ [] ∧ (∀ c ∈ taken, set.has c = true) ∧ start.1.Takes taken stop.1 := by
  obtain ⟨count, enough, -, turns⟩ := leads
  cases count with
  | zero => exact absurd enough (by decide)
  | succ count =>
    obtain ⟨middle, first, rest⟩ := turns
    obtain ⟨c, has, takes⟩ := takes_of_leads_one first
    obtain ⟨taken, among, takes'⟩ := takes_of_turns_one rest
    exact ⟨c :: taken, List.cons_ne_nil _ _, List.forall_mem_cons.mpr ⟨has, among⟩,
      takes.trans takes'⟩

/-! ## Texts that hold what a pattern covers -/

theorem occursIn_of_covers (explores : regex.explores = true) (covers : regex.Covers part)
    {text : List Char} (stands : part <:+: text) : regex.occursIn text = true := by
  obtain ⟨front, back, rfl⟩ := stands
  refine (occursIn_iff_leads explores).mpr ⟨front, part ++ back, _, ?_, covers front back []⟩
  rw [List.append_assoc]

end ShellVet.Regex
