import ShellVet.Obfuscation
import ShellVet.Proofs.Regex.Covered
import ShellVet.Proofs.Regex.Replaced

/-!
# Text between quotes

A command of plain parts and quoted regions is blanked out region by region: each region is replaced
by one blank and nothing else changes (`withoutQuoted_chunks`). So what stands inside the regions
has no influence on the techniques that are looked for outside of quotes (`quoted_text_ignored`).
-/

namespace ShellVet.Obfuscation

open Regex Phrase

/-! ## Commands in chunks -/

/-- What a region between double quotes is made of. -/
inductive Symbol where
  | plain (c : Char) (inside : c ≠ '"' ∧ c ≠ '\\')
  /-- A character behind a backslash. -/
  | escaped (c : Char) (inside : c ≠ '\n')

/-- The characters of a symbol. -/
def Symbol.text : Symbol → List Char
  | .plain c _ => [c]
  | .escaped c _ => ['\\', c]

/-- A part of a command. -/
inductive Chunk where
  | bare (text : List Char) (unquoted : '\'' ∉ text ∧ '"' ∉ text)
  | single (inner : List Char) (closed : '\'' ∉ inner)
  | double (inner : List Symbol)

namespace Chunk

/-- The characters of a chunk. -/
def text : Chunk → List Char
  | .bare text _ => text
  | .single inner _ => '\'' :: (inner ++ ['\''])
  | .double inner => '"' :: (inner.flatMap Symbol.text ++ ['"'])

/-- The chunk with a quoted region blanked out. -/
def shown : Chunk → List Char
  | .bare text _ => text
  | .single .. | .double _ => [' ']

/-- The text of a chunk that is not quoted. -/
def bare? : Chunk → Option (List Char)
  | .bare text _ => some text
  | .single .. | .double _ => none

theorem shown_eq (chunk : Chunk) : chunk.shown = chunk.bare?.getD [' '] := by
  cases chunk <;> rfl

/-- The command that chunks make up. -/
def command (chunks : List Chunk) : String :=
  String.ofList (chunks.flatMap text)

end Chunk

/-! ## What a region takes -/

/-- One step of the pattern between double quotes. -/
def symbol : Regex := choice [noneOf "\"\\", row [spell "\\", dot]]

theorem explores_quotedRegion : quotedRegion.explores = true := by
  decide

/-- A region starts with a quote. -/
theorem quote_of_leads {before after : List Char} {c : Char} {stop : Stage}
    (leads : quotedRegion.Leads (.between before (c :: after), []) stop) : c = '\'' ∨ c = '"' := by
  rcases leads with ⟨middle, opens, -⟩ | ⟨middle, opens, -⟩
  · exact .inl (List.cons.inj (takes_of_leads_char opens).1).1
  · exact .inr (List.cons.inj (takes_of_leads_char opens).1).1

/-- What stands before the first of two equal characters is the same in both readings of a text. -/
theorem eq_of_append_cons {c : Char} {front front' back back' : List Char} (apart : c ∉ front)
    (apart' : c ∉ front') (same : front ++ c :: back = front' ++ c :: back') : front = front' := by
  have before {front : List Char} (back : List Char) (apart : c ∉ front) :
      (front ++ c :: back).takeWhile (· ≠ c) = front := by
    rw [List.takeWhile_append_of_pos, List.takeWhile_cons_of_neg, List.append_nil]
    · simp
    · intro d among
      exact decide_eq_true fun same => apart (same ▸ among)
  rw [← before back apart, same, before back' apart']

theorem eq_of_enclosed {quote : Char} {inner inner' back back' : List Char}
    (same : quote :: (inner ++ [quote]) ++ back = quote :: (inner' ++ [quote]) ++ back') :
    inner ++ quote :: back = inner' ++ quote :: back' := by
  simpa using same

theorem has_noneOf_iff {c : Char} {text : String} :
    ({ items := chars text, negated := true } : CharSet).has c = true ↔ c ∉ text.toList := by
  have outside : (∀ d ∈ text.toList, ¬c = d) ↔ c ∉ text.toList :=
    ⟨fun apart among => apart c among rfl, fun apart d among same => apart (same ▸ among)⟩
  simpa [CharSet.has, chars, CharItem.has, Folding.same] using outside

/-- Symbols are read off a text up to the quote behind them in one way only. -/
theorem symbols_unique {inner inner' : List Symbol} {back back' : List Char}
    (same : inner.flatMap Symbol.text ++ '"' :: back = inner'.flatMap Symbol.text ++ '"' :: back') :
    inner.flatMap Symbol.text = inner'.flatMap Symbol.text := by
  have starts (first : Symbol) {rest rest' : List Char} :
      '"' :: rest ≠ first.text ++ rest' := by
    intro same
    cases first with
    | plain c inside => exact inside.1 (List.cons.inj same).1.symm
    | escaped c inside => exact absurd (List.cons.inj same).1 (by decide)
  induction inner generalizing inner' with
  | nil =>
    cases inner' with
    | nil => rfl
    | cons first' inner' =>
      rw [List.flatMap_cons, List.append_assoc] at same
      exact absurd same (starts first')
  | cons first inner ih =>
    rw [List.flatMap_cons, List.append_assoc] at same
    cases inner' with
    | nil => exact absurd same.symm (starts first)
    | cons first' inner' =>
      rw [List.flatMap_cons, List.append_assoc] at same
      rw [List.flatMap_cons, List.flatMap_cons]
      cases first with
      | plain c inside =>
        cases first' with
        | plain d inside' =>
          obtain ⟨rfl, rest⟩ := List.cons.inj same
          rw [ih rest]
        | escaped d inside' => exact absurd (List.cons.inj same).1 inside.2
      | escaped c inside =>
        cases first' with
        | plain d inside' => exact absurd (List.cons.inj same).1.symm inside'.2
        | escaped d inside' =>
          obtain ⟨rfl, rest⟩ := List.cons.inj (List.cons.inj same).2
          rw [ih rest]

theorem symbol_of_leads {start stop : Stage} (leads : symbol.Leads start stop) :
    ∃ first : Symbol, start.1.Takes first.text stop.1 := by
  rcases leads with leads | ⟨middle, slash, leads⟩
  · obtain ⟨c, has, takes⟩ := takes_of_leads_one leads
    have apart := has_noneOf_iff.mp has
    exact ⟨.plain c (by simpa using apart), takes⟩
  · obtain ⟨c, has, takes⟩ := takes_of_leads_one leads
    have apart : c ∉ "\n".toList := has_noneOf_iff.mp has
    exact ⟨.escaped c (by simpa using apart), (takes_of_leads_char slash).trans takes⟩

theorem symbols_of_turns {count : Nat} {start stop : Stage}
    (turns : Turns symbol.Leads count start stop) :
    ∃ inner : List Symbol, start.1.Takes (inner.flatMap Symbol.text) stop.1 := by
  induction count generalizing start with
  | zero =>
    cases turns
    exact ⟨[], .refl _⟩
  | succ count ih =>
    obtain ⟨middle, leads, turns⟩ := turns
    obtain ⟨first, takes⟩ := symbol_of_leads leads
    obtain ⟨inner, further⟩ := ih turns
    exact ⟨first :: inner, takes.trans further⟩

/-- The pattern of regions takes a whole region between single quotes or between double ones. -/
theorem region_of_leads {start stop : Stage} (leads : quotedRegion.Leads start stop) :
    (∃ inner, '\'' ∉ inner ∧ start.1.Takes ('\'' :: (inner ++ ['\''])) stop.1) ∨
      ∃ inner : List Symbol,
        start.1.Takes ('"' :: (inner.flatMap Symbol.text ++ ['"'])) stop.1 := by
  rcases leads with ⟨middle, opens, inside, ⟨count, -, -, turns⟩, closes⟩ |
      ⟨middle, opens, inside, ⟨count, -, -, turns⟩, closes⟩
  · obtain ⟨inner, among, takes⟩ := takes_of_turns_one turns
    refine .inl ⟨inner, fun quoted => ?_, (takes_of_leads_char opens).trans
      (takes.trans (takes_of_leads_char closes))⟩
    exact has_noneOf_iff.mp (among _ quoted) (List.mem_singleton_self _)
  · obtain ⟨inner, takes⟩ := symbols_of_turns turns
    exact .inr ⟨inner, (takes_of_leads_char opens).trans (takes.trans (takes_of_leads_char closes))⟩

/-! ## Regions are replaced -/

theorem covers_symbol (first : Symbol) : symbol.Covers first.text := by
  cases first with
  | plain c inside =>
    refine Covers.alt_left (covers_one (has_noneOf_iff.mpr ?_))
    simpa using inside
  | escaped c inside =>
    have apart : c ∉ "\n".toList := by simpa using inside
    exact Covers.alt_right ((covers_spell "\\").seq (covers_one (has_noneOf_iff.mpr apart)))

theorem passes_bare {text : List Char} (unquoted : '\'' ∉ text ∧ '"' ∉ text) :
    quotedRegion.Passes text := by
  intro c among before after
  refine matchAt_eq_none fun stop leads => ?_
  rcases quote_of_leads leads with rfl | rfl
  · exact unquoted.1 among
  · exact unquoted.2 among

theorem consumes_single {inner : List Char} (closed : '\'' ∉ inner) :
    quotedRegion.Consumes ('\'' :: (inner ++ ['\''])) := by
  have among : ∀ c ∈ inner, ({ items := chars "'", negated := true } : CharSet).has c = true := by
    intro c among
    refine has_noneOf_iff.mpr fun quoted => ?_
    rw [List.mem_singleton.mp quoted] at among
    exact closed among
  have covers : quotedRegion.Covers ('\'' :: (inner ++ ['\''])) :=
    Covers.alt_left ((covers_spell "'").seq
      ((covers_loop_one among (Nat.zero_le _)).seq (covers_spell "'")))
  refine ⟨nofun, fun before after => matchAt_eq_some explores_quotedRegion
    ⟨_, covers before after []⟩ fun stop leads => ?_⟩
  rcases region_of_leads leads with ⟨inner', apart, takes⟩ | ⟨inner', takes⟩
  · rw [eq_of_append_cons closed apart (eq_of_enclosed takes.1)]
    exact takes.2.2
  · exact absurd (List.cons.inj takes.1).1 (by decide)

theorem consumes_double (inner : List Symbol) :
    quotedRegion.Consumes ('"' :: (inner.flatMap Symbol.text ++ ['"'])) := by
  have inside : (many symbol).Covers (inner.map Symbol.text).flatten := by
    refine Covers.loop (fun piece among => ?_) (Nat.zero_le _) nofun
    obtain ⟨first, -, rfl⟩ := List.mem_map.mp among
    exact covers_symbol first
  rw [← List.flatMap_def] at inside
  have covers : quotedRegion.Covers ('"' :: (inner.flatMap Symbol.text ++ ['"'])) :=
    Covers.alt_right ((covers_spell "\"").seq (inside.seq (covers_spell "\"")))
  refine ⟨nofun, fun before after => matchAt_eq_some explores_quotedRegion
    ⟨_, covers before after []⟩ fun stop leads => ?_⟩
  rcases region_of_leads leads with ⟨inner', apart, takes⟩ | ⟨inner', takes⟩
  · exact absurd (List.cons.inj takes.1).1 (by decide)
  · rw [symbols_unique (eq_of_enclosed takes.1)]
    exact takes.2.2

/-- Each quoted region of a command is replaced by one blank, and nothing else changes. -/
theorem withoutQuoted_chunks (chunks : List Chunk) :
    withoutQuoted (chunks.flatMap Chunk.text) = chunks.flatMap Chunk.shown := by
  refine replace_flatMap (fun chunk => ?_) chunks
  cases chunk with
  | bare text unquoted => exact .inl ⟨passes_bare unquoted, rfl⟩
  | single inner closed => exact .inr ⟨consumes_single closed, rfl⟩
  | double inner => exact .inr ⟨consumes_double inner, rfl⟩

/-- What is shown of a command depends on its plain parts and their places alone. -/
theorem shown_congr {chunks others : List Chunk}
    (same : chunks.map Chunk.bare? = others.map Chunk.bare?) :
    chunks.flatMap Chunk.shown = others.flatMap Chunk.shown := by
  have shown (chunks : List Chunk) :
      chunks.flatMap Chunk.shown = (chunks.map Chunk.bare?).flatMap (·.getD [' ']) := by
    rw [List.flatMap_map, ← funext Chunk.shown_eq]
  rw [shown, same, ← shown]

/-- A technique that is looked for outside of quotes is used in both commands or in neither. -/
theorem usedIn_congr {chunks others : List Chunk}
    (same : chunks.map Chunk.bare? = others.map Chunk.bare?) {technique : Technique}
    (outside : technique.outsideQuotes = true) :
    technique.usedIn (Chunk.command chunks) = technique.usedIn (Chunk.command others) := by
  unfold Technique.usedIn Chunk.command
  dsimp only
  rw [if_pos outside, if_pos outside, String.toList_ofList, String.toList_ofList,
    withoutQuoted_chunks, withoutQuoted_chunks, shown_congr same]

/-- **Quoted text does not trigger the checks outside of quotes.** In a command of plain parts and
quoted regions each region is replaced by one blank, and the plain parts are left as they are. So
two commands with the same plain parts in the same places use the same techniques among those that
are looked for outside of quotes, whatever the quoted regions hold. -/
theorem quoted_text_ignored :
    (∀ chunks : List Chunk,
      withoutQuoted (chunks.flatMap Chunk.text) = chunks.flatMap Chunk.shown) ∧
    ∀ chunks others : List Chunk, chunks.map Chunk.bare? = others.map Chunk.bare? →
      ∀ technique ∈ [Technique.backslashSplitting, .braceExpansion, .wildcardPath],
        technique ∈ detect (Chunk.command chunks) ↔ technique ∈ detect (Chunk.command others) := by
  refine ⟨withoutQuoted_chunks, fun chunks others same technique listed => ?_⟩
  have outside : technique.outsideQuotes = true := by
    simp only [List.mem_cons, List.not_mem_nil, or_false] at listed
    rcases listed with rfl | rfl | rfl <;> rfl
  rw [detect, detect, List.mem_filter, List.mem_filter, usedIn_congr same outside]

/-- A backslash between letters counts no more between quotes than an empty argument does. -/
theorem quoted_text_ignored_in_argument :
    let front := Chunk.bare "grep ".toList (by decide)
    let quoted := [front, .single "r\\m".toList (by decide)]
    let nothing := [front, .double []]
    quoted.map Chunk.bare? = nothing.map Chunk.bare? ∧
      (.backslashSplitting ∈ detect (Chunk.command quoted) ↔
        .backslashSplitting ∈ detect (Chunk.command nothing)) := by
  intro front quoted nothing
  exact ⟨rfl, quoted_text_ignored.2 quoted nothing rfl _ (by decide)⟩

end ShellVet.Obfuscation
