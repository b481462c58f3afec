import ShellVet.Proofs.Shell.Printed
import Mathlib.Data.List.Chain

/-!
# Printed scripts are lexed into their pieces

The lexer reads the text of a script token by token, as `layOut` says (`Lexer.reads_script`). On its
way it is always calm: no construct of the grammar that changes the meaning of words is open. A bare
word ends before a blank, a semicolon or a line end; between apostrophes every character stands for
itself.
-/

namespace ShellVet.Shell

/-! ## Characters of printed texts -/

namespace Plain

variable {c d : Char} {text rest : List Char} {pos : Nat}

theorem ne_of_isBare (bare : isBare c = true) (other : isBare d = false) : c ≠ d := by
  rintro rfl
  rw [bare] at other
  cases other

/-- Whether a printed word may start with the character. -/
def startsWord (c : Char) : Bool := isBare c || c == '\''

/-- A character of a class is none of the characters in a list of others. -/
theorem not_mem_of_class {class' : Char → Bool} {others : List Char} (inside : class' c = true)
    (apart : others.all (fun other => !class' other) = true) : c ∉ others := by
  intro listed
  have excluded := List.all_eq_true.mp apart c listed
  rw [inside] at excluded
  cases excluded

theorem isBreak_of_isBare (bare : isBare c = true) : isBreak c = false :=
  decide_eq_false (not_mem_of_class bare (by decide))

theorem isQuote_of_isBare (bare : isBare c = true) : isQuote c = false :=
  decide_eq_false (not_mem_of_class bare (by decide))

theorem isMeta_of_startsWord (starts : startsWord c = true) : isMeta c = false :=
  decide_eq_false (not_mem_of_class starts (by decide))

theorem isSpace_of_startsWord (starts : startsWord c = true) : isSpace c = false :=
  decide_eq_false (not_mem_of_class starts (by decide))

/-- Whether the character ends a printed word. -/
def endsWord (c : Char) : Bool := c == ' ' || c == ';' || c == '\n'

theorem endsWord_cases (ends : endsWord c = true) : c = ' ' ∨ c = ';' ∨ c = '\n' := by
  simpa [endsWord, or_assoc] using ends

end Plain

open Plain

variable {c d : Char} {text rest : List Char} {pos : Nat}

theorem Cursor.next_cons (joining : Bool) (notBackslash : c ≠ '\\') :
    Cursor.next joining ⟨c :: rest, pos⟩ = (some c, ⟨rest, pos + 1⟩) := by
  unfold Cursor.next
  rw [Cursor.nextFrom]
  exact fun _ same _ => notBackslash same

/-- Where lines are not joined, every character stands for itself. -/
theorem Cursor.next_cons_false :
    Cursor.next false ⟨c :: rest, pos⟩ = (some c, ⟨rest, pos + 1⟩) := by
  unfold Cursor.next Cursor.nextFrom
  split <;> simp_all

/-! ## Words -/

/-- A word stops before a character that ends it. -/
theorem wordFrom_ends (fuel : Nat) (scan : WordScan) (ends : endsWord d = true) :
    wordFrom (fuel + 1) scan (some d) ⟨rest, pos + 1⟩ = .ok (scan, some d, ⟨d :: rest, pos⟩) := by
  rcases endsWord_cases ends with rfl | rfl | rfl <;> rfl

theorem wordFrom_bare (fuel : Nat) (scan : WordScan) (bare : isBare c = true) (place : Cursor) :
    wordFrom (fuel + 1) scan (some c) place =
      wordFrom fuel (scan.push c) (place.next true).1 (place.next true).2 := by
  have notBackslash : c ≠ '\\' := ne_of_isBare bare (by decide)
  have notDollar : c ≠ '$' := ne_of_isBare bare (by decide)
  have notLess : c ≠ '<' := ne_of_isBare bare (by decide)
  have notGreater : c ≠ '>' := ne_of_isBare bare (by decide)
  rw [wordFrom]
  simp only [notBackslash, isQuote_of_isBare bare, notDollar, notLess, notGreater,
    isBreak_of_isBare bare, if_false, decide_false, Bool.or_self, Bool.false_eq_true]

/-- The characters of a bare word are read one after another. -/
theorem wordFrom_all_bare {chars : List Char} (scan : WordScan) (bare : isBare c = true)
    (allBare : chars.all isBare = true) (ends : endsWord d = true) {fuel : Nat}
    (enough : chars.length + 2 ≤ fuel) :
    wordFrom fuel scan (some c) ⟨chars ++ d :: rest, pos⟩ =
      .ok ((c :: chars).foldl WordScan.push scan, some d, ⟨d :: rest, pos + chars.length⟩) := by
  induction chars generalizing c scan fuel pos with
  | nil =>
    obtain ⟨fuel, rfl⟩ : ∃ more, fuel = more + 2 := ⟨fuel - 2, by simp at enough; omega⟩
    have notBackslash : d ≠ '\\' := by
      rcases endsWord_cases ends with rfl | rfl | rfl <;> decide
    rw [wordFrom_bare _ _ bare, List.nil_append, Cursor.next_cons true notBackslash]
    exact wordFrom_ends fuel (scan.push c) ends
  | cons next chars ih =>
    obtain ⟨fuel, rfl⟩ : ∃ more, fuel = more + 1 := ⟨fuel - 1, by simp at enough; omega⟩
    obtain ⟨nextBare, othersBare⟩ := Bool.and_eq_true_iff.mp allBare
    have notBackslash : next ≠ '\\' := ne_of_isBare nextBare (by decide)
    have place : pos + 1 + chars.length = pos + (next :: chars).length := by
      rw [List.length_cons]
      omega
    rw [wordFrom_bare _ _ bare, List.cons_append, Cursor.next_cons true notBackslash]
    dsimp only
    rw [ih (scan.push c) nextBare othersBare (by simpa using enough), place]
    rfl

theorem foldl_push (chars : List Char) (scan : WordScan) :
    (chars.foldl WordScan.push scan).read = chars.reverse ++ scan.read ∧
      (chars.foldl WordScan.push scan).quoted = scan.quoted := by
  induction chars generalizing scan with
  | nil => exact ⟨rfl, rfl⟩
  | cons c chars ih =>
    obtain ⟨read, quoted⟩ := ih (scan.push c)
    rw [List.foldl_cons, read, quoted]
    simp [WordScan.push]

/-! ## Quoted words -/

/-- Between apostrophes every character but an apostrophe stands for itself. -/
theorem enclosedFrom_apostrophe (closed : '\'' ∉ text) (done : List Char) {fuel : Nat}
    (enough : text.length + 1 ≤ fuel) :
    enclosedFrom (.quote '\'' false) fuel { read := done } ⟨text ++ '\'' :: rest, pos⟩ =
      .ok (done.reverse ++ text ++ ['\''], ⟨rest, pos + text.length + 1⟩) := by
  induction text generalizing done fuel pos with
  | nil =>
    obtain ⟨fuel, rfl⟩ : ∃ more, fuel = more + 1 := ⟨fuel - 1, by simp at enough; omega⟩
    have next : Cursor.next ((Enclosure.quote '\'' false).joins && !false)
      ⟨'\'' :: rest, pos⟩ = _ := Cursor.next_cons_false
    rw [List.nil_append, enclosedFrom, next]
    change Except.ok (('\'' :: done).reverse, _) = _
    simp
  | cons c text ih =>
    obtain ⟨fuel, rfl⟩ : ∃ more, fuel = more + 1 := ⟨fuel - 1, by simp at enough; omega⟩
    have notClosing : c ≠ '\'' := fun same => closed (same ▸ List.mem_cons_self ..)
    have next : Cursor.next ((Enclosure.quote '\'' false).joins && !false)
      ⟨c :: (text ++ '\'' :: rest), pos⟩ = _ := Cursor.next_cons_false
    rw [List.cons_append, enclosedFrom, next]
    have depth : Enclosure.depthAfter (.quote '\'' false) { read := done } c = 1 := by
      simp [Enclosure.depthAfter, Enclosure.quote, notClosing]
    have later : enclosedFrom (.quote '\'' false) fuel { read := c :: done }
        ⟨text ++ '\'' :: rest, pos + 1⟩ = _ :=
      ih (fun inside => closed (List.mem_cons_of_mem _ inside)) (c :: done) (by simpa using enough)
    have place : pos + 1 + text.length + 1 = pos + (c :: text).length + 1 := by
      rw [List.length_cons]
      omega
    have opener : (Enclosure.quote '\'' false).opener = '\'' := rfl
    dsimp only
    rw [depth, if_neg (by decide), if_neg (by decide), if_pos opener]
    rw [place] at later
    refine Eq.trans later ?_
    simp

theorem enclosed_apostrophe (closed : '\'' ∉ text) :
    enclosed (.quote '\'' false) ⟨text ++ '\'' :: rest, pos⟩ =
      .ok (text ++ ['\''], ⟨rest, pos + text.length + 1⟩) := by
  have fuel : text.length + 1 ≤ Cursor.fuel ⟨text ++ '\'' :: rest, pos⟩ := by
    rw [Cursor.fuel, List.length_append]
    omega
  exact enclosedFrom_apostrophe closed [] fuel

/-- A word between apostrophes is read with them. -/
theorem wordFrom_quoted (closed : '\'' ∉ text) (ends : endsWord d = true) {fuel : Nat} :
    wordFrom (fuel + 2) {} (some '\'') ⟨text ++ '\'' :: d :: rest, pos⟩ =
      .ok ({ read := ('\'' :: (text ++ ['\''])).reverse, digits := false, quoted := true }, some d,
        ⟨d :: rest, pos + text.length + 1⟩) := by
  have notBackslash : d ≠ '\\' := by
    rcases endsWord_cases ends with rfl | rfl | rfl <;> decide
  rw [wordFrom, if_neg (by decide), if_pos (by decide), enclosed_apostrophe closed]
  change wordFrom (fuel + 1) _ (Cursor.next true ⟨d :: rest, pos + text.length + 1⟩).1
    (Cursor.next true ⟨d :: rest, pos + text.length + 1⟩).2 = _
  rw [Cursor.next_cons true notBackslash]
  dsimp only
  rw [wordFrom_ends fuel _ ends]
  simp [WordScan.pushGroup]

/-! ## Lexers between pieces -/

namespace Plain

/-- Whether the text of an argument is no reserved word. -/
def Argument.Unreserved : Argument → Prop
  | .bare word => String.ofList word.chars ∉ reservedWords
  | .quoted .. => True

/-- Whether a token of the kind can stand in a printed text. -/
def isPlainKind : TokenKind → Bool
  | .word | .lineEnd | .operator .andIf | .operator .orIf | .operator .bar
  | .operator .semicolon => true
  | _ => false

theorem isPlainKind_token (piece : Piece) (place : Nat) :
    isPlainKind (piece.token place).kind = true := by
  cases piece with
  | word => rfl
  | sign mark => cases mark <;> rfl

theorem ofText?_eq_none {chars : List Char} (bare : chars.all isBare = true)
    (unreserved : String.ofList chars ∉ reservedWords) : Reserved.ofText? chars = none := by
  have other : ∀ word : String, word.toList.all isBare = false → String.ofList chars ≠ word := by
    rintro _ notBare rfl
    rw [String.toList_ofList, bare] at notBare
    cases notBare
  have listed : ∀ word ∈ reservedWords, String.ofList chars ≠ word := by
    rintro _ inside rfl
    exact unreserved inside
  unfold Reserved.ofText?
  dsimp only
  split
  all_goals first
    | rfl
    | exact absurd ‹_› (listed _ (by decide))
    | exact absurd ‹_› (other _ (by decide))

end Plain

/-- A lexer in no construct that changes the meaning of words, with the tokens before it. -/
def Lexer.calm (place : Cursor) (last beforeLast : Option Token) : Lexer :=
  { place, last, beforeLast }

variable {last beforeLast : Option Token} {place : Cursor}

theorem Lexer.calm_place : (Lexer.calm place last beforeLast).place = place := rfl

/-- No other token comes before than those of printed texts. -/
theorem any_kind_eq_false {token? : Option Token} (plain : token?.all (isPlainKind ·.kind) = true)
    {kind : TokenKind} (strange : isPlainKind kind = false) :
    token?.any (·.kind = kind) = false := by
  cases token? with
  | none => rfl
  | some token =>
    refine decide_eq_false ?_
    rintro rfl
    rw [Option.all_some, strange] at plain
    cases plain

theorem Lexer.afterDuplication_calm (place : Cursor) (beforeLast : Option Token)
    (plain : last.all (isPlainKind ·.kind) = true) :
    (Lexer.calm place last beforeLast).afterDuplication = false := by
  change (last.any _ || last.any _) = false
  rw [any_kind_eq_false plain rfl, any_kind_eq_false plain rfl]
  rfl

/-- No word has a meaning of its own. -/
theorem Lexer.specialWord_calm (place : Cursor) (plain : last.all (isPlainKind ·.kind) = true)
    (plainBefore : beforeLast.all (isPlainKind ·.kind) = true) (text : List Char) :
    (Lexer.calm place last beforeLast).specialWord text =
      (none, Lexer.calm place last beforeLast) := by
  have after : ∀ name, last.any (·.kind = .reserved name) = false :=
    fun _ => any_kind_eq_false plain rfl
  have before : ∀ name, beforeLast.any (·.kind = .reserved name) = false :=
    fun _ => any_kind_eq_false plainBefore rfl
  simp [Lexer.specialWord, Lexer.calm, Lexer.after, Lexer.afterBefore, after, before]

/-- A word is a plain word, unless it is reserved and stands where a command may start. -/
theorem Lexer.reservedWord_calm (place : Cursor) (beforeLast : Option Token) {scan : WordScan}
    {argument : Argument} (quoted : scan.quoted = argument.isQuoted)
    (named : argument.Unreserved ∨ last.all (·.opensCommand) = false) :
    (Lexer.calm place last beforeLast).reservedWord scan argument.text =
      (none, Lexer.calm place last beforeLast) := by
  unfold Lexer.reservedWord
  rcases named with unreserved | inside
  · cases argument with
    | bare word =>
      have none : Reserved.ofText? (Argument.bare word).text = none :=
        ofText?_eq_none word.bare unreserved
      rw [none]
      exact ite_self _
    | quoted => rw [quoted, if_pos (by simp [Argument.isQuoted])]
  · have inCommand : (Lexer.calm place last beforeLast).atCommand = false := inside
    rw [inCommand, if_pos (by simp)]

theorem isAssignmentTail_eq_false {chars : List Char} (bare : chars.all isBare = true) :
    isAssignmentTail chars = false := by
  induction chars with
  | nil => rfl
  | cons c chars ih =>
    obtain ⟨first, others⟩ := Bool.and_eq_true_iff.mp bare
    have notEquals : c ≠ '=' := ne_of_isBare first (by decide)
    have notPlus : c ≠ '+' := ne_of_isBare first (by decide)
    rw [isAssignmentTail, ih others, Bool.and_false]
    · exact notEquals
    · exact fun _ same _ => notPlus same

theorem Plain.Argument.isAssignment_text (argument : Argument) :
    isAssignment argument.text = false := by
  cases argument with
  | bare word =>
    obtain ⟨chars, nonempty, bare⟩ := word
    cases chars with
    | nil => exact absurd rfl nonempty
    | cons c chars =>
      change (startsName c && isAssignmentTail (c :: chars)) = false
      rw [isAssignmentTail_eq_false bare, Bool.and_false]
  | quoted text =>
    change (startsName '\'' && isAssignmentTail ('\'' :: (text ++ ['\'']))) = false
    rw [show startsName '\'' = false by decide, Bool.false_and]

/-- A word is read from its first character up to a character that ends it. -/
theorem wordFrom_argument (argument : Argument) :
    ∃ c more scan, argument.text = c :: more ∧ startsWord c = true ∧
      scan.read.reverse = argument.text ∧ scan.quoted = argument.isQuoted ∧
      ∀ d, endsWord d = true → ∀ rest pos fuel, more.length + 2 ≤ fuel →
        wordFrom fuel {} (some c) ⟨more ++ d :: rest, pos⟩ =
          .ok (scan, some d, ⟨d :: rest, pos + more.length⟩) := by
  cases argument with
  | bare word =>
    obtain ⟨chars, nonempty, bare⟩ := word
    cases chars with
    | nil => exact absurd rfl nonempty
    | cons c chars =>
      obtain ⟨first, others⟩ := Bool.and_eq_true_iff.mp bare
      obtain ⟨read, quoted⟩ := foldl_push (c :: chars) {}
      refine ⟨c, chars, (c :: chars).foldl WordScan.push {}, rfl, ?_, ?_, quoted, ?_⟩
      · rw [startsWord, first, Bool.true_or]
      · rw [read]
        simp [Argument.text]
      · exact fun d ends rest pos fuel enough => wordFrom_all_bare {} first others ends enough
  | quoted text closed =>
    let scan : WordScan :=
      { read := ('\'' :: (text ++ ['\''])).reverse, digits := false, quoted := true }
    refine ⟨'\'', text ++ ['\''], scan, rfl, rfl, List.reverse_reverse _, rfl, ?_⟩
    intro d ends rest pos fuel enough
    obtain ⟨fuel, rfl⟩ : ∃ more, fuel = more + 2 := ⟨fuel - 2, by omega⟩
    rw [List.append_assoc, List.length_append]
    exact wordFrom_quoted closed ends

theorem Plain.Argument.exists_cons (argument : Argument) :
    ∃ c more, argument.text = c :: more ∧ startsWord c = true := by
  obtain ⟨c, more, scan, text, starts, -⟩ := wordFrom_argument argument
  exact ⟨c, more, text, starts⟩

/-! ## One token -/

/-- Whether the rest of a text does not run into the piece before it. -/
def Plain.Piece.EndsBefore : Piece → List Char → Prop
  | .word .., rest => ∃ d more, rest = d :: more ∧ endsWord d = true
  | .sign mark, rest => mark = .bar ∨ mark = .semicolon → ∃ more, rest = ' ' :: more

theorem skipBlanks_gap (spaced : Bool) (notSpace : isSpace c = false) (notSharp : c ≠ '#')
    (notBackslash : c ≠ '\\') (fuel : Nat) :
    skipBlanks (fuel + 2) ⟨gap spaced ++ c :: rest, pos⟩ =
      (some c, ⟨rest, pos + (gap spaced).length + 1⟩) := by
  have reached : ∀ fuel pos,
      skipBlanks (fuel + 1) ⟨c :: rest, pos⟩ = (some c, ⟨rest, pos + 1⟩) := by
    intro fuel pos
    rw [skipBlanks, Cursor.next_cons true notBackslash]
    dsimp only
    rw [notSpace, if_neg (by decide), if_neg notSharp]
  cases spaced with
  | false => exact reached _ _
  | true =>
    change skipBlanks (fuel + 2) ⟨' ' :: c :: rest, pos⟩ = _
    rw [skipBlanks, Cursor.next_cons true (by decide)]
    exact reached _ _
section

variable (piece : Piece) {more : List Char}

theorem skipBlanks_source (text : piece.text = c :: more) (notSpace : isSpace c = false)
    (notSharp : c ≠ '#') (notBackslash : c ≠ '\\') :
    skipBlanks ((piece.source ++ rest).length + 1) ⟨piece.source ++ rest, pos⟩ =
      (some c, ⟨more ++ rest, pos + (gap piece.spaced).length + 1⟩) := by
  have source : piece.source ++ rest = gap piece.spaced ++ c :: (more ++ rest) := by
    rw [Piece.source, text, List.append_assoc, List.cons_append]
  have fuel : (gap piece.spaced ++ c :: (more ++ rest)).length + 1 =
      (gap piece.spaced).length + (more ++ rest).length + 2 := by
    rw [List.length_append, List.length_cons]
    omega
  rw [source, fuel]
  exact skipBlanks_gap piece.spaced notSpace notSharp notBackslash _

theorem Plain.Piece.stop_eq (text : piece.text = c :: more) :
    pos + (gap piece.spaced).length + 1 + more.length = pos + piece.source.length := by
  rw [Piece.source, text, List.length_append, List.length_cons]
  omega

end

theorem Lexer.word_calm {argument : Argument} {c : Char} {more : List Char}
    (text : argument.text = c :: more) (ends : endsWord d = true) (start : Nat)
    (plain : last.all (isPlainKind ·.kind) = true)
    (plainBefore : beforeLast.all (isPlainKind ·.kind) = true)
    (named : argument.Unreserved ∨ last.all (·.opensCommand) = false) :
    (Lexer.calm ⟨more ++ d :: rest, pos⟩ last beforeLast).word start c =
      .ok (⟨.word, argument.text, start, pos + more.length, argument.isQuoted⟩,
        Lexer.calm ⟨d :: rest, pos + more.length⟩ last beforeLast) := by
  obtain ⟨first, others, scan, split, -, whole, quoted, read⟩ := wordFrom_argument argument
  obtain ⟨rfl, rfl⟩ := List.cons.inj (text.symm.trans split)
  have fuel : more.length + 2 ≤ (more ++ d :: rest).length + 2 := by simp
  have after : ∀ kind, isPlainKind kind = false → last.any (·.kind = kind) = false :=
    fun _ => any_kind_eq_false plain
  have notNumber : ¬ (d = '<' ∨ d = '>') := by
    rcases endsWord_cases ends with rfl | rfl | rfl <;> decide
  have duplication := fun place => Lexer.afterDuplication_calm place beforeLast plain
  have function : last.any (·.kind = .reserved .functionWord) = false := after _ rfl
  have special := fun place => Lexer.specialWord_calm place plain plainBefore argument.text
  have reserved := fun place =>
    Lexer.reservedWord_calm place beforeLast quoted named
  simp only [Lexer.calm] at special reserved duplication
  unfold Lexer.word Lexer.calm
  dsimp only
  rw [read d ends rest pos _ fuel]
  simp [whole, quoted, special, reserved, duplication, notNumber, argument.isAssignment_text,
    Lexer.after, function, bind, Except.bind, pure, Except.pure]

theorem Lexer.token_word (offset : Nat) {spaced : Bool} {argument : Argument}
    (ends : (Piece.word spaced argument).EndsBefore rest)
    (plain : last.all (isPlainKind ·.kind) = true)
    (plainBefore : beforeLast.all (isPlainKind ·.kind) = true)
    (named : argument.Unreserved ∨ last.all (·.opensCommand) = false) :
    (Lexer.calm ⟨(Piece.word spaced argument).source ++ rest, pos⟩ last beforeLast).token offset =
      .ok ((Piece.word spaced argument).token pos,
        Lexer.calm ⟨rest, pos + (Piece.word spaced argument).source.length⟩ last beforeLast) := by
  obtain ⟨d, rest, rfl, endsWord⟩ := ends
  obtain ⟨c, more, text, starts⟩ := argument.exists_cons
  have none : c ∉ ['#', '\\', '\n'] := not_mem_of_class starts (by decide)
  simp only [List.mem_cons, List.not_mem_nil, or_false, not_or] at none
  obtain ⟨notSharp, notBackslash, notLineEnd⟩ := none
  rw [Lexer.token, Lexer.calm_place,
    skipBlanks_source (.word spaced argument) text (isSpace_of_startsWord starts) notSharp
      notBackslash]
  dsimp only
  rw [if_neg notLineEnd, isMeta_of_startsWord starts, if_neg (by decide)]
  change (if (_ && (Lexer.calm _ last beforeLast).afterDuplication) = true then _ else _) = _
  rw [Lexer.afterDuplication_calm _ _ plain, Bool.and_false, if_neg (by decide)]
  refine (Lexer.word_calm text endsWord _ plain plainBefore named).trans ?_
  rw [Piece.stop_eq (.word spaced argument) text]
  rfl

/-- An operator is read up to the blank behind it. -/
theorem operatorFrom_sign {mark : Sign} (notLineEnd : mark ≠ .lineEnd)
    (ends : (Piece.sign mark).EndsBefore rest) :
    ∃ c more sign, mark.text = c :: more ∧ c ∈ ['&', '|', ';'] ∧ mark.kind = .operator sign ∧
      sign.text.toList = mark.text ∧ sign ∈ [.andIf, .orIf, .bar, .semicolon] ∧
      ∀ pos, operatorFrom c ⟨more ++ rest, pos⟩ = some (sign, ⟨rest, pos + more.length⟩) := by
  cases mark with
  | lineEnd => exact absurd rfl notLineEnd
  | andIf => exact ⟨'&', ['&'], .andIf, rfl, by decide, rfl, rfl, by decide, fun _ => rfl⟩
  | orIf => exact ⟨'|', ['|'], .orIf, rfl, by decide, rfl, rfl, by decide, fun _ => rfl⟩
  | bar =>
    obtain ⟨rest, rfl⟩ := ends (.inl rfl)
    exact ⟨'|', [], .bar, rfl, by decide, rfl, rfl, by decide, fun _ => rfl⟩
  | semicolon =>
    obtain ⟨rest, rfl⟩ := ends (.inr rfl)
    exact ⟨';', [], .semicolon, rfl, by decide, rfl, rfl, by decide, fun _ => rfl⟩

theorem Lexer.token_sign (offset : Nat) {mark : Sign} (ends : (Piece.sign mark).EndsBefore rest) :
    (Lexer.calm ⟨(Piece.sign mark).source ++ rest, pos⟩ last beforeLast).token offset =
      .ok ((Piece.sign mark).token pos,
        Lexer.calm ⟨rest, pos + (Piece.sign mark).source.length⟩ last beforeLast) := by
  by_cases isLineEnd : mark = .lineEnd
  · subst isLineEnd
    rfl
  obtain ⟨c, more, sign, text, first, kind, written, listed, read⟩ :=
    operatorFrom_sign isLineEnd ends
  obtain ⟨isMeta, notSpace, notSharp, notBackslash, notNewline⟩ :
      isMeta c = true ∧ isSpace c = false ∧ c ≠ '#' ∧ c ≠ '\\' ∧ c ≠ '\n' := by
    simp only [List.mem_cons, List.not_mem_nil, or_false] at first
    rcases first with rfl | rfl | rfl <;> decide
  have token : (Piece.sign mark).token pos = ⟨.operator sign, sign.text.toList,
      pos + (gap mark.spaced).length, pos + (Piece.sign mark).source.length, false⟩ := by
    rw [written, ← kind]
    rfl
  rw [Lexer.token, Lexer.calm_place,
    skipBlanks_source (.sign mark) text notSpace notSharp notBackslash]
  dsimp only
  rw [if_neg notNewline, if_pos isMeta, read, Piece.stop_eq (.sign mark) text, token]
  simp only [List.mem_cons, List.not_mem_nil, or_false] at listed
  rcases listed with rfl | rfl | rfl | rfl <;> rfl

/-- The lexer reads a piece where it is calm, and is calm after it. -/
theorem Lexer.read_piece (offset : Nat) {piece : Piece} (ends : piece.EndsBefore rest)
    (plain : last.all (isPlainKind ·.kind) = true)
    (plainBefore : beforeLast.all (isPlainKind ·.kind) = true)
    (named : ∀ spaced argument, piece = .word spaced argument →
      argument.Unreserved ∨ last.all (·.opensCommand) = false) :
    (Lexer.calm ⟨piece.source ++ rest, pos⟩ last beforeLast).read offset =
      .ok (piece.token pos,
        Lexer.calm ⟨rest, pos + piece.source.length⟩ (some (piece.token pos)) last) := by
  have token : (Lexer.calm ⟨piece.source ++ rest, pos⟩ last beforeLast).token offset =
      .ok (piece.token pos, Lexer.calm ⟨rest, pos + piece.source.length⟩ last beforeLast) := by
    cases piece with
    | word spaced argument =>
      exact Lexer.token_word offset ends plain plainBefore (named _ _ rfl)
    | sign mark => exact Lexer.token_sign offset ends
  rw [Lexer.read, token]
  rfl

/-! ## All tokens -/

/-- The lexer reads the tokens one after another and never waits for here-documents. -/
def Lexer.Reads (offset : Nat) : Lexer → List Token → Prop
  | _, [] => True
  | lx, token :: rest => ∃ next, lx.read offset = .ok (token, next) ∧ next.pending = [] ∧
      next.documents = [] ∧ Lexer.Reads offset next rest

/-- Whether the second piece may be written right behind the first one: words are apart from each
other, and the name of a command is not reserved. -/
def Plain.Piece.Follows : Piece → Piece → Prop
  | .word .., .word spaced _ => spaced = true
  | .word .., .sign _ => True
  | .sign mark, .word spaced argument => argument.Unreserved ∧ (spaced = true ∨ mark = .lineEnd)
  | .sign _, .sign _ => False

theorem Plain.Piece.Follows.endsBefore {piece next : Piece} (follows : piece.Follows next)
    (rest : List Char) : piece.EndsBefore (next.source ++ rest) := by
  cases piece with
  | word =>
    cases next with
    | word spaced argument =>
      obtain rfl : spaced = true := follows
      exact ⟨' ', _, rfl, rfl⟩
    | sign mark => cases mark <;> exact ⟨_, _, rfl, rfl⟩
  | sign mark =>
    intro tight
    cases next with
    | word spaced argument =>
      obtain ⟨-, rfl | rfl⟩ := follows
      · exact ⟨_, rfl⟩
      · rcases tight with impossible | impossible <;> cases impossible
    | sign => exact follows.elim

/-- A word that follows another one is not where a command may start. -/
theorem Plain.Piece.Follows.named {piece : Piece} {spaced : Bool} {argument : Argument}
    (follows : piece.Follows (.word spaced argument)) (place : Nat) :
    argument.Unreserved ∨ (some (piece.token place)).all (·.opensCommand) = false := by
  cases piece with
  | word spaced argument =>
    obtain ⟨c, more, text, starts⟩ := argument.exists_cons
    have notBrace : c ∉ ['\x7b', '\x7d'] := not_mem_of_class starts (by decide)
    have notOpening : ∀ brace ∈ ['\x7b', '\x7d'], argument.text ≠ [brace] := by
      rintro brace listed same
      obtain ⟨rfl, -⟩ := List.cons.inj (text.symm.trans same)
      exact notBrace listed
    refine .inr ?_
    change (decide (argument.text = ['\x7b']) || decide (argument.text = ['\x7d'])) = false
    rw [decide_eq_false (notOpening _ (by decide)), decide_eq_false (notOpening _ (by decide))]
    rfl
  | sign => exact .inl follows.1

/-- The token at the end of a text. -/
def Plain.endToken (place : Nat) : Token :=
  { kind := .endOfText, text := [], start := place, stop := place }

/-- The text of pieces up to a line end is read as they are laid out. -/
theorem Lexer.reads_layOut (offset : Nat) {piece : Piece} {pieces : List Piece}
    (chain : List.IsChain Piece.Follows (piece :: pieces))
    (closed : (piece :: pieces).getLast? = some (.sign .lineEnd))
    (plain : last.all (isPlainKind ·.kind) = true)
    (plainBefore : beforeLast.all (isPlainKind ·.kind) = true)
    (named : ∀ spaced argument, piece = .word spaced argument →
      argument.Unreserved ∨ last.all (·.opensCommand) = false) :
    (Lexer.calm ⟨(piece :: pieces).flatMap Piece.source, pos⟩ last beforeLast).Reads offset
      (layOut pos (piece :: pieces) ++ [endToken (pos + width (piece :: pieces))]) := by
  induction pieces generalizing piece pos last beforeLast with
  | nil =>
    obtain rfl : piece = .sign .lineEnd := Option.some.inj closed
    exact ⟨_, rfl, rfl, rfl, _, rfl, rfl, rfl, trivial⟩
  | cons next pieces ih =>
    obtain ⟨follows, chain⟩ := List.isChain_cons_cons.mp chain
    rw [List.getLast?_cons_cons] at closed
    have nextNamed : ∀ spaced argument, next = .word spaced argument →
        argument.Unreserved ∨ (some (piece.token pos)).all (·.opensCommand) = false := by
      rintro spaced argument rfl
      exact follows.named pos
    rw [width_cons, ← Nat.add_assoc]
    refine ⟨_, Lexer.read_piece offset (follows.endsBefore _) plain plainBefore named, rfl, rfl, ?_⟩
    exact ih chain closed (isPlainKind_token piece pos) plain nextNamed

/-! ## The pieces of scripts -/

/-- Pieces in a row that can be read, and whose first one is a sign. -/
def Plain.GoesOn (pieces : List Piece) : Prop :=
  List.IsChain Piece.Follows pieces ∧ ∃ mark rest, pieces = .sign mark :: rest

namespace Plain

variable {rest : List Piece}

theorem isChain_words (spaced : Bool) (argument : Argument) (arguments : List Argument)
    (goesOn : GoesOn rest) :
    List.IsChain Piece.Follows (.word spaced argument :: (argumentPieces arguments ++ rest)) := by
  induction arguments generalizing spaced argument with
  | nil =>
    obtain ⟨chain, mark, rest, rfl⟩ := goesOn
    exact List.isChain_cons_cons.mpr ⟨trivial, chain⟩
  | cons next arguments ih => exact List.isChain_cons_cons.mpr ⟨rfl, ih true next⟩

/-- A command may stand behind a sign. -/
theorem goesOn_command {spaced : Bool} {mark : Sign} (apart : spaced = true ∨ mark = .lineEnd)
    (command : Command) (goesOn : GoesOn rest) :
    GoesOn (.sign mark :: (command.pieces spaced ++ rest)) := by
  have words := isChain_words spaced (.bare command.name) command.arguments goesOn
  exact ⟨List.isChain_cons_cons.mpr ⟨⟨command.unreserved, apart⟩, words⟩, mark, _, rfl⟩

theorem goesOn_stages (stages : List Command) (goesOn : GoesOn rest) :
    GoesOn (stagePieces stages ++ rest) := by
  induction stages with
  | nil => exact goesOn
  | cons command stages ih =>
    rw [stagePieces, List.flatMap_cons, ← stagePieces, List.append_assoc]
    exact goesOn_command (.inl rfl) command ih

theorem goesOn_pipeline {spaced : Bool} {mark : Sign} (apart : spaced = true ∨ mark = .lineEnd)
    (pipeline : Pipeline) (goesOn : GoesOn rest) :
    GoesOn (.sign mark :: (pipeline.pieces spaced ++ rest)) := by
  rw [Pipeline.pieces, List.append_assoc]
  exact goesOn_command apart pipeline.first (goesOn_stages pipeline.later goesOn)

theorem goesOn_links (links : List (Joint × Pipeline)) (goesOn : GoesOn rest) :
    GoesOn (linkPieces links ++ rest) := by
  induction links with
  | nil => exact goesOn
  | cons link links ih =>
    obtain ⟨joint, pipeline⟩ := link
    have apart : decide (joint ≠ .lineEnd) = true ∨ joint.sign = .lineEnd := by
      cases joint <;> decide
    rw [linkPieces, List.flatMap_cons, ← linkPieces, List.append_assoc]
    exact goesOn_pipeline apart pipeline ih

/-- The pieces of a script with the line end behind them can be read. -/
theorem isChain_script (script : Script) :
    List.IsChain Piece.Follows (script.pieces ++ [.sign .lineEnd]) := by
  have lineEnd : GoesOn [.sign .lineEnd] := ⟨.singleton _, _, _, rfl⟩
  have behind : GoesOn (.sign .lineEnd :: (script.first.pieces false ++ _)) :=
    goesOn_pipeline (.inr rfl) script.first (goesOn_links script.later lineEnd)
  rw [Script.pieces, List.append_assoc]
  exact behind.1.tail

theorem Argument.getLast?_text (argument : Argument) : argument.text.getLast? ≠ some '\n' := by
  cases argument with
  | bare word =>
    intro last
    exact absurd (List.all_eq_true.mp word.bare '\n' (List.mem_of_getLast? last)) (by decide)
  | quoted text =>
    change ('\'' :: (text ++ ['\''])).getLast? ≠ some '\n'
    rw [← List.cons_append, List.getLast?_concat]
    decide

/-- Pieces in front of a line end do not end in one themselves. -/
theorem getLast?_flatMap_source {pieces : List Piece}
    (chain : List.IsChain Piece.Follows (pieces ++ [.sign .lineEnd])) :
    (pieces.flatMap Piece.source).getLast? ≠ some '\n' := by
  rcases List.eq_nil_or_concat pieces with rfl | ⟨front, last, rfl⟩
  · exact nofun
  · have follows : last.Follows (.sign .lineEnd) := by
      rw [List.concat_eq_append, List.append_assoc] at chain
      exact (List.isChain_cons_cons.mp (List.isChain_append.mp chain).2.1).1
    cases last with
    | word spaced argument =>
      have nonempty : argument.text ≠ [] := by
        obtain ⟨c, more, text, -⟩ := argument.exists_cons
        rw [text]
        exact List.cons_ne_nil _ _
      rw [List.concat_eq_append, List.flatMap_append, List.flatMap_singleton, Piece.source,
        ← List.append_assoc]
      exact List.getLast?_append_of_ne_nil _ nonempty ▸ argument.getLast?_text
    | sign => exact follows.elim

end Plain

/-- The text of a script is read as its pieces are laid out, up to the end of the text. -/
theorem Lexer.reads_script (offset : Nat) (script : Script) :
    (Lexer.ofText script.text).Reads offset
      (layOut 0 (script.pieces ++ [.sign .lineEnd]) ++ [endToken (script.text.length + 1)]) := by
  have chain := isChain_script script
  have text : (script.pieces ++ [Piece.sign .lineEnd]).flatMap Piece.source =
      script.text ++ ['\n'] := by
    rw [List.flatMap_append, Script.flatMap_source]
    rfl
  have unended : script.text.getLast? ≠ some '\n' := by
    rw [← Script.flatMap_source]
    exact getLast?_flatMap_source chain
  have start : Lexer.ofText script.text = Lexer.calm ⟨script.text ++ ['\n'], 0⟩ none none := by
    rw [Lexer.ofText, if_neg unended]
    rfl
  have closed : (script.pieces ++ [Piece.sign .lineEnd]).getLast? = some (.sign .lineEnd) :=
    List.getLast?_concat
  have length : script.text.length + 1 = 0 + width (script.pieces ++ [.sign .lineEnd]) := by
    rw [width, text, Nat.zero_add, List.length_append]
    rfl
  obtain ⟨more, split⟩ : ∃ more, script.pieces ++ [.sign .lineEnd] =
    .word false (.bare script.first.first.name) :: more := ⟨_, rfl⟩
  rw [start, length, ← text]
  rw [split] at chain closed ⊢
  refine Lexer.reads_layOut offset chain closed rfl rfl ?_
  rintro _ _ ⟨⟩
  exact .inl script.first.first.unreserved

end ShellVet.Shell
