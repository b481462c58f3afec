import ShellVet.Proofs.Regex.Ink
import ShellVet.Proofs.Shell.Taken

/-!
# Parsing undoes printing

A printed script is read line by line, each line as one statement, and the commands found are those
of the script (`parse_script`).
-/

namespace ShellVet.Shell

open Plain

/-! ## One line -/

/-- Where the lexer reads a line and one more token behind it, the line is the first statement. -/
theorem firstStatement?_line (reader : StatementReader) {text : List Char} {offset : Nat}
    {line : Script} (oneLine : ∀ link ∈ line.later, link.1 ≠ .lineEnd) {token next : Token}
    {rest : List Token} (ended : token.kind = .lineEnd)
    (reads : (Lexer.ofText text).Reads offset (layOut 0 line.pieces ++ token :: next :: rest))
    (enough : line.pieces.length ≤ text.length) :
    ∃ tree, firstStatement? reader text offset false = .ok (some ⟨tree, []⟩) ∧
      tree.span.stop = offset + width line.pieces ∧ tree.lastDocument? = none ∧
      tree.invocations false false = line.invocations := by
  let setting : Setting := ⟨reader, offset, text.length, false⟩
  have fuel : line.pieces.length + 1 < 8 * text.length + 16 := by omega
  have taken : Parser.Takes setting _ (layOut 0 line.pieces ++ token :: next :: rest) _ _ :=
    Parser.takes_statement? line oneLine ended fuel
  obtain ⟨name, words, startsWithName⟩ : ∃ name words,
    layOut 0 line.pieces ++ token :: next :: rest = name :: words := ⟨_, _, rfl⟩
  rw [startsWithName] at reads taken
  obtain ⟨lexer, read, pending, documents, reads⟩ := reads
  obtain ⟨_, state, ran, ⟨tree, rfl, facts⟩, feeds⟩ :=
    taken ⟨lexer, name, []⟩ ⟨rfl, reads, pending, documents, rfl⟩
  refine ⟨tree, ?_, facts⟩
  rw [firstStatement?, read]
  change (Parser.statement? _ setting ⟨lexer, name, []⟩ >>= fun _ => _) = _
  rw [ran]
  change Except.ok (some (Reading.mk tree (state.lexer.documents ++ state.documents))) = _
  rw [feeds.lexed, feeds.expanded]
  rfl

/-! ## Lines -/

namespace Plain

/-- A script whose first line is the one script, and whose other lines are the other script. -/
def Script.above (line others : Script) : Script :=
  ⟨line.first, line.later ++ (.lineEnd, others.first) :: others.later⟩

/-- A script is one line, or a line above other lines. -/
theorem Script.exists_line (script : Script) :
    (∀ link ∈ script.later, link.1 ≠ .lineEnd) ∨
      ∃ line others : Script, script = line.above others ∧
        ∀ link ∈ line.later, link.1 ≠ .lineEnd := by
  cases found : script.later.find? (·.1 = .lineEnd) with
  | none =>
    left
    intro link among
    simpa using List.find?_eq_none.mp found link among
  | some link =>
    right
    obtain ⟨isLineEnd, before, behind, split, earlier⟩ := List.find?_eq_some_iff_append.mp found
    obtain ⟨joint, pipeline⟩ := link
    obtain rfl : joint = .lineEnd := of_decide_eq_true isLineEnd
    refine ⟨⟨script.first, before⟩, ⟨pipeline, behind⟩, ?_, fun link among => ?_⟩
    · rw [Script.above, ← split]
    · simpa using earlier link among

variable {line others : Script}

theorem Script.pieces_above :
    (line.above others).pieces = line.pieces ++ .sign .lineEnd :: others.pieces := by
  rw [Script.pieces, Script.above, linkPieces, List.flatMap_append, List.flatMap_cons]
  simp only [Script.pieces, linkPieces, List.append_assoc, List.cons_append]
  rfl

theorem Script.text_above : (line.above others).text = line.text ++ '\n' :: others.text := by
  rw [Script.text, Script.above, List.flatMap_append, List.flatMap_cons]
  simp only [Script.text, Joint.text, List.append_assoc, List.cons_append, List.nil_append]

theorem Script.invocations_above :
    (line.above others).invocations = line.invocations ++ others.invocations := by
  rw [Script.invocations, Script.above, List.flatMap_append, List.flatMap_cons]
  simp only [Script.invocations, List.append_assoc]

theorem Script.width_pieces (script : Script) : width script.pieces = script.text.length := by
  rw [width, Script.flatMap_source]

/-- Every piece has a text. -/
theorem length_le_width (pieces : List Piece) : pieces.length ≤ width pieces := by
  induction pieces with
  | nil => exact le_rfl
  | cons piece pieces ih =>
    have nonempty : 1 ≤ piece.text.length := by
      cases piece with
      | word spaced argument =>
        obtain ⟨c, more, text, -⟩ := argument.exists_cons
        rw [Piece.text, text, List.length_cons]
        omega
      | sign mark => cases mark <;> decide
    rw [List.length_cons, width_cons, Piece.source, List.length_append]
    omega

theorem length_le_linkPieces (links : List (Joint × Pipeline)) :
    links.length ≤ (linkPieces links).length := by
  induction links with
  | nil => exact le_rfl
  | cons link links ih =>
    rw [linkPieces, List.flatMap_cons, ← linkPieces, List.length_append, List.length_cons,
      List.length_cons]
    omega

theorem Script.text_ne_nil (script : Script) : script.text ≠ [] := by
  intro empty
  have length := length_le_width script.pieces
  rw [Script.width_pieces, empty] at length
  exact absurd length (Nat.not_succ_le_zero _)

end Plain

theorem treesFrom_nil (depth fuel offset : Nat) : treesFrom depth fuel [] offset = .ok [] := by
  cases fuel <;> rfl

theorem treesFrom_line {depth fuel offset stop : Nat} {text : List Char} {tree : Tree}
    (nonempty : text ≠ [])
    (first : firstStatement? (nestedStatement depth) text offset false = .ok (some ⟨tree, []⟩))
    (stopped : tree.span.stop = offset + stop) (documents : tree.lastDocument? = none) :
    treesFrom depth (fuel + 1) text offset =
      (tree :: ·) <$> treesFrom depth fuel (text.drop (stop + 1)) (offset + stop + 1) := by
  let reading : Reading := ⟨tree, []⟩
  have stop_eq : reading.stop = offset + stop := by
    rw [Reading.stop, documents, ← stopped]
    exact Nat.max_eq_left (Nat.zero_le _)
  have next : offset + stop + 1 - offset = stop + 1 := by omega
  rw [treesFrom, if_neg (by simpa using nonempty), first]
  change (treesFrom depth fuel (text.drop (reading.stop + 1 - offset)) (reading.stop + 1) >>=
    fun trees => pure (tree :: trees)) = _
  rw [stop_eq, next]
  rfl

/-- The lines of a script are read one after another. -/
theorem treesFrom_script (depth : Nat) (script : Script) {fuel : Nat} (offset : Nat)
    (enough : script.later.length < fuel) :
    ∃ trees, treesFrom depth fuel script.text offset = .ok trees ∧
      invocationsIn false false trees = script.invocations := by
  induction fuel generalizing script offset with
  | zero => exact absurd enough (Nat.not_lt_zero _)
  | succ fuel ih =>
    have reads := Lexer.reads_script offset script
    have length := length_le_width script.pieces
    rw [Script.width_pieces] at length
    rcases script.exists_line with oneLine | ⟨line, others, rfl, oneLine⟩
    · rw [layOut_append, List.append_assoc] at reads
      obtain ⟨tree, first, stop, documents, invocations⟩ :=
        firstStatement?_line (nestedStatement depth) oneLine rfl reads length
      have rest : script.text.drop (width script.pieces + 1) = [] :=
        List.drop_eq_nil_of_le (by rw [Script.width_pieces]; omega)
      refine ⟨[tree], ?_, ?_⟩
      · rw [treesFrom_line script.text_ne_nil first stop documents, rest, treesFrom_nil]
        rfl
      · rw [invocationsIn, invocationsIn, List.append_nil, invocations]
    · rw [Script.pieces_above, List.append_assoc, layOut_append, List.append_assoc] at reads
      rw [Script.pieces_above, List.length_append] at length
      obtain ⟨tree, first, stop, documents, invocations⟩ :=
        firstStatement?_line (nestedStatement depth) oneLine rfl reads (by omega)
      have rest : (line.above others).text.drop (width line.pieces + 1) = others.text := by
        rw [Script.text_above, Script.width_pieces, List.drop_append]
        simp
      have fewer : others.later.length < fuel := by
        rw [Script.above, List.length_append, List.length_cons] at enough
        omega
      obtain ⟨trees, later, others'⟩ : ∃ trees,
        treesFrom depth fuel others.text (offset + width line.pieces + 1) = .ok trees ∧ _ :=
        ih others _ fewer
      refine ⟨tree :: trees, ?_, ?_⟩
      · rw [treesFrom_line (Script.text_ne_nil _) first stop documents, rest, later]
        rfl
      · rw [invocationsIn, invocations, others', Script.invocations_above]

/-! ## Texts -/

theorem Plain.isBlank_of_isBare {c : Char} (bare : isBare c = true) : Text.isBlank c = false := by
  by_contra blank
  rw [Bool.not_eq_false] at blank
  exact not_mem_of_class bare (by decide) (Text.mem_blanks blank)

theorem Plain.Script.isBlankText_text (script : Script) : Text.isBlankText script.text = false := by
  obtain ⟨c, more, name, bare⟩ :
      ∃ c more, script.first.first.name.chars = c :: more ∧ isBare c = true := by
    obtain ⟨chars, nonempty, bare⟩ := script.first.first.name
    cases chars with
    | nil => exact absurd rfl nonempty
    | cons c more => exact ⟨c, more, rfl, (Bool.and_eq_true_iff.mp bare).1⟩
  refine List.all_eq_false.mpr ⟨c, ?_, by simp [isBlank_of_isBare bare]⟩
  simp [Script.text, Pipeline.text, Command.text, name]

/-- Parsing undoes printing: a script whose words are bare or stand between apostrophes is read,
and its commands are found, with exactly their names and arguments, each piped where it is a later
stage of its pipeline. -/
theorem parse_script (script : Script) :
    parse (String.ofList script.text) = .ok script.invocations := by
  have enough : script.later.length < script.text.length + 1 := by
    have pieces := length_le_width script.pieces
    have links := length_le_linkPieces script.later
    rw [Script.width_pieces, Script.pieces, List.length_append] at pieces
    omega
  obtain ⟨trees, read, invocations⟩ :=
    treesFrom_script (script.text.length + 1) script 0 enough
  have trees' : readTrees (String.ofList script.text) = .ok trees := by
    rw [readTrees, String.toList_ofList, String.length_ofList, read]
    cases trees with
    | nil => cases invocations
    | cons => rfl
  rw [parse, String.toList_ofList, script.isBlankText_text, if_neg (by decide), trees',
    ← invocations]
  rfl

end ShellVet.Shell
