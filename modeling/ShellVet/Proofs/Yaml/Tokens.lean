import ShellVet.Proofs.Yaml.Scalars
import ShellVet.Yaml.Lexer

/-!
# Reading tokens

The names of aliases and anchors stand in the text behind their signs, and what ends the tokens is a
fault of the text (`stand_tokensOf`). A step of the lexer goes on in the text and adds such tokens
only.
-/

namespace ShellVet.Yaml

variable {text : List Char} {place : Place}

/-- If the token is an alias or an anchor, its name stands in the text behind its sign. -/
def Token.StandsIn (text : List Char) : Token → Prop
  | .alias name => '*' :: name.toList <:+: text
  | .anchor name => '&' :: name.toList <:+: text
  | _ => True

namespace Lexer

/-! ## Single tokens -/

theorem readsIn_escapedBytes (fuel : Nat) (part : place.IsIn text) :
    ReadsIn text (escapedBytes fuel place) := by
  induction fuel generalizing place with
  | zero => exact part
  | succ fuel ih =>
    unfold escapedBytes
    split
    · dsimp only
      split
      · exact (ih (part.steps 3)).bind fun read last => last
      · trivial
    · exact part

theorem readsIn_tagRest (fuel : Nat) (part : place.IsIn text) :
    ReadsIn text (tagRest fuel place) := by
  induction fuel generalizing place with
  | zero => exact part
  | succ fuel ih =>
    unfold tagRest
    split
    · exact (ih part.step).bind fun read last => last
    · split
      · refine (readsIn_escapedBytes _ part).bind fun read after => ?_
        dsimp only
        split
        · trivial
        · exact (ih after).bind fun read last => last
      · exact part

theorem readsIn_tagSuffix (part : place.IsIn text) : ReadsIn text (tagSuffix place) := by
  refine (readsIn_tagRest _ part).bind fun read after => ?_
  dsimp only
  split
  · trivial
  · exact after

theorem readsIn_tagHandle (part : place.IsIn text) : ReadsIn text (tagHandle place) := by
  unfold tagHandle
  split
  · trivial
  · split
    · exact part.step
    · dsimp only
      split
      · exact (part.steps _).step
      · trivial

theorem readsIn_directiveNumber (part : place.IsIn text) :
    ReadsIn text (directiveNumber place) := by
  unfold directiveNumber
  dsimp only
  split
  · trivial
  · exact part.steps _

theorem readsIn_directive (part : place.IsIn text) : ReadsIn text (directive place) := by
  have ended (found : Directive) {after : Place} (inside : after.IsIn text) :
      ReadsIn text (do return (found, ← restOfLine after)) :=
    (settles_restOfLine inside).bind fun _ last => last
  have behind := part.steps ((place.step.ahead isNameChar).length + 1)
  unfold directive
  dsimp only
  -- what is read further on does not depend on how long the name of the directive is
  generalize place.steps ((place.step.ahead isNameChar).length + 1) = after at behind ⊢
  split
  · trivial
  · split
    · refine (readsIn_directiveNumber behind.skipBlanks).bind fun major after => ?_
      split
      · trivial
      · refine (readsIn_directiveNumber after.step).bind fun minor last => ?_
        split
        · trivial
        · rw [pure_bind]
          exact ended _ last
    · split
      · refine (readsIn_tagHandle behind.skipBlanks).bind fun handle after => ?_
        split
        · trivial
        · refine (readsIn_tagSuffix after.skipBlanks).bind fun stem last => ?_
          split
          · trivial
          · rw [pure_bind]
            exact ended _ last
      · rw [pure_bind]
        exact ended .other behind.skipLine

/-- The name of an anchor or alias comes at the place it is read from. -/
theorem settles_anchorName (part : place.IsIn text) :
    Settles (fun read => read.1.toList <+: place.rest ∧ read.2.IsIn text) (Fault.IsOf text)
      (anchorName place) := by
  unfold anchorName
  dsimp only
  split
  · trivial
  · refine ⟨?_, part.steps _⟩
    rw [String.toList_ofList]
    exact List.takeWhile_prefix _

theorem settles_tag (part : place.IsIn text) :
    Settles (fun read => read.1.StandsIn text ∧ read.2.IsIn text) (Fault.IsOf text)
      (tag place) := by
  have ended (handle : Option String) (suffix : String) {after : Place}
      (inside : after.IsIn text) :
      Settles (fun read => read.1.StandsIn text ∧ read.2.IsIn text) (Fault.IsOf text)
        (if !isBlankEnd after.next then do
          throw Fault.malformed
          return (Token.tag handle suffix, after)
        else pure (Token.tag handle suffix, after)) := by
    split
    · trivial
    · exact ⟨trivial, inside⟩
  unfold tag
  split
  · refine (readsIn_tagSuffix (part.steps 2)).bind fun suffix after => ?_
    dsimp only
    split
    · trivial
    · exact ended _ _ after.step
  · split
    · exact ended _ _ part.step
    · split
      · refine (readsIn_tagHandle part).bind fun handle after => ?_
        exact (readsIn_tagSuffix after).bind fun suffix last => ended _ _ last
      · exact (readsIn_tagSuffix part.step).bind fun suffix after => ended _ _ after

/-! ## Steps -/

/-- The lexer is at a place in the text, and the names in its tokens stand there. -/
structure IsIn (lexer : Lexer) (text : List Char) : Prop where
  place : lexer.place.IsIn text
  tokens : ∀ token ∈ lexer.tokens, token.StandsIn text

/-- The step leads to such a lexer, or its fault is one of the text. -/
def GoesOn (text : List Char) : Step → Prop :=
  Settles (fun after => after.IsIn text) (Fault.IsOf text)

variable {lexer : Lexer}

section

variable (inside : lexer.IsIn text)

include inside

theorem IsIn.push (token : Token) (stands : token.StandsIn text) : (lexer.push token).IsIn text :=
  ⟨inside.place, List.forall_mem_cons.mpr ⟨stands, inside.tokens⟩⟩

theorem IsIn.advance (count : Nat) : (lexer.advance count).IsIn text :=
  ⟨inside.place.steps count, inside.tokens⟩

theorem IsIn.insertAt (number : Nat) (token : Token) (stands : token.StandsIn text) :
    (lexer.insertAt number token).IsIn text := by
  refine ⟨inside.place, fun other among => ?_⟩
  rcases List.mem_append.mp among with earlier | later
  · exact inside.tokens other (List.mem_of_mem_take earlier)
  · rcases List.mem_cons.mp later with rfl | later
    · exact stands
    · exact inside.tokens other (List.mem_of_mem_drop later)

theorem goesOn_dropStale : GoesOn text lexer.dropStale := by
  unfold dropStale
  dsimp only
  split
  · trivial
  · exact ⟨inside.place, inside.tokens⟩

end

/-- Candidates are dropped without a change of the place and the tokens. -/
theorem settles_dropCandidate (lexer : Lexer) :
    Settles (fun after => after.place = lexer.place ∧ after.tokens = lexer.tokens)
      (Fault.IsOf text) lexer.dropCandidate := by
  unfold dropCandidate
  split
  · exact ⟨rfl, rfl⟩
  · split
    · trivial
    · exact ⟨rfl, rfl⟩

theorem settles_saveCandidate (lexer : Lexer) :
    Settles (fun after => after.place = lexer.place ∧ after.tokens = lexer.tokens)
      (Fault.IsOf text) lexer.saveCandidate := by
  unfold saveCandidate
  split
  · exact ⟨rfl, rfl⟩
  · exact Settles.bind (settles_dropCandidate lexer) fun after same => same

theorem IsIn.of_eq {other : Lexer} (inside : lexer.IsIn text)
    (same : other.place = lexer.place ∧ other.tokens = lexer.tokens) : other.IsIn text := by
  obtain ⟨place, tokens⟩ := same
  exact ⟨place ▸ inside.place, tokens ▸ inside.tokens⟩

section

variable (inside : lexer.IsIn text)

include inside

theorem goesOn_dropCandidate : GoesOn text lexer.dropCandidate :=
  (settles_dropCandidate lexer).imp fun _ same => inside.of_eq same

theorem goesOn_saveCandidate : GoesOn text lexer.saveCandidate :=
  (settles_saveCandidate lexer).imp fun _ same => inside.of_eq same

theorem isIn_unwindTo (column : Nat) (outer : List Nat) :
    (unwindTo column outer lexer).IsIn text := by
  induction outer generalizing lexer with
  | nil => exact inside
  | cons next rest ih =>
    unfold unwindTo
    split
    · exact ih ⟨inside.place, List.forall_mem_cons.mpr ⟨trivial, inside.tokens⟩⟩
    · exact inside

theorem isIn_unwind (column : Nat) : (lexer.unwind column).IsIn text := by
  unfold unwind
  split
  · exact isIn_unwindTo inside _ _
  · exact inside

theorem isIn_openBlock (column : Nat) : (lexer.openBlock column).2.IsIn text := by
  unfold openBlock
  split
  · exact ⟨inside.place, inside.tokens⟩
  · exact inside

theorem isIn_openIf (column : Nat) :
    (if lexer.depth = 0 then lexer.openBlock column else (false, lexer)).2.IsIn text := by
  split
  · exact isIn_openBlock inside column
  · exact inside

theorem isIn_startIf (opened : Bool) (number : Nat) :
    (if opened then lexer.insertAt number .blockMappingStart else lexer).IsIn text := by
  split
  · exact inside.insertAt number .blockMappingStart trivial
  · exact inside

theorem isIn_skipToToken (fuel : Nat) : (skipToToken fuel lexer).IsIn text := by
  induction fuel generalizing lexer with
  | zero => exact inside
  | succ fuel ih =>
    have next : (if lexer.place.skipBlanks.next == '#' then lexer.place.skipBlanks.skipLine
        else lexer.place.skipBlanks).IsIn text := by
      split
      · exact inside.place.skipBlanks.skipLine
      · exact inside.place.skipBlanks
    unfold skipToToken
    dsimp only
    generalize (if lexer.place.skipBlanks.next == '#' then lexer.place.skipBlanks.skipLine
      else lexer.place.skipBlanks) = place at next ⊢
    split
    · exact ih ⟨next.lineBreak, inside.tokens⟩
    · exact ⟨next, inside.tokens⟩

theorem goesOn_endBlocks : GoesOn text lexer.endBlocks :=
  (goesOn_dropCandidate (isIn_unwind inside 0)).bind fun _ after => ⟨after.place, after.tokens⟩

theorem goesOn_keyToken {read : Place → Except Fault (Token × Place)}
    (reads : Settles (fun read => read.1.StandsIn text ∧ read.2.IsIn text) (Fault.IsOf text)
      (read lexer.place)) : GoesOn text (lexer.keyToken read) := by
  refine Settles.bind (settles_saveCandidate lexer) fun saved same => ?_
  rw [← same.1] at reads
  exact reads.bind fun found after =>
    ⟨after.2, List.forall_mem_cons.mpr ⟨after.1, (inside.of_eq same).tokens⟩⟩

theorem goesOn_openBracket {token : Token} (stands : token.StandsIn text) :
    GoesOn text (lexer.openBracket token) :=
  (goesOn_saveCandidate inside).bind fun _ after =>
    ((after.push _ stands).advance 1).of_eq ⟨rfl, rfl⟩

theorem goesOn_closeBracket {token : Token} (stands : token.StandsIn text) :
    GoesOn text (lexer.closeBracket token) :=
  (goesOn_dropCandidate inside).bind fun _ after =>
    ((after.push _ stands).advance 1).of_eq ⟨rfl, rfl⟩

theorem goesOn_flowEntry : GoesOn text lexer.flowEntry :=
  (goesOn_dropCandidate inside).bind fun _ after =>
    ((after.push .flowEntry trivial).advance 1).of_eq ⟨rfl, rfl⟩

theorem goesOn_blockSign (start : Token) (stands : start.StandsIn text) :
    GoesOn text (lexer.blockSign start) := by
  have opened := isIn_openBlock inside lexer.column
  unfold blockSign
  split
  · exact inside
  · split
    · trivial
    · dsimp only
      split
      · exact opened.push _ stands
      · exact opened

theorem goesOn_blockEntry : GoesOn text lexer.blockEntry := by
  refine (goesOn_blockSign inside .blockSequenceStart trivial).bind fun _ signed => ?_
  exact (goesOn_dropCandidate signed).bind fun _ after =>
    ((after.push .blockEntry trivial).advance 1).of_eq ⟨rfl, rfl⟩

theorem goesOn_complexSign {token : Token} (stands : token.StandsIn text) :
    GoesOn text (lexer.complexSign token) := by
  refine (goesOn_blockSign inside .blockMappingStart trivial).bind fun _ signed => ?_
  exact (goesOn_dropCandidate signed).bind fun _ after =>
    ((after.push _ stands).advance 1).of_eq ⟨rfl, rfl⟩

theorem goesOn_valueSign : GoesOn text lexer.valueSign := by
  unfold valueSign
  split
  · exact goesOn_complexSign inside trivial
  · next candidate _ =>
    have dropped : ({ lexer with
        candidates := lexer.candidates.filter fun entry => entry.1 != lexer.depth
        keyAllowed := false } : Lexer).IsIn text := inside.of_eq ⟨rfl, rfl⟩
    have keyed := dropped.insertAt candidate.number .key trivial
    have opened := isIn_openIf keyed candidate.column
    exact ((isIn_startIf opened _ _).push .value trivial).advance 1

theorem goesOn_blockScalarToken (folded : Bool) :
    GoesOn text (lexer.blockScalarToken folded) := by
  have allowed : ({ lexer with keyAllowed := true } : Lexer).IsIn text := inside.of_eq ⟨rfl, rfl⟩
  refine (goesOn_dropCandidate allowed).bind fun _ dropped => ?_
  exact (readsIn_blockScalar _ _ dropped.place.step).bind fun read after =>
    ⟨after, List.forall_mem_cons.mpr ⟨trivial, dropped.tokens⟩⟩

theorem goesOn_plainToken : GoesOn text lexer.plainToken :=
  (goesOn_saveCandidate inside).bind fun _ saved =>
    ⟨isIn_plainScalar _ _ saved.place, List.forall_mem_cons.mpr ⟨trivial, saved.tokens⟩⟩

theorem goesOn_documentMark {token : Token} (stands : token.StandsIn text) :
    GoesOn text (lexer.documentMark token) :=
  (goesOn_endBlocks inside).bind fun _ after => (after.push _ stands).advance 3

theorem goesOn_directiveToken : GoesOn text lexer.directiveToken := by
  refine (goesOn_endBlocks inside).bind fun _ ended => ?_
  exact (readsIn_directive ended.place).bind fun read after =>
    ⟨after, List.forall_mem_cons.mpr ⟨trivial, ended.tokens⟩⟩

/-- An alias or an anchor is named behind its sign. -/
theorem goesOn_named {sign : Char} {make : String → Token} (signs : lexer.place.next = sign)
    (some : sign ≠ endChar)
    (stands : ∀ name : String, sign :: name.toList <:+: text → (make name).StandsIn text) :
    GoesOn text (lexer.keyToken fun place =>
      (anchorName place.step).map fun (name, after) => (make name, after)) := by
  refine goesOn_keyToken inside ?_
  refine (settles_anchorName inside.place.step).map fun read after => ⟨stands _ ?_, after.2⟩
  have behind : sign :: read.1.toList <+: lexer.place.rest := by
    rw [next_cons some signs]
    exact (List.prefix_cons_inj _).mpr after.1
  exact behind.isInfix.trans inside.place.isInfix

theorem goesOn_token : GoesOn text lexer.token := by
  unfold token
  dsimp only
  refine .ite (fun _ => goesOn_directiveToken inside) fun _ => ?_
  refine .ite (fun _ => goesOn_documentMark inside trivial) fun _ => ?_
  refine .ite (fun _ => goesOn_documentMark inside trivial) fun _ => ?_
  refine .ite (fun _ => goesOn_openBracket inside trivial) fun _ => ?_
  refine .ite (fun _ => goesOn_openBracket inside trivial) fun _ => ?_
  refine .ite (fun _ => goesOn_closeBracket inside trivial) fun _ => ?_
  refine .ite (fun _ => goesOn_closeBracket inside trivial) fun _ => ?_
  refine .ite (fun _ => goesOn_flowEntry inside) fun _ => ?_
  refine .ite (fun _ => goesOn_blockEntry inside) fun _ => ?_
  refine .ite (fun _ => goesOn_complexSign inside trivial) fun _ => ?_
  refine .ite (fun _ => goesOn_valueSign inside) fun _ => ?_
  refine .ite (fun sign => goesOn_named inside (eq_of_beq sign) (by decide) fun _ => id) fun _ => ?_
  refine .ite (fun sign => goesOn_named inside (eq_of_beq sign) (by decide) fun _ => id) fun _ => ?_
  refine .ite (fun _ => goesOn_keyToken inside (settles_tag inside.place)) fun _ => ?_
  refine .ite (fun _ => goesOn_blockScalarToken inside false) fun _ => ?_
  refine .ite (fun _ => goesOn_blockScalarToken inside true) fun _ => ?_
  refine .ite (fun _ => goesOn_keyToken inside ?_) fun _ => ?_
  · exact (readsIn_quotedScalar inside.place).map fun _ after => ⟨trivial, after⟩
  · exact .ite (fun _ => goesOn_plainToken inside) fun _ => trivial

end

/-! ## Runs -/

/-- The names in the tokens stand in the text, and the fault behind them, if there is one, is of
it. -/
structure Stand (text : List Char) (read : List Token × Option Fault) : Prop where
  tokens : ∀ token ∈ read.1, token.StandsIn text
  fault : (read.2.getD .malformed).IsOf text

theorem IsIn.stand (inside : lexer.IsIn text) (fault : Option Fault)
    (ends : (fault.getD .malformed).IsOf text) : Stand text (lexer.tokens.reverse, fault) :=
  ⟨fun token among => inside.tokens token (List.mem_reverse.mp among), ends⟩

theorem run_succ (fuel : Nat) (lexer : Lexer) :
    run (fuel + 1) lexer =
      let skipped := skipToToken (lexer.place.rest.length + 1) lexer
      match skipped.dropStale with
      | .error fault => (skipped.tokens.reverse, some fault)
      | .ok current =>
        let current := current.unwind current.column
        if current.place.rest.isEmpty then
          match (current.unwind 0).dropCandidate with
          | .ok last => ((Token.streamEnd :: last.tokens).reverse, none)
          | .error fault => (current.tokens.reverse, some fault)
        else
          match current.token with
          | .ok after => run fuel after
          | .error fault => (current.tokens.reverse, some fault) := by
  -- `unfold run` runs out of time over the nested matches, so the equation is checked as it stands
  with_unfolding_all rfl

theorem stand_run (fuel : Nat) (inside : lexer.IsIn text) : Stand text (run fuel lexer) := by
  induction fuel generalizing lexer with
  | zero => exact inside.stand (some .malformed) trivial
  | succ fuel ih =>
    have skipped := isIn_skipToToken inside (lexer.place.rest.length + 1)
    have fresh := goesOn_dropStale skipped
    rw [run_succ]
    dsimp only
    split
    · next fault stale =>
      rw [stale] at fresh
      exact skipped.stand (some fault) fresh
    · next current known =>
      rw [known] at fresh
      have unwound := isIn_unwind fresh current.column
      split
      · have ended := goesOn_dropCandidate (isIn_unwind unwound 0)
        split
        · next last ends =>
          rw [ends] at ended
          exact (ended.push .streamEnd trivial).stand none trivial
        · next fault fails =>
          rw [fails] at ended
          exact unwound.stand (some fault) ended
      · have moved := goesOn_token unwound
        split
        · next after goes =>
          rw [goes] at moved
          exact ih moved
        · next fault fails =>
          rw [fails] at moved
          exact unwound.stand (some fault) moved

end Lexer

/-- The names in the tokens of a text stand in it, and what ends them is a fault of it. -/
theorem stand_tokensOf (text : List Char) : Lexer.Stand text (tokensOf text) := by
  have start : Place.IsIn ⟨text, 0, 0, 0⟩ text := List.suffix_rfl
  unfold tokensOf
  dsimp only
  split
  · exact Lexer.stand_run _ ⟨start.step, nofun⟩
  · exact Lexer.stand_run _ ⟨start, nofun⟩

end ShellVet.Yaml
