import ShellVet.Shell.Lexer

/-!
# What reading leaves behind

A place moves through a text and loses nothing but line continuations: what lies between two places
is what was read between them, once backslashes before line ends are joined (`Passes`). So do the
readers of quoted text, of substitutions, of words and of tokens. At the end of a text a place may
step back to the line end that closes it, even where the text had none left.
-/

namespace ShellVet.Shell

/-! ## Results with a property -/

/-- Every result of the computation has the property. -/
def Gives {α : Type} (P : α → Prop) (computation : Except ParseError α) : Prop :=
  ∀ result, computation = .ok result → P result

section

variable {α β : Type} {P : α → Prop} {Q : β → Prop}

theorem Gives.pure {result : α} (holds : P result) : Gives P (pure result) := by
  intro _ same
  cases same
  exact holds

theorem Gives.throw (error : ParseError) : Gives P (throw error) := by
  intro _ impossible
  cases impossible

theorem Gives.bind {first : Except ParseError α} {next : α → Except ParseError β}
    (given : Gives P first) (then' : ∀ result, P result → Gives Q (next result)) :
    Gives Q (first >>= next) := by
  intro result done
  cases ran : first with
  | error error =>
    rw [ran] at done
    cases done
  | ok value =>
    rw [ran] at done
    exact then' value (given value ran) result done

theorem Gives.imp {P' : α → Prop} {computation : Except ParseError α} (given : Gives P computation)
    (implies : ∀ result, P result → P' result) : Gives P' computation :=
  fun result done => implies result (given result done)

end

/-! ## Line continuations -/

/-- What a text becomes when some of its line continuations are joined, one after another: joining
may bring a backslash before a line end that was none before. -/
inductive Joins : List Char → List Char → Prop
  | refl (text : List Char) : Joins text text
  | continuation (text : List Char) : Joins ('\\' :: '\n' :: text) text
  | cons {text joined : List Char} (c : Char) : Joins text joined → Joins (c :: text) (c :: joined)
  | trans {text middle joined : List Char} :
    Joins text middle → Joins middle joined → Joins text joined

theorem Joins.append_left {text joined : List Char} (front : List Char)
    (joins : Joins text joined) :
    Joins (front ++ text) (front ++ joined) := by
  induction front with
  | nil => exact joins
  | cons c front ih => exact .cons c ih

theorem Joins.append_right {text joined : List Char} (joins : Joins text joined)
    (back : List Char) : Joins (text ++ back) (joined ++ back) := by
  induction joins with
  | refl text => exact .refl _
  | continuation text => exact .continuation _
  | cons c _ ih => exact .cons c ih
  | trans _ _ first second => exact first.trans second

/-- From the rest `before` of a text reading comes to the rest `after` and gives `read`. Line ends
may be added at the end of the text. -/
def Passes (before read after : List Char) : Prop :=
  ∃ ends, Joins (before ++ List.replicate ends '\n') (read ++ after)

section

variable {before between after read further : List Char}

theorem Passes.of_append (part rest : List Char) : Passes (part ++ rest) part rest :=
  ⟨0, by rw [List.replicate_zero, List.append_nil]; exact .refl _⟩

theorem Passes.refl (rest : List Char) : Passes rest [] rest :=
  .of_append [] rest

theorem Passes.take (c : Char) (rest : List Char) : Passes (c :: rest) [c] rest :=
  .of_append [c] rest

theorem Passes.continuation (rest : List Char) : Passes ('\\' :: '\n' :: rest) [] rest :=
  ⟨0, by rw [List.replicate_zero, List.append_nil]; exact .continuation rest⟩

theorem Passes.ended (rest : List Char) : Passes rest [] (rest ++ ['\n']) :=
  ⟨1, .refl _⟩

theorem Passes.trans (first : Passes before read between) (second : Passes between further after) :
    Passes before (read ++ further) after := by
  obtain ⟨ends, joins⟩ := first
  obtain ⟨ends', joins'⟩ := second
  refine ⟨ends + ends', ?_⟩
  have joined := joins.append_right (List.replicate ends' '\n')
  rw [List.append_assoc, List.replicate_append_replicate, List.append_assoc] at joined
  rw [List.append_assoc]
  exact joined.trans (joins'.append_left read)

/-- A character is read where nothing else is passed. -/
theorem Passes.then_take {c : Char} (passed : Passes before [] (c :: after)) :
    Passes before [c] after :=
  passed.trans (.take c after)

/-- What is read after more was read comes after both. -/
theorem Passes.onward {done further text : List Char} (passed : Passes before read between)
    (same : further = read.reverse ++ done) :
    (∃ rest, text = further.reverse ++ rest ∧ Passes between rest after) →
      ∃ rest, text = done.reverse ++ rest ∧ Passes before rest after := by
  rintro ⟨rest, written, passed'⟩
  refine ⟨read ++ rest, ?_, passed.trans passed'⟩
  rw [written, same, List.reverse_append, List.reverse_reverse, List.append_assoc]

/-- What is joined behind a character that was looked at stays joined. -/
theorem Passes.behind (c : Char) (passed : Passes before [] after) :
    Passes (c :: before) [] (c :: after) :=
  passed.imp fun _ joins => joins.cons c

end

namespace Cursor

theorem passes_nextFrom (joining : Bool) (rest : List Char) (pos : Nat) :
    Passes rest []
      ((nextFrom joining rest pos).1.toList ++ (nextFrom joining rest pos).2.rest) := by
  induction rest, pos using nextFrom.induct joining with
  | case1 pos => exact .refl _
  | case2 rest pos joined ih =>
    rw [nextFrom, if_pos joined]
    exact (Passes.continuation rest).trans ih
  | case3 rest pos kept =>
    rw [nextFrom, if_neg kept]
    exact .refl _
  | case4 c rest pos other =>
    rw [nextFrom]
    · exact .refl _
    · exact other

theorem rest_of_nextFrom_none {joining : Bool} {rest : List Char} {pos : Nat}
    (ended : (nextFrom joining rest pos).1 = none) : (nextFrom joining rest pos).2.rest = [] := by
  induction rest, pos using nextFrom.induct joining with
  | case1 pos => rfl
  | case2 rest pos joined ih =>
    rw [nextFrom, if_pos joined] at ended ⊢
    exact ih ended
  | case3 rest pos kept =>
    rw [nextFrom, if_neg kept] at ended
    cases ended
  | case4 c rest pos other =>
    rw [nextFrom] at ended
    · cases ended
    · exact other

section

variable {joining : Bool} {place after : Cursor} {c? : Option Char}

theorem passes_next (read : place.next joining = (c?, after)) :
    Passes place.rest [] (c?.toList ++ after.rest) := by
  have passed := passes_nextFrom joining place.rest place.pos
  rw [← next, read] at passed
  exact passed

theorem passes_next_some {c : Char} (read : place.next joining = (some c, after)) :
    Passes place.rest [c] after.rest :=
  (passes_next read).then_take

/-- A character taken back is the next one again, and at the end of a text a line end is. -/
theorem passes_next_back (read : place.next joining = (c?, after)) :
    Passes place.rest [] (after.back c?).rest := by
  refine (passes_next read).trans ?_
  cases c? with
  | some c => exact .refl _
  | none =>
    have ended : after.rest = [] := by
      have atEnd := rest_of_nextFrom_none (congrArg Prod.fst read)
      rwa [← next, read] at atEnd
    rw [back]
    split
    · exact .refl _
    · rw [ended]
      exact .ended []

end

theorem passes_toLineEnd (place : Cursor) :
    ∃ read, Passes place.rest read place.toLineEnd.rest := by
  refine ⟨place.rest.takeWhile (· ≠ '\n'), ?_⟩
  have passed := Passes.of_append (place.rest.takeWhile (· ≠ '\n'))
    (place.rest.dropWhile (· ≠ '\n'))
  rwa [List.takeWhile_append_dropWhile] at passed

end Cursor

/-! ## Enclosed text -/

/-- The computation adds to what was done before, in reverse, what it passes from a rest on. -/
def ReadsOn (before done : List Char) (computation : Except ParseError (List Char × Cursor)) :
    Prop :=
  Gives (fun (text, after) =>
    ∃ read, text = done.reverse ++ read ∧ Passes before read after.rest) computation

section

variable {before between done further : List Char} {c : Char}
  {computation : Except ParseError (List Char × Cursor)}

/-- More was read before the computation goes on. -/
theorem ReadsOn.step {read : List Char} (passed : Passes before read between)
    (same : further = read.reverse ++ done) (reads : ReadsOn between further computation) :
    ReadsOn before done computation :=
  reads.imp fun _ => passed.onward same

theorem ReadsOn.push (passed : Passes before [c] between)
    (reads : ReadsOn between (c :: done) computation) : ReadsOn before done computation :=
  .step passed rfl reads

/-- A character and the group it opens are read, and then what follows the group. -/
theorem ReadsOn.group {next : List Char × Cursor → Except ParseError (List Char × Cursor)}
    (passed : Passes before [c] between) (group : ReadsOn between [] computation)
    (then' : ∀ inner after, ReadsOn after.rest (inner.reverse ++ c :: done) (next (inner, after))) :
    ReadsOn before done (computation >>= next) := by
  refine Gives.bind group fun (inner, after) ⟨read, same, passed'⟩ => ?_
  refine ReadsOn.step (passed.trans passed') ?_ (then' inner after)
  rw [same, List.reverse_nil, List.nil_append, List.singleton_append, List.reverse_cons,
    List.append_assoc, List.singleton_append]

theorem ReadsOn.pure {place : Cursor} (passed : Passes before [c] place.rest) :
    ReadsOn before done (pure ((c :: done).reverse, place)) :=
  Gives.pure ⟨[c], List.reverse_cons, passed⟩

end

theorem ReadsOn.ite {before done : List Char} {condition : Prop} [Decidable condition]
    {one other : Except ParseError (List Char × Cursor)}
    (holds : condition → ReadsOn before done one)
    (fails : ¬condition → ReadsOn before done other) :
    ReadsOn before done (if condition then one else other) := by
  split
  case isTrue given => exact holds given
  case isFalse given => exact fails given

/-- With this fuel the readers of enclosed text give what they pass. -/
structure ReadsInside (fuel : Nat) : Prop where
  enclosed : ∀ (e : Enclosure) (s : EnclosureScan) (place : Cursor),
    ReadsOn place.rest s.read (enclosedFrom e fuel s place)
  dollarGroup : ∀ (opener : Char) (place : Cursor),
    ReadsOn place.rest [] (dollarGroupFrom opener fuel place)
  substitution : ∀ place : Cursor, ReadsOn place.rest [] (substitutionFrom fuel place)
  commands : ∀ (s : SubstitutionScan) (place : Cursor),
    ReadsOn place.rest s.read (commandsFrom fuel s place)

/-! What is noted about a substitution on the way does not change the text read. -/

namespace SubstitutionScan

variable (s : SubstitutionScan) (c : Char)

theorem read_leaveDocument : s.leaveDocument.read = s.read := rfl

theorem read_atLineEnd : s.atLineEnd.read = s.read := by
  simp only [atLineEnd, apply_ite SubstitutionScan.read, read_leaveDocument, ite_self]

theorem read_trackDelimiter : (s.trackDelimiter c).read = s.read := by
  unfold trackDelimiter
  split
  · rfl
  split
  · exact (apply_ite ..).trans (ite_self _)
  · simp only [apply_ite SubstitutionScan.read, ite_self]

theorem read_trackReserved : (s.trackReserved c).read = s.read := by
  simp only [trackReserved, apply_ite SubstitutionScan.read, ite_self]

end SubstitutionScan

section

variable {fuel : Nat} (inside : ReadsInside fuel)

include inside

theorem reads_enclosedFrom (e : Enclosure) (s : EnclosureScan) (place : Cursor) :
    ReadsOn place.rest s.read (enclosedFrom e (fuel + 1) s place) := by
  unfold enclosedFrom
  rcases read : place.next (e.joins && !s.escaped) with ⟨c?, after⟩
  dsimp only
  cases c? with
  | none => exact .throw _
  | some c =>
    have passed := Cursor.passes_next_some read
    dsimp only
    split
    · exact .push passed (inside.enclosed e _ after)
    split
    · exact .pure passed
    split
    · exact .push passed (inside.enclosed e _ after)
    split
    · split
      · exact .group passed (inside.enclosed _ _ after) fun _ after => inside.enclosed e _ after
      · exact .push passed (inside.enclosed e _ after)
    split
    · exact .group passed (inside.enclosed _ _ after) fun _ after => inside.enclosed e _ after
    split
    · exact .group passed (inside.dollarGroup c after) fun _ after => inside.enclosed e _ after
    · exact .push passed (inside.enclosed e _ after)

theorem reads_dollarGroupFrom (opener : Char) (place : Cursor) :
    ReadsOn place.rest [] (dollarGroupFrom opener (fuel + 1) place) := by
  unfold dollarGroupFrom
  split
  · exact inside.substitution place
  split
  · exact inside.enclosed _ _ place
  · exact inside.enclosed _ _ place

theorem reads_substitutionFrom (place : Cursor) :
    ReadsOn place.rest [] (substitutionFrom (fuel + 1) place) := by
  unfold substitutionFrom
  split
  · exact inside.enclosed _ _ place
  · exact inside.commands _ place

theorem reads_commandsFrom (s : SubstitutionScan) (place : Cursor) :
    ReadsOn place.rest s.read (commandsFrom (fuel + 1) s place) := by
  unfold commandsFrom
  rcases read : place.next (!s.comment && !s.escaped) with ⟨c?, after⟩
  dsimp -zeta only
  cases c? with
  | none => exact .throw _
  | some c =>
    have passed := Cursor.passes_next_some read
    dsimp -zeta only
    -- a scan goes on after this character, or before the next one that was looked at
    have goOn (s' : SubstitutionScan) (same : s'.read = c :: s.read) :
        ReadsOn place.rest s.read (commandsFrom fuel s' after) :=
      .step passed same (inside.commands s' after)
    extract_lets +onlyGivenNames s₁ s₂
    have same₂ : s₂.read = s.read := by
      simp only [s₂, s₁, apply_ite SubstitutionScan.read, SubstitutionScan.read_leaveDocument,
        SubstitutionScan.read_atLineEnd, ite_self]
    clear_value s₂ s₁
    refine .ite (fun _ => goOn _ (congrArg (c :: ·) same₂)) fun _ => ?_
    refine .ite (fun _ => goOn _ (congrArg (c :: ·) same₂)) fun _ => ?_
    extract_lets +onlyGivenNames s₃
    have same₃ : s₃.read = s.read := same₂
    clear_value s₃
    refine .ite (fun _ => goOn _ (congrArg (c :: ·) same₃)) fun _ => ?_
    extract_lets +onlyGivenNames s₄
    have same₄ : s₄.read = s.read := (s₃.read_trackDelimiter c).trans same₃
    clear_value s₄
    rcases ahead : after.next true with ⟨following, beyond⟩
    have lookedAhead (s' : SubstitutionScan) (same : s'.read = c :: s.read) :
        ReadsOn place.rest s.read (commandsFrom fuel s' (beyond.back following)) :=
      .step (passed.trans (Cursor.passes_next_back ahead)) same (inside.commands s' _)
    have readAhead {d : Char} (found : following = some d) :
        Passes place.rest [c, d] beyond.rest := by
      subst found
      exact passed.trans (Cursor.passes_next_some ahead)
    refine .ite (fun _ => ?_) fun _ => .ite (fun _ => goOn _ (congrArg (c :: ·) same₄)) fun _ => ?_
    · -- a sign between commands, perhaps twice
      extract_lets +onlyGivenNames src s₅
      have same₅ : s₅.read = c :: s.read := congrArg (c :: ·) same₄
      clear_value s₅
      refine .ite (fun twice => ?_) fun _ => lookedAhead _ same₅
      have found := of_decide_eq_true (Bool.and_eq_true_iff.1 twice).1
      exact .step (readAhead found) (congrArg (c :: ·) same₅) (inside.commands _ beyond)
    extract_lets +onlyGivenNames s₅
    have same₅ : s₅.read = s.read := (s₄.read_trackReserved c).trans same₄
    clear_value s₅
    refine .ite (fun less => ?_) fun _ => ?_
    · -- the operator of a here-document, or a sign that starts with the same character
      extract_lets +onlyGivenNames s₆
      have same₆ : s₆.read = c :: s.read := congrArg (c :: ·) same₅
      clear_value s₆
      refine .ite (fun _ => .throw _) fun _ => ?_
      refine .ite (fun found => ?_) fun _ => lookedAhead _ same₆
      extract_lets +onlyGivenNames s₇
      have same₇ : s₇.read = ['<', c] ++ s.read := congrArg ('<' :: ·) same₆
      clear_value s₇
      rcases last : beyond.next true with ⟨third?, final⟩
      cases third? with
      | none => exact .throw _
      | some third =>
        dsimp only
        by_cases dash : third = '-'
        · subst dash
          have passed₃ := (readAhead found).trans (Cursor.passes_next_some last)
          have dashed (s' : SubstitutionScan) (same : s'.read = '-' :: s₇.read) :
              ReadsOn place.rest s.read (commandsFrom fuel s' final) := by
            refine .step passed₃ ?_ (inside.commands s' final)
            rw [same, same₇]
            rfl
          rw [if_pos rfl]
          exact .ite (fun _ => dashed _ rfl) fun _ => dashed _ rfl
        · have passed₃ := (readAhead found).trans (Cursor.passes_next_back last)
          have undashed (s' : SubstitutionScan) (same : s'.read = s₇.read) :
              ReadsOn place.rest s.read (commandsFrom fuel s' (final.back (some third))) :=
            .step passed₃ (same.trans same₇) (inside.commands s' _)
          rw [if_neg dash]
          exact .ite (fun _ => undashed _ rfl) fun _ => undashed _ rfl
    extract_lets +onlyGivenNames s₆ depth before src s₇
    have same₆ : s₆.read = s.read := by
      simp only [s₆, apply_ite SubstitutionScan.read, ite_self]
      exact same₅
    have same₇ : s₇.read = c :: s.read := congrArg (c :: ·) same₆
    clear_value s₇ depth
    rw [same₇]
    refine .ite (fun _ => .pure passed) fun _ => ?_
    extract_lets +onlyGivenNames s₈
    have same₈ : s₈.read = c :: s.read := rfl
    clear_value s₈
    dsimp only
    rw [same₈]
    refine .ite (fun _ => ?_) fun _ => .ite (fun _ => ?_) fun _ => goOn _ same₈
    · exact .group passed (inside.enclosed _ _ after) fun _ after => inside.commands _ after
    · exact .group passed (inside.dollarGroup c after) fun _ after => inside.commands _ after

end

/-- The readers of enclosed text give what they pass, whatever the fuel. -/
theorem readsInside (fuel : Nat) : ReadsInside fuel := by
  induction fuel with
  | zero => constructor <;> intros <;> exact Gives.throw _
  | succ fuel inside =>
    exact {
      enclosed := reads_enclosedFrom inside
      dollarGroup := reads_dollarGroupFrom inside
      substitution := reads_substitutionFrom inside
      commands := reads_commandsFrom inside }

theorem gives_enclosed (e : Enclosure) (place : Cursor) :
    Gives (fun (inner, after) => Passes place.rest inner after.rest) (enclosed e place) := by
  refine ((readsInside _).enclosed e {} place).imp fun (inner, after) ⟨read, same, passed⟩ => ?_
  rw [same]
  exact passed

theorem gives_dollarGroup (opener : Char) (place : Cursor) :
    Gives (fun (inner, after) => Passes place.rest inner after.rest)
      (dollarGroup opener place) := by
  refine ((readsInside _).dollarGroup opener place).imp
    fun (inner, after) ⟨read, same, passed⟩ => ?_
  rw [same]
  exact passed

/-! ## Words -/

/-- The computation adds to the word read before what it passes from a rest on. -/
def WordReadsOn (before done : List Char)
    (computation : Except ParseError (WordScan × Option Char × Cursor)) : Prop :=
  Gives (fun (s, _, after) =>
    ∃ read, s.read.reverse = done.reverse ++ read ∧ Passes before read after.rest) computation

theorem WordReadsOn.step {before between read done further : List Char}
    {computation : Except ParseError (WordScan × Option Char × Cursor)}
    (passed : Passes before read between) (same : further = read.reverse ++ done)
    (reads : WordReadsOn between further computation) : WordReadsOn before done computation :=
  reads.imp fun _ => passed.onward same

/-- A word is the text passed from its first character on. -/
theorem reads_wordFrom (fuel : Nat) (s : WordScan) (c? : Option Char) (place : Cursor) :
    WordReadsOn (c?.toList ++ place.rest) s.read (wordFrom fuel s c? place) := by
  induction fuel generalizing s c? place with
  | zero =>
    rw [wordFrom]
    exact .throw _
  | succ fuel ih =>
    cases c? with
    | none =>
      rw [wordFrom]
      · exact .pure ⟨[], (List.append_nil _).symm, .refl _⟩
      · nofun
    | some c =>
      unfold wordFrom
      extract_lets +onlyGivenNames goOn stopOrPush
      -- the text read so far is the word so far, and the rest comes from the next step
      have goesOn {s' : WordScan} {read : List Char} {after : Cursor}
          (passed : Passes (c :: place.rest) read after.rest)
          (same : s'.read = read.reverse ++ s.read) :
          WordReadsOn (c :: place.rest) s.read (goOn s' after) :=
        .step passed same (.step (Cursor.passes_next rfl) rfl (ih s' _ _))
      have stopsOrPushes {after : Cursor} (passed : Passes place.rest [] after.rest) :
          WordReadsOn (c :: place.rest) s.read (stopOrPush after) := by
        dsimp only [stopOrPush]
        split
        · exact .pure ⟨[], (List.append_nil _).symm, passed.behind c⟩
        · exact goesOn ((Passes.take c _).trans passed) rfl
      have first := Passes.take c place.rest
      split
      · rcases ahead : place.next false with ⟨following, after⟩
        dsimp only
        split
        case isTrue joined =>
          have lineEnd := Cursor.passes_next (joined ▸ ahead)
          have escaped : c = '\\' := by assumption
          exact goesOn (escaped ▸ (lineEnd.behind '\\').trans (.continuation _)) rfl
        case isFalse =>
          split
          · exact goesOn (first.trans (Cursor.passes_next_some ahead)) rfl
          · exact goesOn (first.trans (Cursor.passes_next ahead)) rfl
      split
      · refine (gives_enclosed _ _).bind fun (inner, after) passed => ?_
        exact goesOn (first.trans passed) rfl
      split
      · rcases ahead : place.next true with ⟨following, after⟩
        have looked := Cursor.passes_next_back ahead
        -- a group opens with the two characters read, and its inside follows
        have group {d : Char} {s' : WordScan} {inner : List Char} {end' : Cursor}
            (found : following = some d) (passed : Passes after.rest inner end'.rest)
            (same : s'.read = (c :: d :: inner).reverse ++ s.read) :
            WordReadsOn (c :: place.rest) s.read (goOn s' end') := by
          subst found
          exact goesOn ((first.trans (Cursor.passes_next_some ahead)).trans passed) same
        dsimp only
        split
        · refine (gives_dollarGroup _ _).bind fun (inner, end') passed => ?_
          exact group rfl passed rfl
        · split
          · refine (gives_dollarGroup _ _).bind fun (inner, end') passed => ?_
            exact group rfl passed rfl
          split
          · refine (gives_enclosed _ _).bind fun (inner, end') passed => ?_
            exact group rfl passed rfl
          split
          · exact group rfl (.refl _) rfl
          · exact stopsOrPushes looked
        · split
          · exact .throw _
          · exact stopsOrPushes looked
      · exact stopsOrPushes (.refl _)

/-! ## Tokens -/

theorem passes_operatorFrom {c : Char} {place after : Cursor} {sign : Operator}
    (starts : isMeta c = true) (found : operatorFrom c place = some (sign, after)) :
    Passes (c :: place.rest) sign.text.toList after.rest := by
  have first := Passes.take c place.rest
  rcases ahead : place.next true with ⟨following, beyond⟩
  rcases last : beyond.next true with ⟨third, final⟩
  have single := first.trans (Cursor.passes_next_back ahead)
  have double {d : Char} (same : following = some d) :
      Passes (c :: place.rest) [c, d] beyond.rest :=
    first.trans (Cursor.passes_next_some (same ▸ ahead))
  -- a third character may make the operator longer
  have longer {d e : Char} {long short : Operator} (same : following = some d)
      (found : (if third = some e then some (long, final) else some (short, final.back third)) =
        some (sign, after))
      (longText : long.text.toList = [c, d, e]) (shortText : short.text.toList = [c, d]) :
      Passes (c :: place.rest) sign.text.toList after.rest := by
    split at found
    case isTrue reached =>
      cases found
      rw [longText]
      exact (double same).trans (Cursor.passes_next_some (reached ▸ last))
    case isFalse =>
      cases found
      rw [shortText]
      exact (double same).trans (Cursor.passes_next_back last)
  unfold operatorFrom at found
  rw [ahead] at found
  dsimp only at found
  rw [last] at found
  dsimp only at found
  split at found
  case h_1 =>
    split at found
    case isTrue reached =>
      cases found
      exact (double rfl).trans (Cursor.passes_next_some (reached ▸ last))
    case isFalse => exact longer rfl found rfl rfl
  case h_3 | h_10 => exact longer rfl found rfl rfl
  case h_13 | h_14 => cases found
  case h_15 | h_16 | h_17 | h_18 | h_19 | h_20 =>
    cases found
    exact single
  case h_21 notBracket =>
    cases found
    have closing : c = ')' := by
      simp only [isMeta, decide_eq_true_eq] at starts
      simp_all
    subst closing
    exact single
  all_goals
    cases found
    exact double rfl

theorem Cursor.passes_lineFrom {rest line : List Char} {pos : Nat} {after : Cursor}
    (found : lineFrom rest pos = some (line, after)) : Passes rest (line ++ ['\n']) after.rest := by
  induction rest, pos using lineFrom.induct generalizing line with
  | case1 pos => cases found
  | case2 rest pos ih => exact (Passes.continuation rest).trans (ih found)
  | case3 rest pos =>
    cases found
    exact .take '\n' rest
  | case4 c rest pos notJoined notEnd ih =>
    rw [lineFrom] at found
    · obtain ⟨⟨more, end'⟩, below, same⟩ := Option.map_eq_some_iff.1 found
      cases same
      exact (Passes.take c rest).trans (ih below)
    · exact notJoined
    · exact notEnd

/-- The lines of a here-document are passed. -/
theorem gives_documentEnd (document : PendingDocument) (lines : Nat) (place : Cursor) :
    Gives (fun after => ∃ read, Passes place.rest read after.rest)
      (documentEnd document lines place) := by
  induction lines generalizing place with
  | zero => exact .throw _
  | succ lines ih =>
    rw [documentEnd]
    split
    · exact .throw _
    case h_2 line after found =>
      have passed : Passes place.rest _ after.rest := Cursor.passes_lineFrom found
      refine iteInduction (motive := Gives _) (fun _ => .pure ⟨_, passed⟩) fun _ => ?_
      exact (ih after).imp fun _ ⟨_, further⟩ => ⟨_, passed.trans further⟩

theorem gives_readDocuments (offset : Nat) (documents : List PendingDocument) (place : Cursor) :
    Gives (fun (_, after) => ∃ read, Passes place.rest read after.rest)
      (readDocuments offset documents place) := by
  induction documents generalizing place with
  | nil => exact .pure ⟨[], .refl _⟩
  | cons document rest ih =>
    refine (gives_documentEnd document _ place).bind fun after ⟨_, passed⟩ => ?_
    refine (ih after).bind fun (_, end') ⟨_, further⟩ => ?_
    exact .pure ⟨_, passed.trans further⟩

namespace Lexer

theorem gives_gather (lx : Lexer) (offset : Nat) :
    Gives (fun after => ∃ read, Passes lx.place.rest read after.place.rest) (lx.gather offset) :=
  (gives_readDocuments offset lx.pending lx.place).bind fun (_, _) passed => .pure passed

theorem place_specialWord (lx : Lexer) (text : List Char) :
    (lx.specialWord text).2.place = lx.place := by
  unfold specialWord
  simp only [apply_ite Prod.snd, apply_ite Lexer.place, ite_self]

theorem place_reservedWord (lx : Lexer) (s : WordScan) (text : List Char) :
    (lx.reservedWord s text).2.place = lx.place := by
  unfold reservedWord
  repeat' split
  all_goals rfl

/-- The text of a word is what is passed to its end. -/
theorem gives_word (lx : Lexer) (start : Nat) (c : Char) :
    Gives (fun (token, after) => Passes (c :: lx.place.rest) token.text after.place.rest)
      (lx.word start c) := by
  refine Gives.bind (reads_wordFrom _ _ _ _) fun (s, ended, place) ⟨read, same, passed⟩ => ?_
  have whole : Passes (c :: lx.place.rest) s.read.reverse place.rest := same ▸ passed
  dsimp -zeta only
  extract_lets text after token isNumber decided
  split
  · exact .throw _
  dsimp only [decided]
  split
  · exact .pure whole
  have special := after.place_specialWord text
  split
  case h_1 name after' found =>
    rw [found] at special
    exact .pure (special ▸ whole)
  case h_2 after' found =>
    rw [found] at special
    have reserved := after'.place_reservedWord s text
    split
    case h_1 name last found' =>
      rw [found'] at reserved
      exact .pure (reserved.trans special ▸ whole)
    case h_2 last found' =>
      rw [found'] at reserved
      have kept : last.place = after.place := reserved.trans special
      have whole : Passes (c :: lx.place.rest) text last.place.rest := kept ▸ whole
      exact .pure (iteInduction
        (motive := fun lexer : Lexer => Passes (c :: lx.place.rest) text lexer.place.rest)
        (fun _ => whole) fun _ => whole)

end Lexer

theorem reaches_skipBlanks {fuel : Nat} {place after : Cursor} {c? : Option Char}
    (skipped : skipBlanks fuel place = (c?, after)) :
    ∃ read, Passes place.rest read (c?.toList ++ after.rest) := by
  induction fuel generalizing place with
  | zero =>
    cases skipped
    exact ⟨[], .refl _⟩
  | succ fuel ih =>
    rw [skipBlanks] at skipped
    rcases read : place.next true with ⟨_ | c, beyond⟩
    · rw [read] at skipped
      cases skipped
      exact ⟨[], Cursor.passes_next read⟩
    · rw [read] at skipped
      dsimp only at skipped
      have first := Cursor.passes_next_some read
      split at skipped
      · obtain ⟨_, passed⟩ := ih skipped
        exact ⟨_, first.trans passed⟩
      split at skipped
      · obtain ⟨_, passed⟩ := Cursor.passes_toLineEnd beyond
        exact ⟨_, (first.trans passed).trans (Cursor.passes_next skipped)⟩
      · cases skipped
        exact ⟨[], Cursor.passes_next read⟩

namespace Lexer

/-- The text of the token stands in what the lexer passes to come to its next place. -/
def Finds (lx : Lexer) (found : Token × Lexer) : Prop :=
  ∃ read, found.1.text <:+: read ∧ Passes lx.place.rest read found.2.place.rest

theorem gives_token (lx : Lexer) (offset : Nat) : Gives lx.Finds (lx.token offset) := by
  unfold token
  rcases skipped : skipBlanks (lx.place.rest.length + 1) lx.place with ⟨c?, place⟩
  obtain ⟨blanks, before⟩ := reaches_skipBlanks skipped
  -- the token follows the blanks
  have finds {token : Token} {further : List Char} {after : Lexer} (part : token.text <:+: further)
      (passed : Passes (c?.toList ++ place.rest) further after.place.rest) :
      lx.Finds (token, after) :=
    ⟨blanks ++ further, part.trans (List.suffix_append _ _).isInfix, before.trans passed⟩
  dsimp -zeta only
  cases c? with
  | none => exact .pure (finds List.infix_rfl (.refl _))
  | some c =>
    have first := Passes.take c place.rest
    have word (lx' : Lexer) (start : Nat) (here : lx'.place = place) :
        Gives lx.Finds (lx'.word start c) :=
      (lx'.gives_word start c).imp fun (_, _) passed => finds List.infix_rfl (here ▸ passed)
    dsimp only
    split
    case isTrue lineEnd =>
      refine (gives_gather _ offset).bind fun after ⟨_, passed⟩ => .pure ?_
      exact finds (lineEnd ▸ (List.prefix_append _ _).isInfix) (first.trans passed)
    split
    case isTrue sign =>
      split
      case h_1 found => exact .pure (finds List.infix_rfl (passes_operatorFrom sign found))
      case h_2 => exact word _ _ rfl
    split
    case isTrue dash =>
      have same : c = '-' := of_decide_eq_true (Bool.and_eq_true_iff.1 dash).1
      exact .pure (finds (same ▸ List.infix_rfl) first)
    case isFalse => exact word _ _ rfl

theorem gives_read (lx : Lexer) (offset : Nat) : Gives lx.Finds (lx.read offset) :=
  (lx.gives_token offset).bind fun (_, _) finds => .pure finds

end Lexer

end ShellVet.Shell
