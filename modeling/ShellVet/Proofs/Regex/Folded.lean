import ShellVet.Proofs.Text.Folded
import ShellVet.Regex.Match

/-!
# Matching without regard to letter case

A pattern folds if each of its sets and each of its references looks through letter case. Such a
pattern goes through a folded text as through the text itself, place by place (`run_folded`); so a
search finds the same place and the same number of characters in any two texts that differ in the
case of letters of ASCII alone (`place_search_of_folded_eq`).
-/

namespace ShellVet

open Text

/-- The place in the folded text. -/
def Spot.folded (spot : Spot) : Spot :=
  ⟨spot.pos, Text.folded spot.before, Text.folded spot.after⟩

/-- The texts remembered, in the folded text. -/
def Captures.folded (captures : Captures) : Captures :=
  captures.map fun capture => (capture.1, capture.2.1.folded, capture.2.2.folded)

/-- The match in the folded text. -/
def Match.folded (found : Match) : Match :=
  ⟨found.start, Text.folded found.text⟩

/-! ## Sets -/

/-- A caseless range holds a character that has a source in the range. -/
theorem CharItem.has_range_full (c first last : Char) :
    CharItem.has .full c (.range first last) =
      (Folding.full.sources (Folding.full.lower c)).any fun source =>
        first ≤ source && source ≤ last := by
  unfold CharItem.has
  rw [Bool.or_eq_right_iff_imp]
  intro within
  rw [Bool.and_eq_true, beq_iff_eq] at within
  obtain ⟨within, lower⟩ := within
  refine List.any_eq_true.mpr ⟨c, ?_, within⟩
  rw [lower]
  refine List.mem_flatMap.mpr ⟨c, List.mem_cons_self, ?_⟩
  have small : lowerChar c = c := lower
  unfold lowerSources
  simp [small]

theorem CharItem.has_toLower (c : Char) (item : CharItem) :
    item.has .full c.toLower = item.has .full c := by
  have same : Folding.full.lower c.toLower = Folding.full.lower c := lowerChar_toLower c
  cases item with
  | char wanted =>
    unfold CharItem.has Folding.same
    dsimp only
    rw [lowerChar_toLower]
  | range first last => rw [has_range_full, has_range_full, same]
  | «class» kind asciiOnly outside =>
    unfold CharItem.has
    rw [same]

theorem CharSet.has_toLower {set : CharSet} (folds : set.folding = .full) (c : Char) :
    set.has c.toLower = set.has c := by
  unfold CharSet.has
  rw [folds]
  simp only [CharItem.has_toLower]

theorem CharClass.has_word_toLower (asciiOnly : Bool) (c : Char) :
    CharClass.word.has asciiOnly c.toLower = CharClass.word.has asciiOnly c := by
  cases asciiOnly with
  | false => exact isNameChar_toLower c
  | true => exact eq_toLower (CharClass.word.has true) (by decide) c

/-! ## Places -/

theorem Spot.next?_folded (spot : Spot) :
    spot.folded.next? = spot.next?.map fun next => (next.1.toLower, next.2.folded) := by
  obtain ⟨pos, before, after⟩ := spot
  cases after <;> rfl

theorem Spot.back?_folded (spot : Spot) (count : Nat) :
    spot.folded.back? count = (spot.back? count).map folded := by
  induction count generalizing spot with
  | zero => rfl
  | succ count ih =>
    obtain ⟨pos, before, after⟩ := spot
    cases before with
    | nil => rfl
    | cons c before => exact ih ⟨pos - 1, before, c :: after⟩

theorem Spot.upTo_folded (spot later : Spot) :
    spot.folded.upTo later.folded = Text.folded (spot.upTo later) :=
  List.map_take.symm

theorem Spot.over?_folded (spot : Spot) (wanted : List Char) :
    spot.folded.over? .full (Text.folded wanted) = (spot.over? .full wanted).map folded := by
  induction wanted generalizing spot with
  | nil => rfl
  | cons c wanted ih =>
    obtain ⟨pos, before, after⟩ := spot
    cases after with
    | nil => rfl
    | cons d after =>
      have onward := ih ⟨pos + 1, d :: before, after⟩
      have same (c : Char) : Folding.full.lower c.toLower = Folding.full.lower c :=
        lowerChar_toLower c
      change (if Folding.full.lower d.toLower == Folding.full.lower c.toLower then _ else none) =
        Option.map folded (if Folding.full.lower d == Folding.full.lower c then _ else none)
      rw [same, same]
      split
      · exact onward
      · rfl

theorem Spot.size_folded (spot : Spot) : spot.folded.size = spot.size := by
  simp [size, folded, Text.folded]

theorem head?_folded_beq (text : List Char) :
    ((Text.folded text).head? == some '\n') = (text.head? == some '\n') := by
  cases text with
  | nil => rfl
  | cons c text =>
    have same : (c.toLower == '\n') = (c == '\n') := eq_toLower (· == '\n') (by decide) c
    exact same

theorem isEmpty_folded (text : List Char) : (Text.folded text).isEmpty = text.isEmpty :=
  List.isEmpty_map

/-- Anchors hold in the folded text where they hold in the text. -/
theorem Anchor.holds_folded (spot : Spot) (kind : Anchor) :
    kind.holds spot.folded = kind.holds spot := by
  obtain ⟨pos, before, after⟩ := spot
  unfold Anchor.holds Spot.folded
  cases kind with
  | textStart | textEnd => exact isEmpty_folded _
  | lineStart | lineEnd =>
    dsimp only
    rw [isEmpty_folded, head?_folded_beq]
  | lastLineEnd =>
    dsimp only
    rw [isEmpty_folded]
    cases after with
    | nil => rfl
    | cons c after =>
      have same : (c.toLower == '\n') = (c == '\n') := eq_toLower (· == '\n') (by decide) c
      change (false || (c.toLower == '\n' && Text.folded after == [])) =
        (false || (c == '\n' && after == []))
      rw [same]
      cases after <;> rfl
  | wordEdge asciiOnly inside =>
    have word (side : List Char) :
        ((Text.folded side).head?.map fun c => CharClass.word.has asciiOnly c).getD false =
          (side.head?.map fun c => CharClass.word.has asciiOnly c).getD false := by
      cases side with
      | nil => rfl
      | cons c side => exact CharClass.has_word_toLower asciiOnly c
    dsimp only
    rw [isEmpty_folded, isEmpty_folded, word, word]

theorem Captures.lookup_folded (captures : Captures) (index : Nat) :
    (Captures.folded captures).lookup index =
      (captures.lookup index).map fun bounds => (bounds.1.folded, bounds.2.folded) := by
  induction captures with
  | nil => rfl
  | cons capture captures ih =>
    unfold Captures.folded at ih ⊢
    rw [List.map_cons, List.lookup_cons, List.lookup_cons]
    cases index == capture.1 with
    | true => rfl
    | false => exact ih

/-! ## Runs -/

/-- What is done in the folded text is what is done in the text, under an image. -/
def Mirrors {α β : Type} (image : α → β) (done : Continuation α) (folded : Continuation β) : Prop :=
  ∀ spot captures, folded spot.folded (Captures.folded captures) = (done spot captures).map image

theorem mirrors_held : Mirrors Captures.folded (fun _ held => some held) fun _ held => some held :=
  fun _ _ => rfl

theorem mirrors_stage : Mirrors (Prod.map Spot.folded Captures.folded)
    (fun later held => some (later, held)) fun later held => some (later, held) :=
  fun _ _ => rfl

theorem mirrors_repeatStep {α β : Type} {image : α → β}
    {step : Spot → Captures → Continuation α → Option α}
    {step' : Spot → Captures → Continuation β → Option β}
    (steps : ∀ {done done'}, Mirrors image done done' → ∀ spot captures,
      step' spot.folded (Captures.folded captures) done' = (step spot captures done).map image)
    {done : Continuation α} {done' : Continuation β} (mirrors : Mirrors image done done')
    (lazy : Bool) (least : Nat) (most : Option Nat) (fuel count : Nat) (last : Option Nat) :
    Mirrors image (repeatStep step lazy least most done fuel count last)
      (repeatStep step' lazy least most done' fuel count last) := by
  induction fuel generalizing count last with
  | zero => exact fun _ _ => rfl
  | succ fuel ih =>
    intro spot captures
    have turn (last : Option Nat) :
        step' spot.folded (Captures.folded captures) (fun later held =>
          repeatStep step' lazy least most done' fuel (count + 1) last later held) =
        (step spot captures fun later held =>
          repeatStep step lazy least most done fuel (count + 1) last later held).map image :=
      steps (ih (count + 1) last) spot captures
    have position : spot.folded.pos = spot.pos := rfl
    unfold repeatStep
    split
    · exact turn last
    · dsimp only
      rw [position, mirrors spot captures, turn]
      -- whichever comes first, a turn or what is to be done, has the same outcome in both texts
      cases lazy <;> cases most.all (count < ·) && last != some spot.pos <;>
        cases done spot captures <;> try rfl
      all_goals cases step spot captures _ <;> rfl

namespace Regex

/-- Whether each set and each reference of the pattern looks through letter case. -/
def foldsCase : Regex → Bool
  | .empty | .anchor _ => true
  | .one set => set.folding == .full
  | .again folding _ => folding == .full
  | .seq first second | .alt first second | .given _ first second =>
    first.foldsCase && second.foldsCase
  | .loop _ _ _ body | .group _ body | .ahead _ body | .behind _ _ body | .atomic body =>
    body.foldsCase

/-- A pattern that folds runs through the folded text as through the text. -/
theorem run_folded {regex : Regex} (folds : regex.foldsCase = true) (size : Nat) {α β : Type}
    {image : α → β} {done : Continuation α} {done' : Continuation β}
    (mirrors : Mirrors image done done') (spot : Spot) (captures : Captures) :
    regex.run size spot.folded (Captures.folded captures) done' =
      (regex.run size spot captures done).map image := by
  induction regex generalizing α β spot captures with
  | empty => exact mirrors spot captures
  | one set =>
    rw [foldsCase, beq_iff_eq] at folds
    unfold run
    rw [Spot.next?_folded]
    cases spot.next? with
    | none => rfl
    | some next =>
      simp only [Option.map_some, CharSet.has_toLower folds, mirrors next.2 captures]
      split <;> rfl
  | seq first second ihFirst ihSecond =>
    rw [foldsCase, Bool.and_eq_true] at folds
    have rest : Mirrors image (fun later held => second.run size later held done)
        fun later held => second.run size later held done' := ihSecond folds.2 mirrors
    exact ihFirst folds.1 rest spot captures
  | alt first second ihFirst ihSecond =>
    rw [foldsCase, Bool.and_eq_true] at folds
    unfold run
    rw [ihFirst folds.1 mirrors, ihSecond folds.2 mirrors]
    cases first.run size spot captures done <;> rfl
  | loop lazy least most body ih =>
    exact mirrors_repeatStep (ih folds) mirrors lazy least most _ 0 none spot captures
  | group index body ih =>
    exact ih folds (fun later held => mirrors later ((index, spot, later) :: held)) spot captures
  | again folding index =>
    rw [foldsCase, beq_iff_eq] at folds
    subst folds
    unfold run
    rw [Captures.lookup_folded]
    cases captures.lookup index with
    | none => rfl
    | some bounds =>
      simp only [Option.map_some, Spot.upTo_folded, Spot.over?_folded]
      cases spot.over? .full (bounds.1.upTo bounds.2) with
      | none => rfl
      | some later => exact mirrors later captures
  | anchor kind =>
    unfold run
    rw [Anchor.holds_folded]
    split
    · exact mirrors spot captures
    · rfl
  | ahead positive body ih =>
    unfold run
    rw [ih folds mirrors_held]
    cases body.run size spot captures fun _ held => some held with
    | none =>
      cases positive with
      | true => rfl
      | false => exact mirrors spot captures
    | some held =>
      cases positive with
      | true => exact mirrors spot held
      | false => rfl
  | behind positive width body ih =>
    have inside : ((spot.folded.back? width).bind fun earlier =>
          body.run size earlier (Captures.folded captures) fun _ held => some held) =
        ((spot.back? width).bind fun earlier =>
          body.run size earlier captures fun _ held => some held).map Captures.folded := by
      rw [Spot.back?_folded]
      cases spot.back? width with
      | none => rfl
      | some earlier => exact ih folds mirrors_held earlier captures
    unfold run
    rw [inside]
    cases (spot.back? width).bind fun earlier =>
        body.run size earlier captures fun _ held => some held with
    | none =>
      cases positive with
      | true => rfl
      | false => exact mirrors spot captures
    | some held =>
      cases positive with
      | true => exact mirrors spot held
      | false => rfl
  | atomic body ih =>
    unfold run
    rw [ih folds mirrors_stage]
    cases body.run size spot captures fun later held => some (later, held) with
    | none => rfl
    | some stage => exact mirrors stage.1 stage.2
  | given index yes no ihYes ihNo =>
    rw [foldsCase, Bool.and_eq_true] at folds
    unfold run
    rw [Captures.lookup_folded, Option.isSome_map]
    split
    · exact ihYes folds.1 mirrors spot captures
    · exact ihNo folds.2 mirrors spot captures

/-! ## Searches -/

variable {regex : Regex}

theorem matchAt_folded (folds : regex.foldsCase = true) (spot : Spot) :
    regex.matchAt spot.folded = (regex.matchAt spot).map Spot.folded := by
  unfold matchAt
  rw [Spot.size_folded]
  exact run_folded folds spot.size (fun _ _ => rfl) spot []

/-- The match that starts at a place of the folded text. -/
theorem map_matchAt_folded (folds : regex.foldsCase = true) (spot : Spot) :
    ((regex.matchAt spot.folded).map fun later => Match.mk spot.pos (spot.folded.upTo later)) =
      ((regex.matchAt spot).map fun later => Match.mk spot.pos (spot.upTo later)).map
        Match.folded := by
  rw [matchAt_folded folds, Option.map_map, Option.map_map]
  congr 1
  funext later
  exact congrArg (Match.mk spot.pos) (Spot.upTo_folded spot later)

theorem searchFrom_cons (pos : Nat) (before : List Char) (c : Char) (rest : List Char) :
    regex.searchFrom pos before (c :: rest) =
      ((regex.matchAt ⟨pos, before, c :: rest⟩).map fun later =>
        Match.mk pos (Spot.upTo ⟨pos, before, c :: rest⟩ later)).or
          (regex.searchFrom (pos + 1) (c :: before) rest) := by
  conv => lhs; unfold searchFrom
  dsimp only
  cases regex.matchAt ⟨pos, before, c :: rest⟩ <;> rfl

theorem searchFrom_folded (folds : regex.foldsCase = true) (pos : Nat) (before text : List Char) :
    regex.searchFrom pos (Text.folded before) (Text.folded text) =
      (regex.searchFrom pos before text).map Match.folded := by
  induction text generalizing pos before with
  | nil => exact map_matchAt_folded folds ⟨pos, before, []⟩
  | cons c rest ih =>
    change regex.searchFrom pos (Text.folded before) (c.toLower :: Text.folded rest) = _
    rw [searchFrom_cons, searchFrom_cons, Option.map_or]
    have here := map_matchAt_folded folds ⟨pos, before, c :: rest⟩
    exact congr (congrArg Option.or here) (ih (pos + 1) (c :: before))

/-- A search finds in the folded text the folded match. -/
theorem search_folded (folds : regex.foldsCase = true) (text : List Char) :
    regex.search (Text.folded text) = (regex.search text).map Match.folded :=
  searchFrom_folded folds 0 [] text

/-- In two texts that fold to one, a search finds the same place and the same number of
characters. -/
theorem place_search_of_folded_eq (folds : regex.foldsCase = true) {text other : List Char}
    (same : Text.folded text = Text.folded other) :
    ((regex.search text).map fun found => (found.start, found.text.length)) =
      (regex.search other).map fun found => (found.start, found.text.length) := by
  have place (text : List Char) :
      ((regex.search text).map fun found => (found.start, found.text.length)) =
        (regex.search (Text.folded text)).map fun found => (found.start, found.text.length) := by
    rw [search_folded folds, Option.map_map]
    cases regex.search text with
    | none => rfl
    | some found => simp [Match.folded, Text.folded]
  rw [place text, place other, same]

end Regex

end ShellVet
