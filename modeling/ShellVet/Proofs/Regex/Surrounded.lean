import Mathlib.Data.List.Forall2
import ShellVet.Proofs.Regex.Ways

/-!
# One part in two texts

Two texts may share a part and differ in what stands around it. A way that keeps to the part in the
one text is a way in the other, as long as the pattern looks at no more of the surroundings than is
alike in both (`Excerpt.Keeps.follow`).
-/

namespace ShellVet

/-- A part that two texts share, with what stands around it in the one and in the other. -/
structure Excerpt where
  part : List Char
  before : List Char
  after : List Char
  before' : List Char
  after' : List Char

namespace Excerpt

variable {excerpt : Excerpt}

/-- One place of the part, in both texts. -/
def Twins (excerpt : Excerpt) (spot twin : Spot) : Prop :=
  ∃ front back, excerpt.part = front ++ back ∧
    spot = .between (excerpt.before ++ front) (back ++ excerpt.after) ∧
    twin = .between (excerpt.before' ++ front) (back ++ excerpt.after')

/-- One place of the part in both texts, with the same texts remembered from the part. -/
def TwinStages (excerpt : Excerpt) (stage twin : Stage) : Prop :=
  excerpt.Twins stage.1 twin.1 ∧
    List.Forall₂ (fun capture capture' => capture.1 = capture'.1 ∧
      excerpt.Twins capture.2.1 capture'.2.1 ∧ excerpt.Twins capture.2.2 capture'.2.2)
      stage.2 twin.2

/-- The position of the end of the part in the first text. -/
def limit (excerpt : Excerpt) : Nat := excerpt.before.length + excerpt.part.length

theorem Twins.le_limit {spot twin : Spot} (twins : excerpt.Twins spot twin) :
    spot.pos ≤ excerpt.limit := by
  obtain ⟨front, back, whole, rfl, -⟩ := twins
  rw [limit, whole, Spot.between]
  simp only [List.length_append]
  omega

/-- Where the first text goes on within the part, the other one goes on alike. -/
theorem Twins.next? {spot twin later : Spot} {c : Char} (twins : excerpt.Twins spot twin)
    (next : spot.next? = some (c, later)) (within : later.pos ≤ excerpt.limit) :
    ∃ later', twin.next? = some (c, later') ∧ excerpt.Twins later later' := by
  obtain ⟨front, back, whole, rfl, rfl⟩ := twins
  cases back with
  | nil =>
    -- the part ends here, so the next place is behind it
    have pos := (Spot.takes_of_next? next).2.2
    rw [limit, whole] at within
    simp only [Spot.between, List.length_append, List.length_nil, List.length_cons] at pos within
    omega
  | cons d back =>
    cases next
    refine ⟨_, rfl, front ++ [c], back, ?_, ?_, ?_⟩
    · rw [whole, List.append_assoc, List.singleton_append]
    · simp [Spot.between, ← List.append_assoc]
    · simp [Spot.between, ← List.append_assoc]

theorem Twins.over? {spot twin later : Spot} {folding : Folding} {wanted : List Char}
    (twins : excerpt.Twins spot twin) (repeats : spot.over? folding wanted = some later)
    (within : later.pos ≤ excerpt.limit) :
    ∃ later', twin.over? folding wanted = some later' ∧ excerpt.Twins later later' := by
  induction wanted generalizing spot twin with
  | nil =>
    cases repeats
    exact ⟨twin, rfl, twins⟩
  | cons c wanted ih =>
    unfold Spot.over? at repeats ⊢
    split at repeats
    · next d middle next =>
      split at repeats
      · next same =>
        obtain ⟨taken, -, -, pos⟩ := Spot.takes_of_over? repeats
        obtain ⟨middle', next', twins'⟩ := twins.next? next (by omega)
        rw [next']
        dsimp only
        rw [if_pos same]
        exact ih twins' repeats
      · cases repeats
    · cases repeats

/-- Between two places of the part stands the same in both texts. -/
theorem Twins.upTo {first first' last last' : Spot} (firsts : excerpt.Twins first first')
    (lasts : excerpt.Twins last last') : first.upTo last = first'.upTo last' := by
  obtain ⟨front, back, whole, rfl, rfl⟩ := firsts
  obtain ⟨front', back', whole', rfl, rfl⟩ := lasts
  have same := whole.symm.trans whole'
  have lengths := congrArg List.length same
  rw [List.length_append, List.length_append] at lengths
  have between (before : List Char) :
      (before ++ front').length - (before ++ front).length = front'.length - front.length := by
    rw [List.length_append, List.length_append]
    omega
  simp only [Spot.upTo, Spot.between, between]
  rw [List.take_append_of_le_length (by omega), List.take_append_of_le_length (by omega)]

theorem TwinStages.lookup {stage twin : Stage} (twins : excerpt.TwinStages stage twin) {index : Nat}
    {first last : Spot} (found : stage.2.lookup index = some (first, last)) :
    ∃ first' last', twin.2.lookup index = some (first', last') ∧ excerpt.Twins first first' ∧
      excerpt.Twins last last' := by
  obtain ⟨spot, captures⟩ := stage
  obtain ⟨spot', captures'⟩ := twin
  obtain ⟨-, held⟩ := twins
  dsimp only at held found ⊢
  induction held with
  | nil => cases found
  | @cons capture capture' captures captures' alike _ ih =>
    obtain ⟨number, bounds⟩ := capture
    obtain ⟨number', bounds'⟩ := capture'
    obtain ⟨rfl, firsts, lasts⟩ : number = number' ∧ _ := alike
    rw [List.lookup_cons] at found ⊢
    cases same : index == number with
    | true =>
      rw [same] at found
      cases found
      exact ⟨_, _, rfl, firsts, lasts⟩
    | false =>
      rw [same] at found
      exact ih found

end Excerpt

/-! ## Ways within the part -/

theorem Regex.pos_le_of_leads {regex : Regex} {start stop : Stage}
    (leads : regex.Leads start stop) : start.1.pos ≤ stop.1.pos := by
  obtain ⟨taken, ⟨-, -, pos⟩, -⟩ := takes_of_leads leads
  omega

theorem Turns.pos_le {step : Stage → Stage → Prop} {count : Nat} {start stop : Stage}
    (onward : ∀ start stop, step start stop → start.1.pos ≤ stop.1.pos)
    (turns : Turns step count start stop) : start.1.pos ≤ stop.1.pos := by
  induction count generalizing start with
  | zero =>
    cases turns
    exact Nat.le_refl _
  | succ count ih =>
    obtain ⟨middle, way, rest⟩ := turns
    exact Nat.le_trans (onward _ _ way) (ih rest)

/-- Whether the pattern asks only for the anchors of one kind and looks ahead only for patterns of
another kind. -/
def Regex.asksOnly (keeps : Anchor → Bool) (sees : Regex → Bool) : Regex → Bool
  | .empty | .one _ | .again .. => true
  | .seq first second | .alt first second =>
    first.asksOnly keeps sees && second.asksOnly keeps sees
  | .loop _ _ _ body | .group _ body | .atomic body => body.asksOnly keeps sees
  | .anchor kind => keeps kind
  | .ahead positive body => positive && body.forgets && sees body
  | .behind .. | .given .. => false

/-- What holds at a place of the part in the first text holds there in the other one: the anchors of
one kind, and what is seen by the patterns of another kind. -/
structure Excerpt.Keeps (excerpt : Excerpt) (keeps : Anchor → Bool) (sees : Regex → Bool) :
    Prop where
  anchors : ∀ kind, keeps kind = true → ∀ spot twin, excerpt.Twins spot twin →
    kind.holds spot = true → kind.holds twin = true
  glances : ∀ body, sees body = true → ∀ stage twin, excerpt.TwinStages stage twin →
    ∀ further, body.Leads stage further → ∃ further', body.Leads twin further'

variable {excerpt : Excerpt} {keeps : Anchor → Bool} {sees : Regex → Bool}

/-- Steps within the part that are there in both texts are there one after the other. -/
theorem Excerpt.follow_turns {step : Stage → Stage → Prop} {count : Nat} {start stop twin : Stage}
    (onward : ∀ start stop, step start stop → start.1.pos ≤ stop.1.pos)
    (follows : ∀ start stop twin, step start stop → excerpt.TwinStages start twin →
      stop.1.pos ≤ excerpt.limit → ∃ twin', excerpt.TwinStages stop twin' ∧ step twin twin')
    (turns : Turns step count start stop) (twins : excerpt.TwinStages start twin)
    (within : stop.1.pos ≤ excerpt.limit) :
    ∃ twin', excerpt.TwinStages stop twin' ∧ Turns step count twin twin' := by
  induction count generalizing start twin with
  | zero =>
    cases turns
    exact ⟨twin, twins, rfl⟩
  | succ count ih =>
    obtain ⟨middle, way, rest⟩ := turns
    have before_stop := Turns.pos_le onward rest
    obtain ⟨middle', twins', way'⟩ := follows _ _ _ way twins (Nat.le_trans before_stop within)
    obtain ⟨stop', twins', rest'⟩ := ih rest twins'
    exact ⟨stop', twins', middle', way', rest'⟩

/-- A way that stays within the part is a way in both texts. -/
theorem Excerpt.Keeps.follow (kept : excerpt.Keeps keeps sees) {regex : Regex}
    (asks : regex.asksOnly keeps sees = true) {start stop twin : Stage}
    (leads : regex.Leads start stop) (twins : excerpt.TwinStages start twin)
    (within : stop.1.pos ≤ excerpt.limit) :
    ∃ twin', excerpt.TwinStages stop twin' ∧ regex.Leads twin twin' := by
  induction regex generalizing start stop twin with
  | empty =>
    cases leads
    exact ⟨twin, twins, rfl⟩
  | one set =>
    obtain ⟨c, next, has, same⟩ := leads
    obtain ⟨later', next', twins'⟩ := twins.1.next? next within
    exact ⟨(later', twin.2), ⟨twins', same ▸ twins.2⟩, c, next', has, rfl⟩
  | seq first second ihFirst ihSecond =>
    rw [Regex.asksOnly, Bool.and_eq_true] at asks
    obtain ⟨middle, front, back⟩ := leads
    have before_stop := Regex.pos_le_of_leads back
    obtain ⟨middle', twins', front'⟩ :=
      ihFirst asks.1 front twins (Nat.le_trans before_stop within)
    obtain ⟨stop', twins', back'⟩ := ihSecond asks.2 back twins' within
    exact ⟨stop', twins', middle', front', back'⟩
  | alt first second ihFirst ihSecond =>
    rw [Regex.asksOnly, Bool.and_eq_true] at asks
    rcases leads with leads | leads
    · obtain ⟨stop', twins', way⟩ := ihFirst asks.1 leads twins within
      exact ⟨stop', twins', .inl way⟩
    · obtain ⟨stop', twins', way⟩ := ihSecond asks.2 leads twins within
      exact ⟨stop', twins', .inr way⟩
  | loop lazy least most body ih =>
    obtain ⟨count, enough, bounded, turns⟩ := leads
    obtain ⟨stop', twins', turns'⟩ := Excerpt.follow_turns (fun _ _ => Regex.pos_le_of_leads)
      (fun _ _ _ way twins within => ih asks way twins within) turns twins within
    exact ⟨stop', twins', count, enough, bounded, turns'⟩
  | group index body ih =>
    obtain ⟨held, inside, same⟩ := leads
    obtain ⟨stop', twins', inside'⟩ := ih asks inside twins within
    refine ⟨(stop'.1, (index, twin.1, stop'.1) :: stop'.2), ⟨twins'.1, ?_⟩, stop'.2, inside', rfl⟩
    rw [same]
    exact .cons ⟨rfl, twins.1, twins'.1⟩ twins'.2
  | again folding index =>
    obtain ⟨first, last, remembered, repeats, same⟩ := leads
    obtain ⟨first', last', remembered', firsts, lasts⟩ := twins.lookup remembered
    obtain ⟨later', repeats', twins'⟩ := twins.1.over? repeats within
    rw [firsts.upTo lasts] at repeats'
    exact ⟨(later', twin.2), ⟨twins', same ▸ twins.2⟩, first', last', remembered', repeats', rfl⟩
  | anchor kind =>
    obtain ⟨holds, rfl⟩ := leads
    exact ⟨twin, twins, kept.anchors kind asks _ _ twins.1 holds, rfl⟩
  | ahead positive body =>
    rw [Regex.asksOnly, Bool.and_eq_true, Bool.and_eq_true] at asks
    obtain ⟨⟨rfl, forgets⟩, seen⟩ := asks
    obtain ⟨same, further, way⟩ := leads
    obtain ⟨further', way'⟩ := kept.glances body seen _ _ twins _ way
    -- the body is left with the texts that it was entered with, in both texts
    have unchanged := Regex.held_of_forgets forgets way
    have unchanged' := Regex.held_of_forgets forgets way'
    dsimp only at unchanged
    refine ⟨twin, ⟨same ▸ twins.1, unchanged ▸ twins.2⟩, rfl, further'.1, ?_⟩
    rw [← unchanged']
    exact way'
  | atomic body ih => exact ih asks leads twins within
  | behind | given => cases asks

/-! ## What is alike in both texts -/

/-- Whether the anchor is an edge of a word. -/
def Anchor.isEdge : Anchor → Bool
  | .wordEdge _ inside => !inside
  | _ => false

namespace Excerpt

/-- Whether the first character is one of a word. -/
def startsWord (asciiOnly : Bool) (side : List Char) : Bool :=
  (side.head?.map fun c => CharClass.word.has asciiOnly c).getD false

theorem holds_wordEdge_iff {asciiOnly : Bool} {spot : Spot} :
    (Anchor.wordEdge asciiOnly false).holds spot = true ↔
      startsWord asciiOnly spot.before ≠ startsWord asciiOnly spot.after := by
  obtain ⟨pos, before, after⟩ := spot
  cases before <;> cases after <;> simp [Anchor.holds, startsWord]

/-- No word reaches out of the part, in neither text. -/
structure Apart (excerpt : Excerpt) : Prop where
  before : ∀ asciiOnly, startsWord asciiOnly excerpt.before.reverse = false
  after : ∀ asciiOnly, startsWord asciiOnly excerpt.after = false
  before' : ∀ asciiOnly, startsWord asciiOnly excerpt.before'.reverse = false
  after' : ∀ asciiOnly, startsWord asciiOnly excerpt.after' = false

theorem startsWord_append {asciiOnly : Bool} {side outside : List Char}
    (apart : startsWord asciiOnly outside = false) :
    startsWord asciiOnly (side ++ outside) = startsWord asciiOnly side := by
  cases side with
  | nil => exact apart
  | cons => rfl

/-- Where no word reaches out of the part, edges of words are where they are in the other text. -/
theorem Apart.holds_of_isEdge (apart : excerpt.Apart) {kind : Anchor} (edge : kind.isEdge = true)
    {spot twin : Spot} (twins : excerpt.Twins spot twin) (holds : kind.holds spot = true) :
    kind.holds twin = true := by
  obtain ⟨asciiOnly, rfl⟩ : ∃ asciiOnly, kind = .wordEdge asciiOnly false := by
    cases kind with
    | wordEdge asciiOnly inside =>
      rw [Anchor.isEdge, Bool.not_eq_true'] at edge
      exact ⟨asciiOnly, by rw [edge]⟩
    | _ => cases edge
  obtain ⟨front, back, -, rfl, rfl⟩ := twins
  rw [holds_wordEdge_iff] at holds ⊢
  simp only [Spot.between, List.reverse_append] at holds ⊢
  rw [startsWord_append (apart.before asciiOnly),
    startsWord_append (apart.after asciiOnly)] at holds
  rwa [startsWord_append (apart.before' asciiOnly), startsWord_append (apart.after' asciiOnly)]

theorem Twins.pos_add_length {spot twin : Spot} (twins : excerpt.Twins spot twin) :
    spot.pos + spot.after.length = excerpt.limit + excerpt.after.length := by
  obtain ⟨front, back, whole, rfl, -⟩ := twins
  rw [limit, whole, Spot.between]
  simp only [List.length_append]
  omega

/-- Where the part ends with the first text, every way stays within it. -/
theorem Twins.within_of_last {spot twin later : Spot} {taken : List Char}
    (twins : excerpt.Twins spot twin) (last : excerpt.after = []) (takes : spot.Takes taken later) :
    later.pos ≤ excerpt.limit := by
  have whole := twins.pos_add_length
  have length := takes.length_after
  have pos := takes.2.2
  rw [last, List.length_nil] at whole
  omega

/-- Where the part ends with the first text, what is seen from it is what can be followed. -/
theorem keeps_of_last (last : excerpt.after = [])
    (anchors : ∀ kind, keeps kind = true → ∀ spot twin, excerpt.Twins spot twin →
      kind.holds spot = true → kind.holds twin = true) :
    excerpt.Keeps keeps (·.asksOnly keeps fun _ => false) := by
  refine ⟨anchors, fun body asks stage twin twins further way => ?_⟩
  have blind : excerpt.Keeps keeps fun _ => false := ⟨anchors, nofun⟩
  obtain ⟨taken, takes, -⟩ := Regex.takes_of_leads way
  obtain ⟨further', -, way'⟩ := blind.follow asks way twins (twins.1.within_of_last last takes)
  exact ⟨further', way'⟩

end Excerpt

end ShellVet
