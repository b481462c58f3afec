import ShellVet.Regex.Match

/-!
# The ways to follow a pattern

`Regex.run` tries the ways to follow a pattern one after the other. `Regex.Leads` says what a way
is, without their order: from a place, with the texts remembered so far, the pattern leads to a
later one. Whatever `run` finds, its continuation found at the end of a way (`leads_of_run`). A
pattern that explores is tried in all its ways, so it occurs in a text if and only if it leads
somewhere from a place in it (`occursIn_iff_leads`).
-/

namespace ShellVet

/-- A place in a text with the texts remembered so far. -/
abbrev Stage := Spot × Captures

/-- So many steps in a row. -/
def Turns (step : Stage → Stage → Prop) : Nat → Stage → Stage → Prop
  | 0, start, stop => start = stop
  | count + 1, start, stop => ∃ middle, step start middle ∧ Turns step count middle stop

/-- Further steps in a row that, with those counted, are at least `least` and no more than that or
`most`. -/
def Loops (step : Stage → Stage → Prop) (least : Nat) (most : Option Nat) (count : Nat)
    (start stop : Stage) : Prop :=
  ∃ turns, least ≤ count + turns ∧ (∀ bound ∈ most, count + turns ≤ max least bound) ∧
    Turns step turns start stop

namespace Regex

/-- The pattern can be followed from one stage to another. Ways do not tell what must not match, nor
which way is kept for good; there more is allowed than is tried. -/
def Leads : Regex → Stage → Stage → Prop
  | .empty, start, stop => start = stop
  | .one set, start, stop =>
    ∃ c, start.1.next? = some (c, stop.1) ∧ set.has c = true ∧ stop.2 = start.2
  | .seq first second, start, stop => ∃ middle, first.Leads start middle ∧ second.Leads middle stop
  | .alt first second, start, stop => first.Leads start stop ∨ second.Leads start stop
  | .loop _ least most body, start, stop => Loops body.Leads least most 0 start stop
  | .group index body, start, stop =>
    ∃ held, body.Leads start (stop.1, held) ∧ stop.2 = (index, start.1, stop.1) :: held
  | .again folding index, start, stop =>
    ∃ first last, start.2.lookup index = some (first, last) ∧
      start.1.over? folding (first.upTo last) = some stop.1 ∧ stop.2 = start.2
  | .anchor kind, start, stop => kind.holds start.1 = true ∧ start = stop
  | .ahead positive body, start, stop =>
    start.1 = stop.1 ∧
      if positive then ∃ further, body.Leads start (further, stop.2) else start.2 = stop.2
  | .behind positive width body, start, stop =>
    start.1 = stop.1 ∧
      if positive then ∃ earlier further, start.1.back? width = some earlier ∧
        body.Leads (earlier, start.2) (further, stop.2)
      else start.2 = stop.2
  | .atomic body, start, stop => body.Leads start stop
  | .given index yes no, start, stop =>
    if (start.2.lookup index).isSome then yes.Leads start stop else no.Leads start stop

/-- Whether the pattern remembers no text. -/
def forgets : Regex → Bool
  | .empty | .one _ | .again .. | .anchor _ => true
  | .seq first second | .alt first second | .given _ first second => first.forgets && second.forgets
  | .loop _ _ _ body | .ahead _ body | .behind _ _ body | .atomic body => body.forgets
  | .group .. => false

/-- Whether all ways to follow the pattern are tried: it looks only ahead, nothing is matched for
good, and each turn of a repetition takes a character. -/
def explores : Regex → Bool
  | .empty | .one _ | .again .. | .anchor _ => true
  | .seq first second | .alt first second => first.explores && second.explores
  | .loop _ _ _ body => 0 < (body.width fun _ => (0, none)).1 && body.explores
  | .group _ body => body.explores
  | .ahead positive body => positive && body.forgets && body.explores
  | .behind .. | .atomic _ | .given .. => false

end Regex

/-! ## Ways go forward -/

/-- The text from one place to another. -/
def Spot.Takes (start : Spot) (taken : List Char) (stop : Spot) : Prop :=
  start.after = taken ++ stop.after ∧ stop.before = taken.reverse ++ start.before ∧
    stop.pos = start.pos + taken.length

section

variable {start middle stop : Spot}

theorem Spot.Takes.refl (spot : Spot) : spot.Takes [] spot := ⟨rfl, rfl, rfl⟩

theorem Spot.Takes.trans {front back : List Char} (first : start.Takes front middle)
    (second : middle.Takes back stop) : start.Takes (front ++ back) stop := by
  obtain ⟨after, before, pos⟩ := first
  obtain ⟨after', before', pos'⟩ := second
  refine ⟨?_, ?_, ?_⟩
  · rw [after, after', List.append_assoc]
  · rw [before', before, List.reverse_append, List.append_assoc]
  · rw [pos', pos, List.length_append, Nat.add_assoc]

theorem Spot.takes_of_next? {c : Char} (next : start.next? = some (c, stop)) :
    start.Takes [c] stop := by
  obtain ⟨pos, before, after⟩ := start
  cases after with
  | nil => cases next
  | cons d after =>
    cases next
    exact ⟨rfl, rfl, rfl⟩

theorem Spot.takes_of_over? {folding : Folding} {wanted : List Char}
    (repeats : start.over? folding wanted = some stop) : ∃ taken, start.Takes taken stop := by
  induction wanted generalizing start with
  | nil =>
    cases repeats
    exact ⟨[], .refl _⟩
  | cons c wanted ih =>
    unfold Spot.over? at repeats
    split at repeats
    · next d later next =>
      split at repeats
      · obtain ⟨taken, further⟩ := ih repeats
        exact ⟨_, (Spot.takes_of_next? next).trans further⟩
      · cases repeats
    · cases repeats

theorem Spot.Takes.length_after {taken : List Char} (takes : start.Takes taken stop) :
    start.after.length = taken.length + stop.after.length := by
  rw [takes.1, List.length_append]

end

/-- Turns that each take some characters take as many at least in all. -/
theorem takes_of_turns {step : Stage → Stage → Prop} {least count : Nat} {start stop : Stage}
    (steps : ∀ start stop, step start stop →
      ∃ taken, start.1.Takes taken stop.1 ∧ least ≤ taken.length)
    (turns : Turns step count start stop) :
    ∃ taken, start.1.Takes taken stop.1 ∧ least * count ≤ taken.length := by
  induction count generalizing start with
  | zero =>
    cases turns
    exact ⟨[], .refl _, Nat.le_refl 0⟩
  | succ count ih =>
    obtain ⟨middle, first, rest⟩ := turns
    obtain ⟨front, taken, enough⟩ := steps start middle first
    obtain ⟨back, taken', enough'⟩ := ih rest
    refine ⟨front ++ back, taken.trans taken', ?_⟩
    rw [List.length_append, Nat.mul_succ]
    omega

namespace Regex

/-- A pattern takes at least as many characters as its width says. -/
theorem takes_of_leads {regex : Regex} {start stop : Stage} (leads : regex.Leads start stop) :
    ∃ taken, start.1.Takes taken stop.1 ∧ (regex.width fun _ => (0, none)).1 ≤ taken.length := by
  induction regex generalizing start stop with
  | empty =>
    cases leads
    exact ⟨[], .refl _, Nat.le_refl 0⟩
  | one set =>
    obtain ⟨c, next, -⟩ := leads
    exact ⟨[c], Spot.takes_of_next? next, Nat.le_refl 1⟩
  | seq first second ihFirst ihSecond =>
    obtain ⟨middle, front, back⟩ := leads
    obtain ⟨taken, moves, enough⟩ := ihFirst front
    obtain ⟨taken', moves', enough'⟩ := ihSecond back
    refine ⟨taken ++ taken', moves.trans moves', ?_⟩
    rw [List.length_append, width]
    exact Nat.add_le_add enough enough'
  | alt first second ihFirst ihSecond =>
    rcases leads with leads | leads
    · obtain ⟨taken, moves, enough⟩ := ihFirst leads
      exact ⟨taken, moves, Nat.le_trans (Nat.min_le_left _ _) enough⟩
    · obtain ⟨taken, moves, enough⟩ := ihSecond leads
      exact ⟨taken, moves, Nat.le_trans (Nat.min_le_right _ _) enough⟩
  | given index yes no ihYes ihNo =>
    unfold Leads at leads
    split at leads
    · obtain ⟨taken, moves, enough⟩ := ihYes leads
      exact ⟨taken, moves, Nat.le_trans (Nat.min_le_left _ _) enough⟩
    · obtain ⟨taken, moves, enough⟩ := ihNo leads
      exact ⟨taken, moves, Nat.le_trans (Nat.min_le_right _ _) enough⟩
  | loop lazy least most body ih =>
    obtain ⟨count, atLeast, -, turns⟩ := leads
    obtain ⟨taken, moves, enough⟩ := takes_of_turns (fun _ _ step => ih step) turns
    rw [Nat.zero_add] at atLeast
    exact ⟨taken, moves, Nat.le_trans (Nat.mul_le_mul_left _ atLeast) enough⟩
  | group index body ih =>
    obtain ⟨held, inside, -⟩ := leads
    have taken := ih inside
    exact taken
  | atomic body ih => exact ih leads
  | again folding index =>
    obtain ⟨first, last, -, repeats, -⟩ := leads
    obtain ⟨taken, moves⟩ := Spot.takes_of_over? repeats
    exact ⟨taken, moves, Nat.zero_le _⟩
  | anchor kind =>
    obtain ⟨-, rfl⟩ := leads
    exact ⟨[], .refl _, Nat.le_refl 0⟩
  | ahead | behind =>
    rw [← leads.1]
    exact ⟨[], .refl _, Nat.le_refl 0⟩

/-- A pattern that remembers no text leaves the texts remembered as they are. -/
theorem held_of_forgets {regex : Regex} (forgets : regex.forgets = true) {start stop : Stage}
    (leads : regex.Leads start stop) : stop.2 = start.2 := by
  induction regex generalizing start stop with
  | empty =>
    cases leads
    rfl
  | one set =>
    obtain ⟨c, -, -, same⟩ := leads
    exact same
  | seq first second ihFirst ihSecond =>
    rw [Regex.forgets, Bool.and_eq_true] at forgets
    obtain ⟨middle, front, back⟩ := leads
    rw [ihSecond forgets.2 back, ihFirst forgets.1 front]
  | alt first second ihFirst ihSecond =>
    rw [Regex.forgets, Bool.and_eq_true] at forgets
    exact leads.elim (ihFirst forgets.1) (ihSecond forgets.2)
  | given index yes no ihYes ihNo =>
    rw [Regex.forgets, Bool.and_eq_true] at forgets
    unfold Leads at leads
    split at leads
    · exact ihYes forgets.1 leads
    · exact ihNo forgets.2 leads
  | loop lazy least most body ih =>
    obtain ⟨count, -, -, turns⟩ := leads
    induction count generalizing start with
    | zero =>
      cases turns
      rfl
    | succ count ihTurns =>
      obtain ⟨middle, first, rest⟩ := turns
      rw [ihTurns rest, ih forgets first]
  | group => cases forgets
  | atomic body ih => exact ih forgets leads
  | again folding index =>
    obtain ⟨first, last, -, -, same⟩ := leads
    exact same
  | anchor kind =>
    obtain ⟨-, rfl⟩ := leads
    rfl
  | ahead positive body ih =>
    obtain ⟨-, leads⟩ := leads
    split at leads
    · obtain ⟨further, way⟩ := leads
      have same := ih forgets way
      exact same
    · exact leads.symm
  | behind positive width body ih =>
    obtain ⟨-, leads⟩ := leads
    split at leads
    · obtain ⟨earlier, further, -, way⟩ := leads
      have same := ih forgets way
      exact same
    · exact leads.symm

end Regex

/-! ## What is found is found at the end of a way -/

section

variable {α : Type} {step : Spot → Captures → Continuation α → Option α}
  {ways : Stage → Stage → Prop} {least count : Nat} {most : Option Nat}

/-- A repetition stops, or it takes one more turn. -/
theorem loops_iff {start stop : Stage} :
    Loops ways least most count start stop ↔
      (least ≤ count ∧ (∀ bound ∈ most, count ≤ max least bound) ∧ start = stop) ∨
        ∃ middle, ways start middle ∧ Loops ways least most (count + 1) middle stop := by
  have counted (turns : Nat) : count + (turns + 1) = count + 1 + turns := by omega
  constructor
  · rintro ⟨_ | turns, enough, bounded, rest⟩
    · exact .inl ⟨enough, bounded, rest⟩
    · obtain ⟨middle, way, rest⟩ := rest
      rw [counted] at enough bounded
      exact .inr ⟨middle, way, turns, enough, bounded, rest⟩
  · rintro (⟨enough, bounded, same⟩ | ⟨middle, way, turns, enough, bounded, rest⟩)
    · exact ⟨0, enough, bounded, same⟩
    · rw [← counted] at enough bounded
      exact ⟨turns + 1, enough, bounded, middle, way, rest⟩

/-- What the step finds, its continuation finds at the end of one of the ways. -/
def Follows (step : Spot → Captures → Continuation α → Option α) (ways : Stage → Stage → Prop) :
    Prop :=
  ∀ spot captures done found, step spot captures done = some found →
    ∃ stop, ways (spot, captures) stop ∧ done stop.1 stop.2 = some found

/-- A repetition finds what its continuation finds after some number of turns. -/
theorem follows_repeatStep (follows : Follows step ways) (lazy : Bool) {done : Continuation α}
    {fuel : Nat} {last : Option Nat} {spot : Spot} {captures : Captures} {found : α}
    (within : ∀ bound ∈ most, count ≤ max least bound)
    (finds : repeatStep step lazy least most done fuel count last spot captures = some found) :
    ∃ stop, Loops ways least most count (spot, captures) stop ∧
      done stop.1 stop.2 = some found := by
  induction fuel generalizing count last spot captures with
  | zero => cases finds
  | succ fuel ih =>
    -- a turn leads to a place from which the rest of the repetition goes on
    have turn (last : Option Nat) (more : ∀ bound ∈ most, count + 1 ≤ max least bound)
        (finds : (step spot captures fun later held =>
          repeatStep step lazy least most done fuel (count + 1) last later held) = some found) :
        ∃ stop, Loops ways least most count (spot, captures) stop ∧
          done stop.1 stop.2 = some found := by
      obtain ⟨middle, way, rest⟩ := follows spot captures _ found finds
      obtain ⟨stop, loops, finds⟩ := ih more rest
      exact ⟨stop, loops_iff.mpr (.inr ⟨middle, way, loops⟩), finds⟩
    have stops (enough : least ≤ count) (finds : done spot captures = some found) :
        ∃ stop, Loops ways least most count (spot, captures) stop ∧
          done stop.1 stop.2 = some found :=
      ⟨_, loops_iff.mpr (.inl ⟨enough, within, rfl⟩), finds⟩
    have again (finds : (if most.all (count < ·) && last != some spot.pos then
          step spot captures fun later held =>
            repeatStep step lazy least most done fuel (count + 1) (some spot.pos) later held
        else none) = some found) :
        ∃ stop, Loops ways least most count (spot, captures) stop ∧
          done stop.1 stop.2 = some found := by
      split at finds
      · next allowed =>
        rw [Bool.and_eq_true, Option.all_eq_true] at allowed
        refine turn _ (fun bound among => ?_) finds
        have := of_decide_eq_true (allowed.1 bound among)
        omega
      · cases finds
    unfold repeatStep at finds
    dsimp only at finds
    split at finds
    · exact turn last (fun bound _ => by omega) finds
    · next free =>
      split at finds
      · split at finds
        · next value stopped => exact stops (by omega) (stopped.trans finds)
        · exact again finds
      · split at finds
        · next value turned => exact again (turned.trans finds)
        · exact stops (by omega) finds

/-- What a pattern finds, its continuation found at the end of a way. -/
theorem Regex.leads_of_run {size : Nat} {regex : Regex} {spot : Spot} {captures : Captures}
    {done : Continuation α} {found : α} (finds : regex.run size spot captures done = some found) :
    ∃ stop, regex.Leads (spot, captures) stop ∧ done stop.1 stop.2 = some found := by
  induction regex generalizing spot captures α with
  | empty => exact ⟨_, rfl, finds⟩
  | one set =>
    unfold run at finds
    split at finds
    · next c later next =>
      split at finds
      · next has => exact ⟨(later, captures), ⟨c, next, has, rfl⟩, finds⟩
      · cases finds
    · cases finds
  | seq first second ihFirst ihSecond =>
    obtain ⟨middle, front, rest⟩ := ihFirst finds
    obtain ⟨stop, back, finds⟩ := ihSecond rest
    exact ⟨stop, ⟨middle, front, back⟩, finds⟩
  | alt first second ihFirst ihSecond =>
    unfold run at finds
    split at finds
    · next value inside =>
      obtain ⟨stop, way, finds⟩ := ihFirst (inside.trans finds)
      exact ⟨stop, .inl way, finds⟩
    · obtain ⟨stop, way, finds⟩ := ihSecond finds
      exact ⟨stop, .inr way, finds⟩
  | loop lazy least most body ih =>
    exact follows_repeatStep (fun _ _ _ _ finds => ih finds) lazy (fun bound _ => Nat.zero_le _)
      finds
  | group index body ih =>
    obtain ⟨stop, inside, finds⟩ := ih finds
    exact ⟨(stop.1, (index, spot, stop.1) :: stop.2), ⟨stop.2, inside, rfl⟩, finds⟩
  | again folding index =>
    unfold run at finds
    split at finds
    · next first last remembered =>
      split at finds
      · next later repeats =>
        exact ⟨(later, captures), ⟨first, last, remembered, repeats, rfl⟩, finds⟩
      · cases finds
    · cases finds
  | anchor kind =>
    unfold run at finds
    split at finds
    · next holds => exact ⟨_, ⟨holds, rfl⟩, finds⟩
    · cases finds
  | ahead positive body ih =>
    unfold run at finds
    split at finds
    · next held inside =>
      obtain ⟨further, way, same⟩ := ih inside
      cases same
      cases positive with
      | true => exact ⟨(spot, further.2), ⟨rfl, further.1, way⟩, finds⟩
      | false => cases finds
    · cases positive with
      | true => cases finds
      | false => exact ⟨(spot, captures), ⟨rfl, rfl⟩, finds⟩
  | behind positive width body ih =>
    unfold run at finds
    split at finds
    · next held inside =>
      obtain ⟨earlier, back, inside⟩ := Option.bind_eq_some_iff.mp inside
      obtain ⟨further, way, same⟩ := ih inside
      cases same
      cases positive with
      | true => exact ⟨(spot, further.2), ⟨rfl, earlier, further.1, back, way⟩, finds⟩
      | false => cases finds
    · cases positive with
      | true => cases finds
      | false => exact ⟨(spot, captures), ⟨rfl, rfl⟩, finds⟩
  | atomic body ih =>
    unfold run at finds
    split at finds
    · next later held inside =>
      obtain ⟨stop, way, same⟩ := ih inside
      cases same
      exact ⟨stop, way, finds⟩
    · cases finds
  | given index yes no ihYes ihNo =>
    unfold run at finds
    simp only [Leads]
    split at finds
    · next held =>
      simp only [if_pos held]
      exact ihYes finds
    · next absent =>
      simp only [if_neg absent]
      exact ihNo finds

/-! ## All ways are tried -/

/-- In a text of at most `size` characters, the step finds something if its continuation does at the
end of one of the ways. -/
def Tries (size : Nat) (step : Spot → Captures → Continuation α → Option α)
    (ways : Stage → Stage → Prop) : Prop :=
  ∀ spot captures done stop, spot.after.length ≤ size → ways (spot, captures) stop →
    (done stop.1 stop.2).isSome = true → (step spot captures done).isSome = true

theorem isSome_firstOf {first second : Option α} :
    (match first with
      | some found => some found
      | none => second).isSome = true ↔ first.isSome = true ∨ second.isSome = true := by
  cases first <;> simp

/-- A repetition tries every number of turns. Each turn takes a character, so none starts where the
turn before started, and the characters that are left bound their number. -/
theorem tries_repeatStep {size : Nat} (tries : Tries size step ways)
    (goesOn : ∀ start stop, ways start stop →
      ∃ taken, start.1.Takes taken stop.1 ∧ 1 ≤ taken.length)
    (lazy : Bool) {done : Continuation α} {fuel : Nat} {last : Option Nat} {spot : Spot}
    {captures : Captures} {stop : Stage} (enough : spot.after.length < fuel)
    (fits : spot.after.length ≤ size) (earlier : ∀ place ∈ last, place < spot.pos)
    (loops : Loops ways least most count (spot, captures) stop)
    (finds : (done stop.1 stop.2).isSome = true) :
    (repeatStep step lazy least most done fuel count last spot captures).isSome = true := by
  induction fuel generalizing count last spot captures with
  | zero => omega
  | succ fuel ih =>
    unfold repeatStep
    dsimp only
    rcases loops_iff.mp loops with ⟨finished, -, rfl⟩ | ⟨middle, way, loops⟩
    · rw [if_neg (Nat.not_lt.mpr finished)]
      cases lazy with
      | true => exact isSome_firstOf.mpr (.inl finds)
      | false => exact isSome_firstOf.mpr (.inr finds)
    · obtain ⟨taken, moves, nonempty⟩ := goesOn _ middle way
      have shorter := moves.length_after
      have later := moves.2.2
      dsimp only at shorter later
      have turn (last : Option Nat) (before : ∀ place ∈ last, place ≤ spot.pos) :
          (step spot captures fun later held =>
            repeatStep step lazy least most done fuel (count + 1) last later held).isSome =
              true := by
        refine tries spot captures _ middle fits way (ih (by omega) (by omega) ?_ loops)
        intro place among
        have := before place among
        omega
      split
      case isTrue required => exact turn last fun place among => Nat.le_of_lt (earlier place among)
      case isFalse free =>
        have allowed : (most.all (count < ·) && last != some spot.pos) = true := by
          obtain ⟨turns, -, bounded, -⟩ := loops
          rw [Bool.and_eq_true, Option.all_eq_true, bne_iff_ne]
          refine ⟨fun bound among => decide_eq_true ?_, ?_⟩
          · have := bounded bound among
            omega
          · rintro rfl
            exact Nat.lt_irrefl _ (earlier _ rfl)
        have turned := turn (some spot.pos) fun place among =>
          Nat.le_of_eq (Option.some.inj among).symm
        rw [allowed]
        cases lazy with
        | true => exact isSome_firstOf.mpr (.inr turned)
        | false => exact isSome_firstOf.mpr (.inl turned)

/-- A pattern that explores is tried in all its ways. -/
theorem Regex.tries_run {size : Nat} {regex : Regex} (explores : regex.explores = true) :
    Tries size (regex.run (α := α) size) regex.Leads := by
  intro spot captures done stop fits leads finds
  induction regex generalizing spot captures stop α with
  | empty =>
    cases leads
    exact finds
  | one set =>
    obtain ⟨c, next, has, same⟩ := leads
    rw [same] at finds
    simpa [run, next, has] using finds
  | seq first second ihFirst ihSecond =>
    rw [Regex.explores, Bool.and_eq_true] at explores
    obtain ⟨middle, front, back⟩ := leads
    obtain ⟨taken, moves, -⟩ := takes_of_leads front
    have shorter := moves.length_after
    dsimp only at shorter
    exact ihFirst explores.1 spot captures _ middle fits front
      (ihSecond explores.2 middle.1 middle.2 done stop (by omega) back finds)
  | alt first second ihFirst ihSecond =>
    rw [Regex.explores, Bool.and_eq_true] at explores
    rcases leads with leads | leads
    · exact isSome_firstOf.mpr (.inl (ihFirst explores.1 spot captures done stop fits leads finds))
    · exact isSome_firstOf.mpr (.inr (ihSecond explores.2 spot captures done stop fits leads finds))
  | loop lazy least most body ih =>
    rw [Regex.explores, Bool.and_eq_true, decide_eq_true_eq] at explores
    obtain ⟨wide, explores⟩ := explores
    refine tries_repeatStep (ih explores) ?_ lazy (by omega) fits nofun leads finds
    intro start stop way
    obtain ⟨taken, moves, enough⟩ := takes_of_leads way
    exact ⟨taken, moves, Nat.le_trans wide enough⟩
  | group index body ih =>
    obtain ⟨held, inside, same⟩ := leads
    rw [same] at finds
    exact ih explores spot captures _ (stop.1, held) fits inside finds
  | again folding index =>
    obtain ⟨first, last, remembered, repeats, same⟩ := leads
    dsimp only at remembered repeats
    rw [same] at finds
    simpa [run, remembered, repeats] using finds
  | anchor kind =>
    obtain ⟨holds, rfl⟩ := leads
    dsimp only at holds
    rwa [run, if_pos holds]
  | ahead positive body ih =>
    rw [Regex.explores, Bool.and_eq_true, Bool.and_eq_true] at explores
    obtain ⟨⟨rfl, forgets⟩, explores⟩ := explores
    obtain ⟨same, further, way⟩ := leads
    dsimp only at same
    rw [← same] at finds
    have inside : (body.run size spot captures fun _ held => some held).isSome = true :=
      ih explores spot captures _ _ fits way rfl
    obtain ⟨held, inside⟩ := Option.isSome_iff_exists.mp inside
    -- the body is left with the texts that it was entered with, on this way and on the one found
    obtain ⟨found, way', held'⟩ := leads_of_run inside
    have unchanged : stop.2 = held := by
      have stays : stop.2 = captures := held_of_forgets forgets way
      have stays' : found.2 = captures := held_of_forgets forgets way'
      rw [stays, ← stays']
      exact Option.some.inj held'
    rw [unchanged] at finds
    simpa [run, inside] using finds
  | behind | atomic | given => cases explores

end

/-! ## Searching -/

/-- The place between two parts of a text. -/
def Spot.between (before after : List Char) : Spot :=
  ⟨before.length, before.reverse, after⟩

namespace Regex

variable {regex : Regex}

/-- A search succeeds where the pattern matches at a place from there on. -/
theorem searchFrom_isSome_iff (before text : List Char) :
    (regex.searchFrom before.length before.reverse text).isSome = true ↔
      ∃ skipped rest, text = skipped ++ rest ∧
        (regex.matchAt (.between (before ++ skipped) rest)).isSome = true := by
  induction text generalizing before with
  | nil =>
    rw [searchFrom, Option.isSome_map]
    constructor
    · intro found
      exact ⟨[], [], rfl, by rwa [List.append_nil]⟩
    · rintro ⟨skipped, rest, whole, found⟩
      obtain ⟨rfl, rfl⟩ := List.append_eq_nil_iff.mp whole.symm
      rwa [List.append_nil] at found
  | cons c text ih =>
    have onward := ih (before ++ [c])
    rw [List.length_append, List.reverse_append] at onward
    unfold searchFrom
    dsimp only
    constructor
    · split
      · next later here =>
        intro _
        refine ⟨[], c :: text, rfl, ?_⟩
        rw [List.append_nil, Spot.between, here]
        rfl
      · intro found
        obtain ⟨skipped, rest, rfl, found⟩ := onward.mp found
        exact ⟨c :: skipped, rest, rfl, by rwa [List.append_cons]⟩
    · rintro ⟨skipped, rest, whole, found⟩
      cases skipped with
      | nil =>
        obtain rfl : c :: text = rest := whole
        rw [List.append_nil, Spot.between] at found
        obtain ⟨later, here⟩ := Option.isSome_iff_exists.mp found
        rw [here]
        rfl
      | cons d skipped =>
        obtain ⟨rfl, rfl⟩ := List.cons.inj whole
        split
        · rfl
        · exact onward.mpr ⟨skipped, rest, rfl, by rwa [List.append_cons] at found⟩

theorem occursIn_iff_matchAt {text : List Char} :
    regex.occursIn text = true ↔ ∃ before after, text = before ++ after ∧
      (regex.matchAt (.between before after)).isSome = true :=
  searchFrom_isSome_iff [] text

theorem matchAt_isSome_iff (explores : regex.explores = true) {spot : Spot} :
    (regex.matchAt spot).isSome = true ↔ ∃ stop, regex.Leads (spot, []) stop := by
  constructor
  · intro found
    obtain ⟨later, found⟩ := Option.isSome_iff_exists.mp found
    obtain ⟨stop, leads, -⟩ := leads_of_run found
    exact ⟨stop, leads⟩
  · rintro ⟨stop, leads⟩
    exact tries_run explores spot [] _ stop (Nat.le_add_left _ _) leads rfl

/-- A pattern that explores occurs in a text if it leads somewhere from a place in the text, and
only then. -/
theorem occursIn_iff_leads (explores : regex.explores = true) {text : List Char} :
    regex.occursIn text = true ↔ ∃ before after stop, text = before ++ after ∧
      regex.Leads (.between before after, []) stop := by
  rw [occursIn_iff_matchAt]
  simp only [matchAt_isSome_iff explores, exists_and_left]

end Regex

end ShellVet
