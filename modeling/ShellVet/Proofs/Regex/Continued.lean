import ShellVet.Proofs.Regex.Padded

/-!
# Line continuations in a text

A line continuation behind a blank leaves what comes before the blank as it is, and what comes after
it. A way that keeps to one of the two sides is there in the continued text (`leads_front`,
`leads_rear`). A way from the one side to the other goes over the blank, and is there in the
continued text if the pattern takes the blank only where it takes a continuation as well, at its
very end or at its very start: such a pattern is `steady` (`occursIn_continued`).
-/

namespace ShellVet

/-- A way is as long as what it takes. -/
theorem Spot.Takes.eq_between {front back taken : List Char} {stop : Spot}
    (takes : (Spot.between front back).Takes taken stop) :
    stop = .between (front ++ taken) stop.after := by
  obtain ⟨-, before, pos⟩ := takes
  obtain ⟨stopPos, stopBefore, stopAfter⟩ := stop
  simp_all [Spot.between]

/-! ## The two sides of the blank -/

/-- The text with a blank between its two sides. -/
def Text.joined (before after : List Char) : List Char := before ++ ' ' :: after

/-- The text with a blank and a line continuation between its two sides. -/
def Text.continued (before after : List Char) : List Char := before ++ ' ' :: '\\' :: '\n' :: after

namespace Excerpt

variable {before after : List Char}

/-- What stands before the blank, in both texts. -/
def front (before after : List Char) : Excerpt :=
  ⟨before, [], ' ' :: after, [], ' ' :: '\\' :: '\n' :: after⟩

/-- What stands behind the blank, in both texts. -/
def rear (before after : List Char) : Excerpt :=
  ⟨after, before ++ [' '], [], before ++ [' ', '\\', '\n'], []⟩

/-- The anchors that look no further than one character. -/
def nearAnchor (kind : Anchor) : Bool :=
  kind = .textStart || kind = .lastLineEnd || kind.isEdge

/-- Where the next character is the same in both texts, the same single characters are seen. -/
theorem keeps_near {excerpt : Excerpt} (apart : excerpt.Apart)
    (starts : ∀ spot twin, excerpt.Twins spot twin → Anchor.textStart.holds spot = true →
      Anchor.textStart.holds twin = true)
    (ends : ∀ spot twin, excerpt.Twins spot twin → Anchor.lastLineEnd.holds spot = true →
      Anchor.lastLineEnd.holds twin = true)
    (heads : ∀ spot twin, excerpt.Twins spot twin → spot.after.head? = twin.after.head?) :
    excerpt.Keeps nearAnchor Regex.glances where
  anchors kind near spot twin twins holds := by
    rw [nearAnchor, Bool.or_eq_true, Bool.or_eq_true, decide_eq_true_eq, decide_eq_true_eq] at near
    rcases near with (rfl | rfl) | near
    · exact starts spot twin twins holds
    · exact ends spot twin twins holds
    · exact apart.holds_of_isEdge near twins holds
  glances body glances stage twin twins further way := by
    rcases Regex.cases_of_glances glances way with ⟨c, takes, next⟩ | ⟨takesEnd, holds⟩
    · have head := heads _ _ twins.1
      obtain ⟨later, next'⟩ : ∃ later, twin.1.next? = some (c, later) := by
        rw [(Spot.takes_of_next? next).1] at head
        obtain ⟨rest, split⟩ := List.head?_eq_some_iff.mp head.symm
        exact ⟨_, by rw [Spot.next?, split]⟩
      exact ⟨_, Regex.leads_of_takes takes next'⟩
    · exact ⟨_, Regex.leads_of_takesEnd takesEnd (ends _ _ twins.1 holds)⟩

theorem keeps_front : (front before after).Keeps nearAnchor Regex.glances := by
  refine keeps_near ⟨fun _ => rfl, fun asciiOnly => ?_, fun _ => rfl, fun asciiOnly => ?_⟩ ?_ ?_ ?_
  · cases asciiOnly <;> rfl
  · cases asciiOnly <;> rfl
  · rintro spot twin ⟨part, back, -, rfl, rfl⟩ holds
    exact holds
  · rintro spot twin ⟨part, back, -, rfl, rfl⟩ holds
    -- the blank is still to come, so the text does not end here
    cases back with
    | nil => cases holds
    | cons c back => simp [Anchor.holds, Spot.between, front] at holds
  · rintro spot twin ⟨part, back, -, rfl, rfl⟩
    cases back <;> rfl

theorem keeps_rear : (rear before after).Keeps nearAnchor Regex.glances := by
  have blank (asciiOnly : Bool) : startsWord asciiOnly (before ++ [' ']).reverse = false := by
    rw [List.reverse_append]
    cases asciiOnly <;> rfl
  have newline (asciiOnly : Bool) :
      startsWord asciiOnly (before ++ [' ', '\\', '\n']).reverse = false := by
    rw [List.reverse_append]
    cases asciiOnly <;> rfl
  refine keeps_near ⟨blank, fun _ => rfl, newline, fun _ => rfl⟩ ?_ ?_ ?_
  · rintro spot twin ⟨part, back, -, rfl, rfl⟩ holds
    simp [Anchor.holds, Spot.between, rear] at holds
  · rintro spot twin ⟨part, back, -, rfl, rfl⟩ holds
    exact holds
  · rintro spot twin ⟨part, back, -, rfl, rfl⟩
    rfl

end Excerpt

namespace Excerpt

variable {before after part rest : List Char}

theorem twins_front (after : List Char) (split : before = part ++ rest) :
    (front before after).TwinStages (.between part (rest ++ ' ' :: after), [])
      (.between part (rest ++ ' ' :: '\\' :: '\n' :: after), []) :=
  ⟨⟨part, rest, split, rfl, rfl⟩, .nil⟩

theorem twins_rear (split : after = part ++ rest) :
    (rear before after).TwinStages (.between (before ++ ' ' :: part) rest, [])
      (.between (before ++ ' ' :: '\\' :: '\n' :: part) rest, []) := by
  refine ⟨⟨part, rest, split, ?_, ?_⟩, .nil⟩ <;> simp [rear]

/-- A place of the text with the blank is before the blank or behind it. -/
theorem place_cases (whole : Text.joined before after = part ++ rest) :
    (∃ back, before = part ++ back ∧ rest = back ++ ' ' :: after) ∨
      ∃ front, part = before ++ ' ' :: front ∧ after = front ++ rest := by
  rcases List.append_eq_append_iff.mp whole with ⟨others, rfl, split⟩ | ⟨back, split, rest⟩
  · cases others with
    | nil => exact .inl ⟨[], by simp, split.symm⟩
    | cons c others =>
      obtain ⟨rfl, same⟩ := List.cons.inj split
      exact .inr ⟨others, rfl, same⟩
  · exact .inl ⟨back, split, rest⟩

end Excerpt

namespace Regex

open Excerpt

variable {regex : Regex} {before after : List Char} {start stop twin : Stage}

/-! ## Ways on one side -/

/-- Whether the pattern asks for no more of its surroundings than the next character. -/
def looksNear : Regex → Bool := asksOnly nearAnchor glances

theorem leads_front (near : regex.looksNear = true) (leads : regex.Leads start stop)
    (twins : (front before after).TwinStages start twin) (ends : stop.1.pos ≤ before.length) :
    ∃ twin', (front before after).TwinStages stop twin' ∧ regex.Leads twin twin' :=
  keeps_front.follow near leads twins (by simpa [limit, front] using ends)

theorem leads_rear (near : regex.looksNear = true) (leads : regex.Leads start stop)
    (twins : (rear before after).TwinStages start twin) :
    ∃ twin', (rear before after).TwinStages stop twin' ∧ regex.Leads twin twin' := by
  obtain ⟨taken, takes, -⟩ := takes_of_leads leads
  exact keeps_rear.follow near leads twins (twins.1.within_of_last rfl takes)

/-! ## Ways over the blank -/

/-- Whether the pattern takes the blank only where it takes a continuation as well. -/
def bridges : Regex → Bool
  | .one set => !set.has ' '
  | .seq first second | .alt first second => first.bridges && second.bridges
  | .loop _ _ none (.one set) => !set.has ' ' || (set.has '\\' && set.has '\n')
  | .loop _ _ _ body => body.bridges
  | .empty | .anchor _ | .ahead .. => true
  | .group .. | .again .. | .behind .. | .atomic _ | .given .. => false

/-- One step from before the blank to behind it takes the blank. -/
theorem blank_of_next? {spot later twin : Spot} {c : Char}
    (twins : (front before after).Twins spot twin) (next : spot.next? = some (c, later))
    (beyond : before.length < later.pos) :
    c = ' ' ∧ later = .between (before ++ [' ']) after := by
  obtain ⟨part, rest, split, rfl, -⟩ := twins
  obtain rfl : before = part ++ rest := split
  cases rest with
  | nil =>
    obtain ⟨rfl, rfl⟩ := Prod.mk.inj (Option.some.inj next)
    exact ⟨rfl, by simp [Spot.between, front]⟩
  | cons d rest =>
    have pos := (Spot.takes_of_next? next).2.2
    simp only [Spot.between, front, List.length_append, List.length_cons,
      List.length_nil] at pos beyond
    omega

/-- A set without the blank does not take it. -/
theorem pos_le_of_unblank {set : CharSet} (unblank : (!set.has ' ') = true)
    (leads : (Regex.one set).Leads start stop) (twins : (front before after).Twins start.1 twin.1) :
    stop.1.pos ≤ before.length := by
  obtain ⟨c, next, has, -⟩ := leads
  by_contra beyond
  obtain ⟨rfl, -⟩ := blank_of_next? twins next (Nat.lt_of_not_le beyond)
  rw [has] at unblank
  cases unblank

/-- A repeated set that holds the continuation goes on behind it. -/
theorem bridge_loop {set : CharSet} {isLazy : Bool} {least : Nat} (slash : set.has '\\' = true)
    (newline : set.has '\n' = true) (bare : start.2 = [])
    (leads : (loop isLazy least none (one set)).Leads start stop)
    (twins : (front before after).TwinStages start twin) (beyond : before.length < stop.1.pos) :
    ∃ twin', (rear before after).TwinStages stop twin' ∧
      (loop isLazy least none (one set)).Leads twin twin' := by
  obtain ⟨spot, captures⟩ := start
  obtain ⟨spot', captures'⟩ := twin
  obtain rfl : captures = [] := bare
  obtain ⟨⟨part, rest, split, rfl, rfl⟩, held⟩ := twins
  obtain rfl : before = part ++ rest := split
  obtain rfl : captures' = [] := List.forall₂_nil_left_iff.mp held
  have forgets : (loop isLazy least none (one set)).forgets = true := rfl
  have unheld := held_of_forgets forgets leads
  obtain ⟨taken', takes', enough⟩ := takes_of_leads leads
  obtain ⟨count, -, -, turns⟩ := leads
  obtain ⟨taken, among, takes⟩ := takes_of_turns_one turns
  have stop_eq := takes.eq_between
  have longer : rest.length < taken.length ∧ least ≤ taken.length := by
    have pos := takes.2.2
    have pos' := takes'.2.2
    simp only [width, Nat.one_mul] at enough
    simp only [Spot.between, front, List.length_append, List.nil_append] at pos pos' beyond
    omega
  -- what is taken goes over the blank
  obtain ⟨further, rfl, split⟩ : ∃ further, taken = rest ++ ' ' :: further ∧
      after = further ++ stop.1.after := by
    have whole : Text.joined rest after = taken ++ stop.1.after := takes.1
    rcases place_cases whole with ⟨back, rfl, -⟩ | ⟨further, way⟩
    · rw [List.length_append] at longer
      omega
    · exact ⟨further, way⟩
  have among' : ∀ c ∈ rest ++ ' ' :: '\\' :: '\n' :: further, set.has c = true := by
    intro c member
    have known : c ∈ rest ++ ' ' :: further ∨ c = '\\' ∨ c = '\n' := by
      simp only [List.mem_append, List.mem_cons] at member ⊢
      tauto
    rcases known with known | rfl | rfl
    · exact among c known
    · exact slash
    · exact newline
  have repeated : (loop isLazy least none (one set)).Covers
      (rest ++ ' ' :: '\\' :: '\n' :: further) := by
    refine covers_loop_one among' ?_
    simp only [List.length_append, List.length_cons] at longer ⊢
    omega
  have covers := repeated part stop.1.after []
  have stays : stop = (.between (part ++ rest ++ ' ' :: further) stop.1.after, []) := by
    refine Prod.ext ?_ unheld
    simpa only [front, List.nil_append, ← List.append_assoc] using stop_eq
  refine ⟨(.between (part ++ rest ++ ' ' :: '\\' :: '\n' :: further) stop.1.after, []), ?_, ?_⟩
  · rw [stays]
    exact twins_rear split
  · rw [split, List.append_assoc]
    rw [List.append_assoc] at covers
    exact covers

theorem pos_le_of_front {spot twin : Spot} (twins : (front before after).Twins spot twin) :
    spot.pos ≤ before.length := by
  have within := twins.le_limit
  rwa [limit, front, List.length_nil, Nat.zero_add] at within

theorem ne_of_beyond (twins : (front before after).TwinStages start twin)
    (beyond : before.length < stop.1.pos) : start.1 ≠ stop.1 := by
  intro same
  rw [← same] at beyond
  exact absurd beyond (Nat.not_lt.mpr (pos_le_of_front twins.1))

/-- Turns from before the blank to behind it go over the continuation in one of them. -/
theorem turns_bridged {body : Regex} {count : Nat} (near : body.looksNear = true)
    (forgets : body.forgets = true)
    (bridged : ∀ start stop twin, start.2 = [] → body.Leads start stop →
      (front before after).TwinStages start twin → before.length < stop.1.pos →
      ∃ twin', (rear before after).TwinStages stop twin' ∧ body.Leads twin twin')
    (bare : start.2 = []) (turns : Turns body.Leads count start stop)
    (twins : (front before after).TwinStages start twin) (beyond : before.length < stop.1.pos) :
    ∃ twin', (rear before after).TwinStages stop twin' ∧ Turns body.Leads count twin twin' := by
  induction count generalizing start twin with
  | zero =>
    cases turns
    exact absurd beyond (Nat.not_lt.mpr (pos_le_of_front twins.1))
  | succ count ih =>
    obtain ⟨middle, way, rest⟩ := turns
    have bare' : middle.2 = [] := (held_of_forgets forgets way).trans bare
    rcases Nat.lt_or_ge before.length middle.1.pos with past | within
    · obtain ⟨middle', twins', way'⟩ := bridged _ _ _ bare way twins past
      obtain ⟨taken, takes, -⟩ := takes_of_turns (fun _ _ => takes_of_leads) rest
      obtain ⟨stop', twins', rest'⟩ := Excerpt.follow_turns (fun _ _ => pos_le_of_leads)
        (fun _ _ _ way twins _ => leads_rear near way twins) rest twins'
        (twins'.1.within_of_last rfl takes)
      exact ⟨stop', twins', middle', way', rest'⟩
    · obtain ⟨middle', twins', way'⟩ := leads_front near way twins within
      obtain ⟨stop', twins', rest'⟩ := ih bare' rest twins'
      exact ⟨stop', twins', middle', way', rest'⟩

/-- A way from before the blank to behind it goes over the continuation as well. -/
theorem leads_bridged (served : regex.bridges = true) (near : regex.looksNear = true)
    (forgets : regex.forgets = true) (bare : start.2 = []) (leads : regex.Leads start stop)
    (twins : (front before after).TwinStages start twin) (beyond : before.length < stop.1.pos) :
    ∃ twin', (rear before after).TwinStages stop twin' ∧ regex.Leads twin twin' := by
  fun_induction Regex.bridges regex generalizing start stop twin with
  | case1 set =>
    exact absurd beyond (Nat.not_lt.mpr (pos_le_of_unblank served leads twins.1))
  | case2 first second ihFirst ihSecond =>
    rw [Bool.and_eq_true] at served
    rw [looksNear, asksOnly, Bool.and_eq_true] at near
    rw [Regex.forgets, Bool.and_eq_true] at forgets
    obtain ⟨middle, way, rest⟩ := leads
    rcases Nat.lt_or_ge before.length middle.1.pos with past | within
    · obtain ⟨middle', twins', way'⟩ := ihFirst served.1 near.1 forgets.1 bare way twins past
      obtain ⟨stop', twins', rest'⟩ := leads_rear near.2 rest twins'
      exact ⟨stop', twins', middle', way', rest'⟩
    · obtain ⟨middle', twins', way'⟩ := leads_front near.1 way twins within
      have bare' : middle.2 = [] := (held_of_forgets forgets.1 way).trans bare
      obtain ⟨stop', twins', rest'⟩ :=
        ihSecond served.2 near.2 forgets.2 bare' rest twins' beyond
      exact ⟨stop', twins', middle', way', rest'⟩
  | case3 first second ihFirst ihSecond =>
    rw [Bool.and_eq_true] at served
    rw [looksNear, asksOnly, Bool.and_eq_true] at near
    rw [Regex.forgets, Bool.and_eq_true] at forgets
    rcases leads with way | way
    · obtain ⟨stop', twins', way'⟩ := ihFirst served.1 near.1 forgets.1 bare way twins beyond
      exact ⟨stop', twins', .inl way'⟩
    · obtain ⟨stop', twins', way'⟩ := ihSecond served.2 near.2 forgets.2 bare way twins beyond
      exact ⟨stop', twins', .inr way'⟩
  | case4 isLazy least set =>
    rw [Bool.or_eq_true, Bool.and_eq_true] at served
    rcases served with unblank | ⟨slash, newline⟩
    · obtain ⟨count, enough, bounded, turns⟩ := leads
      have near : (Regex.one set).looksNear = true := rfl
      obtain ⟨stop', twins', turns'⟩ := turns_bridged near rfl
        (fun _ _ _ _ way twins beyond =>
          absurd beyond (Nat.not_lt.mpr (pos_le_of_unblank unblank way twins.1)))
        bare turns twins beyond
      exact ⟨stop', twins', count, enough, bounded, turns'⟩
    · exact bridge_loop slash newline bare leads twins beyond
  | case5 isLazy least most body _ ih =>
    obtain ⟨count, enough, bounded, turns⟩ := leads
    have near : body.looksNear = true := near
    have forgets : body.forgets = true := forgets
    obtain ⟨stop', twins', turns'⟩ := turns_bridged near forgets
      (fun _ _ _ bare way twins beyond => ih served near forgets bare way twins beyond)
      bare turns twins beyond
    exact ⟨stop', twins', count, enough, bounded, turns'⟩
  | case6 => exact absurd (congrArg Prod.fst leads) (ne_of_beyond twins beyond)
  | case7 => exact absurd (congrArg Prod.fst leads.2) (ne_of_beyond twins beyond)
  | case8 => exact absurd leads.1 (ne_of_beyond twins beyond)
  | case9 => cases served
  | case10 => cases served
  | case11 => cases served
  | case12 => cases served
  | case13 => cases served

/-! ## Ways that start or end at the blank -/

/-- Whether the pattern bridges, but for one character at its end. -/
def bridgesToEnd : Regex → Bool
  | .seq first second => first.bridges && second.bridgesToEnd
  | .alt first second => (alt first second).glances || (first.bridgesToEnd && second.bridgesToEnd)
  | regex => regex.bridges

/-- A way from before the blank is there in the continued text. -/
theorem leads_continued (served : regex.bridgesToEnd = true) (near : regex.looksNear = true)
    (forgets : regex.forgets = true) (bare : start.2 = []) (leads : regex.Leads start stop)
    (twins : (front before after).TwinStages start twin) : ∃ stop', regex.Leads twin stop' := by
  fun_induction Regex.bridgesToEnd regex generalizing start stop twin with
  | case1 first second ih =>
    rw [Bool.and_eq_true] at served
    rw [looksNear, asksOnly, Bool.and_eq_true] at near
    rw [Regex.forgets, Bool.and_eq_true] at forgets
    obtain ⟨middle, way, rest⟩ := leads
    rcases Nat.lt_or_ge before.length middle.1.pos with past | within
    · obtain ⟨middle', twins', way'⟩ :=
        leads_bridged served.1 near.1 forgets.1 bare way twins past
      obtain ⟨stop', -, rest'⟩ := leads_rear near.2 rest twins'
      exact ⟨stop', middle', way', rest'⟩
    · obtain ⟨middle', twins', way'⟩ := leads_front near.1 way twins within
      have bare' : middle.2 = [] := (held_of_forgets forgets.1 way).trans bare
      obtain ⟨stop', rest'⟩ := ih served.2 near.2 forgets.2 bare' rest twins'
      exact ⟨stop', middle', way', rest'⟩
  | case2 first second ihFirst ihSecond =>
    rw [Bool.or_eq_true, Bool.and_eq_true] at served
    rcases served with glances | served
    · exact keeps_front.glances _ glances _ _ twins _ leads
    · rw [looksNear, asksOnly, Bool.and_eq_true] at near
      rw [Regex.forgets, Bool.and_eq_true] at forgets
      rcases leads with way | way
      · obtain ⟨stop', way'⟩ := ihFirst served.1 near.1 forgets.1 bare way twins
        exact ⟨stop', .inl way'⟩
      · obtain ⟨stop', way'⟩ := ihSecond served.2 near.2 forgets.2 bare way twins
        exact ⟨stop', .inr way'⟩
  | case3 =>
    rcases Nat.lt_or_ge before.length stop.1.pos with past | within
    · obtain ⟨stop', -, leads'⟩ := leads_bridged served near forgets bare leads twins past
      exact ⟨stop', leads'⟩
    · obtain ⟨stop', -, leads'⟩ := leads_front near leads twins within
      exact ⟨stop', leads'⟩

/-- Whether the pattern bridges, but for one character at its start and one at its end. -/
def bridgesThroughout : Regex → Bool
  | .seq (.alt (.anchor .textStart) (.one set)) rest => set.has '\n' && rest.bridgesToEnd
  | .alt first second => first.bridgesThroughout && second.bridgesThroughout
  | regex => regex.bridgesToEnd

/-- Whether every match of the pattern is left with a continuation behind a blank. -/
def steady (regex : Regex) : Bool := regex.forgets && regex.bridgesThroughout

variable {part rest : List Char}

/-- A way that starts with a character instead of the start of the text is there in the continued
text. Where that character is the blank, the line end of the continuation serves as well. -/
theorem leads_entered {set : CharSet} {further : Regex} (newline : set.has '\n' = true)
    (served : further.bridgesToEnd = true) (near : further.looksNear = true)
    (forgets : further.forgets = true) (split : before = part ++ rest)
    (leads : (Regex.seq (.one set) further).Leads (.between part (rest ++ ' ' :: after), []) stop) :
    ∃ part' rest' stop', Text.continued before after = part' ++ rest' ∧
      (Regex.seq (.one set) further).Leads (.between part' rest', []) stop' := by
  have twins := twins_front after split
  obtain ⟨⟨spot, captures⟩, way, onward⟩ := leads
  rcases Nat.lt_or_ge before.length spot.pos with past | within
  · obtain ⟨c, next, -, held⟩ := way
    obtain ⟨-, rfl⟩ := blank_of_next? twins.1 next past
    obtain rfl : captures = [] := held
    have behind : (rear before after).TwinStages (.between (before ++ [' ']) after, [])
        (.between (before ++ [' ', '\\', '\n']) after, []) := twins_rear rfl
    obtain ⟨stop', -, onward'⟩ := leads_rear near onward behind
    have entered : (Regex.one set).Leads (.between (before ++ [' ', '\\']) ('\n' :: after), [])
        (.between (before ++ [' ', '\\', '\n']) after, []) :=
      ⟨'\n', by simp [Spot.between, Spot.next?], newline, rfl⟩
    exact ⟨_, _, stop', by simp [Text.continued], _, entered, onward'⟩
  · have near' : (Regex.one set).looksNear = true := rfl
    obtain ⟨middle', twins', way'⟩ := leads_front near' way twins within
    obtain ⟨-, -, -, bare⟩ := way
    obtain ⟨stop', onward'⟩ := leads_continued served near forgets bare onward twins'
    exact ⟨part, _, stop', by simp [Text.continued, split], middle', way', onward'⟩

/-- A way from before the blank is there in the continued text, unless it goes over the blank
without taking the continuation. -/
theorem leads_throughout (served : regex.bridgesThroughout = true) (near : regex.looksNear = true)
    (forgets : regex.forgets = true) (split : before = part ++ rest)
    (leads : regex.Leads (.between part (rest ++ ' ' :: after), []) stop) :
    ∃ part' rest' stop', Text.continued before after = part' ++ rest' ∧
      regex.Leads (.between part' rest', []) stop' := by
  have twins := twins_front after split
  have whole : Text.continued before after = part ++ (rest ++ ' ' :: '\\' :: '\n' :: after) := by
    rw [Text.continued, split, List.append_assoc]
  fun_induction Regex.bridgesThroughout regex with
  | case1 set further =>
    rw [Bool.and_eq_true] at served
    rw [looksNear, asksOnly, Bool.and_eq_true] at near
    rw [Regex.forgets, Bool.and_eq_true] at forgets
    obtain ⟨middle, ⟨holds, rfl⟩ | way, onward⟩ := leads
    · have holds' := keeps_front.anchors _ rfl _ _ twins.1 holds
      obtain ⟨stop', onward'⟩ := leads_continued served.2 near.2 forgets.2 rfl onward twins
      exact ⟨part, _, stop', whole, _, .inl ⟨holds', rfl⟩, onward'⟩
    · obtain ⟨part', rest', stop', whole', middle', way', onward'⟩ :=
        leads_entered served.1 served.2 near.2 forgets.2 split ⟨middle, way, onward⟩
      exact ⟨part', rest', stop', whole', middle', .inr way', onward'⟩
  | case2 first second ihFirst ihSecond =>
    rw [Bool.and_eq_true] at served
    rw [looksNear, asksOnly, Bool.and_eq_true] at near
    rw [Regex.forgets, Bool.and_eq_true] at forgets
    rcases leads with way | way
    · obtain ⟨part', rest', stop', whole', way'⟩ := ihFirst served.1 near.1 forgets.1 way
      exact ⟨part', rest', stop', whole', .inl way'⟩
    · obtain ⟨part', rest', stop', whole', way'⟩ := ihSecond served.2 near.2 forgets.2 way
      exact ⟨part', rest', stop', whole', .inr way'⟩
  | case3 =>
    obtain ⟨stop', leads'⟩ := leads_continued served near forgets rfl leads twins
    exact ⟨part, _, stop', whole, leads'⟩

/-! ## Matches that are left -/

/-- The pattern can be followed through the text from one position to another. -/
def Stretch (regex : Regex) (text : List Char) (first last : Nat) : Prop :=
  ∃ front back stop, text = front ++ back ∧ front.length = first ∧
    regex.Leads (.between front back, []) stop ∧ stop.1.pos = last

/-- The pattern stretches over a part of the text on one side of the blank, or it is steady and
stretches over any part. -/
def Spared (regex : Regex) (before after : List Char) : Prop :=
  ∃ first last, regex.Stretch (Text.joined before after) first last ∧
    (last ≤ before.length ∨ before.length < first ∨ regex.steady = true)

/-- What is spared occurs in the continued text. -/
theorem occursIn_continued (explores : regex.explores = true) (near : regex.looksNear = true)
    (spared : regex.Spared before after) :
    regex.occursIn (Text.continued before after) = true := by
  rw [occursIn_iff_leads explores]
  obtain ⟨first, last, ⟨part, rest, stop, whole, rfl, leads, rfl⟩, beside⟩ := spared
  rcases place_cases whole with ⟨back, split, rfl⟩ | ⟨front, rfl, split⟩
  · rcases beside with ends | starts | steady
    · obtain ⟨stop', -, leads'⟩ := leads_front near leads (twins_front after split) ends
      exact ⟨part, _, stop', by rw [Text.continued, split, List.append_assoc], leads'⟩
    · rw [split, List.length_append] at starts
      omega
    · rw [Regex.steady, Bool.and_eq_true] at steady
      exact leads_throughout steady.2 near steady.1 split leads
  · obtain ⟨stop', -, leads'⟩ := leads_rear near leads (twins_rear split)
    exact ⟨_, rest, stop', by simp [Text.continued, split], leads'⟩

/-- A pattern that occurs stretches over some part of the text. -/
theorem exists_stretch (explores : regex.explores = true) {text : List Char}
    (occurs : regex.occursIn text = true) : ∃ first last, regex.Stretch text first last := by
  obtain ⟨front, back, stop, whole, leads⟩ := (occursIn_iff_leads explores).mp occurs
  exact ⟨_, _, front, back, stop, whole, rfl, leads, rfl⟩

end Regex

end ShellVet
