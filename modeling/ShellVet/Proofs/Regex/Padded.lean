import ShellVet.Proofs.Regex.Covered
import ShellVet.Proofs.Regex.Ink
import ShellVet.Proofs.Regex.Surrounded

/-!
# Padding around a text

Padding is blanks, tabs and line ends, and ink is all the rest. A pattern whose ways end in ink
stays within a text that has padding around it (`inkAt_of_inks`). So the padding behind a text does
not matter to a pattern that takes padding wherever it takes the end of the text
(`occursIn_trailed`), and the padding before it does not matter where padding serves for the start
of the text (`occursIn_led`). What asks for the start itself is `rigid`, and is lost behind padding.
-/

namespace ShellVet

namespace Text

/-- The characters of padding. -/
def pads : List Char := [' ', '\t', '\n']

/-- Whether the character is one of padding. -/
def isPad (c : Char) : Bool := pads.contains c

/-- Whether the text is padding only. -/
def isPadding (text : List Char) : Bool := text.all isPad

theorem mem_pads {c : Char} (pad : isPad c = true) : c ∈ pads := List.contains_iff_mem.mp pad

theorem isPadding_cons {c : Char} {text : List Char} :
    isPadding (c :: text) = true ↔ isPad c = true ∧ isPadding text = true := by
  unfold isPadding
  rw [List.all_cons, Bool.and_eq_true]

theorem isBlank_of_mem_pads {c : Char} (member : c ∈ pads) : isBlank c = true := by
  have blanks : (pads.all isBlank) = true := by decide
  exact List.all_eq_true.mp blanks c member

theorem isBlankText_of_isPadding {text : List Char} (padding : isPadding text = true) :
    isBlankText text = true :=
  List.all_eq_true.mpr fun c member =>
    isBlank_of_mem_pads (mem_pads (List.all_eq_true.mp padding c member))

end Text

/-! ## Where ways start and end -/

/-- The two ends of a way. -/
inductive Side where
  | front
  | back
  deriving DecidableEq

/-- The first character of a way, or its last one, is not padding. -/
def InkAt : Side → Spot → Spot → Prop
  | .front, start, _ => ∃ c rest, start.after = c :: rest ∧ Text.isPad c = false
  | .back, _, stop => ∃ c rest, stop.before = c :: rest ∧ Text.isPad c = false

theorem inkAt_trans {side : Side} {start middle stop : Spot}
    (first : middle = start ∨ InkAt side start middle)
    (second : stop = middle ∨ InkAt side middle stop) : stop = start ∨ InkAt side start stop := by
  rcases first with rfl | first
  · exact second
  · rcases second with rfl | second
    · exact .inr first
    · cases side with
      | front => exact .inr first
      | back => exact .inr second

namespace Regex

variable {regex : Regex} {start stop : Stage}

/-- The least number of characters that the pattern takes. -/
def least (regex : Regex) : Nat := (regex.width fun _ => (0, none)).1

theorem ne_of_least (wide : 0 < regex.least) (leads : regex.Leads start stop) :
    stop.1 ≠ start.1 := by
  obtain ⟨taken, takes, enough⟩ := takes_of_leads leads
  have pos := takes.2.2
  intro same
  rw [same] at pos
  unfold least at wide
  omega

/-- Whether each way of the pattern that takes a character has ink at an end. -/
def inks (side : Side) : Regex → Bool
  | .one set => set.lacks Text.pads
  | .seq first second =>
    (first.inks side || (side = .back && 0 < second.least)) &&
      (second.inks side || (side = .front && 0 < first.least))
  | .alt first second | .given _ first second => first.inks side && second.inks side
  | .loop _ _ _ body | .group _ body | .atomic body => body.inks side
  | .again .. => false
  | .empty | .anchor _ | .ahead .. | .behind .. => true

theorem isPad_eq_false_of_has {set : CharSet} (apart : set.lacks Text.pads = true) {c : Char}
    (has : set.has c = true) : Text.isPad c = false := by
  rw [← Bool.not_eq_true]
  intro pad
  have member := Text.mem_pads pad
  have blank := Text.mem_blanks (Text.isBlank_of_mem_pads member)
  rw [CharSet.has_eq_false_of_lacks apart member blank] at has
  cases has

/-- A way of a pattern with ink at an end takes nothing, or has ink there. -/
theorem inkAt_of_inks {side : Side} (inks : regex.inks side = true)
    (leads : regex.Leads start stop) : stop.1 = start.1 ∨ InkAt side start.1 stop.1 := by
  induction regex generalizing start stop with
  | empty =>
    cases leads
    exact .inl rfl
  | one set =>
    obtain ⟨c, next, has, -⟩ := leads
    have ink := isPad_eq_false_of_has inks has
    obtain ⟨after, before, -⟩ := Spot.takes_of_next? next
    cases side with
    | front => exact .inr ⟨c, _, after, ink⟩
    | back => exact .inr ⟨c, _, before, ink⟩
  | seq first second ihFirst ihSecond =>
    obtain ⟨middle, front, back⟩ := leads
    simp only [Regex.inks, Bool.and_eq_true, Bool.or_eq_true, decide_eq_true_eq] at inks
    obtain ⟨inks | ⟨atBack, wide⟩, inks' | ⟨atFront, wide'⟩⟩ := inks
    · exact inkAt_trans (ihFirst inks front) (ihSecond inks' back)
    · subst atFront
      exact .inr ((ihFirst inks front).resolve_left (ne_of_least wide' front))
    · subst atBack
      exact .inr ((ihSecond inks' back).resolve_left (ne_of_least wide back))
    · rw [atBack] at atFront
      cases atFront
  | alt first second ihFirst ihSecond =>
    rw [Regex.inks, Bool.and_eq_true] at inks
    exact leads.elim (ihFirst inks.1) (ihSecond inks.2)
  | given index yes no ihYes ihNo =>
    rw [Regex.inks, Bool.and_eq_true] at inks
    unfold Leads at leads
    split at leads
    · exact ihYes inks.1 leads
    · exact ihNo inks.2 leads
  | loop lazy least most body ih =>
    obtain ⟨count, -, -, turns⟩ := leads
    induction count generalizing start with
    | zero =>
      cases turns
      exact .inl rfl
    | succ count ihTurns =>
      obtain ⟨middle, way, rest⟩ := turns
      exact inkAt_trans (ih inks way) (ihTurns rest)
  | group index body ih =>
    obtain ⟨held, inside, -⟩ := leads
    have ends := ih inks inside
    exact ends
  | atomic body ih => exact ih inks leads
  | again => cases inks
  | anchor kind =>
    obtain ⟨-, rfl⟩ := leads
    exact .inl rfl
  | ahead | behind => exact .inl leads.1.symm

/-- Whether each way of the pattern starts in ink. -/
def startsInk (regex : Regex) : Bool := regex.inks .front && 0 < regex.least

theorem inkAt_of_startsInk (inks : regex.startsInk = true) (leads : regex.Leads start stop) :
    InkAt .front start.1 stop.1 := by
  rw [startsInk, Bool.and_eq_true, decide_eq_true_eq] at inks
  exact (inkAt_of_inks inks.1 leads).resolve_left (ne_of_least inks.2 leads)

theorem not_leads_of_startsInk (inks : regex.startsInk = true) {c : Char} {rest : List Char}
    (pad : Text.isPad c = true) (next : start.1.after = c :: rest) :
    ¬regex.Leads start stop := by
  intro leads
  obtain ⟨d, rest', first, ink⟩ := inkAt_of_startsInk inks leads
  rw [next] at first
  obtain ⟨rfl, -⟩ := List.cons.inj first
  rw [pad] at ink
  cases ink

/-- A pattern that needs ink leads nowhere from a place with only white space after it. -/
theorem not_blank_of_leads (explores : regex.explores = true) (ink : regex.needsInk = true)
    (leads : regex.Leads start stop) : Text.isBlankText start.1.after = false := by
  induction regex generalizing start stop with
  | empty | again | anchor => cases ink
  | one set =>
    obtain ⟨c, next, has, -⟩ := leads
    obtain ⟨after, -⟩ := Spot.takes_of_next? next
    rw [after, Text.isBlankText, List.all_append, List.all_cons]
    have absent : Text.isBlank c = false := by
      rw [← Bool.not_eq_true]
      intro blank
      have inside := Text.mem_blanks blank
      rw [CharSet.has_eq_false_of_lacks ink inside inside] at has
      cases has
    rw [absent]
    rfl
  | seq first second ihFirst ihSecond =>
    rw [Regex.explores, Bool.and_eq_true] at explores
    obtain ⟨middle, front, back⟩ := leads
    rcases Bool.or_eq_true _ _ ▸ ink with ink | ink
    · exact ihFirst explores.1 ink front
    · obtain ⟨taken, ⟨after, -⟩, -⟩ := takes_of_leads front
      have rest := ihSecond explores.2 ink back
      rw [Text.isBlankText] at rest ⊢
      rw [after, List.all_append, rest, Bool.and_false]
  | alt first second ihFirst ihSecond =>
    rw [Regex.explores, Bool.and_eq_true] at explores
    rw [needsInk, Bool.and_eq_true] at ink
    exact leads.elim (ihFirst explores.1 ink.1) (ihSecond explores.2 ink.2)
  | loop lazy least most body ih =>
    rw [Regex.explores, Bool.and_eq_true] at explores
    rw [needsInk, Bool.and_eq_true, decide_eq_true_eq] at ink
    obtain ⟨_ | count, enough, -, turns⟩ := leads
    · omega
    · obtain ⟨middle, way, -⟩ := turns
      exact ih explores.2 ink.2 way
  | group index body ih =>
    obtain ⟨held, inside, -⟩ := leads
    exact ih explores ink inside
  | ahead positive body ih =>
    rw [Regex.explores, Bool.and_eq_true, Bool.and_eq_true] at explores
    rw [needsInk, Bool.and_eq_true] at ink
    obtain ⟨⟨rfl, -⟩, explores⟩ := explores
    obtain ⟨-, further, way⟩ := leads
    exact ih explores ink.2 way
  | behind | atomic | given => cases explores

/-! ## The end of a text -/

/-- Whether the pattern is one character, or the end of the text, or a choice of such. -/
def glances : Regex → Bool
  | .one _ | .anchor .lastLineEnd => true
  | .alt first second => first.glances && second.glances
  | _ => false

/-- Whether the choice takes the character. -/
def takes (c : Char) : Regex → Bool
  | .one set => set.has c
  | .alt first second => first.takes c || second.takes c
  | _ => false

/-- Whether the choice takes the end of the text. -/
def takesEnd : Regex → Bool
  | .anchor .lastLineEnd => true
  | .alt first second => first.takesEnd || second.takesEnd
  | _ => false

/-- A choice takes one of its characters, or it takes the end. -/
theorem cases_of_glances (glances : regex.glances = true) (leads : regex.Leads start stop) :
    (∃ c, regex.takes c = true ∧ start.1.next? = some (c, stop.1)) ∨
      regex.takesEnd = true ∧ Anchor.lastLineEnd.holds start.1 = true := by
  fun_induction Regex.glances regex with
  | case1 set =>
    obtain ⟨c, next, has, -⟩ := leads
    exact .inl ⟨c, has, next⟩
  | case2 => exact .inr ⟨rfl, leads.1⟩
  | case3 first second ihFirst ihSecond =>
    rw [Bool.and_eq_true] at glances
    rcases leads with leads | leads
    · rcases ihFirst glances.1 leads with ⟨c, takes, next⟩ | ⟨ends, holds⟩
      · exact .inl ⟨c, by rw [Regex.takes, takes, Bool.true_or], next⟩
      · exact .inr ⟨by rw [takesEnd, ends, Bool.true_or], holds⟩
    · rcases ihSecond glances.2 leads with ⟨c, takes, next⟩ | ⟨ends, holds⟩
      · exact .inl ⟨c, by rw [Regex.takes, takes, Bool.or_true], next⟩
      · exact .inr ⟨by rw [takesEnd, ends, Bool.or_true], holds⟩
  | case4 => cases glances

theorem leads_of_takes {c : Char} {later : Spot} (takes : regex.takes c = true)
    (next : start.1.next? = some (c, later)) : regex.Leads start (later, start.2) := by
  fun_induction Regex.takes c regex with
  | case1 set => exact ⟨c, next, takes, rfl⟩
  | case2 first second ihFirst ihSecond =>
    exact (Bool.or_eq_true _ _ ▸ takes).imp ihFirst ihSecond
  | case3 => cases takes

theorem leads_of_takesEnd (ends : regex.takesEnd = true)
    (holds : Anchor.lastLineEnd.holds start.1 = true) : regex.Leads start start := by
  fun_induction Regex.takesEnd regex with
  | case1 => exact ⟨holds, rfl⟩
  | case2 first second ihFirst ihSecond =>
    exact (Bool.or_eq_true _ _ ▸ ends).imp ihFirst ihSecond
  | case3 => cases ends

/-- Whether the pattern is padding or the end of the text, among other single characters. -/
def meetsEnd (regex : Regex) : Bool :=
  regex.glances && regex.takesEnd && Text.pads.all regex.takes

end Regex

/-! ## Excerpts with padding around them -/

theorem has_word_of_isPad (asciiOnly : Bool) {c : Char} (pad : Text.isPad c = true) :
    CharClass.word.has asciiOnly c = false := by
  have apart : (Text.pads.all fun c =>
      !CharClass.word.has true c && !CharClass.word.has false c) = true := by
    decide
  have outside := List.all_eq_true.mp apart c (Text.mem_pads pad)
  rw [Bool.and_eq_true, Bool.not_eq_true', Bool.not_eq_true'] at outside
  cases asciiOnly with
  | true => exact outside.1
  | false => exact outside.2

theorem startsWord_of_isPadding {side : List Char} (pad : Text.isPadding side = true)
    (asciiOnly : Bool) : Excerpt.startsWord asciiOnly side = false := by
  cases side with
  | nil => rfl
  | cons c side => exact has_word_of_isPad asciiOnly (Text.isPadding_cons.mp pad).1

theorem isPadding_reverse {text : List Char} (pad : Text.isPadding text = true) :
    Text.isPadding text.reverse = true := by
  unfold Text.isPadding at pad ⊢
  rwa [List.all_reverse]

/-- An excerpt with padding around it. -/
structure Excerpt.Padded (excerpt : Excerpt) : Prop where
  before : Text.isPadding excerpt.before = true
  after : Text.isPadding excerpt.after = true
  before' : Text.isPadding excerpt.before' = true
  after' : Text.isPadding excerpt.after' = true

namespace Excerpt.Padded

variable {excerpt : Excerpt} {regex : Regex} {start stop twin : Stage}

theorem apart (padded : excerpt.Padded) : excerpt.Apart where
  before := startsWord_of_isPadding (isPadding_reverse padded.before)
  after := startsWord_of_isPadding padded.after
  before' := startsWord_of_isPadding (isPadding_reverse padded.before')
  after' := startsWord_of_isPadding padded.after'

/-- Padding or the end of the text is met at one place in both texts. -/
theorem meets (padded : excerpt.Padded) (meets : regex.meetsEnd = true)
    (twins : excerpt.Twins start.1 twin.1) (leads : regex.Leads start stop) :
    ∃ stop', regex.Leads twin stop' := by
  rw [Regex.meetsEnd, Bool.and_eq_true, Bool.and_eq_true, List.all_eq_true] at meets
  obtain ⟨⟨glances, ends⟩, pads⟩ := meets
  obtain ⟨spot, captures⟩ := start
  obtain ⟨spot', captures'⟩ := twin
  obtain ⟨front, back, whole, rfl, rfl⟩ := twins
  cases back with
  | nil =>
    cases more : excerpt.after' with
    | nil => exact ⟨_, Regex.leads_of_takesEnd ends rfl⟩
    | cons c rest =>
      have pad := (Text.isPadding_cons.mp (more ▸ padded.after')).1
      exact ⟨_, Regex.leads_of_takes (pads c (Text.mem_pads pad)) rfl⟩
  | cons c back =>
    rcases Regex.cases_of_glances glances leads with ⟨d, takes, next⟩ | ⟨-, holds⟩
    · obtain ⟨rfl, -⟩ := Prod.mk.inj (Option.some.inj next)
      exact ⟨_, Regex.leads_of_takes takes rfl⟩
    · -- the last line end ends the text, and it is padding as well
      obtain ⟨rfl, -⟩ : c = '\n' ∧ _ := by
        simpa [Anchor.holds, Spot.between] using holds
      exact ⟨_, Regex.leads_of_takes (pads _ (by decide)) rfl⟩

/-- A way that ends in ink, or before ink, ends within the part. -/
theorem within (padded : excerpt.Padded) {spot twin later : Spot} {taken : List Char}
    (twins : excerpt.Twins spot twin) (takes : spot.Takes taken later)
    (ink : later = spot ∨ InkAt .back spot later ∨ ∃ stop, InkAt .front later stop) :
    later.pos ≤ excerpt.limit := by
  rcases Nat.lt_or_ge excerpt.limit later.pos with beyond | within
  case inr => exact within
  have start := twins.le_limit
  obtain ⟨front, back, whole, rfl, -⟩ := twins
  obtain ⟨after, before, pos⟩ := takes
  -- the last character of the way is one of those behind the part
  have longer : back.length < taken.length := by
    rw [Excerpt.limit, whole] at beyond
    simp only [Spot.between, List.length_append] at beyond pos
    omega
  have behind : ∃ rest c, taken = back ++ (rest ++ [c]) ∧
      excerpt.after = rest ++ [c] ++ later.after := by
    rcases List.append_eq_append_iff.mp after with ⟨rest, split, split'⟩ | ⟨rest, rfl, -⟩
    · rcases List.eq_nil_or_concat rest with rfl | ⟨rest, c, rfl⟩
      · rw [split, List.append_nil] at longer
        omega
      · rw [List.concat_eq_append] at split split'
        exact ⟨rest, c, split, split'⟩
    · rw [List.length_append] at longer
      omega
  obtain ⟨rest, c, rfl, split⟩ := behind
  have pad := padded.after
  rw [split, Text.isPadding, List.all_append, List.all_append, Bool.and_eq_true,
    Bool.and_eq_true] at pad
  rcases ink with rfl | ⟨d, others, last, ink⟩ | ⟨-, d, others, next, ink⟩
  · omega
  · rw [before, List.reverse_append, List.reverse_append] at last
    obtain ⟨rfl, -⟩ := List.cons.inj last
    have pad := List.all_eq_true.mp pad.1.2 c (List.mem_singleton_self c)
    rw [pad] at ink
    cases ink
  · have pad := List.all_eq_true.mp pad.2 d (by rw [next]; exact List.mem_cons_self)
    rw [pad] at ink
    cases ink

end Excerpt.Padded

/-! ## Padding behind a text -/

namespace Regex

/-- Whether the pattern asks for nothing behind it but edges of words, and padding or the end. -/
def asksBefore : Regex → Bool :=
  asksOnly (fun kind => kind = .textStart || kind.isEdge) meetsEnd

/-- Whether the pattern ends in ink and asks for nothing behind it. -/
def endsInk (regex : Regex) : Bool := regex.asksBefore && regex.inks .back

/-- Whether the pattern takes padding wherever it takes the end of the text. -/
def trails : Regex → Bool
  | .seq (.loop _ 0 none (.one set)) (.anchor .lastLineEnd) => Text.pads.all set.has
  | .seq first second =>
    (seq first second).endsInk ||
      (first.asksBefore && (first.inks .back || second.startsInk) && second.trails)
  | .alt first second => (alt first second).meetsEnd || (first.trails && second.trails)
  | regex => regex.endsInk

end Regex

namespace Excerpt.Padded

variable {excerpt : Excerpt} {regex : Regex} {start stop twin : Stage}

theorem keeps_before (padded : excerpt.Padded) (first : excerpt.before = [])
    (first' : excerpt.before' = []) :
    excerpt.Keeps (fun kind => kind = .textStart || kind.isEdge) Regex.meetsEnd where
  anchors kind kept spot twin twins holds := by
    rw [Bool.or_eq_true, decide_eq_true_eq] at kept
    rcases kept with rfl | kept
    · obtain ⟨front, back, -, rfl, rfl⟩ := twins
      rw [first] at holds
      rw [first']
      exact holds
    · exact padded.apart.holds_of_isEdge kept twins holds
  glances body seen stage twin twins further way := padded.meets seen twins.1 way

/-- The end of a text is reached over padding in both texts, where the set holds what is left. -/
theorem reach_end (padded : excerpt.Padded) {set : CharSet} {isLazy : Bool}
    (pads : Text.pads.all set.has = true) (twins : excerpt.Twins start.1 twin.1)
    (leads : (Regex.seq (.loop isLazy 0 none (.one set)) (.anchor .lastLineEnd)).Leads start stop) :
    ∃ stop',
      (Regex.seq (.loop isLazy 0 none (.one set)) (.anchor .lastLineEnd)).Leads twin stop' := by
  obtain ⟨middle, ⟨count, -, -, turns⟩, holds, rfl⟩ := leads
  obtain ⟨taken, among, after, -, -⟩ := Regex.takes_of_turns_one turns
  obtain ⟨spot, captures⟩ := start
  obtain ⟨spot', captures'⟩ := twin
  obtain ⟨front, back, whole, rfl, rfl⟩ := twins
  have pad {text : List Char} (pad : Text.isPadding text = true) :
      ∀ c ∈ text, set.has c = true := fun c member =>
    List.all_eq_true.mp pads c (Text.mem_pads (List.all_eq_true.mp pad c member))
  have rest : Text.isPadding middle.1.after = true := by
    rw [Anchor.holds, Bool.or_eq_true, List.isEmpty_iff, beq_iff_eq] at holds
    rcases holds with nothing | newline
    · rw [nothing]
      rfl
    · rw [newline]
      decide
  have left : ∀ c ∈ back ++ excerpt.after', set.has c = true := by
    intro c member
    rcases List.mem_append.mp member with inside | outside
    · have member : c ∈ taken ++ middle.1.after := by
        rw [← after]
        exact List.mem_append_left _ inside
      exact (List.mem_append.mp member).elim (among c) (pad rest c)
    · exact pad padded.after' c outside
  have room : (Regex.loop isLazy 0 none (.one set)).Covers (back ++ excerpt.after') :=
    Regex.covers_loop_one left (Nat.zero_le _)
  have covers := room (excerpt.before' ++ front) [] captures'
  rw [List.append_nil] at covers
  exact ⟨_, _, covers, rfl, rfl⟩

/-- A way that ends in ink is there in both texts. -/
theorem trail_ink (padded : excerpt.Padded) (first : excerpt.before = [])
    (first' : excerpt.before' = []) (ends : regex.endsInk = true)
    (twins : excerpt.TwinStages start twin) (leads : regex.Leads start stop) :
    ∃ stop', regex.Leads twin stop' := by
  rw [Regex.endsInk, Bool.and_eq_true] at ends
  obtain ⟨taken, takes, -⟩ := Regex.takes_of_leads leads
  have within := padded.within twins.1 takes
    ((Regex.inkAt_of_inks ends.2 leads).imp_right .inl)
  obtain ⟨stop', -, way'⟩ := (padded.keeps_before first first').follow ends.1 leads twins within
  exact ⟨stop', way'⟩

/-- A way of a pattern that padding may follow is there in both texts. -/
theorem trail (padded : excerpt.Padded) (first : excerpt.before = [])
    (first' : excerpt.before' = []) (trails : regex.trails = true)
    (twins : excerpt.TwinStages start twin) (leads : regex.Leads start stop) :
    ∃ stop', regex.Leads twin stop' := by
  fun_induction Regex.trails regex generalizing start twin with
  | case1 isLazy set => exact padded.reach_end trails twins.1 leads
  | case2 front back apart ih =>
    simp only [Bool.or_eq_true, Bool.and_eq_true] at trails
    rcases trails with ends | ⟨⟨asks, ink⟩, trails⟩
    · exact padded.trail_ink first first' ends twins leads
    obtain ⟨middle, way, rest⟩ := leads
    obtain ⟨taken, takes, -⟩ := Regex.takes_of_leads way
    have within : middle.1.pos ≤ excerpt.limit := by
      refine padded.within twins.1 takes ?_
      rcases ink with ink | ink
      · exact (Regex.inkAt_of_inks ink way).imp_right .inl
      · exact .inr (.inr ⟨_, Regex.inkAt_of_startsInk ink rest⟩)
    obtain ⟨middle', twins', way'⟩ :=
      (padded.keeps_before first first').follow asks way twins within
    obtain ⟨stop', rest'⟩ := ih trails twins' rest
    exact ⟨stop', middle', way', rest'⟩
  | case3 first second ihFirst ihSecond =>
    rw [Bool.or_eq_true, Bool.and_eq_true] at trails
    rcases trails with meets | trails
    · exact padded.meets meets twins.1 leads
    · rcases leads with way | way
      · obtain ⟨stop', way'⟩ := ihFirst trails.1 twins way
        exact ⟨stop', .inl way'⟩
      · obtain ⟨stop', way'⟩ := ihSecond trails.2 twins way
        exact ⟨stop', .inr way'⟩
  | case4 => exact padded.trail_ink first first' trails twins leads

end Excerpt.Padded

namespace Regex

variable {regex : Regex}

/-- The padding behind a text does not matter to a pattern that takes it for the end. -/
theorem occursIn_trailed (explores : regex.explores = true) (ink : regex.needsInk = true)
    (trails : regex.trails = true) {text back back' : List Char}
    (pad : Text.isPadding back = true) (pad' : Text.isPadding back' = true)
    (occurs : regex.occursIn (text ++ back) = true) : regex.occursIn (text ++ back') = true := by
  obtain ⟨before, after, stop, whole, leads⟩ := (occursIn_iff_leads explores).mp occurs
  have padded : Excerpt.Padded ⟨text, [], back, [], back'⟩ := ⟨rfl, pad, rfl, pad'⟩
  rcases List.append_eq_append_iff.mp whole with ⟨rest, -, split⟩ | ⟨rest, rfl, rfl⟩
  · -- there is no ink from here on
    have left := not_blank_of_leads explores ink leads
    rw [split, Text.isPadding, List.all_append, Bool.and_eq_true] at pad
    rw [Spot.between, Text.isBlankText_of_isPadding pad.2] at left
    cases left
  · have twins : Excerpt.TwinStages ⟨before ++ rest, [], back, [], back'⟩
        (.between before (rest ++ back), []) (.between before (rest ++ back'), []) :=
      ⟨⟨before, rest, rfl, rfl, rfl⟩, .nil⟩
    obtain ⟨stop', leads'⟩ := padded.trail rfl rfl trails twins leads
    exact (occursIn_iff_leads explores).mpr
      ⟨before, rest ++ back', stop', List.append_assoc .., leads'⟩

/-! ## Padding before a text -/

/-- Whether the pattern asks for nothing before it but edges of words. -/
def asksAfter : Regex → Bool :=
  let keeps (kind : Anchor) : Bool := kind = .lastLineEnd || kind.isEdge
  asksOnly keeps (·.asksOnly keeps fun _ => false)

/-- Whether the pattern is a set that holds all padding. -/
def isRoom : Regex → Bool
  | .one set => Text.pads.all set.has
  | _ => false

/-- Whether the pattern starts in ink, behind the start of the text or something instead of it if it
asks for that. -/
def leadsIn : Regex → Bool
  | .seq (.alt (.anchor .textStart) instead) rest =>
    (instead.isRoom || instead.startsInk) && instead.asksAfter && rest.startsInk && rest.asksAfter
  | .alt first second => first.leadsIn && second.leadsIn
  | regex => regex.startsInk && regex.asksAfter

/-- The parts of a pattern that ask for the start of the text where padding does not serve. -/
def rigid : Regex → List Regex
  | .seq (.alt (.anchor .textStart) instead) rest =>
    if instead.isRoom then [] else [.seq (.anchor .textStart) rest]
  | .alt first second => first.rigid ++ second.rigid
  | _ => []

end Regex

theorem Spot.next?_between (before after : List Char) (c : Char) :
    (Spot.between before (c :: after)).next? = some (c, .between (before ++ [c]) after) := by
  simp [Spot.between, Spot.next?]

/-- Padding leads to the start of what comes after it, and so does the start of the text. -/
theorem Regex.exists_entrance {instead : Regex} (room : instead.isRoom = true) {front : List Char}
    (pad : Text.isPadding front = true) (text : List Char) :
    ∃ before after, front ++ text = before ++ after ∧
      (Regex.alt (.anchor .textStart) instead).Leads (.between before after, [])
        (.between front text, []) := by
  rcases List.eq_nil_or_concat front with rfl | ⟨before, c, rfl⟩
  · exact ⟨[], text, rfl, .inl ⟨rfl, rfl⟩⟩
  · unfold isRoom at room
    split at room
    · next set =>
      rw [List.concat_eq_append] at pad ⊢
      rw [Text.isPadding, List.all_append, Bool.and_eq_true] at pad
      have member := Text.mem_pads (List.all_eq_true.mp pad.2 c (List.mem_singleton_self c))
      exact ⟨before, c :: text, List.append_assoc .., .inr ⟨c, Spot.next?_between before text c,
        List.all_eq_true.mp room c member, rfl⟩⟩
    · cases room

namespace Excerpt.Padded

variable {excerpt : Excerpt} {regex instead rest : Regex} {before after : List Char} {stop : Stage}

theorem keeps_after (padded : excerpt.Padded) (last : excerpt.after = [])
    (last' : excerpt.after' = []) :
    let keeps (kind : Anchor) : Bool := kind = .lastLineEnd || kind.isEdge
    excerpt.Keeps keeps (·.asksOnly keeps fun _ => false) := by
  intro keeps
  refine keeps_of_last last fun kind kept spot twin twins holds => ?_
  rw [Bool.or_eq_true, decide_eq_true_eq] at kept
  rcases kept with rfl | kept
  · obtain ⟨front, back, -, rfl, rfl⟩ := twins
    rw [last] at holds
    rw [last']
    exact holds
  · exact padded.apart.holds_of_isEdge kept twins holds

/-- A way from a place in the part on is there in both texts. -/
theorem lead_inside (padded : excerpt.Padded) (last : excerpt.after = [])
    (last' : excerpt.after' = []) (asks : regex.asksAfter = true)
    (whole : excerpt.part = before ++ after)
    (leads : regex.Leads (.between (excerpt.before ++ before) after, []) stop) :
    ∃ stop', regex.Leads (.between (excerpt.before' ++ before) after, []) stop' := by
  have twins : excerpt.TwinStages (.between (excerpt.before ++ before) after, [])
      (.between (excerpt.before' ++ before) after, []) :=
    ⟨⟨before, after, whole, by rw [last, List.append_nil], by rw [last', List.append_nil]⟩, .nil⟩
  obtain ⟨taken, takes, -⟩ := Regex.takes_of_leads leads
  obtain ⟨stop', -, leads'⟩ := (padded.keeps_after last last').follow asks leads twins
    (twins.1.within_of_last last takes)
  exact ⟨stop', leads'⟩

/-- A place of the first text is in the part, or before a character of the padding before it. -/
theorem place_cases (padded : excerpt.Padded)
    (whole : excerpt.before ++ excerpt.part = before ++ after) :
    (∃ rest, before = excerpt.before ++ rest ∧ excerpt.part = rest ++ after) ∨
      ∃ c others, Text.isPad c = true ∧ excerpt.before = before ++ c :: others ∧
        after = c :: (others ++ excerpt.part) := by
  rcases List.append_eq_append_iff.mp whole with inside | ⟨others, split, rfl⟩
  · exact .inl inside
  · cases others with
    | nil =>
      rw [List.append_nil] at split
      exact .inl ⟨[], by rw [split, List.append_nil], rfl⟩
    | cons c others =>
      have pad := padded.before
      rw [split, Text.isPadding, List.all_append, Bool.and_eq_true] at pad
      exact .inr ⟨c, others, List.all_eq_true.mp pad.2 c List.mem_cons_self, split, rfl⟩

/-- A way that starts in ink starts in the part, and so it is there in both texts. -/
theorem lead_ink (padded : excerpt.Padded) (last : excerpt.after = []) (last' : excerpt.after' = [])
    (inks : regex.startsInk = true) (asks : regex.asksAfter = true)
    (whole : excerpt.before ++ excerpt.part = before ++ after)
    (leads : regex.Leads (.between before after, []) stop) :
    ∃ rest stop', before = excerpt.before ++ rest ∧ excerpt.part = rest ++ after ∧
      regex.Leads (.between (excerpt.before' ++ rest) after, []) stop' := by
  rcases padded.place_cases whole with ⟨rest, rfl, split⟩ | ⟨c, others, pad, -, rfl⟩
  · obtain ⟨stop', leads'⟩ := padded.lead_inside last last' asks split leads
    exact ⟨rest, stop', rfl, split, leads'⟩
  · exact absurd leads (Regex.not_leads_of_startsInk inks pad rfl)

/-- What follows the padding before the part is there in both texts, behind the start of the text
or behind padding. -/
theorem lead_entered (padded : excerpt.Padded) (last : excerpt.after = [])
    (last' : excerpt.after' = []) (room : instead.isRoom = true) (inks : rest.startsInk = true)
    (asks : rest.asksAfter = true)
    (leads : rest.Leads (.between excerpt.before excerpt.part, []) stop) :
    ∃ before' after' stop', excerpt.before' ++ excerpt.part = before' ++ after' ∧
      (Regex.seq (.alt (.anchor .textStart) instead) rest).Leads (.between before' after', [])
        stop' := by
  obtain ⟨nothing, stop', same, -, leads'⟩ := padded.lead_ink last last' inks asks rfl leads
  rw [List.self_eq_append_right.mp same, List.append_nil] at leads'
  obtain ⟨before', after', whole', entrance⟩ :=
    Regex.exists_entrance room padded.before' excerpt.part
  exact ⟨before', after', stop', whole', _, entrance, leads'⟩

/-- What follows the start of the text is there in both texts, unless the other one has padding
there and that does not serve. -/
theorem lead_opened (padded : excerpt.Padded) (last : excerpt.after = [])
    (last' : excerpt.after' = []) (inks : rest.startsInk = true) (asks : rest.asksAfter = true)
    (free : excerpt.before' = [] ∨ instead.isRoom = true ∨
      ∀ stop, ¬rest.Leads (.between [] excerpt.part, []) stop)
    (whole : excerpt.before ++ excerpt.part = [] ++ after)
    (leads : rest.Leads (.between [] after, []) stop) :
    ∃ before' after' stop', excerpt.before' ++ excerpt.part = before' ++ after' ∧
      (Regex.seq (.alt (.anchor .textStart) instead) rest).Leads (.between before' after', [])
        stop' := by
  obtain ⟨nothing, stop', same, split, leads'⟩ := padded.lead_ink last last' inks asks whole leads
  obtain ⟨front, rfl⟩ := List.append_eq_nil_iff.mp same.symm
  obtain rfl : excerpt.part = after := split
  rw [List.append_nil] at leads'
  rcases free with front' | room | free
  · rw [front'] at leads' ⊢
    exact ⟨[], excerpt.part, stop', rfl, _, .inl ⟨rfl, rfl⟩, leads'⟩
  · rw [← front] at leads
    exact padded.lead_entered last last' room inks asks leads
  · exact absurd leads (free stop)

/-- What follows padding, or something else instead of the start of the text, is there in both
texts. -/
theorem lead_instead (padded : excerpt.Padded) (last : excerpt.after = [])
    (last' : excerpt.after' = []) (serves : instead.isRoom = true ∨ instead.startsInk = true)
    (asksInstead : instead.asksAfter = true) (inks : rest.startsInk = true)
    (asks : rest.asksAfter = true) (whole : excerpt.before ++ excerpt.part = before ++ after)
    (leads : (Regex.seq instead rest).Leads (.between before after, []) stop) :
    ∃ before' after' stop', excerpt.before' ++ excerpt.part = before' ++ after' ∧
      (Regex.seq (.alt (.anchor .textStart) instead) rest).Leads (.between before' after', [])
        stop' := by
  rcases padded.place_cases whole with ⟨others, rfl, split⟩ | ⟨c, others, pad, split, rfl⟩
  · have asksBoth : (Regex.seq instead rest).asksAfter = true := by
      rw [Regex.asksAfter, Regex.asksOnly, Bool.and_eq_true]
      exact ⟨asksInstead, asks⟩
    obtain ⟨stop', middle', way', further'⟩ := padded.lead_inside last last' asksBoth split leads
    exact ⟨_, after, stop', by rw [split, List.append_assoc], middle', .inr way', further'⟩
  · obtain ⟨middle, way, further⟩ := leads
    rcases serves with room | ink
    · -- one character of padding is taken, and the part starts behind it
      obtain ⟨set, rfl⟩ : ∃ set, instead = .one set := by
        unfold Regex.isRoom at room
        split at room
        · exact ⟨_, rfl⟩
        · cases room
      obtain ⟨spot, captures⟩ := middle
      obtain ⟨d, next, -, held⟩ := way
      dsimp only at held next
      rw [Spot.next?_between] at next
      obtain ⟨-, rfl⟩ := Prod.mk.inj (Option.some.inj next)
      rw [held] at further
      cases others with
      | nil =>
        rw [List.nil_append, ← split] at further
        exact padded.lead_entered last last' room inks asks further
      | cons d others =>
        have pads := padded.before
        rw [split, Text.isPadding, List.all_append, Bool.and_eq_true] at pads
        have pad' := List.all_eq_true.mp pads.2 d (.tail _ (.head _))
        exact absurd further (Regex.not_leads_of_startsInk inks pad' rfl)
    · exact absurd way (Regex.not_leads_of_startsInk ink pad rfl)

/-- A pattern that padding may precede is followed behind any padding, unless it asks for the
start of the text itself. -/
theorem lead (padded : excerpt.Padded) (last : excerpt.after = []) (last' : excerpt.after' = [])
    (explores : regex.explores = true) (served : regex.leadsIn = true)
    (free : excerpt.before' = [] ∨ ∀ part ∈ regex.rigid, part.occursIn excerpt.part = false)
    (whole : excerpt.before ++ excerpt.part = before ++ after)
    (leads : regex.Leads (.between before after, []) stop) :
    ∃ before' after' stop', excerpt.before' ++ excerpt.part = before' ++ after' ∧
      regex.Leads (.between before' after', []) stop' := by
  fun_induction Regex.leadsIn regex with
  | case1 instead rest =>
    simp only [Bool.and_eq_true, Bool.or_eq_true] at served
    obtain ⟨⟨⟨serves, asksInstead⟩, inks⟩, asks⟩ := served
    obtain ⟨middle, ⟨holds, rfl⟩ | way, further⟩ := leads
    · obtain rfl : before = [] := by simpa [Anchor.holds, Spot.between] using holds
      refine padded.lead_opened last last' inks asks (free.imp_right fun free => ?_) whole further
      cases room : instead.isRoom with
      | true => exact .inl rfl
      | false =>
        rw [Regex.rigid, if_neg (by rw [room]; exact Bool.false_ne_true)] at free
        rw [Regex.explores, Bool.and_eq_true] at explores
        have explores' : (Regex.seq (.anchor .textStart) rest).explores = true := explores.2
        refine .inr fun stop leads => ?_
        have occurs : (Regex.seq (.anchor .textStart) rest).occursIn excerpt.part = true :=
          (Regex.occursIn_iff_leads explores').mpr
            ⟨[], excerpt.part, stop, rfl, _, ⟨rfl, rfl⟩, leads⟩
        rw [free _ (List.mem_singleton_self _)] at occurs
        cases occurs
    · exact padded.lead_instead last last' serves asksInstead inks asks whole ⟨middle, way, further⟩
  | case2 first second ihFirst ihSecond =>
    rw [Bool.and_eq_true] at served
    rw [Regex.explores, Bool.and_eq_true] at explores
    rw [Regex.rigid, List.forall_mem_append] at free
    rcases leads with way | way
    · obtain ⟨before', after', stop', whole', way'⟩ :=
        ihFirst explores.1 served.1 (free.imp_right And.left) way
      exact ⟨before', after', stop', whole', .inl way'⟩
    · obtain ⟨before', after', stop', whole', way'⟩ :=
        ihSecond explores.2 served.2 (free.imp_right And.right) way
      exact ⟨before', after', stop', whole', .inr way'⟩
  | case3 =>
    rw [Bool.and_eq_true] at served
    obtain ⟨rest, stop', rfl, split, leads'⟩ :=
      padded.lead_ink last last' served.1 served.2 whole leads
    exact ⟨_, after, stop', by rw [split, List.append_assoc], leads'⟩

end Excerpt.Padded

/-- The padding before a text does not matter to a pattern that it may precede, unless the pattern
asks for the start of the text itself. -/
theorem Regex.occursIn_led {regex : Regex} (explores : regex.explores = true)
    (served : regex.leadsIn = true) {front front' text : List Char}
    (pad : Text.isPadding front = true) (pad' : Text.isPadding front' = true)
    (free : front' = [] ∨ ∀ part ∈ regex.rigid, part.occursIn text = false)
    (occurs : regex.occursIn (front ++ text) = true) : regex.occursIn (front' ++ text) = true := by
  have padded : Excerpt.Padded ⟨text, front, [], front', []⟩ := ⟨pad, rfl, pad', rfl⟩
  obtain ⟨before, after, stop, whole, leads⟩ := (occursIn_iff_leads explores).mp occurs
  exact (occursIn_iff_leads explores).mpr
    (padded.lead rfl rfl explores served free whole leads)

end ShellVet
