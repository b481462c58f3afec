import ShellVet.Proofs.Regex.Ways
import ShellVet.Risk

/-!
# Matches behind a separator

A pattern that floats does not ask whether it stands at the start of the text, so each of its ways
is there as well when more text is put before (`leads_behind`). Where a signature asks for the
start, a separator does instead: no signature that occurs in a text is lost when a semicolon and a
blank are put before it, and any text before these (`occursIn_separated`).
-/

namespace ShellVet

/-- The place with a text put before. -/
def Spot.behind (front : List Char) (spot : Spot) : Spot :=
  ⟨front.length + spot.pos, spot.before ++ front.reverse, spot.after⟩

/-- The texts remembered, each with a text put before. -/
def Captures.behind (front : List Char) (captures : Captures) : Captures :=
  captures.map fun capture => (capture.1, capture.2.1.behind front, capture.2.2.behind front)

/-- The stage with a text put before. -/
def Stage.behind (front : List Char) (stage : Stage) : Stage :=
  (stage.1.behind front, Captures.behind front stage.2)

section

variable {front : List Char} {spot later : Spot}

theorem Spot.behind_between (before after : List Char) :
    (Spot.between before after).behind front = .between (front ++ before) after := by
  simp [Spot.behind, Spot.between]

theorem Spot.next?_behind {c : Char} (next : spot.next? = some (c, later)) :
    (spot.behind front).next? = some (c, later.behind front) := by
  obtain ⟨pos, before, after⟩ := spot
  cases after with
  | nil => cases next
  | cons d after =>
    cases next
    rfl

theorem Spot.over?_behind {folding : Folding} {wanted : List Char}
    (repeats : spot.over? folding wanted = some later) :
    (spot.behind front).over? folding wanted = some (later.behind front) := by
  induction wanted generalizing spot with
  | nil =>
    cases repeats
    rfl
  | cons c wanted ih =>
    unfold Spot.over? at repeats ⊢
    split at repeats
    · next d after next =>
      rw [Spot.next?_behind next]
      dsimp only
      split at repeats
      · next same =>
        rw [if_pos same]
        exact ih repeats
      · cases repeats
    · cases repeats

theorem Spot.upTo_behind (first last : Spot) :
    (first.behind front).upTo (last.behind front) = first.upTo last := by
  unfold Spot.upTo Spot.behind
  rw [Nat.add_sub_add_left]

theorem Captures.lookup_behind {captures : Captures} {index : Nat} {first last : Spot}
    (found : captures.lookup index = some (first, last)) :
    (Captures.behind front captures).lookup index =
      some (first.behind front, last.behind front) := by
  induction captures with
  | nil => cases found
  | cons capture captures ih =>
    obtain ⟨number, bounds⟩ := capture
    unfold Captures.behind
    rw [List.map_cons, List.lookup_cons]
    rw [List.lookup_cons] at found
    cases same : index == number with
    | true =>
      rw [same] at found
      cases found
      rfl
    | false =>
      rw [same] at found
      exact ih found

end

/-- Whether the anchor asks for the start of the text. -/
def Anchor.asksStart : Anchor → Bool
  | .textStart | .lineStart => true
  | .textEnd | .lastLineEnd | .lineEnd | .wordEdge .. => false

/-- The text ends in a character that belongs to no word. -/
def EndsOutside (front : List Char) : Prop :=
  ∃ text c, front = text ++ [c] ∧ ∀ asciiOnly, CharClass.word.has asciiOnly c = false

/-- Behind a text that ends outside of words, edges of words stay where they are. -/
theorem Anchor.holds_behind {front : List Char} (outside : EndsOutside front) {spot : Spot}
    {kind : Anchor} (floats : kind.asksStart = false) (holds : kind.holds spot = true) :
    kind.holds (spot.behind front) = true := by
  cases kind with
  | textStart | lineStart => cases floats
  | textEnd | lastLineEnd | lineEnd => exact holds
  | wordEdge asciiOnly inside =>
    obtain ⟨text, c, rfl, outside⟩ := outside
    obtain ⟨pos, before, after⟩ := spot
    cases before with
    | nil =>
      have plain := outside asciiOnly
      simp_all [Anchor.holds, Spot.behind]
    | cons d before => simpa [Anchor.holds, Spot.behind] using holds

namespace Regex

/-- Whether the pattern nowhere asks for the start of the text. -/
def floats : Regex → Bool
  | .empty | .one _ | .again .. => true
  | .seq first second | .alt first second => first.floats && second.floats
  | .loop _ _ _ body | .group _ body | .atomic body => body.floats
  | .anchor kind => !kind.asksStart
  | .ahead positive body => positive && body.floats
  | .behind .. | .given .. => false

/-- A pattern that floats is followed behind more text as it is without. -/
theorem leads_behind {front : List Char} (outside : EndsOutside front) {regex : Regex}
    (floats : regex.floats = true) {start stop : Stage} (leads : regex.Leads start stop) :
    regex.Leads (start.behind front) (stop.behind front) := by
  induction regex generalizing start stop with
  | empty =>
    cases leads
    rfl
  | one set =>
    obtain ⟨c, next, has, same⟩ := leads
    exact ⟨c, Spot.next?_behind next, has, congrArg (Captures.behind front) same⟩
  | seq first second ihFirst ihSecond =>
    rw [Regex.floats, Bool.and_eq_true] at floats
    obtain ⟨middle, way, rest⟩ := leads
    exact ⟨middle.behind front, ihFirst floats.1 way, ihSecond floats.2 rest⟩
  | alt first second ihFirst ihSecond =>
    rw [Regex.floats, Bool.and_eq_true] at floats
    exact leads.imp (ihFirst floats.1) (ihSecond floats.2)
  | loop lazy least most body ih =>
    obtain ⟨turns, enough, bounded, rest⟩ := leads
    refine ⟨turns, enough, bounded, ?_⟩
    clear enough bounded
    induction turns generalizing start with
    | zero =>
      cases rest
      rfl
    | succ turns ihTurns =>
      obtain ⟨middle, way, rest⟩ := rest
      exact ⟨middle.behind front, ih floats way, ihTurns rest⟩
  | group index body ih =>
    obtain ⟨held, inside, same⟩ := leads
    exact ⟨Captures.behind front held, ih floats inside, congrArg (Captures.behind front) same⟩
  | again folding index =>
    obtain ⟨first, last, remembered, repeats, same⟩ := leads
    refine ⟨first.behind front, last.behind front, Captures.lookup_behind remembered, ?_,
      congrArg (Captures.behind front) same⟩
    rw [Spot.upTo_behind]
    exact Spot.over?_behind repeats
  | anchor kind =>
    obtain ⟨holds, rfl⟩ := leads
    rw [Regex.floats, Bool.not_eq_true'] at floats
    exact ⟨Anchor.holds_behind outside floats holds, rfl⟩
  | ahead positive body ih =>
    rw [Regex.floats, Bool.and_eq_true] at floats
    obtain ⟨rfl, floats⟩ := floats
    obtain ⟨same, further, way⟩ := leads
    exact ⟨congrArg (Spot.behind front) same, further.behind front, ih floats way⟩
  | atomic body ih => exact ih floats leads
  | behind | given => cases floats

/-- Whether a semicolon and a blank, or the blank alone, lead through the pattern. -/
def takesSeparator : Regex → Bool
  | .one set => set.has ' '
  | .seq (.one first) (.loop _ 0 none (.one second)) => first.has ';' && second.has ' '
  | _ => false

/-- Whether a separator serves the pattern where it asks for the start of the text. -/
def separates : Regex → Bool
  | .seq (.alt (.anchor .textStart) instead) rest => instead.takesSeparator && rest.floats
  | .alt first second => first.separates && second.separates
  | regex => regex.floats

theorem floats_of_takesSeparator {regex : Regex} (takes : regex.takesSeparator = true) :
    regex.floats = true := by
  unfold takesSeparator at takes
  split at takes
  · rfl
  · rfl
  · cases takes

/-- The place before a text with a separator put before it. -/
theorem leads_of_takesSeparator {regex : Regex} (takes : regex.takesSeparator = true)
    (front text : List Char) :
    ∃ before after, front ++ [';', ' '] ++ text = before ++ after ∧
      regex.Leads (.between before after, []) (.between (front ++ [';', ' ']) text, []) := by
  unfold takesSeparator at takes
  split at takes
  · next set =>
    refine ⟨front ++ [';'], ' ' :: text, by simp, ' ', ?_, takes, rfl⟩
    simp [Spot.between, Spot.next?]
  · next first _ second =>
    rw [Bool.and_eq_true] at takes
    refine ⟨front, ';' :: ' ' :: text, by simp, ?_⟩
    refine ⟨(.between (front ++ [';']) (' ' :: text), []), ⟨';', ?_, takes.1, rfl⟩, ?_⟩
    · simp [Spot.between, Spot.next?]
    · have blank : (Regex.one second).Leads (.between (front ++ [';']) (' ' :: text), [])
          (.between (front ++ [';', ' ']) text, []) :=
        ⟨' ', by simp [Spot.between, Spot.next?], takes.2, rfl⟩
      exact ⟨1, Nat.zero_le 1, fun _ known => (Option.not_mem_none _ known).elim, _, blank, rfl⟩
  · cases takes

/-- A pattern that a separator serves is followed behind one, from where it was followed or from the
separator on. -/
theorem leads_separated {regex : Regex} (served : regex.separates = true)
    {before after : List Char} {stop : Stage}
    (leads : regex.Leads (.between before after, []) stop) (front : List Char) :
    ∃ before' after' stop', front ++ [';', ' '] ++ (before ++ after) = before' ++ after' ∧
      regex.Leads (.between before' after', []) stop' := by
  have outside : EndsOutside (front ++ [';', ' ']) :=
    ⟨front ++ [';'], ' ', by simp, by decide⟩
  have still : Stage.behind (front ++ [';', ' ']) (.between before after, []) =
      (.between (front ++ [';', ' '] ++ before) after, []) :=
    Prod.ext (Spot.behind_between before after) rfl
  have stays {regex : Regex} (floats : regex.floats = true)
      (leads : regex.Leads (.between before after, []) stop) :
      ∃ before' after' stop', front ++ [';', ' '] ++ (before ++ after) = before' ++ after' ∧
        regex.Leads (.between before' after', []) stop' :=
    ⟨_, after, _, (List.append_assoc ..).symm, still ▸ leads_behind outside floats leads⟩
  fun_induction Regex.separates regex with
  | case1 instead rest =>
    rw [Bool.and_eq_true] at served
    obtain ⟨takes, floats⟩ := served
    obtain ⟨middle, way, further⟩ := leads
    rcases way with ⟨start, rfl⟩ | way
    · -- the match asked for the start of the text, so nothing stands before it
      have none_before : before = [] := by
        simpa [Anchor.holds, Spot.between] using start
      subst none_before
      obtain ⟨before', after', whole, way⟩ := leads_of_takesSeparator takes front after
      refine ⟨before', after', stop.behind (front ++ [';', ' ']), whole, _, .inr way, ?_⟩
      have moved := leads_behind outside floats further
      rw [still, List.append_nil] at moved
      exact moved
    · have floats_both : (Regex.seq instead rest).floats = true := by
        rw [Regex.floats, floats_of_takesSeparator takes, floats]
        rfl
      obtain ⟨before', after', stop', whole, middle, way, further⟩ :=
        stays floats_both ⟨middle, way, further⟩
      exact ⟨before', after', stop', whole, middle, .inr way, further⟩
  | case2 first second ihFirst ihSecond =>
    rw [Bool.and_eq_true] at served
    rcases leads with way | way
    · obtain ⟨before', after', stop', whole, way⟩ := ihFirst served.1 way
      exact ⟨before', after', stop', whole, .inl way⟩
    · obtain ⟨before', after', stop', whole, way⟩ := ihSecond served.2 way
      exact ⟨before', after', stop', whole, .inr way⟩
  | case3 => exact stays served leads

/-- A pattern that a separator serves is found behind one. -/
theorem occursIn_separated {regex : Regex} (explores : regex.explores = true)
    (served : regex.separates = true) {text : List Char} (occurs : regex.occursIn text = true)
    (front : List Char) : regex.occursIn (front ++ [';', ' '] ++ text) = true := by
  obtain ⟨before, after, stop, rfl, leads⟩ := (occursIn_iff_leads explores).mp occurs
  obtain ⟨before', after', stop', whole, leads⟩ := leads_separated served leads front
  exact (occursIn_iff_leads explores).mpr ⟨before', after', stop', whole, leads⟩

end Regex

/-! ## Signatures -/

theorem Threat.explores_dangerous :
    (Threat.dangerous.all fun signature => signature.regex.explores) = true := by
  decide

theorem Threat.explores_suspicious :
    (Threat.suspicious.all fun signature => signature.regex.explores) = true := by
  decide

theorem Threat.separates_dangerous :
    (Threat.dangerous.all fun signature => signature.regex.separates) = true := by
  decide

theorem Threat.separates_suspicious :
    (Threat.suspicious.all fun signature => signature.regex.separates) = true := by
  decide

end ShellVet
