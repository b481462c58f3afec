import ShellVet.Obfuscation
import ShellVet.Proofs.Regex.Ways
import ShellVet.Proofs.Text.Ascii
import ShellVet.Risk

/-!
# Patterns that need more than white space

`needsInk` tells of a pattern that each of its matches takes a character that is not white space, or
stands next to one. Every technique of obfuscation and every signature is such a pattern, so none of
them is found in a blank text.
-/

namespace ShellVet

namespace Text

/-- The characters of white space. -/
def blanks : List Char :=
  blankRanges.flatMap fun range => (List.range' range.1 (range.2 + 1 - range.1)).map Char.ofNat

theorem mem_blanks {c : Char} (blank : isBlank c = true) : c ∈ blanks := by
  obtain ⟨⟨first, last⟩, range, within⟩ := List.any_eq_true.mp blank
  rw [Bool.and_eq_true, decide_eq_true_eq, decide_eq_true_eq] at within
  rw [blanks, List.mem_flatMap]
  refine ⟨(first, last), range, ?_⟩
  rw [List.mem_map]
  refine ⟨c.toNat, ?_, Char.ofNat_toNat c⟩
  rw [List.mem_range'_1]
  dsimp only at within ⊢
  omega

end Text

/-! ## Entries without white space -/

/-- Whether the character is one of ASCII that is seen. -/
def Text.isSeen (c : Char) : Bool := 32 < c.toNat && c.toNat < 128

/-- Whether the entry is a character of ASCII that is seen, or a class without white space. -/
def CharItem.isInky : CharItem → Bool
  | .char wanted => Text.isSeen wanted
  | .range .. => false
  | .class .blank asciiOnly outside => outside && !asciiOnly
  | .class .digit _ outside | .class .word _ outside => !outside

/-- What the tables say of blanks: each is its own lower case and is not seen, and of the classes it
is in that of blanks. -/
def Text.isUnseen (c : Char) : Bool :=
  lowerChar c == c && !isSeen c && CharClass.blank.has false c &&
    [false, true].all fun asciiOnly =>
      !CharClass.digit.has asciiOnly c && !CharClass.word.has asciiOnly c

theorem Text.isUnseen_of_mem_blanks {c : Char} (blank : c ∈ blanks) : isUnseen c = true := by
  have table : (blanks.all isUnseen) = true := by decide +kernel
  exact List.all_eq_true.mp table c blank

theorem Folding.lower_of_mem_blanks (folding : Folding) {c : Char} (blank : c ∈ Text.blanks) :
    folding.lower c = c := by
  cases folding with
  | exact => rfl
  | ascii =>
    have table : (Text.blanks.all fun c => c.toLower == c) = true := by decide
    exact beq_iff_eq.mp (List.all_eq_true.mp table c blank)
  | full =>
    have unseen := Text.isUnseen_of_mem_blanks blank
    simp only [Text.isUnseen, Bool.and_eq_true, beq_iff_eq] at unseen
    exact unseen.1.1.1

theorem not_mem_caseFamily_of_mem_blanks (other : Char) {c : Char} (blank : c ∈ Text.blanks) :
    c ∉ Text.caseFamily other := by
  have table : (Text.caseFamilies.all fun family =>
      family.2.all fun code => !Text.blanks.contains (Char.ofNat code)) = true := by
    decide
  intro member
  unfold Text.caseFamily at member
  cases family : Text.caseFamilies.lookup other.toNat with
  | none =>
    rw [family] at member
    cases member
  | some codes =>
    rw [family, Option.getD_some] at member
    obtain ⟨code, inside, rfl⟩ := List.mem_map.mp member
    obtain ⟨before, after, whole, -⟩ := List.lookup_eq_some_iff.mp family
    have known : (other.toNat, codes) ∈ Text.caseFamilies := by simp [whole]
    have apart := List.all_eq_true.mp (List.all_eq_true.mp table _ known) code inside
    rw [List.contains_iff_mem.mpr blank] at apart
    cases apart

theorem isSeen_lower (folding : Folding) {c : Char} (seen : Text.isSeen c = true) :
    Text.isSeen (folding.lower c) = true := by
  have ascii : c.toNat < 128 := by
    rw [Text.isSeen, Bool.and_eq_true, decide_eq_true_eq, decide_eq_true_eq] at seen
    exact seen.2
  have lowered : Text.isSeen c.toLower = true := by
    revert seen
    refine Text.of_ascii ascii ?_
    decide
  cases folding with
  | exact => exact seen
  | ascii => exact lowered
  | full =>
    rw [Folding.lower, Text.lowerChar, if_pos ascii]
    exact lowered

/-- A character that is seen does not match a blank in any case. -/
theorem not_same_of_mem_blanks (folding : Folding) {c wanted : Char} (blank : c ∈ Text.blanks)
    (seen : Text.isSeen wanted = true) : folding.same c wanted = false := by
  have lower := folding.lower_of_mem_blanks blank
  have unseen : Text.isSeen c = false := by
    have unseen := Text.isUnseen_of_mem_blanks blank
    simp only [Text.isUnseen, Bool.and_eq_true, Bool.not_eq_true'] at unseen
    exact unseen.1.1.2
  have differ : ¬folding.lower c = folding.lower wanted := by
    intro same
    rw [lower] at same
    rw [same, isSeen_lower folding seen] at unseen
    cases unseen
  cases folding with
  | exact => exact beq_eq_false_iff_ne.mpr differ
  | ascii => exact beq_eq_false_iff_ne.mpr differ
  | full =>
    have lower : Text.lowerChar c = c := lower
    have differ : (Text.lowerChar c == Text.lowerChar wanted) = false :=
      beq_eq_false_iff_ne.mpr differ
    have apart : (Text.caseFamily (Text.lowerChar wanted)).contains (Text.lowerChar c) = false := by
      rw [lower, ← Bool.not_eq_true, List.contains_iff_mem]
      exact not_mem_caseFamily_of_mem_blanks _ blank
    exact Bool.or_eq_false_iff.mpr ⟨differ, apart⟩

theorem CharItem.has_eq_false_of_isInky {item : CharItem} (inky : item.isInky = true)
    (folding : Folding) {c : Char} (blank : c ∈ Text.blanks) : item.has folding c = false := by
  have unseen := Text.isUnseen_of_mem_blanks blank
  simp only [Text.isUnseen, Bool.and_eq_true, Bool.not_eq_true'] at unseen
  obtain ⟨⟨-, blankClass⟩, classes⟩ := unseen
  cases item with
  | char wanted => exact not_same_of_mem_blanks folding blank inky
  | range first last => cases inky
  | «class» kind asciiOnly outside =>
    have absent := List.all_eq_true.mp classes asciiOnly (by cases asciiOnly <;> decide)
    rw [Bool.and_eq_true, Bool.not_eq_true', Bool.not_eq_true'] at absent
    rw [CharItem.has, folding.lower_of_mem_blanks blank]
    cases kind with
    | digit =>
      rw [absent.1, show outside = false by simpa [CharItem.isInky] using inky]
      rfl
    | blank =>
      obtain ⟨rfl, rfl⟩ : outside = true ∧ asciiOnly = false := by
        simpa [CharItem.isInky] using inky
      rw [blankClass]
      rfl
    | word =>
      rw [absent.2, show outside = false by simpa [CharItem.isInky] using inky]
      rfl

/-- Whether the set is made of entries without white space. -/
def CharSet.isInky (set : CharSet) : Bool := !set.negated && set.items.all (·.isInky)

theorem CharSet.has_eq_false_of_isInky {set : CharSet} (inky : set.isInky = true) {c : Char}
    (blank : c ∈ Text.blanks) : set.has c = false := by
  rw [CharSet.isInky, Bool.and_eq_true, Bool.not_eq_true'] at inky
  obtain ⟨kept, items⟩ := inky
  have none : (set.items.any fun item => item.has set.folding c) = false := by
    rw [List.any_eq_false]
    intro item known
    rw [CharItem.has_eq_false_of_isInky (List.all_eq_true.mp items item known) set.folding blank]
    exact Bool.false_ne_true
  rw [CharSet.has, none, kept]
  rfl

/-- Whether the set holds none of the characters, which are white space. Most sets show it by their
entries, which is looked at first because the tables take long. -/
def CharSet.lacks (set : CharSet) (blanks : List Char) : Bool :=
  set.isInky || blanks.all fun c => !set.has c

theorem CharSet.has_eq_false_of_lacks {set : CharSet} {blanks : List Char}
    (lacks : set.lacks blanks = true) {c : Char} (member : c ∈ blanks) (blank : c ∈ Text.blanks) :
    set.has c = false := by
  rcases (Bool.or_eq_true _ _).mp lacks with inky | none
  · exact has_eq_false_of_isInky inky blank
  · simpa using List.all_eq_true.mp none c member

/-- A place in a text of white space. -/
def Spot.IsBlank (spot : Spot) : Prop :=
  Text.isBlankText spot.before = true ∧ Text.isBlankText spot.after = true

theorem Text.isBlankText_cons {c : Char} {text : List Char} :
    isBlankText (c :: text) = true ↔ isBlank c = true ∧ isBlankText text = true := by
  unfold isBlankText
  rw [List.all_cons, Bool.and_eq_true]

theorem Spot.IsBlank.next? {spot later : Spot} {c : Char} (blank : spot.IsBlank)
    (next : spot.next? = some (c, later)) : Text.isBlank c = true ∧ later.IsBlank := by
  obtain ⟨pos, before, after⟩ := spot
  cases after with
  | nil => cases next
  | cons d after =>
    cases next
    obtain ⟨head, tail⟩ := Text.isBlankText_cons.mp blank.2
    exact ⟨head, Text.isBlankText_cons.mpr ⟨head, blank.1⟩, tail⟩

theorem Spot.IsBlank.back? {spot earlier : Spot} {count : Nat} (blank : spot.IsBlank)
    (back : spot.back? count = some earlier) : earlier.IsBlank := by
  induction count generalizing spot with
  | zero =>
    cases back
    exact blank
  | succ count ih =>
    obtain ⟨pos, before, after⟩ := spot
    cases before with
    | nil => cases back
    | cons c before =>
      obtain ⟨head, tail⟩ := Text.isBlankText_cons.mp blank.1
      exact ih ⟨tail, Text.isBlankText_cons.mpr ⟨head, blank.2⟩⟩ back

theorem Spot.IsBlank.takes {start stop : Spot} {taken : List Char} (blank : start.IsBlank)
    (takes : start.Takes taken stop) : stop.IsBlank := by
  obtain ⟨before, after⟩ := blank
  unfold Text.isBlankText at before after
  rw [takes.1, List.all_append, Bool.and_eq_true] at after
  refine ⟨?_, after.2⟩
  rw [Text.isBlankText, takes.2.1, List.all_append, List.all_reverse, after.1, before]
  rfl

namespace Regex

variable {α : Type} {size : Nat} {regex : Regex}

/-- Whether no match of the pattern lies in white space alone. -/
def needsInk : Regex → Bool
  | .one set => set.lacks Text.blanks
  | .seq first second => first.needsInk || second.needsInk
  | .alt first second | .given _ first second => first.needsInk && second.needsInk
  | .loop _ least _ body => 0 < least && body.needsInk
  | .group _ body | .atomic body => body.needsInk
  | .ahead positive body | .behind positive _ body => positive && body.needsInk
  | .empty | .again .. | .anchor _ => false

/-- A pattern that needs ink fails in white space, whatever follows. -/
theorem run_eq_none_of_needsInk (ink : regex.needsInk = true) {spot : Spot} (blank : spot.IsBlank)
    (captures : Captures) (done : Continuation α) : regex.run size spot captures done = none := by
  induction regex generalizing spot captures α with
  | empty | again | anchor => cases ink
  | one set =>
    unfold run
    split
    · next c later next =>
      have inside := Text.mem_blanks (blank.next? next).1
      rw [CharSet.has_eq_false_of_lacks ink inside inside]
      rfl
    · rfl
  | seq first second ihFirst ihSecond =>
    unfold run
    rcases Bool.or_eq_true _ _ ▸ ink with ink | ink
    · exact ihFirst ink blank captures _
    · -- the first part moves within the blanks only, and there the second one fails
      rw [Option.eq_none_iff_forall_ne_some]
      intro found finds
      obtain ⟨middle, front, rest⟩ := leads_of_run finds
      obtain ⟨taken, moves, -⟩ := takes_of_leads front
      rw [ihSecond ink (blank.takes moves)] at rest
      cases rest
  | alt first second ihFirst ihSecond =>
    rw [needsInk, Bool.and_eq_true] at ink
    rw [run, ihFirst ink.1 blank, ihSecond ink.2 blank]
  | loop lazy least most body ih =>
    rw [needsInk, Bool.and_eq_true, decide_eq_true_eq] at ink
    rw [run, repeatStep, if_pos ink.1, ih ink.2 blank]
  | group index body ih => exact ih ink blank captures _
  | ahead positive body ih =>
    rw [needsInk, Bool.and_eq_true] at ink
    rw [run, ih ink.2 blank, ink.1]
    rfl
  | behind positive width body ih =>
    rw [needsInk, Bool.and_eq_true] at ink
    have fails : ((spot.back? width).bind fun earlier =>
        body.run size earlier captures fun _ held => some held) = none := by
      rw [Option.bind_eq_none_iff]
      intro earlier back
      exact ih ink.2 (blank.back? back) captures _
    rw [run, fails, ink.1]
    rfl
  | atomic body ih => rw [run, ih ink blank]
  | given index yes no ihYes ihNo =>
    rw [needsInk, Bool.and_eq_true] at ink
    unfold run
    split
    · exact ihYes ink.1 blank captures done
    · exact ihNo ink.2 blank captures done

theorem searchFrom_eq_none_of_needsInk (ink : regex.needsInk = true) {pos : Nat}
    {before text : List Char} (blank : Spot.IsBlank ⟨pos, before, text⟩) :
    regex.searchFrom pos before text = none := by
  induction text generalizing pos before with
  | nil => rw [searchFrom, matchAt, run_eq_none_of_needsInk ink blank, Option.map_none]
  | cons c text ih =>
    have later : Spot.IsBlank ⟨pos + 1, c :: before, text⟩ := (blank.next? rfl).2
    rw [searchFrom, matchAt, run_eq_none_of_needsInk ink blank]
    exact ih later

/-- A pattern that needs ink is found in no blank text. -/
theorem not_occursIn_of_needsInk (ink : regex.needsInk = true) {text : List Char}
    (blank : Text.isBlankText text = true) : regex.occursIn text = false := by
  rw [occursIn, search, searchFrom_eq_none_of_needsInk ink ⟨rfl, blank⟩]
  rfl

/-- A replacement keeps characters or brings in those of its own text. -/
theorem mem_replaceFrom {replacement before text : List Char} {skip pos : Nat} {c : Char}
    (member : c ∈ regex.replaceFrom replacement skip pos before text) :
    c ∈ replacement ∨ c ∈ text := by
  induction text generalizing skip pos before with
  | nil => exact Or.inr member
  | cons d text ih =>
    have later {skip pos : Nat} {before : List Char}
        (member : c ∈ regex.replaceFrom replacement skip pos before text) :
        c ∈ replacement ∨ c ∈ d :: text :=
      (ih member).imp_right (List.mem_cons_of_mem d)
    have here {skip pos : Nat} {before : List Char}
        (member : c ∈ d :: regex.replaceFrom replacement skip pos before text) :
        c ∈ replacement ∨ c ∈ d :: text := by
      rcases List.mem_cons.mp member with rfl | member
      · exact Or.inr List.mem_cons_self
      · exact later member
    unfold replaceFrom at member
    dsimp only at member
    split at member
    · exact later member
    split at member
    · split at member
      · rcases List.mem_append.mp member with member | member
        · exact Or.inl member
        · exact later member
      · exact here member
    · exact here member

end Regex

/-! ## Signatures and techniques -/

theorem Threat.needsInk_dangerous :
    (Threat.dangerous.all fun signature => signature.regex.needsInk) = true := by
  decide

theorem Threat.needsInk_suspicious :
    (Threat.suspicious.all fun signature => signature.regex.needsInk) = true := by
  decide

theorem Obfuscation.needsInk_techniques :
    (Obfuscation.techniques.all fun technique => technique.regex.needsInk) = true := by
  decide

theorem Obfuscation.isBlankText_withoutQuoted {text : List Char}
    (blank : Text.isBlankText text = true) : Text.isBlankText (withoutQuoted text) = true := by
  rw [Text.isBlankText, List.all_eq_true]
  intro c member
  rcases Regex.mem_replaceFrom member with space | kept
  · rw [List.mem_singleton.mp space]
    decide
  · exact List.all_eq_true.mp blank c kept

/-- No technique is used in a blank text. -/
theorem Obfuscation.not_usedIn_of_blank {command : String}
    (blank : Text.isBlankText command.toList = true) {technique : Technique}
    (known : technique ∈ techniques) : technique.usedIn command = false := by
  have ink := List.all_eq_true.mp needsInk_techniques technique known
  unfold Technique.usedIn
  dsimp only
  split
  · exact Regex.not_occursIn_of_needsInk ink (isBlankText_withoutQuoted blank)
  · exact Regex.not_occursIn_of_needsInk ink blank

end ShellVet
