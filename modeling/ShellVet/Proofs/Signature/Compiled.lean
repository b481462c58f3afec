import ShellVet.Proofs.Regex.Ways
import ShellVet.Signature.Basic
import Mathlib.Data.List.Basic

/-!
# Scanning with labelled pattern texts

A search finds the leftmost match (`isLeftmost_of_search`). A list of labelled pattern texts is read
one by one, so that lists are put together as their readings are (`ofTexts_append`), and a text that
breaks the syntax is as good as absent. But any other fault, such as a repetition of too many turns,
keeps the whole list from being read. Where no text has one, a scan finds for each text what it
finds alone, and the first match is the head of the scan (`scan_agrees`).
-/

namespace ShellVet

/-! ## What a search finds -/

namespace Regex

variable {regex : Regex} {before rest text : List Char} {found : Match} {later : Spot}

/-- The place in a text behind so many characters. -/
def placeIn (text : List Char) (count : Nat) : Spot := .between (text.take count) (text.drop count)

/-- The pattern leads over the match, which is the stretch of the text that it says. -/
def Finds (regex : Regex) (text : List Char) (found : Match) : Prop :=
  (text.drop found.start).take found.text.length = found.text ∧
    regex.matchAt (placeIn text found.start) =
      some (placeIn text (found.start + found.text.length))

/-- The pattern finds the match, and leads nowhere from any place before it. -/
def IsLeftmost (regex : Regex) (text : List Char) (found : Match) : Prop :=
  regex.Finds text found ∧
    ∀ earlier < found.start, regex.matchAt (placeIn text earlier) = none

theorem placeIn_length (before rest : List Char) :
    placeIn (before ++ rest) before.length = .between before rest := by
  rw [placeIn, List.take_left, List.drop_left]

/-- Where a pattern matches at a place it leads over a stretch of the text, up to which it is
read. -/
theorem finds_of_matchAt (here : regex.matchAt (.between before rest) = some later) :
    regex.Finds (before ++ rest) ⟨before.length, (Spot.between before rest).upTo later⟩ := by
  rcases leads_of_run here with ⟨stop, leads, same⟩
  rcases takes_of_leads leads with ⟨taken, ⟨after, behind, pos⟩, -⟩
  cases same
  dsimp only [Spot.between] at after behind pos
  have size : stop.1.pos - before.length = taken.length := by omega
  have stretch : (Spot.between before rest).upTo stop.1 = taken := by
    change rest.take (stop.1.pos - before.length) = taken
    rw [size, after, List.take_left]
  have stops : stop.1 = placeIn (before ++ rest) (before.length + taken.length) := by
    rw [after, ← List.append_assoc, ← List.length_append, placeIn_length]
    rw [Spot.between, List.length_append, List.reverse_append, ← pos, ← behind]
  rw [stretch]
  refine ⟨?_, ?_⟩
  · rw [List.drop_left, after, List.take_left]
  · rw [placeIn_length, here, ← stops]

/-- A search from a place on finds a match there or further on, and the pattern matches nowhere
between. -/
theorem finds_of_searchFrom
    (searched : regex.searchFrom before.length before.reverse rest = some found) :
    regex.Finds (before ++ rest) found ∧
      ∀ earlier, before.length ≤ earlier → earlier < found.start →
        regex.matchAt (placeIn (before ++ rest) earlier) = none := by
  induction rest generalizing before with
  | nil =>
    rcases Option.map_eq_some_iff.mp searched with ⟨later, here, rfl⟩
    exact ⟨finds_of_matchAt here, fun earlier from' until' => absurd until' (Nat.not_lt.mpr from')⟩
  | cons c rest ih =>
    unfold searchFrom at searched
    dsimp only at searched
    split at searched
    · next later here =>
      cases searched
      exact ⟨finds_of_matchAt here,
        fun earlier from' until' => absurd until' (Nat.not_lt.mpr from')⟩
    · next nowhere =>
      have onward : regex.searchFrom (before ++ [c]).length (before ++ [c]).reverse rest =
          some found := by
        rw [List.length_append, List.reverse_append]
        exact searched
      rcases ih onward with ⟨finds, none⟩
      rw [List.append_cons]
      refine ⟨finds, fun earlier from' until' => ?_⟩
      rcases Nat.eq_or_lt_of_le from' with rfl | beyond
      · rw [← List.append_cons, placeIn_length]
        exact nowhere
      · apply none earlier _ until'
        rw [List.length_append]
        exact beyond

theorem isLeftmost_of_search (searched : regex.search text = some found) :
    regex.IsLeftmost text found := by
  have whole : regex.searchFrom ([] : List Char).length ([] : List Char).reverse text =
      some found :=
    searched
  rcases finds_of_searchFrom whole with ⟨finds, none⟩
  exact ⟨finds, fun earlier until' => none earlier (Nat.zero_le earlier) until'⟩

end Regex

/-! ## Reading a list of pattern texts -/

namespace Signature

variable {host : Regex.Host} {α : Type} {sources more : List (α × List Char)}
  {source : α × List Char}
  {kept : List (Signature α)}

/-- The signature of a labelled pattern text, if the text can be read. -/
def ofSource? (host : Regex.Host) (source : α × List Char) : Option (Signature α) :=
  (readRegex host source.2).toOption.map fun regex => ⟨source.1, regex⟩

/-- No text but those that break the syntax cannot be read. -/
def OnlyInvalid (host : Regex.Host) (sources : List (α × List Char)) : Prop :=
  ∀ source ∈ sources, ∀ fault, readRegex host source.2 = .error fault → fault = .invalid

theorem ofTexts_nil (host : Regex.Host) : ofTexts host ([] : List (α × List Char)) = .ok [] := rfl

theorem ofTexts_cons (host : Regex.Host) (source : α × List Char) (sources : List (α × List Char)) :
    ofTexts host (source :: sources) =
      (ofText host source.1 source.2).bind fun first =>
        (ofTexts host sources).map (first.toList ++ ·) := by
  unfold ofTexts
  rw [List.mapM_cons]
  cases ofText host source.1 source.2 with
  | error fault => rfl
  | ok first =>
    change Except.map _
        (Except.bind (sources.mapM fun source => ofText host source.1 source.2) _) =
      Except.map _ (Except.map _ (sources.mapM fun source => ofText host source.1 source.2))
    cases sources.mapM fun source => ofText host source.1 source.2 with
    | error fault => rfl
    | ok kept => cases first <;> rfl

/-- Lists of pattern texts are put together as what is read from them. -/
theorem ofTexts_append (host : Regex.Host) (sources more : List (α × List Char)) :
    ofTexts host (sources ++ more) =
      (ofTexts host sources).bind fun front => (ofTexts host more).map (front ++ ·) := by
  induction sources with
  | nil =>
    rw [ofTexts_nil, List.nil_append]
    cases ofTexts host more <;> rfl
  | cons source sources ih =>
    rw [List.cons_append, ofTexts_cons, ofTexts_cons, ih]
    cases ofText host source.1 source.2 with
    | error fault => rfl
    | ok first =>
      cases ofTexts host sources with
      | error fault => rfl
      | ok front =>
        cases ofTexts host more with
        | error fault => rfl
        | ok back => exact congrArg Except.ok (List.append_assoc ..).symm

/-- A text that breaks the syntax is passed over. -/
theorem ofTexts_of_invalid (broken : readRegex host source.2 = .error .invalid)
    (sources more : List (α × List Char)) :
    ofTexts host (sources ++ source :: more) = ofTexts host (sources ++ more) := by
  have passed : ofText host source.1 source.2 = .ok none := by
    unfold ofText
    rw [broken]
  have alone : ofTexts host (source :: more) = ofTexts host more := by
    rw [ofTexts_cons, passed]
    cases ofTexts host more <;> rfl
  rw [ofTexts_append, ofTexts_append, alone]

/-- A text is read, or passed over, unless it has a fault other than broken syntax. -/
theorem ofText_eq_ok_iff {signature : Option (Signature α)} :
    ofText host source.1 source.2 = .ok signature ↔
      (∀ fault, readRegex host source.2 = .error fault → fault = .invalid) ∧
        ofSource? host source = signature := by
  unfold ofText ofSource?
  cases readRegex host source.2 with
  | ok regex => simp [Except.toOption]
  | error fault => cases fault <;> simp [Except.toOption]

theorem ofTexts_of_onlyInvalid (readable : OnlyInvalid host sources) :
    ofTexts host sources = .ok (sources.filterMap (ofSource? host)) := by
  induction sources with
  | nil => rfl
  | cons source sources ih =>
    rcases List.forall_mem_cons.mp readable with ⟨here, later⟩
    rw [ofTexts_cons, ofText_eq_ok_iff.mpr ⟨here, rfl⟩, ih later, List.filterMap_cons]
    cases ofSource? host source <;> rfl

theorem onlyInvalid_of_ofTexts (read : ofTexts host sources = .ok kept) :
    OnlyInvalid host sources := by
  induction sources generalizing kept with
  | nil => exact fun source absent => nomatch absent
  | cons source sources ih =>
    rw [ofTexts_cons] at read
    cases first : ofText host source.1 source.2 with
    | error fault =>
      rw [first] at read
      cases read
    | ok signature =>
      cases others : ofTexts host sources with
      | error fault =>
        rw [first, others] at read
        cases read
      | ok later =>
        exact List.forall_mem_cons.mpr ⟨(ofText_eq_ok_iff.mp first).1, ih others⟩

/-! ## Scanning -/

/-- What the signature of a labelled pattern text finds alone. -/
def findAlone? (host : Regex.Host) (text : List Char) (source : α × List Char) :
    Option (Finding α) :=
  (ofSource? host source).bind (find? text)

theorem scan_filterMap_ofSource? (host : Regex.Host) (sources : List (α × List Char))
    (text : List Char) :
    scan (sources.filterMap (ofSource? host)) text = sources.filterMap (findAlone? host text) :=
  List.filterMap_filterMap

/-- The first finding is the first of all. -/
theorem first?_eq_head? (kept : List (Signature α)) (text : List Char) :
    first? kept text = (scan kept text).head? :=
  List.head?_filterMap.symm

theorem anyIn_iff {text : List Char} : anyIn kept text = true ↔ scan kept text ≠ [] := by
  unfold anyIn
  rw [first?_eq_head?]
  cases scan kept text <;> simp

/-- What a pattern text finds is the leftmost match of its pattern, under its label. -/
theorem isLeftmost_of_findAlone? {text : List Char} {finding : Finding α}
    (finds : findAlone? host text source = some finding) :
    ∃ regex, readRegex host source.2 = .ok regex ∧ finding.label = source.1 ∧
      regex.IsLeftmost text finding.found := by
  rcases Option.bind_eq_some_iff.mp finds with ⟨signature, read, matched⟩
  rcases Option.map_eq_some_iff.mp read with ⟨regex, given, rfl⟩
  rcases Option.map_eq_some_iff.mp matched with ⟨found, searched, rfl⟩
  refine ⟨regex, ?_, rfl, Regex.isLeftmost_of_search searched⟩
  cases result : readRegex host source.2 with
  | ok other =>
    rw [result] at given
    exact congrArg Except.ok (Option.some.inj given)
  | error fault =>
    rw [result] at given
    cases given

/-- **How lists of pattern texts scan.** A list is read if and only if no text in it has a fault
other than broken syntax: a repetition of too many turns or with a bound of too many digits, letters
that exclude each other, groups too deep inside each other. A text with broken syntax makes no
difference. A list that is read finds what its two parts find, one after the other, and so each text
what it finds alone; its first match is the head of the scan, and there is one where the scan is not
empty; and each finding is the leftmost match of the pattern of one of the texts. -/
theorem scan_agrees (host : Regex.Host) (sources more : List (α × List Char)) (text : List Char) :
    let all := sources ++ more
    ((∃ kept, ofTexts host all = .ok kept) ↔ OnlyInvalid host all) ∧
    (∀ source, readRegex host source.2 = .error .invalid →
      ofTexts host (sources ++ source :: more) = ofTexts host all) ∧
    ∀ kept, ofTexts host all = .ok kept →
      (∃ front back, ofTexts host sources = .ok front ∧ ofTexts host more = .ok back ∧
        scan kept text = scan front text ++ scan back text) ∧
      scan kept text = all.filterMap (findAlone? host text) ∧
      first? kept text = (scan kept text).head? ∧
      (anyIn kept text = true ↔ scan kept text ≠ []) ∧
      ∀ finding ∈ scan kept text, ∃ source ∈ all, ∃ regex, readRegex host source.2 = .ok regex ∧
        finding.label = source.1 ∧ regex.IsLeftmost text finding.found := by
  intro all
  refine ⟨⟨fun ⟨kept, read⟩ => onlyInvalid_of_ofTexts read, fun readable =>
    ⟨_, ofTexts_of_onlyInvalid readable⟩⟩,
    fun source broken => ofTexts_of_invalid broken sources more,
    fun kept read => ?_⟩
  have readable := onlyInvalid_of_ofTexts read
  rcases List.forall_mem_append.mp readable with ⟨front, back⟩
  have alone : scan kept text = all.filterMap (findAlone? host text) := by
    rw [ofTexts_of_onlyInvalid readable] at read
    rw [← Except.ok.inj read, scan_filterMap_ofSource?]
  refine ⟨⟨_, _, ofTexts_of_onlyInvalid front, ofTexts_of_onlyInvalid back, ?_⟩, alone,
    first?_eq_head? kept text, anyIn_iff, fun finding inside => ?_⟩
  · rw [alone, scan_filterMap_ofSource?, scan_filterMap_ofSource?, List.filterMap_append]
  · rw [alone] at inside
    rcases List.mem_filterMap.mp inside with ⟨source, member, finds⟩
    exact ⟨source, member, isLeftmost_of_findAlone? finds⟩

/-- A caseless pattern and a plain one with broken syntax between them, in a text where both
match. -/
theorem scan_agrees_broken_between :
    let host : Regex.Host := ⟨fun _ => none, 900⟩
    let sources := [("caseless", "(?i)b+".toList)]
    let more := [("plain", "c".toList)]
    let broken := ("broken", "([unclosed".toList)
    readRegex host broken.2 = .error .invalid ∧
      ∃ kept, ofTexts host (sources ++ broken :: more) = .ok kept ∧
        scan kept "aBbc".toList = [⟨"caseless", ⟨1, ['B', 'b']⟩⟩, ⟨"plain", ⟨3, ['c']⟩⟩] ∧
        first? kept "aBbc".toList = some ⟨"caseless", ⟨1, ['B', 'b']⟩⟩ := by
  intro host sources more broken
  let kept : List (Signature String) :=
    [⟨"caseless", .several (.one ⟨[.char 'b'], .full, false⟩)⟩,
      ⟨"plain", .one ⟨[.char 'c'], .exact, false⟩⟩]
  have unread : readRegex host broken.2 = .error .invalid := by decide +kernel
  have read : ofTexts host (sources ++ more) = .ok kept := by decide +kernel
  have scanned : scan kept "aBbc".toList =
      [⟨"caseless", ⟨1, ['B', 'b']⟩⟩, ⟨"plain", ⟨3, ['c']⟩⟩] := by decide
  rcases scan_agrees host sources more "aBbc".toList with ⟨-, passed, agrees⟩
  rcases agrees kept read with ⟨-, -, head, -⟩
  refine ⟨unread, kept, (passed broken unread).trans read, scanned, ?_⟩
  rw [head, scanned]
  rfl

/-- A repetition of too many turns keeps a pattern from being read that matches alone. -/
theorem overlong_repetition_spoils :
    let host : Regex.Host := ⟨fun _ => none, 900⟩
    let plain := ("plain", "b".toList)
    let overlong := ("overlong", "a{4294967295}".toList)
    (∃ kept, ofTexts host [plain] = .ok kept ∧ scan kept "abc".toList = [⟨"plain", ⟨1, ['b']⟩⟩]) ∧
      ofTexts host [overlong, plain] = .error .tooManyTurns := by
  intro host plain overlong
  have alone : ofTexts host [plain] =
      .ok [⟨"plain", .one ⟨[.char 'b'], .exact, false⟩⟩] := by decide
  have found : scan [⟨"plain", .one ⟨[.char 'b'], .exact, false⟩⟩] "abc".toList =
      [⟨"plain", ⟨1, ['b']⟩⟩] := by decide
  exact ⟨⟨_, alone, found⟩, by decide +kernel⟩

end Signature

end ShellVet
