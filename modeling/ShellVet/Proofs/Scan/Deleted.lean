import Mathlib.Data.List.Basic
import ShellVet.Proofs.Scan.Substituted
import ShellVet.Proofs.Text.Ascii

/-!
# Deletions of root-level and home paths

A removal names options and one path at the root or at home. Its options may come in any number and
order: the deletion signature passes over them up to a cluster of letters with an `r` or an `f`, and
over those behind it up to the path (`deletes_of_cluster`). The other way round, what the signature
takes for such a cluster is a whole word of the command, as only blanks stand around words
(`word_of_between`). So a removal is taken for a deletion exactly where one of its short options
holds one of the two letters (`deletion_caught_iff`). The long options that say the same are passed
over as any others (`long_deletion_missed`).
-/

namespace ShellVet

namespace Removal

open Regex Phrase

/-- An option word: one hyphen or two, and letters. -/
structure Flag where
  long : Bool
  letters : List Char
  named : letters ≠ []
  plain : ∀ c ∈ letters, c.isAlpha = true

/-- The word of an option. -/
def Flag.text (flag : Flag) : List Char :=
  (if flag.long then ['-', '-'] else ['-']) ++ flag.letters

/-- Whether one of the letters of a short option asks for a recursive or forced removal. Letter case
does not count. -/
def Flag.clusters (flag : Flag) : Bool :=
  !flag.long && flag.letters.any fun c => ['r', 'R', 'f', 'F'].contains c

/-- A path at the root or at home. -/
inductive Target where
  | root
  | rootFiles
  | home
  | homeFolder
  | homeVariable
  | homeBraces
  | child (name : List Char) (named : name ≠ []) (plain : ∀ c ∈ name, c.isAlphanum || c == '_')

/-- The word of a path. -/
def Target.text : Target → List Char
  | root => "/".toList
  | rootFiles => "/*".toList
  | home => "~".toList
  | homeFolder => "~/".toList
  | homeVariable => "$HOME".toList
  | homeBraces => "$\x7bHOME\x7d".toList
  | child name _ _ => '/' :: name

/-- The words of a removal behind its name. -/
def words (flags : List Flag) (target : Target) : List (List Char) :=
  flags.map Flag.text ++ [target.text]

/-- A removal: its words with a blank between two. -/
def command (flags : List Flag) (target : Target) : String :=
  String.ofList ("rm".toList ++ (words flags target).flatMap (' ' :: ·))

/-- What the deletion signature stands for. -/
def deletion : Threat :=
  ⟨"Recursive root deletion", .critical,
    "Recursive or forced deletion of a root-level or home path"⟩

/-! ## The signature -/

/-- Any options, each followed by white space. -/
def passed : Regex :=
  Phrase.words (row [.loop false 1 (some 2) (spell "-"), several (among [wordItem, .char '-'])])

/-- Letters. -/
def letters : Regex := many (among [letterItem])

/-- The signature of a deletion: a name, options, a cluster, options, and a path. -/
def signature : Signature Threat :=
  Threat.describe deletion.name deletion.severity deletion.description
    [edge, spell "rm", gap, passed, spell "-", letters, oneOf "rf", letters, gap, passed,
      Threat.rootTarget]

/-- The signature is the first one, and no other one stands for the same. -/
theorem dangerous_eq :
    ∃ others, Threat.dangerous = signature :: others ∧
      ∀ other ∈ others, other.label ≠ deletion := by
  refine ⟨Threat.dangerous.tail, by rfl, fun other known => ?_⟩
  have apart : (Threat.dangerous.tail.all fun other => decide (other.label ≠ deletion)) = true := by
    decide
  exact of_decide_eq_true (List.all_eq_true.mp apart other known)

theorem danger?_eq_deletion_iff {text : String} :
    Risk.danger? text = some deletion ↔ signature.regex.occursIn text.toList = true := by
  obtain ⟨others, split, apart⟩ := dangerous_eq
  constructor
  · intro first
    obtain ⟨before, found, after, whole, same, occurs, -⟩ := Risk.exists_of_danger? first
    cases before with
    | nil =>
      rw [split] at whole
      rwa [(List.cons.inj whole).1]
    | cons earlier before =>
      rw [split] at whole
      have later : found ∈ others := by
        rw [(List.cons.inj whole).2]
        exact List.mem_append_right _ List.mem_cons_self
      exact absurd same (apart found later)
  · intro occurs
    obtain ⟨place, found⟩ := Option.isSome_iff_exists.mp occurs
    have first : Signature.find? text.toList signature = some ⟨deletion, place⟩ := by
      rw [Signature.find?, found]
      rfl
    rw [Risk.danger?, Signature.first?, split, List.findSome?_cons, first]
    rfl

/-! ## Sets of the signature -/

/-- The set of white space, as it stands in the signature. -/
def blanks : CharSet := { items := [blankItem], folding := .full }

/-- The set of letters. -/
def letterSet : CharSet := { items := [letterItem], folding := .full }

/-- The set of the two letters that ask for a deletion. -/
def deleters : CharSet := { items := chars "rf", folding := .full }

/-- The characters that a removal is written with. -/
def isWritten (c : Char) : Bool :=
  c.isAlphanum || [' ', '-', '_', '/', '*', '~', '$', '\x7b', '\x7d'].contains c

theorem ascii_of_isWritten {c : Char} (written : isWritten c = true) : c.toNat < 128 := by
  rcases (Bool.or_eq_true _ _).mp written with plain | sign
  · exact Text.ascii_of_isAlphanum plain
  · have signs : ([' ', '-', '_', '/', '*', '~', '$', '\x7b', '\x7d'].all
        fun c => decide (c.toNat < 128)) = true := by
      decide
    exact of_decide_eq_true (List.all_eq_true.mp signs c (List.contains_iff_mem.mp sign))

/-- Whether the sets of the signature hold the character as they are meant to. -/
def isRightlyHeld (c : Char) : Bool :=
  blanks.has c == (c == ' ') && (CharSet.only '-').has c == (c == '-') &&
    letterSet.has c == c.isAlpha && deleters.has c == ['r', 'R', 'f', 'F'].contains c &&
    (!c.isAlpha || ({ items := [wordItem, .char '-'], folding := .full } : CharSet).has c) &&
    (!(c.isAlphanum || c == '_') ||
      ({ items := wordItem :: chars ".-", folding := .full } : CharSet).has c)

theorem isRightlyHeld_of_isWritten {c : Char} (written : isWritten c = true) :
    isRightlyHeld c = true := by
  have ascii := ascii_of_isWritten written
  revert written
  refine Text.of_ascii ascii ?_
  decide +kernel

/-- What the sets of the signature hold among the characters of a removal. -/
theorem has_of_isWritten {c : Char} (written : isWritten c = true) :
    (blanks.has c = true → c = ' ') ∧ ((CharSet.only '-').has c = true → c = '-') ∧
      (letterSet.has c = true → c.isAlpha = true) ∧
      (deleters.has c = true → ['r', 'R', 'f', 'F'].contains c = true) := by
  have held := isRightlyHeld_of_isWritten written
  simp only [isRightlyHeld, Bool.and_eq_true, beq_iff_eq] at held
  obtain ⟨⟨⟨⟨⟨blank, hyphen⟩, letter⟩, deleter⟩, -⟩, -⟩ := held
  exact ⟨fun has => beq_iff_eq.mp (blank ▸ has), fun has => beq_iff_eq.mp (hyphen ▸ has),
    fun has => letter ▸ has, fun has => deleter ▸ has⟩

/-- A letter belongs to the sets of option words and of clusters. -/
theorem has_of_isAlpha {c : Char} (letter : c.isAlpha = true) :
    letterSet.has c = true ∧
      ({ items := [wordItem, .char '-'], folding := .full } : CharSet).has c = true := by
  have held := isRightlyHeld_of_isWritten
    (show isWritten c = true by simp [isWritten, Char.isAlphanum, letter])
  simp only [isRightlyHeld, Bool.and_eq_true, beq_iff_eq, letter, Bool.not_true,
    Bool.false_or] at held
  exact ⟨held.1.1.1.2, held.1.2⟩

/-- A character of a name belongs to the set of paths. -/
theorem has_of_isNamed {c : Char} (named : (c.isAlphanum || c == '_') = true) :
    ({ items := wordItem :: chars ".-", folding := .full } : CharSet).has c = true := by
  have written : isWritten c = true := by
    rcases (Bool.or_eq_true _ _).mp named with plain | line
    · rw [isWritten, plain, Bool.true_or]
    · rw [beq_iff_eq.mp line]
      decide
  have held := isRightlyHeld_of_isWritten written
  simp only [isRightlyHeld, Bool.and_eq_true, named, Bool.not_true, Bool.false_or] at held
  exact held.2

/-! ## The words of a removal -/

theorem Flag.mem_text {flag : Flag} {c : Char} (member : c ∈ flag.text) :
    c = '-' ∨ c.isAlpha = true := by
  rcases List.mem_append.mp member with hyphen | letter
  · left
    cases long : flag.long <;> simpa [long] using hyphen
  · exact .inr (flag.plain c letter)

/-- Words hold characters of a removal other than the blank. -/
theorem solid_of_mem_words {flags : List Flag} {target : Target} {word : List Char}
    (member : word ∈ words flags target) : ∀ c ∈ word, isWritten c = true ∧ c ≠ ' ' := by
  have spelled (c : Char) (plain : c.isAlphanum = true) : isWritten c = true ∧ c ≠ ' ' := by
    refine ⟨by simp [isWritten, plain], ?_⟩
    rintro rfl
    cases plain
  have written (text : List Char) (all : (text.all fun c => isWritten c && c != ' ') = true) :
      ∀ c ∈ text, isWritten c = true ∧ c ≠ ' ' := by
    simpa using all
  rcases List.mem_append.mp member with option | last
  · obtain ⟨flag, -, rfl⟩ := List.mem_map.mp option
    intro c inside
    rcases Flag.mem_text inside with rfl | letter
    · decide
    · exact spelled c (by simp [Char.isAlphanum, letter])
  · rw [List.mem_singleton.mp last]
    cases target with
    | child name named plain =>
      intro c inside
      rcases List.mem_cons.mp inside with rfl | inside
      · decide
      · rcases (Bool.or_eq_true _ _).mp (plain c inside) with plain | line
        · exact spelled c plain
        · rw [beq_iff_eq.mp line]
          decide
    | _ => exact written _ rfl

/-- Where a blank ends two texts, one is the other, or the other one and its blank start it. -/
theorem cut_at_blank {front word rest back : List Char} (solid : ' ' ∉ word)
    (same : word ++ ' ' :: rest = front ++ ' ' :: back) :
    front = word ∧ rest = back ∨ ∃ more, front = word ++ ' ' :: more ∧
      rest = more ++ ' ' :: back := by
  rcases List.append_eq_append_iff.mp same with ⟨between, rfl, split⟩ | ⟨between, rfl, split⟩
  · cases between with
    | nil => exact .inl ⟨List.append_nil _, (List.cons.inj split).2⟩
    | cons c between =>
      obtain ⟨rfl, behind⟩ := List.cons.inj split
      exact .inr ⟨between, rfl, behind⟩
  · cases between with
    | nil => exact .inl ⟨(List.append_nil _).symm, (List.cons.inj split).2.symm⟩
    | cons c between =>
      obtain ⟨rfl, -⟩ := List.cons.inj split
      exact absurd (List.mem_append_right _ List.mem_cons_self) solid

/-- What stands between two blanks is a word, and not the last one. -/
theorem word_of_between {head front inner back : List Char} {words : List (List Char)}
    (whole : head ++ words.flatMap (' ' :: ·) = front ++ ' ' :: (inner ++ ' ' :: back))
    (solid : ∀ word ∈ head :: words, ' ' ∉ word) (single : ' ' ∉ inner) :
    ∃ before after, words = before ++ inner :: after ∧ after ≠ [] := by
  induction words generalizing head front with
  | nil =>
    rw [List.flatMap_nil, List.append_nil] at whole
    have blank : ' ' ∈ head := by
      rw [whole]
      simp
    exact absurd blank (solid head List.mem_cons_self)
  | cons word words ih =>
    have further : ∀ other ∈ word :: words, ' ' ∉ other := fun other member =>
      solid other (List.mem_cons_of_mem _ member)
    rw [List.flatMap_cons, List.cons_append] at whole
    rcases cut_at_blank (solid head List.mem_cons_self) whole with ⟨-, here⟩ | ⟨more, -, behind⟩
    · cases words with
      | nil =>
        rw [List.flatMap_nil, List.append_nil] at here
        have blank : ' ' ∈ word := by
          rw [here]
          simp
        exact absurd blank (further word List.mem_cons_self)
      | cons next words =>
        refine ⟨[], next :: words, ?_, List.cons_ne_nil _ _⟩
        rw [List.flatMap_cons, List.cons_append] at here
        rcases cut_at_blank (further word List.mem_cons_self) here with ⟨rfl, -⟩ | ⟨more, rfl, -⟩
        · rfl
        · exact absurd (List.mem_append_right _ List.mem_cons_self) single
    · obtain ⟨before, after, rfl, followed⟩ := ih behind further
      exact ⟨word :: before, after, rfl, followed⟩

theorem isWritten_of_mem_command {flags : List Flag} {target : Target} {c : Char}
    (member : c ∈ (command flags target).toList) : isWritten c = true := by
  rw [command, String.toList_ofList, List.mem_append] at member
  rcases member with name | behind
  · have plain : ("rm".toList.all isWritten) = true := by decide
    exact List.all_eq_true.mp plain c name
  · obtain ⟨word, known, inside⟩ := List.mem_flatMap.mp behind
    rcases List.mem_cons.mp inside with rfl | inside
    · decide
    · exact (solid_of_mem_words known c inside).1

/-! ## What the signature takes -/

/-- The text ends in white space. -/
def EndsBlank (taken : List Char) : Prop :=
  ∃ front c, taken = front ++ [c] ∧ blanks.has c = true

theorem EndsBlank.append {front back : List Char} (ends : EndsBlank back) :
    EndsBlank (front ++ back) := by
  obtain ⟨middle, c, rfl, blank⟩ := ends
  exact ⟨front ++ middle, c, (List.append_assoc _ _ _).symm, blank⟩

theorem endsBlank_of_gap {start stop : Stage} (leads : gap.caseless.Leads start stop) :
    ∃ taken, EndsBlank taken ∧ start.1.Takes taken stop.1 := by
  obtain ⟨taken, some, blank, takes⟩ := takes_of_leads_several leads
  refine ⟨taken, ⟨taken.dropLast, taken.getLast some, ?_, ?_⟩, takes⟩
  · exact (List.dropLast_append_getLast some).symm
  · exact blank _ (List.getLast_mem some)

/-- White space and the options that are passed over behind it end in white space. -/
theorem endsBlank_of_passed {start middle stop : Stage} (spaced : gap.caseless.Leads start middle)
    (options : passed.caseless.Leads middle stop) :
    ∃ taken, EndsBlank taken ∧ start.1.Takes taken stop.1 := by
  obtain ⟨front, ends, first⟩ := endsBlank_of_gap spaced
  obtain ⟨count, -, -, turns⟩ := options
  clear spaced
  induction count generalizing middle front with
  | zero =>
    cases turns
    exact ⟨front, ends, first⟩
  | succ count ih =>
    obtain ⟨next, ⟨named, name, behind⟩, rest⟩ := turns
    obtain ⟨taken, option, -⟩ := takes_of_leads name
    obtain ⟨blank, blankEnds, gap⟩ := endsBlank_of_gap behind
    exact ih (front ++ (taken ++ blank)) blankEnds.append.append
      (first.trans (option.trans gap)) rest

/-- The sets of the signature take the word for a cluster: a hyphen and letters, one of which asks
for a deletion. -/
def LooksClustered (word : List Char) : Prop :=
  ∃ hyphen earlier deleter later, word = hyphen :: (earlier ++ deleter :: later) ∧
    (CharSet.only '-').has hyphen = true ∧ (∀ c ∈ earlier, letterSet.has c = true) ∧
    deleters.has deleter = true ∧ ∀ c ∈ later, letterSet.has c = true

/-- A text in which the signature occurs has a cluster between two characters of white space. -/
theorem exists_cluster {text : List Char} (occurs : signature.regex.occursIn text = true) :
    ∃ front blank word blank' back, text = front ++ blank :: (word ++ blank' :: back) ∧
      blanks.has blank = true ∧ LooksClustered word ∧ blanks.has blank' = true := by
  have explores : signature.regex.explores = true := by decide
  obtain ⟨front, rest, stop, whole, way⟩ := (occursIn_iff_leads explores).mp occurs
  obtain ⟨_, ⟨-, rfl⟩, _, name, _, spaced, _, options, _, hyphen, _, ⟨_, -, -, before⟩, _, deleter,
    _, ⟨_, -, -, behind⟩, ended, spaced', -⟩ := way
  obtain ⟨start, takes, -⟩ := takes_of_leads name
  obtain ⟨_, ⟨lead, blank, rfl, isBlank⟩, takes₁⟩ := endsBlank_of_passed spaced options
  obtain ⟨hyphen, isHyphen, takes₂⟩ := takes_of_leads_one hyphen
  obtain ⟨earlier, isEarlier, takes₃⟩ := takes_of_turns_one before
  obtain ⟨deleter, deletes, takes₄⟩ := takes_of_leads_one deleter
  obtain ⟨later, isLater, takes₅⟩ := takes_of_turns_one behind
  obtain ⟨_, some, isBlank', takes₆⟩ := takes_of_leads_several spaced'
  obtain ⟨blank', more, rfl⟩ := List.exists_cons_of_ne_nil some
  have taken := (takes.trans takes₁).trans
    (takes₂.trans (takes₃.trans (takes₄.trans (takes₅.trans takes₆))))
  refine ⟨front ++ (start ++ lead), blank, hyphen :: (earlier ++ deleter :: later), blank',
    more ++ ended.1.after, ?_, isBlank,
    ⟨hyphen, earlier, deleter, later, rfl, isHyphen, isEarlier, deletes, isLater⟩,
    isBlank' _ List.mem_cons_self⟩
  rw [whole]
  refine (congrArg (front ++ ·) taken.1).trans ?_
  simp only [List.append_assoc, List.cons_append, List.nil_append]

/-- What looks like a cluster in the text of a removal is one: it has no blank, and as an option it
is short. -/
theorem clusters_of_looksClustered {word : List Char} (looks : LooksClustered word)
    (written : ∀ c ∈ word, isWritten c = true) :
    ' ' ∉ word ∧ ∀ flag : Flag, flag.text = word → flag.clusters = true := by
  obtain ⟨hyphen, earlier, deleter, later, rfl, isHyphen, isEarlier, deletes, isLater⟩ := looks
  simp only [List.forall_mem_cons, List.forall_mem_append] at written
  obtain ⟨here, before, deleting, behind⟩ := written
  obtain rfl : hyphen = '-' := (has_of_isWritten here).2.1 isHyphen
  have asks := (has_of_isWritten deleting).2.2.2 deletes
  have spelled : ∀ c ∈ earlier ++ deleter :: later, c.isAlpha = true := by
    have known : (['r', 'R', 'f', 'F'].all Char.isAlpha) = true := by decide
    refine List.forall_mem_append.mpr
      ⟨fun c member => ?_, List.forall_mem_cons.mpr ⟨?_, fun c member => ?_⟩⟩
    · exact (has_of_isWritten (before c member)).2.2.1 (isEarlier c member)
    · exact List.all_eq_true.mp known deleter (List.contains_iff_mem.mp asks)
    · exact (has_of_isWritten (behind c member)).2.2.1 (isLater c member)
  refine ⟨?_, fun flag same => ?_⟩
  · rintro (_ | ⟨_, member⟩)
    cases spelled ' ' member
  · cases long : flag.long with
    | true =>
      -- the second hyphen would be a letter
      rw [Flag.text, long, if_pos rfl] at same
      have second : '-' ∈ earlier ++ deleter :: later := by
        rw [← (List.cons.inj same).2]
        exact List.mem_cons_self
      cases spelled '-' second
    | false =>
      rw [Flag.text, long, if_neg Bool.false_ne_true] at same
      have same : flag.letters = earlier ++ deleter :: later := (List.cons.inj same).2
      rw [Flag.clusters, long, same, Bool.not_false, Bool.true_and, List.any_eq_true]
      exact ⟨deleter, List.mem_append_right _ List.mem_cons_self, asks⟩

/-- A removal in which the signature occurs has a cluster among its options. -/
theorem exists_clusters_of_occursIn {flags : List Flag} {target : Target}
    (occurs : signature.regex.occursIn (command flags target).toList = true) :
    ∃ flag ∈ flags, flag.clusters = true := by
  obtain ⟨front, blank, word, blank', back, whole, isBlank, looks, isBlank'⟩ :=
    exists_cluster occurs
  have written : ∀ c ∈ front ++ blank :: (word ++ blank' :: back), isWritten c = true :=
    fun c member => isWritten_of_mem_command (whole ▸ member)
  simp only [List.forall_mem_append, List.forall_mem_cons] at written
  obtain ⟨-, first, inside, last, -⟩ := written
  obtain ⟨single, cluster⟩ := clusters_of_looksClustered looks inside
  rw [(has_of_isWritten first).1 isBlank, (has_of_isWritten last).1 isBlank', command,
    String.toList_ofList] at whole
  have solid : ∀ word ∈ "rm".toList :: words flags target, ' ' ∉ word := by
    refine List.forall_mem_cons.mpr ⟨by decide, fun word member blank => ?_⟩
    exact (solid_of_mem_words member ' ' blank).2 rfl
  obtain ⟨before, after, split, followed⟩ := word_of_between whole solid single
  -- the word is not the last one, so it is an option
  have options := congrArg List.dropLast split
  rw [words, List.dropLast_concat, List.dropLast_append_of_ne_nil (List.cons_ne_nil _ _),
    List.dropLast_cons_of_ne_nil followed] at options
  have option : word ∈ flags.map Flag.text := by
    rw [options]
    exact List.mem_append_right _ List.mem_cons_self
  obtain ⟨flag, known, same⟩ := List.mem_map.mp option
  exact ⟨flag, known, cluster flag same⟩

/-! ## What the signature covers -/

theorem covers_gap : gap.caseless.Covers [' '] :=
  covers_loop_one (List.forall_mem_singleton.mpr (by decide)) (Nat.le_refl 1)

/-- Options are passed over, each with the blank behind it. -/
theorem covers_passed (flags : List Flag) :
    passed.caseless.Covers (flags.flatMap fun flag => flag.text ++ [' ']) := by
  have each : ∀ piece ∈ flags.map fun flag => flag.text ++ [' '],
      (row [row [.loop false 1 (some 2) (spell "-"), several (among [wordItem, .char '-'])],
        gap]).caseless.Covers piece := by
    intro piece member
    obtain ⟨flag, -, rfl⟩ := List.mem_map.mp member
    have one : ∀ hyphen ∈ [['-']], (spell "-").caseless.Covers hyphen :=
      List.forall_mem_singleton.mpr (covers_spell_caseless "-")
    have two : ∀ hyphen ∈ [['-'], ['-']], (spell "-").caseless.Covers hyphen :=
      List.forall_mem_cons.mpr ⟨covers_spell_caseless "-", one⟩
    have hyphens : (Regex.loop false 1 (some 2) (spell "-")).caseless.Covers
        (if flag.long then ['-', '-'] else ['-']) := by
      cases flag.long with
      | true => exact Covers.loop two (by decide) (by decide)
      | false => exact Covers.loop one (by decide) (by decide)
    have name : (several (among [wordItem, .char '-'])).caseless.Covers flag.letters :=
      covers_loop_one (fun c inside => (has_of_isAlpha (flag.plain c inside)).2)
        (List.length_pos_iff.mpr flag.named)
    exact (hyphens.seq name).seq covers_gap
  rw [List.flatMap_def]
  exact Covers.loop each (Nat.zero_le _) nofun

/-- A path at the end of a text is taken as one. -/
theorem coversLast_target (target : Target) :
    Threat.rootTarget.caseless.CoversLast target.text := by
  have unquoted : Threat.maybeQuote.caseless.Covers [] := covers_maybe_nil _
  have slash : (maybe (spell "/")).caseless.Covers "/".toList :=
    (covers_spell_caseless "/").maybe
  have noSlash : (maybe (spell "/")).caseless.Covers [] := covers_maybe_nil _
  have path : (choice
      [row [spell "/", maybe (row [several (among (wordItem :: chars ".-")), maybe (spell "/")])],
       spell "/*", row [spell "~", maybe (spell "/")], row [spell "$HOME", maybe (spell "/")],
       row [spell "$\x7bHOME\x7d", maybe (spell "/")]]).caseless.Covers target.text := by
    cases target with
    | root =>
      exact .alt_left ((covers_spell_caseless "/").seq (covers_maybe_nil _))
    | child name named plain =>
      have below : (several (among (wordItem :: chars ".-"))).caseless.Covers name :=
        covers_loop_one (fun c inside => has_of_isNamed (plain c inside))
          (List.length_pos_iff.mpr named)
      have whole := (covers_spell_caseless "/").seq (below.seq noSlash).maybe
      rw [List.append_nil] at whole
      exact .alt_left whole
    | rootFiles => exact .alt_right (.alt_left (covers_spell_caseless "/*"))
    | home =>
      exact .alt_right (.alt_right (.alt_left ((covers_spell_caseless "~").seq noSlash)))
    | homeFolder =>
      exact .alt_right (.alt_right (.alt_left ((covers_spell_caseless "~").seq slash)))
    | homeVariable =>
      exact .alt_right (.alt_right (.alt_right (.alt_left
        ((covers_spell_caseless "$HOME").seq noSlash))))
    | homeBraces =>
      exact .alt_right (.alt_right (.alt_right (.alt_right
        ((covers_spell_caseless "$\x7bHOME\x7d").seq noSlash))))
  have ended :
      (Regex.ahead true (choice [blank, ending, oneOf ";&|)"])).caseless.CoversLast [] := by
    intro before held
    rw [List.append_nil]
    exact ⟨rfl, _, .inr (.inl ⟨rfl, rfl⟩)⟩
  have whole := unquoted.seq_last (path.seq_last (unquoted.seq_last ended))
  rwa [List.nil_append, List.nil_append, List.append_nil] at whole

/-- Behind each word but the last one stands a blank. -/
theorem flatMap_blank (spoken : List (List Char)) (last : List Char) :
    (spoken ++ [last]).flatMap (' ' :: ·) = ' ' :: (spoken.flatMap (· ++ [' ']) ++ last) := by
  induction spoken with
  | nil => simp
  | cons word spoken ih =>
    rw [List.cons_append, List.flatMap_cons, ih]
    simp

/-- The signature occurs in a removal with a cluster among its options. -/
theorem occursIn_of_clusters {flags : List Flag} {flag : Flag} (known : flag ∈ flags)
    (clusters : flag.clusters = true) (target : Target) :
    signature.regex.occursIn (command flags target).toList = true := by
  obtain ⟨earlier, later, rfl⟩ := List.append_of_mem known
  rw [Flag.clusters, Bool.and_eq_true, Bool.not_eq_true', List.any_eq_true] at clusters
  obtain ⟨short, deleter, inside, asks⟩ := clusters
  obtain ⟨front, back, split⟩ := List.append_of_mem inside
  have deletes : deleters.has deleter = true := by
    have listed : (['r', 'R', 'f', 'F'].all deleters.has) = true := by decide
    exact List.all_eq_true.mp listed deleter (List.contains_iff_mem.mp asks)
  have spelled : ∀ c ∈ front ++ deleter :: back, letterSet.has c = true := fun c member =>
    (has_of_isAlpha (flag.plain c (split ▸ member))).1
  rw [List.forall_mem_append, List.forall_mem_cons] at spelled
  have cluster : flag.text = "-".toList ++ (front ++ ([deleter] ++ back)) := by
    rw [Flag.text, short, split]
    rfl
  have before : letters.caseless.Covers front := covers_loop_one spelled.1 (Nat.zero_le _)
  have behind : letters.caseless.Covers back := covers_loop_one spelled.2.2 (Nat.zero_le _)
  have covers := (covers_spell_caseless "rm").seq_last (covers_gap.seq_last
    ((covers_passed earlier).seq_last ((covers_spell_caseless "-").seq_last (before.seq_last
      ((covers_one deletes).seq_last (behind.seq_last (covers_gap.seq_last
        ((covers_passed later).seq_last (coversLast_target target)))))))))
  have whole : (command (earlier ++ flag :: later) target).toList =
      "rm".toList ++ ([' '] ++ ((earlier.flatMap fun flag => flag.text ++ [' ']) ++ ("-".toList ++
        (front ++ ([deleter] ++ (back ++ ([' '] ++
          ((later.flatMap fun flag => flag.text ++ [' ']) ++ target.text)))))))) := by
    rw [command, String.toList_ofList, words, flatMap_blank, List.flatMap_map, List.flatMap_append,
      List.flatMap_cons, cluster]
    simp only [List.append_assoc, List.cons_append, List.nil_append]
  have explores : signature.regex.explores = true := by decide
  rw [whole]
  refine (occursIn_iff_leads explores).mpr ⟨[], _, _, rfl, _, ⟨?_, rfl⟩, covers [] []⟩
  rfl

/-! ## Removals -/

/-- **Deletions are caught by their short options.** A removal of a path at the root or at home,
with any options, is taken for a deletion exactly where one of its short options holds an `r` or an
`f` in either case. It is then critical, and a scan of it shows it as dangerous under every level,
with a severity that is high or critical. -/
theorem deletion_caught_iff (flags : List Flag) (target : Target) :
    (Risk.danger? (command flags target) = some deletion ↔ ∃ flag ∈ flags, flag.clusters = true) ∧
    ((∃ flag ∈ flags, flag.clusters = true) →
      Risk.assess (command flags target) = .critical ∧
      ∀ level,
        let scan := Scan.ofEntries level [.string (command flags target)]
        scan.findings.dangerous = [command flags target] ∧
          (scan.severity = .high ∨ scan.severity = .critical)) := by
  have caught : Risk.danger? (command flags target) = some deletion ↔
      ∃ flag ∈ flags, flag.clusters = true := by
    rw [danger?_eq_deletion_iff]
    constructor
    · exact exists_clusters_of_occursIn
    · rintro ⟨flag, known, clusters⟩
      exact occursIn_of_clusters known clusters target
  refine ⟨caught, fun clusters => ?_⟩
  have danger := caught.mpr clusters
  have threat : Findings.threatens (command flags target) = true := by
    rw [← Findings.isDangerous_eq_threatens, Risk.isDangerous, danger]
    rfl
  refine ⟨?_, fun level => ⟨Findings.dangerous_findings_single level threat,
    Findings.severity_of_alarm (.inl ?_)⟩⟩
  · rw [Risk.assess, danger]
    rfl
  · exact (Findings.dangerous_single level _).trans threat

/-- A long option that says the same as a cluster does not make a removal a deletion: no signature
matches it, and the permissive level has nothing to say. -/
theorem long_deletion_missed :
    let flags : List Flag := [⟨true, "recursive".toList, by decide, List.all_eq_true.mp rfl⟩]
    command flags .root = "rm --recursive /" ∧ Risk.danger? (command flags .root) = none ∧
      (Scan.ofEntries .permissive [.string (command flags .root)]).severity = .none := by
  decide

end Removal

end ShellVet
