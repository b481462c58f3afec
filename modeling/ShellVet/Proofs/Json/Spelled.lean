import Mathlib.Tactic.Push
import ShellVet.Json.Keys
import ShellVet.Proofs.Text.Ascii

/-!
# Names in two spellings

A small letter behind a low line is a joint. Camel case leaves no joints
(`not_hasJoint_toCamelChars`) and changes nothing else, so it changes exactly the texts that have
one (`toCamel_eq_self_iff`).

The way back puts a low line before a capital, unless another capital stands before it. So of a name
made of words a word of one letter, behind the first word, is run together with the next one
(`toSnake_toCamel`), and a name comes back as it was if and only if all words between the first and
the last one are longer (`camel_snake_inverse`). No two names have the same camel form in any case:
its capitals show where the words start (`rejoined_toCamelChars`).
-/

namespace ShellVet.Json

/-! ## Characters of names -/

/-- Whether the character is a small letter or a digit. -/
def isWordChar (c : Char) : Bool := isSmall c || c.isDigit

variable {c : Char} {text front back : List Char}

theorem ascii_of_isWordChar (plain : isWordChar c = true) : c.toNat < 128 := by
  simp only [isWordChar, isSmall, Char.isDigit, Bool.or_eq_true, Bool.and_eq_true,
    decide_eq_true_eq, UInt32.le_iff_toNat_le, Char.le_def] at plain
  change ((97 ≤ c.toNat ∧ c.toNat ≤ 122) ∨ (48 ≤ c.toNat ∧ c.toNat ≤ 57)) at plain
  omega

theorem isWordChar_of_isSmall (small : isSmall c = true) : isWordChar c = true := by
  rw [isWordChar, small, Bool.true_or]

/-- What holds for each small letter and digit can be checked on the codes of ASCII. -/
@[elab_as_elim]
theorem of_isWordChar {holds : Char → Prop} (plain : isWordChar c = true)
    (known : ∀ code < 128, isWordChar (Char.ofNat code) = true → holds (Char.ofNat code)) :
    holds c := by
  have ascii := ascii_of_isWordChar plain
  revert plain
  exact Text.of_ascii ascii known

/-- A small letter has a capital in ASCII, which has it as its lower case. -/
theorem capital_of_isSmall (small : isSmall c = true) :
    isCapital c.toUpper = true ∧ c.toUpper.toLower = c ∧ c.toUpper.toNat < 128 := by
  have plain := isWordChar_of_isSmall small
  revert small
  exact of_isWordChar plain (by decide)

theorem not_isCapital_of_isWordChar (plain : isWordChar c = true) : isCapital c = false :=
  of_isWordChar plain (by decide)

theorem toLower_of_isWordChar (plain : isWordChar c = true) : c.toLower = c :=
  of_isWordChar plain (by decide)

theorem ne_line_of_isWordChar (plain : isWordChar c = true) : c ≠ '_' := by
  rintro rfl
  cases plain

theorem not_isWordChar_of_isCapital (capital : isCapital c = true) : isWordChar c = false := by
  cases plain : isWordChar c with
  | false => rfl
  | true =>
    rw [not_isCapital_of_isWordChar plain] at capital
    cases capital

/-! ## Into camel case -/

/-- Somewhere in the text a small letter stands behind a low line. -/
def HasJoint (text : List Char) : Prop :=
  ∃ c, isSmall c = true ∧ ['_', c] <:+: text

theorem toCamelChars_joint (small : isSmall c = true) :
    toCamelChars ('_' :: c :: text) = c.toUpper :: toCamelChars text := by
  rw [toCamelChars, if_pos small]

theorem toCamelChars_cons (other : c ≠ '_' ∨ ∀ b ∈ text.head?, isSmall b = false) :
    toCamelChars (c :: text) = c :: toCamelChars text := by
  by_cases line : c = '_'
  · subst line
    cases text with
    | nil => rfl
    | cons b rest =>
      have large : isSmall b = false := other.elim (absurd rfl) fun large => large b rfl
      rw [toCamelChars, if_neg (by rw [large]; exact Bool.false_ne_true)]
  · rw [toCamelChars]
    exact fun _ _ same _ => line same

theorem hasJoint_cons_iff :
    HasJoint (c :: text) ↔ (c = '_' ∧ ∃ b ∈ text.head?, isSmall b = true) ∨ HasJoint text := by
  unfold HasJoint
  constructor
  · rintro ⟨b, small, inside⟩
    rcases List.infix_cons_iff.mp inside with ⟨rest, whole⟩ | further
    · obtain ⟨rfl, rfl⟩ := List.cons.inj whole
      exact .inl ⟨rfl, b, rfl, small⟩
    · exact .inr ⟨b, small, further⟩
  · rintro (⟨rfl, b, first, small⟩ | ⟨b, small, further⟩)
    · obtain ⟨rest, rfl⟩ := List.head?_eq_some_iff.mp first
      exact ⟨b, small, [], rest, rfl⟩
    · exact ⟨b, small, List.infix_cons_iff.mpr (.inr further)⟩

/-- Either the text starts with a joint, which becomes a capital, or its first character stays. -/
theorem toCamelChars_cases (c : Char) (text : List Char) :
    (∃ b rest, c = '_' ∧ text = b :: rest ∧ isSmall b = true ∧
        toCamelChars (c :: text) = b.toUpper :: toCamelChars rest) ∨
      ((c ≠ '_' ∨ ∀ b ∈ text.head?, isSmall b = false) ∧
        toCamelChars (c :: text) = c :: toCamelChars text) := by
  by_cases other : c ≠ '_' ∨ ∀ b ∈ text.head?, isSmall b = false
  · exact .inr ⟨other, toCamelChars_cons other⟩
  · left
    rw [not_or, not_not] at other
    obtain ⟨rfl, joint⟩ := other
    push Not at joint
    obtain ⟨b, first, letter⟩ := joint
    obtain ⟨rest, rfl⟩ := List.head?_eq_some_iff.mp first
    have small := eq_true_of_ne_false letter
    exact ⟨b, rest, rfl, rfl, small, toCamelChars_joint small⟩

/-- A small letter at the start of the camel form is the start of the text. -/
theorem head?_of_head?_toCamelChars (first : c ∈ (toCamelChars text).head?)
    (small : isSmall c = true) : c ∈ text.head? := by
  cases text with
  | nil => exact first
  | cons b text =>
    rcases toCamelChars_cases b text with ⟨letter, rest, rfl, rfl, known, same⟩ | ⟨-, same⟩
    · rw [same] at first
      cases first
      have capital := (capital_of_isSmall known).1
      rw [not_isCapital_of_isWordChar (isWordChar_of_isSmall small)] at capital
      cases capital
    · rw [same] at first
      exact first

/-- **Camel case leaves no joints.** -/
theorem not_hasJoint_toCamelChars (text : List Char) : ¬ HasJoint (toCamelChars text) := by
  fun_induction toCamelChars text with
  | case1 c rest small ih =>
    rw [hasJoint_cons_iff, not_or]
    refine ⟨?_, ih⟩
    rintro ⟨line, -⟩
    have capital := (capital_of_isSmall small).1
    rw [line] at capital
    cases capital
  | case2 c rest large ih =>
    -- a small letter at the start of what follows is the one that was seen not to be small
    rw [hasJoint_cons_iff, not_or]
    refine ⟨?_, ih⟩
    rintro ⟨-, b, first, small⟩
    cases head?_of_head?_toCamelChars first small
    exact large small
  | case3 c rest other ih =>
    rw [hasJoint_cons_iff, not_or]
    refine ⟨?_, ih⟩
    rintro ⟨rfl, b, first, small⟩
    obtain ⟨more, rfl⟩ := List.head?_eq_some_iff.mp (head?_of_head?_toCamelChars first small)
    exact other b more rfl rfl
  | case4 =>
    rintro ⟨c, -, inside⟩
    cases List.infix_nil.mp inside

/-- A text without joints is in camel case already. -/
theorem toCamelChars_of_not_hasJoint (free : ¬ HasJoint text) : toCamelChars text = text := by
  induction text with
  | nil => rfl
  | cons c text ih =>
    rw [hasJoint_cons_iff, not_or] at free
    rcases toCamelChars_cases c text with ⟨b, rest, rfl, rfl, small, -⟩ | ⟨-, same⟩
    · exact absurd ⟨rfl, b, rfl, small⟩ free.1
    · rw [same, ih free.2]

theorem toCamel_eq_self_iff {key : String} : toCamel key = key ↔ ¬ HasJoint key.toList := by
  unfold toCamel
  rw [← String.toList_inj, String.toList_ofList]
  constructor
  · intro same
    rw [← same]
    exact not_hasJoint_toCamelChars key.toList
  · exact toCamelChars_of_not_hasJoint

/-- A key in camel case stays as it is. -/
theorem toCamel_toCamel (key : String) : toCamel (toCamel key) = toCamel key := by
  rw [toCamel_eq_self_iff, toCamel, String.toList_ofList]
  exact not_hasJoint_toCamelChars key.toList

/-! ## Capitals as the starts of words -/

/-- The text with each capital as a small letter behind a low line. -/
def rejoined (text : List Char) : List Char :=
  text.flatMap fun c => if isCapital c then ['_', c.toLower] else [c]

/-- Where a text has no capitals of its own, those of its camel form show where it had joints. -/
theorem rejoined_toCamelChars (plain : ∀ c ∈ text, isCapital c = false) :
    rejoined (toCamelChars text) = text := by
  fun_induction toCamelChars text with
  | case1 c rest small ih =>
    obtain ⟨capital, lower, -⟩ := capital_of_isSmall small
    have further := ih fun b inside => plain b (.tail _ (.tail _ inside))
    rw [rejoined, List.flatMap_cons, if_pos capital, lower]
    exact congrArg (['_', c] ++ ·) further
  | case2 c rest large ih =>
    have further := ih fun b inside => plain b (.tail _ inside)
    exact congrArg (['_'] ++ ·) further
  | case3 c rest other ih =>
    have further := ih fun b inside => plain b (.tail _ inside)
    have here : ¬ isCapital c = true := by
      rw [plain c (.head _)]
      exact Bool.false_ne_true
    rw [rejoined, List.flatMap_cons, if_neg here]
    exact congrArg ([c] ++ ·) further
  | case4 => rfl

/-! ## Back from camel case -/

theorem splitCapitals_capital (capital : isCapital c = true) :
    splitCapitals (c :: text) = c :: splitCapitals text := by
  have large := not_isWordChar_of_isCapital capital
  cases text with
  | nil => rfl
  | cons b rest =>
    rw [isWordChar] at large
    rw [splitCapitals, large, Bool.false_and]
    rfl

/-- Plain characters stay together. -/
theorem splitCapitals_plain (plain : ∀ c ∈ text, isWordChar c = true) :
    splitCapitals text = text := by
  fun_induction splitCapitals text with
  | case1 a b rest split ih =>
    rw [not_isCapital_of_isWordChar (plain b (.tail _ (.head _))), Bool.and_false] at split
    cases split
  | case2 a b rest joined ih => rw [ih fun c inside => plain c (.tail _ inside)]
  | case3 => rfl

/-- A capital behind a plain character is set off by a low line. -/
theorem splitCapitals_append (plain : ∀ c ∈ front, isWordChar c = true) (some : front ≠ [])
    (capital : isCapital c = true) :
    splitCapitals (front ++ c :: back) = front ++ '_' :: splitCapitals (c :: back) := by
  induction front with
  | nil => cases some rfl
  | cons a front ih =>
    have first := plain a (.head _)
    rw [isWordChar] at first
    cases front with
    | nil =>
      rw [List.singleton_append, splitCapitals, first, capital]
      rfl
    | cons b front =>
      have next := not_isCapital_of_isWordChar (plain b (.tail _ (.head _)))
      have further := ih (fun c inside => plain c (.tail _ inside)) (List.cons_ne_nil _ _)
      rw [List.cons_append, List.cons_append, splitCapitals, next, Bool.and_false]
      exact congrArg (a :: ·) further

theorem ascii_splitCapitals (ascii : ∀ c ∈ text, c.toNat < 128) :
    ∀ c ∈ splitCapitals text, c.toNat < 128 := by
  fun_induction splitCapitals text with
  | case1 a b rest split ih =>
    rw [List.forall_mem_cons, List.forall_mem_cons]
    exact ⟨ascii a (.head _), by decide, ih fun c inside => ascii c (.tail _ inside)⟩
  | case2 a b rest joined ih =>
    rw [List.forall_mem_cons]
    exact ⟨ascii a (.head _), ih fun c inside => ascii c (.tail _ inside)⟩
  | case3 => exact ascii

theorem toSnake_of_ascii (ascii : ∀ c ∈ text, c.toNat < 128) :
    toSnake (String.ofList text) = String.ofList ((splitCapitals text).map Char.toLower) := by
  rw [toSnake, String.toList_ofList, Text.lower_of_ascii (ascii_splitCapitals ascii)]

/-! ## Words -/

/-- A small letter, with small letters and digits behind it. -/
def IsWord (word : List Char) : Prop :=
  ∃ first rest, word = first :: rest ∧ isSmall first = true ∧ ∀ c ∈ rest, isWordChar c = true

/-- The word with its first letter as a capital. -/
def capitalized : List Char → List Char
  | [] => []
  | c :: rest => c.toUpper :: rest

/-- The words in a row, with a low line between two, but behind a single letter none. -/
def runTogether : List (List Char) → List Char
  | [] => []
  | [word] => word
  | word :: next :: words =>
    word ++ (if 2 ≤ word.length then ['_'] else []) ++ runTogether (next :: words)

variable {word : List Char} {words : List (List Char)}

theorem IsWord.plain (isWord : IsWord word) : ∀ c ∈ word, isWordChar c = true := by
  obtain ⟨first, rest, rfl, small, plain⟩ := isWord
  exact List.forall_mem_cons.mpr ⟨isWordChar_of_isSmall small, plain⟩

theorem toCamelChars_append (plain : ∀ c ∈ front, isWordChar c = true) :
    toCamelChars (front ++ back) = front ++ toCamelChars back := by
  induction front with
  | nil => rfl
  | cons c front ih =>
    rw [List.forall_mem_cons] at plain
    rw [List.cons_append, toCamelChars_cons (.inl (ne_line_of_isWordChar plain.1)), ih plain.2]
    rfl

/-- The low line before a word goes, and the word gets a capital. -/
theorem toCamelChars_line (isWord : IsWord word) :
    toCamelChars ('_' :: (word ++ back)) = capitalized word ++ toCamelChars back := by
  obtain ⟨first, rest, rfl, small, plain⟩ := isWord
  rw [List.cons_append, toCamelChars_joint small, toCamelChars_append plain]
  rfl

theorem IsWord.ne_nil (isWord : IsWord word) : word ≠ [] := by
  obtain ⟨first, rest, rfl, -, -⟩ := isWord
  exact List.cons_ne_nil _ _

theorem intercalate_eq_append (word : List Char) (words : List (List Char)) :
    ['_'].intercalate (word :: words) = word ++ words.flatMap ('_' :: ·) := by
  induction words generalizing word with
  | nil => rw [List.intercalate_singleton, List.flatMap_nil, List.append_nil]
  | cons next words ih =>
    rw [List.intercalate_cons_cons, ih, List.flatMap_cons, List.append_assoc]
    rfl

/-- In camel case all words but the first have capitals. -/
theorem toCamelChars_joined (isWord : IsWord word) (areWords : ∀ word ∈ words, IsWord word) :
    toCamelChars (['_'].intercalate (word :: words)) = word ++ words.flatMap capitalized := by
  rw [intercalate_eq_append, toCamelChars_append isWord.plain]
  congr 1
  induction words with
  | nil => rfl
  | cons next words ih =>
    rw [List.forall_mem_cons] at areWords
    rw [List.flatMap_cons, List.flatMap_cons, List.cons_append, toCamelChars_line areWords.1,
      ih areWords.2]

theorem ascii_capitalized (isWord : IsWord word) : ∀ c ∈ capitalized word, c.toNat < 128 := by
  obtain ⟨first, rest, rfl, small, plain⟩ := isWord
  exact List.forall_mem_cons.mpr
    ⟨(capital_of_isSmall small).2.2, fun c inside => ascii_of_isWordChar (plain c inside)⟩

theorem map_toLower_of_plain (plain : ∀ c ∈ text, isWordChar c = true) :
    text.map Char.toLower = text := by
  rw [List.map_congr_left fun c inside => toLower_of_isWordChar (plain c inside)]
  exact List.map_id' text

/-- Behind plain characters the capital of the next word is set off. -/
theorem splitCapitals_append_capitalized {next : List Char}
    (plain : ∀ c ∈ front, isWordChar c = true) (some : front ≠ []) (isWord : IsWord next) :
    splitCapitals (front ++ (next :: words).flatMap capitalized) =
      front ++ '_' :: splitCapitals ((next :: words).flatMap capitalized) := by
  obtain ⟨letter, more, rfl, small, -⟩ := isWord
  exact splitCapitals_append plain some (capital_of_isSmall small).1

/-- Words with capitals come apart again, but for single letters, which stay with the next word. -/
theorem splitCapitals_capitalized (areWords : ∀ word ∈ words, IsWord word) :
    (splitCapitals (words.flatMap capitalized)).map Char.toLower = runTogether words := by
  fun_induction runTogether words with
  | case1 => rfl
  | case2 word =>
    obtain ⟨first, rest, rfl, small, plain⟩ := areWords word (.head _)
    obtain ⟨capital, lower, -⟩ := capital_of_isSmall small
    have single : [first :: rest].flatMap capitalized = first.toUpper :: rest :=
      List.append_nil _
    rw [single, splitCapitals_capital capital, splitCapitals_plain plain, List.map_cons, lower,
      map_toLower_of_plain plain]
  | case3 word next words ih =>
    obtain ⟨first, rest, rfl, small, plain⟩ := areWords word (.head _)
    have further := ih fun word inside => areWords word (.tail _ inside)
    obtain ⟨capital, lower, -⟩ := capital_of_isSmall small
    have parts : ((first :: rest) :: next :: words).flatMap capitalized =
        first.toUpper :: (rest ++ (next :: words).flatMap capitalized) := rfl
    rw [parts, splitCapitals_capital capital, List.map_cons, lower]
    cases rest with
    | nil =>
      -- the capital of the next word stands right behind this one
      exact congrArg (first :: ·) further
    | cons second rest =>
      have setOff : splitCapitals (second :: rest ++ (next :: words).flatMap capitalized) =
          second :: rest ++ '_' :: splitCapitals ((next :: words).flatMap capitalized) :=
        splitCapitals_append_capitalized plain (List.cons_ne_nil _ _)
          (areWords next (.tail _ (.head _)))
      have long : 2 ≤ (first :: second :: rest).length := by
        rw [List.length_cons, List.length_cons]
        omega
      rw [setOff, List.map_append, map_toLower_of_plain plain, List.map_cons, further, if_pos long,
        List.append_assoc]
      rfl

/-- **The way back.** All words are set off again but those behind single letters, the first word
apart. -/
theorem toSnake_toCamel {next : List Char}
    (areWords : ∀ known ∈ word :: next :: words, IsWord known) :
    toSnake (toCamel (String.ofList (['_'].intercalate (word :: next :: words)))) =
      String.ofList (word ++ '_' :: runTogether (next :: words)) := by
  rw [List.forall_mem_cons] at areWords
  obtain ⟨isWord, areWords⟩ := areWords
  have ascii : ∀ c ∈ word ++ (next :: words).flatMap capitalized, c.toNat < 128 := by
    rw [List.forall_mem_append]
    refine ⟨fun c inside => ascii_of_isWordChar (isWord.plain c inside), fun c inside => ?_⟩
    obtain ⟨known, among, inside⟩ := List.mem_flatMap.mp inside
    exact ascii_capitalized (areWords known among) c inside
  rw [toCamel, String.toList_ofList, toCamelChars_joined isWord areWords, toSnake_of_ascii ascii,
    splitCapitals_append_capitalized isWord.plain isWord.ne_nil (areWords next (.head _)),
    List.map_append, map_toLower_of_plain isWord.plain, List.map_cons,
    splitCapitals_capitalized areWords]
  rfl

theorem toSnake_toCamel_single (isWord : IsWord word) :
    toSnake (toCamel (String.ofList word)) = String.ofList word := by
  have camel : toCamelChars word = word := by
    rw [← List.append_nil word, toCamelChars_append isWord.plain]
    rfl
  have ascii : ∀ c ∈ word, c.toNat < 128 :=
    fun c inside => ascii_of_isWordChar (isWord.plain c inside)
  rw [toCamel, String.toList_ofList, camel, toSnake_of_ascii ascii,
    splitCapitals_plain isWord.plain, map_toLower_of_plain isWord.plain]

theorem head?_runTogether (c : Char) (rest : List Char) (words : List (List Char)) :
    (runTogether ((c :: rest) :: words)).head? = some c := by
  cases words with
  | nil => rfl
  | cons next words => rfl

/-- Nothing is run together if and only if all words but the last are longer than a letter. -/
theorem runTogether_eq_iff (areWords : ∀ word ∈ words, IsWord word) :
    runTogether words = ['_'].intercalate words ↔ ∀ word ∈ words.dropLast, 2 ≤ word.length := by
  fun_induction runTogether words with
  | case1 => exact iff_of_true rfl nofun
  | case2 word => exact iff_of_true (List.intercalate_singleton ..).symm nofun
  | case3 word next words ih =>
    rw [List.intercalate_cons_cons, List.dropLast_cons_cons, List.forall_mem_cons]
    by_cases long : 2 ≤ word.length
    · rw [if_pos long, List.append_right_inj, ih fun word inside => areWords word (.tail _ inside)]
      exact (and_iff_right long).symm
    · -- the name has a low line where the letter of the next word follows at once
      refine iff_of_false ?_ fun all => long all.1
      rw [if_neg long, List.append_nil, List.append_assoc, List.append_right_inj]
      obtain ⟨letter, more, rfl, small, -⟩ := areWords next (.tail _ (.head _))
      intro same
      have heads := congrArg List.head? same
      rw [head?_runTogether] at heads
      exact ne_line_of_isWordChar (isWordChar_of_isSmall small) (Option.some.inj heads)

/-! ## Names -/

/-- The name is made of these words, with a low line between two of them. -/
structure MadeOf (words : List String) (name : String) : Prop where
  nonempty : words ≠ []
  areWords : ∀ word ∈ words, IsWord word.toList
  joined : "_".intercalate words = name

variable {names : List String} {name : String}

theorem MadeOf.toList (made : MadeOf names name) :
    name.toList = ['_'].intercalate (names.map String.toList) := by
  rw [← made.joined, String.toList_intercalate]
  rfl

theorem MadeOf.not_isCapital (made : MadeOf names name) :
    ∀ c ∈ name.toList, isCapital c = false := by
  have plain (known : String) (among : known ∈ names) : ∀ c ∈ known.toList, isCapital c = false :=
    fun c inside => not_isCapital_of_isWordChar ((made.areWords known among).plain c inside)
  rw [made.toList]
  cases names with
  | nil => exact nofun
  | cons first further =>
    rw [List.map_cons, intercalate_eq_append, List.forall_mem_append]
    refine ⟨plain first (.head _), fun c inside => ?_⟩
    obtain ⟨word, among, inside⟩ := List.mem_flatMap.mp inside
    obtain ⟨known, listed, rfl⟩ := List.mem_map.mp among
    rcases List.mem_cons.mp inside with rfl | inside
    · rfl
    · exact plain known (.tail _ listed) c inside

/-- A name comes back if and only if its inner words are longer than a letter. -/
theorem toSnake_toCamel_eq_iff (made : MadeOf names name) :
    toSnake (toCamel name) = name ↔ ∀ word ∈ names.tail.dropLast, 2 ≤ word.length := by
  have spelled := congrArg String.ofList made.toList
  have areWords : ∀ word ∈ names.map String.toList, IsWord word :=
    List.forall_mem_map.mpr made.areWords
  rw [String.ofList_toList] at spelled
  rw [spelled]
  match names with
  | [] => exact absurd rfl made.nonempty
  | [first] =>
    refine iff_of_true ?_ nofun
    rw [List.map_singleton, List.intercalate_singleton]
    exact toSnake_toCamel_single (areWords _ (.head _))
  | first :: second :: further =>
    rw [List.map_cons, List.map_cons] at areWords ⊢
    have inner := (List.forall_mem_cons.mp areWords).2
    rw [toSnake_toCamel areWords, String.ofList_inj, List.intercalate_cons_cons, List.append_assoc,
      List.append_right_inj, List.singleton_append, List.cons_inj_right, runTogether_eq_iff inner,
      ← List.map_cons, ← List.map_dropLast, List.forall_mem_map]
    rfl

/-- **The two spellings are inverse.** A name comes back from camel case if and only if all words
between its first and its last one are longer than a letter, and different names have different
camel forms. -/
theorem camel_snake_inverse (made : MadeOf names name) :
    (toSnake (toCamel name) = name ↔ ∀ word ∈ names.tail.dropLast, 2 ≤ word.length) ∧
      ∀ others other, MadeOf others other → (toCamel other = toCamel name ↔ other = name) := by
  refine ⟨toSnake_toCamel_eq_iff made, fun others other madeOther => ?_⟩
  refine ⟨fun same => ?_, congrArg toCamel⟩
  have camel := congrArg String.toList same
  rw [toCamel, toCamel, String.toList_ofList, String.toList_ofList] at camel
  rw [← String.toList_inj, ← rejoined_toCamelChars made.not_isCapital, ← camel,
    rejoined_toCamelChars madeOther.not_isCapital]

/-- Single letters at both ends and a digit before a capital: the name comes back, and its camel
form is not that of the same letters in other words. -/
theorem camel_snake_inverse_short_ends :
    MadeOf ["a", "b1", "c"] "a_b1_c" ∧ MadeOf ["a", "b1c"] "a_b1c" ∧
      toSnake (toCamel "a_b1_c") = "a_b1_c" ∧ toCamel "a_b1c" ≠ toCamel "a_b1_c" := by
  have isWord (first : Char) (rest : List Char) (small : isSmall first = true)
      (plain : rest.all isWordChar = true) : IsWord (first :: rest) :=
    ⟨first, rest, rfl, small, List.all_eq_true.mp plain⟩
  have one : MadeOf ["a", "b1", "c"] "a_b1_c" := by
    refine ⟨List.cons_ne_nil _ _, ?_, by decide⟩
    simp only [List.forall_mem_cons]
    exact ⟨isWord 'a' [] rfl rfl, isWord 'b' ['1'] rfl rfl, isWord 'c' [] rfl rfl, nofun⟩
  have two : MadeOf ["a", "b1c"] "a_b1c" := by
    refine ⟨List.cons_ne_nil _ _, ?_, by decide⟩
    simp only [List.forall_mem_cons]
    exact ⟨isWord 'a' [] rfl rfl, isWord 'b' ['1', 'c'] rfl rfl, nofun⟩
  obtain ⟨comesBack, differ⟩ := camel_snake_inverse one
  refine ⟨one, two, comesBack.mpr (by decide), ?_⟩
  rw [Ne, differ _ _ two]
  decide

example : toCamel "a_b_cd" = "aBCd" ∧ toSnake "aBCd" = "a_bcd" := by
  decide

end ShellVet.Json
