import ShellVet.Proofs.Regex.Covered
import ShellVet.Proofs.Regex.Folded
import ShellVet.Proofs.Text.Ascii
import ShellVet.Source.Package

/-!
# Names of packages

The pattern of package names is meant for ASCII: a letter or digit, and letters, digits and signs
behind it. As it lets case not count, its sets hold four characters beyond ASCII too
(`has_starters_iff`), and as its end may stand before a line end, one line feed may follow. With
these two liberties, and no other, the names are those of the pattern (`isPackageName_iff`). So
`git` with a line feed is a name (`line_feed_accepted`).
-/

namespace ShellVet.Source

open Regex Text

/-! ## Sets of ASCII characters -/

/-- The entry is of ASCII characters, as written. -/
def isAsciiItem : CharItem → Bool
  | .char c => c.toNat < 128
  | .range _ last => last.toNat < 128
  | .class .. => false

/-- The lower case of an ASCII character matches no character beyond ASCII but the lookalikes. -/
theorem lookalike_of_mem_family {c other : Char} (ascii : c.toNat < 128)
    (member : other ∈ caseFamily (lowerChar c)) : other.toNat ∈ smallLookalikes := by
  have family : ((caseFamily (lowerChar c)).all fun other =>
      decide (other.toNat ∈ smallLookalikes)) = true := by
    refine of_ascii ascii ?_
    decide +kernel
  exact forall_mem_of_all family other member

/-- Where case does not count, an entry of ASCII characters holds nothing else but lookalikes. -/
theorem near_of_isAsciiItem {item : CharItem} {c : Char} (ascii : isAsciiItem item = true)
    (has : item.has .full c = true) : c.toNat < 128 ∨ c.toNat ∈ lookalikeCodes := by
  cases item with
  | char wanted =>
    have small : wanted.toNat < 128 := of_decide_eq_true ascii
    rcases (Bool.or_eq_true _ _).mp has with same | family
    · refine ascii_or_lookalike (.inl ?_)
      rw [beq_iff_eq.mp same]
      refine of_ascii small ?_
      decide +kernel
    · exact ascii_or_lookalike
        (.inr (lookalike_of_mem_family small (List.contains_iff_mem.mp family)))
  | range first last =>
    rw [CharItem.has_range_full] at has
    obtain ⟨source, member, within⟩ := List.any_eq_true.mp has
    obtain ⟨other, near, from'⟩ := List.mem_flatMap.mp member
    have small : source.toNat < 128 :=
      Nat.lt_of_le_of_lt (of_decide_eq_true ((Bool.and_eq_true _ _).mp within).2)
        (of_decide_eq_true ascii)
    have target := ascii_of_mem_lowerSources from' small
    refine ascii_or_lookalike ?_
    rcases List.mem_cons.mp near with rfl | family
    · exact .inl target
    · exact .inr (lookalike_of_mem_caseFamily family target)
  | «class» kind asciiOnly outside => cases ascii

theorem near_of_has {items : List CharItem} {c : Char} (ascii : items.all isAsciiItem = true)
    (has : ({ items, folding := .full } : CharSet).has c = true) :
    c.toNat < 128 ∨ c.toNat ∈ lookalikeCodes := by
  rw [CharSet.has, Bool.bne_false] at has
  obtain ⟨item, known, has⟩ := List.any_eq_true.mp has
  exact near_of_isAsciiItem (List.all_eq_true.mp ascii item known) has

/-! ## The pattern -/

/-- The characters that a name starts with. -/
def starters : CharSet := { items := [.range 'a' 'z', .range '0' '9'], folding := .full }

/-- The signs of names. -/
def signs : CharSet := { items := Phrase.chars "-_@/.", folding := .full }

/-- The characters that a name goes on with. -/
def followers : CharSet := { starters with items := starters.items ++ signs.items }

theorem packageName_eq : packageName = .seq (.anchor .textStart)
    (.seq (.one starters) (.seq (many (.one followers)) (.anchor .lastLineEnd))) := by
  decide

/-- Whether the character is a sign of names. -/
def isNameSign (c : Char) : Bool :=
  ['-', '_', '@', '/', '.'].contains c

theorem ascii_of_isNameSign {c : Char} (sign : isNameSign c = true) : c.toNat < 128 := by
  have all : (['-', '_', '@', '/', '.'].all fun c => decide (c.toNat < 128)) = true := by decide
  exact of_decide_eq_true (List.all_eq_true.mp all c (List.contains_iff_mem.mp sign))

/-- Two checks that are the same for ASCII and the lookalikes, and hold of no others, are the
same. -/
theorem eq_of_near (holds meant : Char → Bool) (c : Char)
    (near : holds c = true → c.toNat < 128 ∨ c.toNat ∈ lookalikeCodes)
    (near' : meant c = true → c.toNat < 128 ∨ c.toNat ∈ lookalikeCodes)
    (ascii : ∀ code < 128, holds (Char.ofNat code) = meant (Char.ofNat code))
    (lookalikes : ∀ code ∈ lookalikeCodes, holds (Char.ofNat code) = meant (Char.ofNat code)) :
    holds c = meant c := by
  have same (close : c.toNat < 128 ∨ c.toNat ∈ lookalikeCodes) : holds c = meant c := by
    rcases close with small | other
    · exact of_ascii small ascii
    · have found := lookalikes _ other
      rwa [Char.ofNat_toNat] at found
  cases held : holds c with
  | true => rw [← held, same (near held)]
  | false =>
    cases intended : meant c with
    | true => rw [← held, same (near' intended), intended]
    | false => rfl

theorem has_starters (c : Char) :
    starters.has c = (c.isAlphanum || lookalikeCodes.contains c.toNat) := by
  refine eq_of_near _ (fun c => c.isAlphanum || lookalikeCodes.contains c.toNat) c
    (near_of_has (by decide)) ?_ (by decide +kernel) (by decide)
  intro meant
  rcases (Bool.or_eq_true _ _).mp meant with plain | other
  · exact .inl (ascii_of_isAlphanum plain)
  · exact .inr (List.contains_iff_mem.mp other)

theorem has_signs (c : Char) : signs.has c = isNameSign c :=
  eq_of_near _ _ c (near_of_has (by decide)) (fun sign => .inl (ascii_of_isNameSign sign))
    (by decide) (by decide)

theorem has_starters_iff {c : Char} :
    starters.has c = true ↔ c.isAlphanum = true ∨ c.toNat ∈ lookalikeCodes := by
  rw [has_starters, Bool.or_eq_true, List.contains_iff_mem]

theorem has_followers_iff {c : Char} : followers.has c = true ↔
    (c.isAlphanum || isNameSign c) = true ∨ c.toNat ∈ lookalikeCodes := by
  have either : followers.has c = (starters.has c || signs.has c) := by
    rw [CharSet.has, followers, List.any_append, CharSet.has, CharSet.has]
    simp only [starters, signs, Bool.bne_false]
  rw [either, Bool.or_eq_true, has_starters_iff, has_signs, Bool.or_eq_true, or_right_comm]

/-- The pattern matches a text that one of its first characters and further ones make up, with a
line feed behind them or not. -/
theorem matches_packageName_iff {text : List Char} :
    (packageName.matchAt (.start text)).isSome = true ↔
      ∃ first rest, (text = first :: rest ∨ text = first :: rest ++ ['\n']) ∧
        starters.has first = true ∧ ∀ c ∈ rest, followers.has c = true := by
  have explores : packageName.explores = true := by decide
  rw [matchAt_isSome_iff explores, packageName_eq]
  constructor
  · rintro ⟨stop, _, ⟨-, rfl⟩, middle, one, last, ⟨count, -, -, turns⟩, ended, -⟩
    obtain ⟨first, starts, takes⟩ := takes_of_leads_one one
    obtain ⟨rest, follow, takes'⟩ := takes_of_turns_one turns
    have whole : text = first :: rest ++ last.1.after := (takes.trans takes').1
    refine ⟨first, rest, ?_, starts, follow⟩
    rcases (Bool.or_eq_true _ _).mp ended with empty | feed
    · rw [List.isEmpty_iff.mp empty, List.append_nil] at whole
      exact .inl whole
    · rw [beq_iff_eq.mp feed] at whole
      exact .inr whole
  · rintro ⟨first, rest, whole, starts, follow⟩
    -- all characters of the name are taken, and the end is at hand there, before the line feed or
    -- not
    have covers : (Regex.seq (.one starters) (many (.one followers))).Covers (first :: rest) :=
      (covers_one starts).seq (covers_loop_one follow (Nat.zero_le _))
    have reach (after : List Char)
        (ended : Anchor.holds (.between (first :: rest) after) .lastLineEnd) :
        ∃ stop, Leads (.seq (.anchor .textStart)
          (.seq (.one starters) (.seq (many (.one followers)) (.anchor .lastLineEnd))))
          (.start (first :: rest ++ after), []) stop := by
      obtain ⟨middle, one, more⟩ := covers [] after []
      exact ⟨_, _, ⟨rfl, rfl⟩, middle, one, _, more, ended, rfl⟩
    rcases whole with rfl | rfl
    · have found := reach [] rfl
      rwa [List.append_nil] at found
    · exact reach ['\n'] rfl

/-! ## Names -/

/-- The text is a name as meant: up to 128 characters, a letter or digit of ASCII and then such
characters or signs. -/
def IsName (text : List Char) : Prop :=
  ∃ first rest, text = first :: rest ∧ text.length ≤ longestPackageName ∧
    first.isAlphanum = true ∧ ∀ c ∈ rest, (c.isAlphanum || isNameSign c) = true

/-- **What package names are.** A text is accepted if it has up to 128 characters, starts with a
letter or digit of ASCII and goes on with such characters and signs, where four characters beyond
ASCII stand for letters, and one line feed may end it. So of the texts without those five characters
exactly the names as meant are accepted. -/
theorem isPackageName_iff (name : String) :
    (isPackageName name = true ↔ name.length ≤ longestPackageName ∧ ∃ first rest,
      (name.toList = first :: rest ∨ name.toList = first :: rest ++ ['\n']) ∧
        (first.isAlphanum = true ∨ first.toNat ∈ lookalikeCodes) ∧
        ∀ c ∈ rest, (c.isAlphanum || isNameSign c) = true ∨ c.toNat ∈ lookalikeCodes) ∧
    ((∀ c ∈ name.toList, c ≠ '\n' ∧ c.toNat ∉ lookalikeCodes) →
      (isPackageName name = true ↔ IsName name.toList)) := by
  have accepted : isPackageName name = true ↔ name.length ≤ longestPackageName ∧ ∃ first rest,
      (name.toList = first :: rest ∨ name.toList = first :: rest ++ ['\n']) ∧
        (first.isAlphanum = true ∨ first.toNat ∈ lookalikeCodes) ∧
        ∀ c ∈ rest, (c.isAlphanum || isNameSign c) = true ∨ c.toNat ∈ lookalikeCodes := by
    rw [isPackageName, Bool.and_eq_true, decide_eq_true_eq, matches_packageName_iff, and_comm]
    simp only [has_starters_iff, has_followers_iff]
  refine ⟨accepted, fun plain => accepted.trans ?_⟩
  rw [← String.length_toList, IsName]
  constructor
  · rintro ⟨short, first, rest, whole | whole, starts, follow⟩
    · rw [whole] at plain short ⊢
      refine ⟨first, rest, rfl, short, ?_, fun c inside => ?_⟩
      · exact starts.resolve_right (plain first List.mem_cons_self).2
      · exact (follow c inside).resolve_right (plain c (List.mem_cons_of_mem _ inside)).2
    · rw [whole] at plain
      exact absurd rfl (plain '\n' (List.mem_append_right _ List.mem_cons_self)).1
  · rintro ⟨first, rest, whole, short, starts, follow⟩
    exact ⟨short, first, rest, .inl whole, .inl starts, fun c inside => .inl (follow c inside)⟩

/-- A name with signs is accepted, and one with a blank is not. -/
theorem isPackageName_iff_signs :
    (∀ c ∈ "my-tap/node@20".toList, c ≠ '\n' ∧ c.toNat ∉ lookalikeCodes) ∧
      isPackageName "my-tap/node@20" = true ∧
      (∀ c ∈ "git log".toList, c ≠ '\n' ∧ c.toNat ∉ lookalikeCodes) ∧
      isPackageName "git log" = false := by
  have plain : ∀ c ∈ "my-tap/node@20".toList, c ≠ '\n' ∧ c.toNat ∉ lookalikeCodes :=
    forall_mem_of_all (by decide)
  have plain' : ∀ c ∈ "git log".toList, c ≠ '\n' ∧ c.toNat ∉ lookalikeCodes :=
    forall_mem_of_all (by decide)
  refine ⟨plain, ?_, plain', ?_⟩
  · exact ((isPackageName_iff "my-tap/node@20").2 plain).mpr
      ⟨'m', "y-tap/node@20".toList, rfl, by decide, by decide, forall_mem_of_all (by decide)⟩
  · rw [← Bool.not_eq_true, (isPackageName_iff "git log").2 plain']
    rintro ⟨first, rest, whole, -, -, follow⟩
    cases whole
    exact absurd (follow ' ' (by decide)) (by decide)

/-- A line feed behind a name, and the sign of the kelvin in the place of a letter, are accepted. -/
theorem line_feed_accepted :
    (isPackageName "git\n" = true ∧ ¬ IsName "git\n".toList) ∧
      isPackageName "\u212aey" = true ∧ ¬ IsName "\u212aey".toList := by
  refine ⟨⟨by decide, ?_⟩, by decide, ?_⟩
  · rintro ⟨first, rest, whole, -, -, follow⟩
    cases whole
    exact absurd (follow '\n' (by decide)) (by decide)
  · rintro ⟨first, rest, whole, -, starts, -⟩
    cases whole
    exact absurd starts (by decide)

end ShellVet.Source
