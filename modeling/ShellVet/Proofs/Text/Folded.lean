import ShellVet.Policy.Category
import ShellVet.Text.Class

/-!
# Capital letters of ASCII

`folded` puts the capital letters of ASCII in lower case. What the program asks of a character does
not depend on it (`eq_toLower`), so trimming, first words and lower case are those of the folded
text, and a name is looked up as its folded form is.
-/

namespace ShellVet

namespace Text

/-- The text with the capital letters of ASCII in lower case. -/
def folded (text : List Char) : List Char :=
  text.map Char.toLower

/-- The capital letters of ASCII. -/
def capitals : List Char :=
  "ABCDEFGHIJKLMNOPQRSTUVWXYZ".toList

theorem toLower_cases (c : Char) : c.toLower = c ∨ c ∈ capitals := by
  by_cases capital : 65 ≤ c.toNat ∧ c.toNat ≤ 90
  · right
    have known : ∀ code < 26, Char.ofNat (65 + code) ∈ capitals := by decide
    have member := known (c.toNat - 65) (by omega)
    rwa [Nat.add_sub_of_le capital.1, Char.ofNat_toNat] at member
  · left
    unfold Char.toLower
    rw [dif_neg]
    exact capital

/-- What is the same for each capital letter and its lower case is the same for each character. -/
theorem eq_toLower {α : Type} [DecidableEq α] (value : Char → α)
    (letters : (capitals.all fun c => decide (value c.toLower = value c)) = true) (c : Char) :
    value c.toLower = value c := by
  rcases toLower_cases c with same | capital
  · rw [same]
  · exact of_decide_eq_true (List.all_eq_true.mp letters c capital)

variable (c : Char)

theorem isBlank_toLower : isBlank c.toLower = isBlank c :=
  eq_toLower isBlank (by decide) c

theorem lowerChar_toLower : lowerChar c.toLower = lowerChar c :=
  eq_toLower lowerChar (by decide) c

theorem isCased_toLower : isCased c.toLower = isCased c :=
  eq_toLower isCased (by decide) c

/-- Whether none of the ranges holds a letter of ASCII. -/
def Ranges.isUnlettered (ranges : Ranges) : Bool :=
  ranges.all fun range => range.2 < 65 || (90 < range.1 && range.2 < 97) || 122 < range.1

theorem Ranges.has_eq_false_of_isUnlettered {ranges : Ranges}
    (unlettered : ranges.isUnlettered = true) {code : Nat}
    (letter : 65 ≤ code ∧ code ≤ 90 ∨ 97 ≤ code ∧ code ≤ 122) : ranges.has code = false := by
  rw [Ranges.has, List.any_eq_false]
  intro range known
  have apart := List.all_eq_true.mp unlettered range known
  simp only [Bool.or_eq_true, Bool.and_eq_true, decide_eq_true_eq] at apart ⊢
  omega

theorem isCaseIgnorable_toLower : isCaseIgnorable c.toLower = isCaseIgnorable c := by
  have unlettered : caseIgnorableRanges.isUnlettered = true := by decide +kernel
  have letters : (capitals.all fun c => decide ((65 ≤ c.toNat ∧ c.toNat ≤ 90) ∧
      97 ≤ c.toLower.toNat ∧ c.toLower.toNat ≤ 122)) = true := by decide
  rcases toLower_cases c with same | capital
  · rw [same]
  · obtain ⟨large, small⟩ := of_decide_eq_true (List.all_eq_true.mp letters c capital)
    unfold isCaseIgnorable
    rw [Ranges.has_eq_false_of_isUnlettered unlettered (.inr small),
      Ranges.has_eq_false_of_isUnlettered unlettered (.inl large)]

theorem isNameChar_toLower : isNameChar c.toLower = isNameChar c :=
  eq_toLower isNameChar (by decide) c

/-! ## Texts -/

variable (text : List Char)

theorem dropWhile_folded {holds : Char → Bool} (same : ∀ c : Char, holds c.toLower = holds c) :
    (folded text).dropWhile holds = folded (text.dropWhile holds) := by
  unfold folded
  rw [List.dropWhile_map]
  congr 2
  exact funext same

theorem takeWhile_folded {holds : Char → Bool} (same : ∀ c : Char, holds c.toLower = holds c) :
    (folded text).takeWhile holds = folded (text.takeWhile holds) := by
  unfold folded
  rw [List.takeWhile_map]
  congr 2
  exact funext same

theorem trim_folded : trim (folded text) = folded (trim text) := by
  unfold trim
  rw [dropWhile_folded _ isBlank_toLower]
  unfold folded
  rw [← List.map_reverse]
  change ((folded _).dropWhile isBlank).reverse = _
  rw [dropWhile_folded _ isBlank_toLower, folded, List.map_reverse]

theorem firstWord_folded : firstWord (folded text) = folded (firstWord text) := by
  unfold firstWord
  rw [dropWhile_folded _ isBlank_toLower]
  exact takeWhile_folded _ fun c => by rw [isBlank_toLower]

theorem meetsCased_folded : meetsCased (folded text) = meetsCased text := by
  unfold meetsCased
  rw [dropWhile_folded _ isCaseIgnorable_toLower]
  cases text.dropWhile isCaseIgnorable with
  | nil => rfl
  | cons c rest => exact isCased_toLower c

theorem lowerWithin_folded (before after : List Char) :
    lowerWithin (folded before) c.toLower (folded after) = lowerWithin before c after := by
  have dotted : c.toLower.toNat = 304 ↔ c.toNat = 304 :=
    decide_eq_decide.mp (eq_toLower (fun c => decide (c.toNat = 304)) (by decide) c)
  have sigma : c.toLower.toNat = 931 ↔ c.toNat = 931 :=
    decide_eq_decide.mp (eq_toLower (fun c => decide (c.toNat = 931)) (by decide) c)
  unfold lowerWithin
  simp only [dotted, sigma, meetsCased_folded, lowerChar_toLower]

theorem lowerFrom_folded (before : List Char) :
    lowerFrom (folded before) (folded text) = lowerFrom before text := by
  induction text generalizing before with
  | nil => rfl
  | cons c rest ih =>
    change lowerWithin (folded before) c.toLower (folded rest) ++
      lowerFrom (folded (c :: before)) (folded rest) = _
    rw [lowerWithin_folded, ih]
    rfl

/-- Lower case is that of the folded text. -/
theorem lower_folded : lower (folded text) = lower text :=
  lowerFrom_folded text []

end Text

/-- A name belongs to a category as its folded form does. -/
theorem Category.ofCommand?_folded (name : List Char) :
    ofCommand? (String.ofList (Text.folded name)) = ofCommand? (String.ofList name) := by
  have named : normalName (String.ofList (Text.folded name)) = normalName (String.ofList name) := by
    unfold normalName
    rw [String.toList_ofList, String.toList_ofList, Text.trim_folded, Text.lower_folded]
  unfold ofCommand?
  rw [named]

end ShellVet
