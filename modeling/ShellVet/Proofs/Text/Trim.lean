import Mathlib.Data.List.DropRight
import ShellVet.Policy.Category

/-!
# Trimmed texts

Trimming a trimmed text changes nothing, so a name may be trimmed before it is looked up or not. The
form under which a name is looked up keeps every character that is neither white space nor has
another lower case.
-/

namespace ShellVet

namespace Text

/-- A first character that is not white space stays. -/
theorem dropWhile_isBlank_of_isPrefix {text front : List Char}
    (isPrefix : front <+: text.dropWhile isBlank) : front.dropWhile isBlank = front := by
  cases front with
  | nil => rfl
  | cons c front =>
    obtain ⟨rest, whole⟩ := isPrefix
    have first : isBlank c = false := by
      have kept := List.dropWhile_idempotent (p := isBlank) (l := text)
      rw [← whole, List.cons_append, List.dropWhile_cons] at kept
      cases blank : isBlank c with
      | false => rfl
      | true =>
        rw [if_pos blank] at kept
        have shorter := (List.dropWhile_suffix isBlank (l := front ++ rest)).length_le
        rw [kept, List.length_cons] at shorter
        omega
    rw [List.dropWhile_cons, first]
    rfl

theorem trim_trim (text : List Char) : trim (trim text) = trim text := by
  change ((trim text).dropWhile isBlank).rdropWhile isBlank = trim text
  have start : (trim text).dropWhile isBlank = trim text :=
    dropWhile_isBlank_of_isPrefix (List.rdropWhile_prefix isBlank (l := text.dropWhile isBlank))
  rw [start]
  exact List.rdropWhile_idempotent isBlank (text.dropWhile isBlank)

/-! ## Characters that are kept -/

variable {text : List Char} {c : Char}

theorem mem_dropWhile_isBlank (member : c ∈ text) (inked : isBlank c = false) :
    c ∈ text.dropWhile isBlank := by
  rw [← List.takeWhile_append_dropWhile (p := isBlank) (l := text)] at member
  rcases List.mem_append.mp member with front | back
  · rw [List.mem_takeWhile_imp front] at inked
    cases inked
  · exact back

theorem mem_trim_of_mem (member : c ∈ text) (inked : isBlank c = false) : c ∈ trim text := by
  have started := List.mem_reverse.mpr (mem_dropWhile_isBlank member inked)
  exact List.mem_reverse.mpr (mem_dropWhile_isBlank started inked)

theorem mem_lowerFrom_of_mem (fixed : ∀ before after, lowerWithin before c after = [c])
    (before : List Char) (member : c ∈ text) : c ∈ lowerFrom before text := by
  induction text generalizing before with
  | nil => cases member
  | cons first rest ih =>
    rw [lowerFrom, List.mem_append]
    rcases List.mem_cons.mp member with rfl | later
    · exact .inl (by rw [fixed]; exact List.mem_singleton_self c)
    · exact .inr (ih _ later)

end Text

/-- A character that is its own lower case is in the form under which a name is looked up. -/
theorem Category.mem_normalName_of_mem {name : String} {c : Char} (member : c ∈ name.toList)
    (inked : Text.isBlank c = false)
    (fixed : ∀ before after, Text.lowerWithin before c after = [c]) :
    c ∈ (normalName name).toList := by
  rw [normalName, String.toList_ofList]
  exact Text.mem_lowerFrom_of_mem fixed [] (Text.mem_trim_of_mem member inked)

/-- A name is looked up the same with white space around it or without. -/
theorem Category.ofCommand?_trim (name : String) :
    ofCommand? (String.ofList (Text.trim name.toList)) = ofCommand? name := by
  unfold ofCommand? normalName
  rw [String.toList_ofList, Text.trim_trim]

end ShellVet
