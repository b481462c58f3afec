import Mathlib.Data.List.Induction
import Mathlib.Data.List.Nodup
import ShellVet.Scan.Findings

/-!
# Lists without repetition

A scan keeps its findings by inserting one value after another. Inserting a whole list into the
empty one gives the list with every value at its first place only (`insertAll_nil`), so what is said
here about that list holds of every list of findings.
-/

namespace ShellVet.Findings

variable {items values more : List String} {value : String} {keep : String → Bool}

/-! ## Inserting -/

theorem insertAll_cons :
    insertAll items (value :: values) = insertAll (insert items value) values :=
  rfl

theorem insertAll_append :
    insertAll items (values ++ more) = insertAll (insertAll items values) more := by
  simp only [insertAll, List.foldl_append]

/-- Inserting a list adds the values that were not there, each once. -/
theorem insertAll_eq_append_eraseDups :
    insertAll items values = items ++ (values.removeAll items).eraseDups := by
  induction values generalizing items with
  | nil => simp [insertAll, List.removeAll]
  | cons value values ih =>
    rw [insertAll_cons, ih]
    by_cases present : value ∈ items
    · have same : insert items value = items := by simp [insert, present]
      rw [same, List.cons_removeAll]
      simp [present]
    · have longer : insert items value = items ++ [value] := by simp [insert, present]
      rw [longer, List.cons_removeAll]
      simp only [List.contains_eq_mem, present, decide_false, if_true, List.eraseDups_cons,
        List.append_assoc, List.singleton_append]
      congr 3
      simp only [List.removeAll, List.filter_filter]
      apply List.filter_congr
      intro other _
      by_cases equal : other = value <;> simp [equal]

/-- A list of findings is the list of all that was inserted, without repetition. -/
theorem insertAll_nil : insertAll [] values = values.eraseDups := by
  have none_removed : values.removeAll [] = values := by
    simp only [List.removeAll, List.elem_nil, Bool.not_false, List.filter_true]
  rw [insertAll_eq_append_eraseDups, none_removed, List.nil_append]

/-! ## The first places of a list -/

theorem eraseDups_concat : (values ++ [value]).eraseDups = insert values.eraseDups value := by
  rw [← insertAll_nil, ← insertAll_nil, insertAll_append]
  rfl

theorem nodup_insert (distinct : items.Nodup) : (insert items value).Nodup := by
  unfold insert
  split
  case isTrue => exact distinct
  case isFalse absent =>
    have absent : value ∉ items := by simpa using absent
    rw [← List.concat_eq_append]
    exact List.Nodup.concat absent distinct

theorem nodup_eraseDups : values.eraseDups.Nodup := by
  induction values using List.reverseRecOn with
  | nil => exact List.nodup_nil
  | append_singleton values value ih =>
    rw [eraseDups_concat]
    exact nodup_insert ih

theorem filter_insert :
    (insert items value).filter keep =
      if keep value then insert (items.filter keep) value else items.filter keep := by
  unfold insert
  by_cases present : value ∈ items <;> cases kept : keep value <;>
    simp [present, kept, List.filter_append]

/-- Repetition can be removed before or after a choice. -/
theorem eraseDups_filter : (values.filter keep).eraseDups = values.eraseDups.filter keep := by
  induction values using List.reverseRecOn with
  | nil => rfl
  | append_singleton values value ih =>
    rw [eraseDups_concat, filter_insert, List.filter_append, ← ih]
    cases kept : keep value
    · simp [kept]
    · simp [kept, eraseDups_concat]

theorem eraseDups_eq_nil : values.eraseDups = [] ↔ values = [] := by
  simp only [List.eq_nil_iff_forall_not_mem, List.mem_eraseDups]

end ShellVet.Findings
