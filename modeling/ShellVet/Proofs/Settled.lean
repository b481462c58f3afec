/-!
# Results and failures

A computation settles with two properties if its result has the one and its failure the other. The
lemmas follow the ways in which computations are put together, so that of each reader of a text one
lemma says both what it gives and what it can fail with.
-/

namespace ShellVet

/-- The result of the computation has the property `good`, and its failure the property `blamed`. -/
def Settles {ε α : Type} (good : α → Prop) (blamed : ε → Prop) : Except ε α → Prop
  | .ok result => good result
  | .error failure => blamed failure

section

variable {ε ε' α β : Type} {good : α → Prop} {goal : β → Prop} {blamed : ε → Prop}
  {blamed' : ε' → Prop} {computation : Except ε α}

theorem Settles.bind {next : α → Except ε β} (settles : Settles good blamed computation)
    (further : ∀ result, good result → Settles goal blamed (next result)) :
    Settles goal blamed (computation >>= next) := by
  cases computation with
  | error failure => exact settles
  | ok result => exact further result settles

theorem Settles.ite {condition : Prop} [Decidable condition] {computation' : Except ε α}
    (holds : condition → Settles good blamed computation)
    (fails : ¬condition → Settles good blamed computation') :
    Settles good blamed (if condition then computation else computation') := by
  split
  · next met => exact holds met
  · next unmet => exact fails unmet

theorem Settles.imp {weaker : α → Prop} (settles : Settles good blamed computation)
    (weaken : ∀ result, good result → weaker result) : Settles weaker blamed computation := by
  cases computation with
  | error failure => exact settles
  | ok result => exact weaken result settles

theorem Settles.blame {worse : ε → Prop} (settles : Settles good blamed computation)
    (weaken : ∀ failure, blamed failure → worse failure) : Settles good worse computation := by
  cases computation with
  | error failure => exact weaken failure settles
  | ok result => exact settles

theorem settles_of_error (failed : ∀ failure, computation = .error failure → blamed failure) :
    Settles (fun _ => True) blamed computation := by
  cases computation with
  | error failure => exact failed failure rfl
  | ok result => trivial

theorem Settles.map {f : α → β} (settles : Settles good blamed computation)
    (holds : ∀ result, good result → goal (f result)) :
    Settles goal blamed (computation.map f) := by
  cases computation with
  | error failure => exact settles
  | ok result => exact holds result settles

theorem Settles.mapError {f : ε → ε'} (settles : Settles good blamed computation)
    (holds : ∀ failure, blamed failure → blamed' (f failure)) :
    Settles good blamed' (computation.mapError f) := by
  cases computation with
  | error failure => exact holds failure settles
  | ok result => exact settles

theorem Settles.mapM {f : β → Except ε α} {row : List β}
    (each : ∀ element ∈ row, Settles good blamed (f element)) :
    Settles (fun results => ∀ result ∈ results, good result) blamed (row.mapM f) := by
  induction row with
  | nil => exact fun _ absent => nomatch absent
  | cons element row ih =>
    rw [List.mapM_cons]
    obtain ⟨first, later⟩ := List.forall_mem_cons.mp each
    refine first.bind fun result holds => ?_
    exact (ih later).bind fun results all => List.forall_mem_cons.mpr ⟨holds, all⟩

end

end ShellVet
