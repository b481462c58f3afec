import ShellVet.Proofs.Regex.Ways

/-!
# Replacing the matches of a pattern

A search for matches goes from left to right. Where a pattern matches in front of no character of a
part of a text, the part is kept; where the match from the front of a part ends at its back, the
part is replaced as a whole. So a text that is put together from such parts is replaced part by part
(`replace_flatMap`).
-/

namespace ShellVet.Regex

variable {regex : Regex} {replacement part : List Char}

/-! ## Matches at a place -/

theorem matchAt_eq_none {spot : Spot} (stuck : ∀ stop, ¬regex.Leads (spot, []) stop) :
    regex.matchAt spot = none := by
  rw [Option.eq_none_iff_forall_ne_some]
  intro later found
  obtain ⟨stop, leads, -⟩ := leads_of_run found
  exact stuck stop leads

/-- Where all ways from a place end at one position, so does the match. -/
theorem matchAt_eq_some (explores : regex.explores = true) {spot : Spot} {pos : Nat}
    (leads : ∃ stop, regex.Leads (spot, []) stop)
    (ends : ∀ stop, regex.Leads (spot, []) stop → stop.1.pos = pos) :
    ∃ later, regex.matchAt spot = some later ∧ later.pos = pos := by
  obtain ⟨later, found⟩ := Option.isSome_iff_exists.mp ((matchAt_isSome_iff explores).mpr leads)
  obtain ⟨stop, way, same⟩ := leads_of_run found
  refine ⟨later, found, ?_⟩
  rw [← Option.some.inj same]
  exact ends stop way

/-! ## Parts of a text -/

/-- The pattern matches in front of no character of the part, whatever stands around it. -/
def Passes (regex : Regex) (part : List Char) : Prop :=
  ∀ c ∈ part, ∀ before after, regex.matchAt (.between before (c :: after)) = none

/-- From the front of the part the pattern matches up to its back, whatever stands around it. -/
def Consumes (regex : Regex) (part : List Char) : Prop :=
  part ≠ [] ∧ ∀ before after, ∃ later,
    regex.matchAt (.between before (part ++ after)) = some later ∧
    later.pos = before.length + part.length

/-- The text behind a place, with each match from there on replaced. -/
def replaceBehind (regex : Regex) (replacement before after : List Char) : List Char :=
  regex.replaceFrom replacement 0 before.length before.reverse after

/-- The rest of a match is skipped. -/
theorem replaceFrom_skip (regex : Regex) (replacement before skipped after : List Char) :
    regex.replaceFrom replacement skipped.length before.length before.reverse (skipped ++ after) =
      regex.replaceBehind replacement (before ++ skipped) after := by
  induction skipped generalizing before with
  | nil =>
    rw [List.append_nil]
    rfl
  | cons c skipped ih =>
    have onward := ih (before ++ [c])
    rw [List.length_append, List.reverse_append, List.append_assoc] at onward
    rw [List.cons_append, replaceFrom, if_pos (by simp)]
    exact onward

/-- A part that the pattern passes is kept. -/
theorem replaceBehind_of_passes (passes : regex.Passes part) (before after : List Char) :
    regex.replaceBehind replacement before (part ++ after) =
      part ++ regex.replaceBehind replacement (before ++ part) after := by
  induction part generalizing before with
  | nil =>
    rw [List.append_nil]
    rfl
  | cons c part ih =>
    have missed := passes c List.mem_cons_self before (part ++ after)
    have onward := ih (fun d among => passes d (List.mem_cons_of_mem c among)) (before ++ [c])
    rw [List.append_assoc, List.singleton_append] at onward
    rw [List.cons_append, List.cons_append, ← onward, replaceBehind, replaceFrom,
      if_neg (Nat.lt_irrefl 0)]
    rw [Spot.between] at missed
    rw [missed, replaceBehind, List.length_append, List.reverse_append]
    rfl

/-- A part that the pattern consumes is replaced. -/
theorem replaceBehind_of_consumes (consumes : regex.Consumes part) (before after : List Char) :
    regex.replaceBehind replacement before (part ++ after) =
      replacement ++ regex.replaceBehind replacement (before ++ part) after := by
  obtain ⟨nonempty, whole⟩ := consumes
  obtain ⟨later, found, pos⟩ := whole before after
  obtain ⟨c, rest, rfl⟩ := List.exists_cons_of_ne_nil nonempty
  have further : before.length < later.pos := by
    rw [pos, List.length_cons]
    omega
  have skipped : later.pos - before.length - 1 = rest.length := by
    rw [pos, List.length_cons]
    omega
  have onward := replaceFrom_skip regex replacement (before ++ [c]) rest after
  rw [List.length_append, List.reverse_append, List.append_assoc] at onward
  rw [Spot.between, List.cons_append] at found
  rw [List.cons_append, replaceBehind, replaceFrom, if_neg (Nat.lt_irrefl 0), found]
  dsimp only
  rw [if_pos further, skipped]
  exact congrArg (replacement ++ ·) onward

/-- A text of parts that the pattern passes or consumes is replaced part by part. -/
theorem replace_flatMap {α : Type} {text shown : α → List Char}
    (served : ∀ piece, (regex.Passes (text piece) ∧ shown piece = text piece) ∨
      (regex.Consumes (text piece) ∧ shown piece = replacement)) (pieces : List α) :
    regex.replace replacement (pieces.flatMap text) = pieces.flatMap shown := by
  suffices behind : ∀ before,
      regex.replaceBehind replacement before (pieces.flatMap text) = pieces.flatMap shown from
    behind []
  induction pieces with
  | nil => exact fun _ => rfl
  | cons piece pieces ih =>
    intro before
    rw [List.flatMap_cons, List.flatMap_cons, ← ih (before ++ text piece)]
    rcases served piece with ⟨passes, kept⟩ | ⟨consumes, replaced⟩
    · rw [kept]
      exact replaceBehind_of_passes passes before _
    · rw [replaced]
      exact replaceBehind_of_consumes consumes before _

end ShellVet.Regex
