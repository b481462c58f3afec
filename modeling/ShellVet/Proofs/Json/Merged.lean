import ShellVet.Proofs.Json.Tidy

/-!
# What merging makes of two objects

Where no object has a key twice, merging is known key by key (`lookup_merge`) and in its order
(`merge_eq`): the members of the target stay in their places, and the new keys of the source follow
in theirs. What was merged once absorbs the same source (`merge_again`): this is an induction on the
source alone, as under each of its keys the merged object has the merged value.
-/

namespace ShellVet.Json

variable {τ : Type}

/-- No object in the document has a key twice. -/
def Keyed (document : Json τ) : Prop :=
  document.Everywhere fun part => ∀ members, part = .object members → (members.map (·.1)).Nodup

variable {key name : τ} {value : Json τ} {members target changes rows : Members τ}

theorem Keyed.nodup (keyed : (object members).Keyed) : (members.map (·.1)).Nodup :=
  Everywhere.here keyed members rfl

theorem keyed_object (nodup : (members.map (·.1)).Nodup)
    (inside : ∀ member ∈ members, member.2.Keyed) : (object members).Keyed := by
  refine everywhere_object ?_ inside
  rintro _ ⟨⟩
  exact nodup

theorem keyed_string (text : τ) : (string text).Keyed :=
  .leaf nofun rfl

/-! ## Members by their keys -/

variable [DecidableEq τ]

theorem lookup_cons_eq (member : τ × Json τ) (members : Members τ) (name : τ) :
    (member :: members).lookup name =
      if name = member.1 then some member.2 else members.lookup name := by
  rw [List.lookup_cons]
  by_cases same : name = member.1
  · rw [if_pos same, beq_iff_eq.mpr same]
  · rw [if_neg same, beq_eq_false_iff_ne.mpr same]

theorem lookup_put :
    (put key value members).lookup name =
      if name = key then some value else members.lookup name := by
  induction members with
  | nil => rw [put, lookup_cons_eq]
  | cons member members ih =>
    unfold put
    by_cases here : member.1 = key
    · rw [if_pos here, lookup_cons_eq, lookup_cons_eq, here]
      by_cases same : name = key
      · rw [if_pos same, if_pos same]
      · rw [if_neg same, if_neg same, if_neg same]
    · rw [if_neg here, lookup_cons_eq, lookup_cons_eq, ih]
      by_cases same : name = member.1
      · rw [if_pos same, if_pos same, if_neg (same ▸ here)]
      · rw [if_neg same, if_neg same]

/-- Putting the value that is there changes nothing. -/
theorem put_of_lookup (found : members.lookup key = some value) :
    put key value members = members := by
  induction members with
  | nil => cases found
  | cons member members ih =>
    rw [lookup_cons_eq] at found
    unfold put
    by_cases here : member.1 = key
    · rw [if_pos here.symm] at found
      rw [if_pos here, ← Option.some.inj found]
    · rw [if_neg (Ne.symm here)] at found
      rw [if_neg here, ih found]

theorem lookup_eq_none (absent : key ∉ members.map (·.1)) : members.lookup key = none := by
  induction members with
  | nil => rfl
  | cons member members ih =>
    rw [List.map_cons, List.mem_cons, not_or] at absent
    rw [lookup_cons_eq, if_neg absent.1, ih absent.2]

theorem lookup_of_mem (nodup : (members.map (·.1)).Nodup) {member : τ × Json τ}
    (inside : member ∈ members) : members.lookup member.1 = some member.2 := by
  induction members with
  | nil => cases inside
  | cons first members ih =>
    rw [List.map_cons, List.nodup_cons] at nodup
    rw [lookup_cons_eq]
    rcases List.mem_cons.mp inside with rfl | later
    · rw [if_pos rfl]
    · have other : member.1 ≠ first.1 := fun same =>
        nodup.1 (same ▸ List.mem_map_of_mem later)
      rw [if_neg other]
      exact ih nodup.2 later

/-- In members whose keys come once each, putting a value changes the member of the key alone. -/
theorem put_of_mem (nodup : (members.map (·.1)).Nodup) (present : key ∈ members.map (·.1)) :
    put key value members =
      members.map fun member => if member.1 = key then (key, value) else member := by
  induction members with
  | nil => cases present
  | cons member members ih =>
    rw [List.map_cons, List.nodup_cons] at nodup
    unfold put
    rw [List.map_cons]
    by_cases here : member.1 = key
    · have rest (other : τ × Json τ) (known : other ∈ members) :
          (if other.1 = key then (key, value) else other) = other :=
        if_neg fun same : other.1 = key =>
          nodup.1 (here.trans same.symm ▸ List.mem_map_of_mem known)
      rw [if_pos here, if_pos here, here, List.map_congr_left rest, List.map_id']
    · rw [List.map_cons, List.mem_cons, or_iff_right (Ne.symm here)] at present
      rw [if_neg here, if_neg here, ih nodup.2 present]

/-! ## Merging key by key -/

theorem mergeValue_of_not_object {new : Json τ} (plain : new.isObject = false)
    (old : Option (Json τ)) :
    mergeValue old new = new := by
  cases new with
  | object members => cases plain
  | _ => unfold mergeValue; rfl

theorem mergeValue_none (new : Json τ) : mergeValue none new = new := by
  cases new with
  | object members =>
    rw [mergeValue]
    rintro _ ⟨⟩
  | _ => exact mergeValue_of_not_object rfl none

/-- Over what is no object the new value is taken as it is. -/
theorem mergeValue_over {old : Json τ} (plain : old.isObject = false) (new : Json τ) :
    mergeValue (some old) new = new := by
  cases new with
  | object rows =>
    unfold mergeValue
    split
    · next same =>
      cases same
      cases plain
    · rfl
  | _ => exact mergeValue_of_not_object rfl _

/-- Under a key that the source has is the merged value, and under another the one of the target. -/
theorem lookup_merge (nodup : (changes.map (·.1)).Nodup) :
    (merge target changes).lookup name =
      ((changes.lookup name).map (mergeValue (target.lookup name))).or (target.lookup name) := by
  induction changes generalizing target with
  | nil => rw [merge]; rfl
  | cons change changes ih =>
    rw [List.map_cons, List.nodup_cons] at nodup
    rw [merge, ih nodup.2, lookup_put, lookup_cons_eq]
    by_cases same : name = change.1
    · rw [if_pos same, if_pos same, same, lookup_eq_none nodup.1]
      rfl
    · rw [if_neg same, if_neg same]

/-- A member of the target after merging. -/
def mergedMember (changes : Members τ) (member : τ × Json τ) : τ × Json τ :=
  (member.1, ((changes.lookup member.1).map (mergeValue (some member.2))).getD member.2)

theorem mergedMember_over (plain : value.isObject = false) :
    mergedMember changes (key, value) = (key, (changes.lookup key).getD value) := by
  unfold mergedMember
  dsimp only
  cases changes.lookup key with
  | none => rfl
  | some new => rw [Option.map_some, mergeValue_over plain]

/-- A member of the source whose key the target has is merged into the member of the key. -/
theorem map_mergedMember_of_mem (nodup : (target.map (·.1)).Nodup)
    (once : name ∉ changes.map (·.1)) (present : name ∈ target.map (·.1)) :
    (put name (mergeValue (target.lookup name) value) target).map (mergedMember changes) =
      target.map (mergedMember ((name, value) :: changes)) := by
  rw [put_of_mem nodup present, List.map_map]
  refine List.map_congr_left fun member known => ?_
  have found := lookup_of_mem nodup known
  unfold mergedMember
  rw [Function.comp_apply, lookup_cons_eq]
  by_cases same : member.1 = name
  · rw [if_pos same, if_pos same, lookup_eq_none once, ← same, found]
    rfl
  · rw [if_neg same, if_neg same]

/-- A member of the source with a new key comes to the end. -/
theorem map_mergedMember_of_not_mem (once : name ∉ changes.map (·.1))
    (absent : name ∉ target.map (·.1)) :
    (put name (mergeValue (target.lookup name) value) target).map (mergedMember changes) =
      target.map (mergedMember ((name, value) :: changes)) ++ [(name, value)] := by
  have kept (member : τ × Json τ) (known : member ∈ target) :
      mergedMember ((name, value) :: changes) member = mergedMember changes member := by
    have other : member.1 ≠ name := fun same => absent (same ▸ List.mem_map_of_mem known)
    unfold mergedMember
    rw [lookup_cons_eq, if_neg other]
  have last : mergedMember changes (name, mergeValue none value) = (name, value) := by
    unfold mergedMember
    rw [lookup_eq_none once, mergeValue_none]
    rfl
  rw [lookup_eq_none absent, put_of_not_mem absent, List.map_append, List.map_singleton, last,
    List.map_congr_left kept]

/-- The members of the target stay in their places, and the new keys of the source follow. -/
theorem merge_eq (nodupTarget : (target.map (·.1)).Nodup) (nodup : (changes.map (·.1)).Nodup) :
    merge target changes = target.map (mergedMember changes) ++
      changes.filter fun change => change.1 ∉ target.map (·.1) := by
  induction changes generalizing target with
  | nil =>
    have same (member : τ × Json τ) : mergedMember [] member = member := rfl
    rw [merge, List.map_congr_left fun member _ => same member, List.map_id', List.filter_nil,
      List.append_nil]
  | cons change changes ih =>
    rw [List.map_cons, List.nodup_cons] at nodup
    rw [merge, ih (nodup_put nodupTarget) nodup.2]
    by_cases present : change.1 ∈ target.map (·.1)
    · rw [map_mergedMember_of_mem nodupTarget nodup.1 present, keys_put_of_mem present,
        List.filter_cons_of_neg (by simpa using present)]
    · have further (other : τ × Json τ) (known : other ∈ changes) :
          decide (other.1 ∉ (target ++ [(change.1, mergeValue none change.2)]).map (·.1)) =
            decide (other.1 ∉ target.map (·.1)) := by
        have distinct : other.1 ≠ change.1 := fun same =>
          nodup.1 (same ▸ List.mem_map_of_mem known)
        simp [distinct]
      rw [map_mergedMember_of_not_mem nodup.1 present, lookup_eq_none present,
        put_of_not_mem present, List.filter_cons_of_pos (by simpa using present),
        List.append_assoc, List.filter_congr further]
      rfl

/-! ## Merging again -/

/-- A source whose members the target has absorbed changes nothing. -/
theorem merge_of_absorbed (absorbed : ∀ row ∈ rows, ∃ old, target.lookup row.1 = some old ∧
    mergeValue (some old) row.2 = old) : merge target rows = target := by
  induction rows with
  | nil => rw [merge]
  | cons row rows ih =>
    obtain ⟨old, found, same⟩ := absorbed row List.mem_cons_self
    rw [merge, found, same, put_of_lookup found]
    exact ih fun row inside => absorbed row (List.mem_cons_of_mem _ inside)

theorem mergeValue_object (old : Option (Json τ)) (new : Members τ) :
    (∃ members, old = some (object members) ∧ mergeValue old (object new) =
      object (merge members new)) ∨ mergeValue old (object new) = object new := by
  unfold mergeValue
  split
  · exact .inl ⟨_, rfl, rfl⟩
  · exact .inr rfl

/-- A value absorbs itself. -/
theorem mergeValue_self (keyed : value.Keyed) : mergeValue (some value) value = value := by
  induction keyed with
  | @intro value here inside ih =>
    cases value with
    | object rows =>
      rw [mergeValue]
      refine congrArg object (merge_of_absorbed fun row known => ⟨row.2, ?_, ?_⟩)
      · exact lookup_of_mem (here rows rfl) known
      · exact ih row.2 (List.mem_map_of_mem known)
    | _ => exact mergeValue_of_not_object rfl _

/-- A merged value absorbs the new one. -/
theorem mergeValue_again (keyed : value.Keyed) (old : Option (Json τ)) :
    mergeValue (some (mergeValue old value)) value = mergeValue old value := by
  induction keyed generalizing old with
  | @intro value here inside ih =>
    cases value with
    | object rows =>
      rcases mergeValue_object old rows with ⟨members, -, same⟩ | same
      · -- under each key of the source is the merged value, which absorbs the same value again
        rw [same, mergeValue]
        refine congrArg object (merge_of_absorbed fun row known => ⟨_, ?_,
          ih row.2 (List.mem_map_of_mem known) (members.lookup row.1)⟩)
        rw [lookup_merge (here rows rfl), lookup_of_mem (here rows rfl) known]
        rfl
      · rw [same]
        exact mergeValue_self (.intro here inside)
    | _ => rw [mergeValue_of_not_object rfl, mergeValue_of_not_object rfl]

/-- **Merging again changes nothing.** What a source was merged into absorbs it, in the same
order. -/
theorem merge_again (keyed : (object changes).Keyed) :
    merge (merge target changes) changes = merge target changes := by
  refine merge_of_absorbed fun row known => ⟨_, ?_,
    mergeValue_again (Everywhere.member keyed known) (target.lookup row.1)⟩
  rw [lookup_merge keyed.nodup, lookup_of_mem keyed.nodup known]
  rfl

end ShellVet.Json
