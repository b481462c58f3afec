import ShellVet.Proofs.Json.Merged

/-!
# Where keys lead in a merged object

A path of keys leads from a document down through objects. What a path leads to in a merged document
is known from the two documents that were merged: a value of the source that is no object is there
again (`at?_mergeValue_new`), a value that only the target has is kept unless the source has
something other than an object on the way to it (`at?_mergeValue_old`), and there is nothing else
(`isSome_at?_mergeValue`). Where both have an object, merging goes on inside, in the order of the
two (`at?_mergeValue_both`). Each of these is an induction on the path, with the two documents
changing together.
-/

namespace ShellVet.Json

variable {τ : Type} [DecidableEq τ]

/-- The value that a path of keys leads to. -/
def at? : Json τ → List τ → Option (Json τ)
  | document, [] => some document
  | document, key :: path => (document.get? key).bind fun value => value.at? path

/-- On the way along the path, and at its end, there are objects only, as far as there is
anything. -/
def OnlyObjectsAlong (document : Json τ) (path : List τ) : Prop :=
  ∀ front value, front <+: path → document.at? front = some value → value.isObject = true

variable {key : τ} {path : List τ} {old new value : Json τ} {members rows : Members τ}

theorem at?_object_cons :
    (object members).at? (key :: path) = (members.lookup key).bind fun value => value.at? path :=
  rfl

theorem exists_object_of_at?_cons {document : Json τ}
    (found : document.at? (key :: path) = some value) : ∃ members, document = object members := by
  cases document with
  | object members => exact ⟨members, rfl⟩
  | _ => cases found

theorem Keyed.lookup (keyed : (object members).Keyed) (found : members.lookup key = some value) :
    value.Keyed :=
  Everywhere.lookup keyed found

theorem OnlyObjectsAlong.lookup (objects : (object rows).OnlyObjectsAlong (key :: path))
    (found : rows.lookup key = some value) : value.OnlyObjectsAlong path := by
  intro front inner before reached
  refine objects (key :: front) inner (List.cons_prefix_cons.mpr ⟨rfl, before⟩) ?_
  rw [at?_object_cons, found]
  exact reached

theorem onlyObjectsAlong_cons
    (inside : ∀ inner, rows.lookup key = some inner → inner.OnlyObjectsAlong path) :
    (object rows).OnlyObjectsAlong (key :: path) := by
  intro front value before reached
  cases front with
  | nil =>
    cases reached
    rfl
  | cons name front =>
    obtain ⟨rfl, behind⟩ := List.cons_prefix_cons.mp before
    obtain ⟨inner, here, further⟩ := Option.bind_eq_some_iff.mp reached
    exact inside inner here front value behind further

/-- Two objects are merged member by member. -/
theorem mergeValue_objects (members rows : Members τ) :
    mergeValue (some (object members)) (object rows) = object (merge members rows) := by
  rw [mergeValue]

/-! ## One step down -/

theorem lookup_merge_of_some (nodup : (rows.map (·.1)).Nodup) (found : rows.lookup key = some new) :
    (merge members rows).lookup key = some (mergeValue (members.lookup key) new) := by
  rw [lookup_merge nodup, found]
  rfl

theorem lookup_merge_of_none (nodup : (rows.map (·.1)).Nodup) (none : rows.lookup key = none) :
    (merge members rows).lookup key = members.lookup key := by
  rw [lookup_merge nodup, none]
  rfl

/-! ## Along a path -/

/-- A value of the source that is no object is in the merged document. -/
theorem at?_mergeValue_new (keyed : new.Keyed) (old : Option (Json τ))
    (found : new.at? path = some value) (plain : value.isObject = false) :
    (mergeValue old new).at? path = some value := by
  induction path generalizing old new with
  | nil =>
    cases found
    rw [mergeValue_of_not_object plain]
    rfl
  | cons key path ih =>
    obtain ⟨rows, rfl⟩ := exists_object_of_at?_cons found
    rcases mergeValue_object old rows with ⟨members, -, merged⟩ | merged
    · rw [at?_object_cons, Option.bind_eq_some_iff] at found
      obtain ⟨inner, here, further⟩ := found
      rw [merged, at?_object_cons, lookup_merge_of_some keyed.nodup here]
      exact ih (keyed.lookup here) (members.lookup key) further
    · rw [merged]
      exact found

/-- A value that the target alone has is kept, unless something other than an object of the source
stands on the way. -/
theorem at?_mergeValue_old (keyed : new.Keyed) (found : old.at? path = some value)
    (absent : new.at? path = none) (objects : new.OnlyObjectsAlong path) :
    (mergeValue (some old) new).at? path = some value := by
  induction path generalizing old new with
  | nil => cases absent
  | cons key path ih =>
    obtain ⟨members, rfl⟩ := exists_object_of_at?_cons found
    have root := objects [] new List.nil_prefix rfl
    cases new with
    | object rows =>
      -- at the key the source has nothing, and the value is out of its reach, or it has an object
      rw [mergeValue_objects, at?_object_cons]
      rw [at?_object_cons] at found absent
      cases here : rows.lookup key with
      | none => rwa [lookup_merge_of_none keyed.nodup here]
      | some inner =>
        rw [here] at absent
        obtain ⟨kept, there, further⟩ := Option.bind_eq_some_iff.mp found
        rw [lookup_merge_of_some keyed.nodup here, there]
        exact ih (keyed.lookup here) further absent (objects.lookup here)
    | _ => cases root

/-- A path that leads somewhere in the merged document does so in one of the two. -/
theorem isSome_at?_mergeValue (keyed : new.Keyed) {old : Option (Json τ)}
    (found : ((mergeValue old new).at? path).isSome = true) :
    (∃ document ∈ old, (document.at? path).isSome = true) ∨ (new.at? path).isSome = true := by
  induction path generalizing old new with
  | nil => exact .inr rfl
  | cons key path ih =>
    cases new with
    | object rows =>
      rcases mergeValue_object old rows with ⟨members, rfl, merged⟩ | merged
      · rw [merged, at?_object_cons] at found
        cases here : rows.lookup key with
        | none =>
          rw [lookup_merge_of_none keyed.nodup here] at found
          exact .inl ⟨_, rfl, found⟩
        | some inner =>
          rw [lookup_merge_of_some keyed.nodup here] at found
          rcases ih (keyed.lookup here) found with ⟨kept, there, further⟩ | further
          · left
            refine ⟨_, rfl, ?_⟩
            rw [at?_object_cons, there]
            exact further
          · right
            rw [at?_object_cons, here]
            exact further
      · rw [merged] at found
        exact .inr found
    | _ =>
      rw [mergeValue_of_not_object rfl] at found
      exact .inr found

/-- Where a path leads to an object in both documents, it leads to the merged one. -/
theorem at?_mergeValue_both (keyed : new.Keyed) (told : old.at? path = some (object members))
    (changed : new.at? path = some (object rows)) :
    (mergeValue (some old) new).at? path = some (object (merge members rows)) := by
  induction path generalizing old new with
  | nil =>
    cases told
    cases changed
    rw [mergeValue_objects]
    rfl
  | cons key path ih =>
    obtain ⟨before, rfl⟩ := exists_object_of_at?_cons told
    obtain ⟨after, rfl⟩ := exists_object_of_at?_cons changed
    obtain ⟨kept, there, further⟩ := Option.bind_eq_some_iff.mp told
    obtain ⟨inner, here, deeper⟩ := Option.bind_eq_some_iff.mp changed
    have same : before.lookup key = some kept := there
    rw [mergeValue_objects, at?_object_cons, lookup_merge_of_some keyed.nodup here, same]
    exact ih (keyed.lookup here) further deeper

/-- The objects that a path leads to have no key twice either. -/
theorem Keyed.at? {document : Json τ} (keyed : document.Keyed)
    (found : document.at? path = some value) :
    value.Keyed := by
  induction path generalizing document with
  | nil =>
    cases found
    exact keyed
  | cons key path ih =>
    obtain ⟨members, rfl⟩ := exists_object_of_at?_cons found
    obtain ⟨inner, here, further⟩ := Option.bind_eq_some_iff.mp found
    exact ih (keyed.lookup here) further

/-- The keys of a merged object: those of the target, and behind them the new ones of the source. -/
theorem keys_merge (nodupTarget : (members.map (·.1)).Nodup) (nodup : (rows.map (·.1)).Nodup) :
    (merge members rows).map (·.1) =
      members.map (·.1) ++ (rows.map (·.1)).filter fun key => key ∉ members.map (·.1) := by
  rw [merge_eq nodupTarget nodup, List.map_append, List.map_map, List.filter_map]
  rfl

/-! ## Merged objects -/

/-- **Merging is known by its paths.** Each path to a value of the source other than an object leads
to it in the merged object. A path that leads to a value in the target, to none in the source and
past nothing but objects of the source leads to the value of the target. No path leads to a value in
neither and to one in the merged object. Where both have an object, the keys of the target come
first and then the new ones of the source, each in their order. Merging the source again changes
nothing, and neither does merging nothing. -/
theorem merge_by_paths {target source : Members τ} (keyedTarget : (object target).Keyed)
    (keyedSource : (object source).Keyed) :
    let merged := merge target source
    (∀ path value, (object source).at? path = some value → value.isObject = false →
      (object merged).at? path = some value) ∧
    (∀ path value, (object target).at? path = some value → (object source).at? path = none →
      (object source).OnlyObjectsAlong path → (object merged).at? path = some value) ∧
    (∀ path, ((object merged).at? path).isSome = true →
      ((object target).at? path).isSome = true ∨ ((object source).at? path).isSome = true) ∧
    (∀ path members rows, (object target).at? path = some (object members) →
      (object source).at? path = some (object rows) →
      ∃ joined, (object merged).at? path = some (object joined) ∧ joined.map (·.1) =
        members.map (·.1) ++ (rows.map (·.1)).filter fun key => key ∉ members.map (·.1)) ∧
    merge merged source = merged ∧ merge target [] = target := by
  intro merged
  have whole : mergeValue (some (object target)) (object source) = object merged :=
    mergeValue_objects target source
  refine ⟨?_, ?_, ?_, ?_, merge_again keyedSource, by rw [merge]⟩
  · intro path value found plain
    rw [← whole]
    exact at?_mergeValue_new keyedSource _ found plain
  · intro path value found absent objects
    rw [← whole]
    exact at?_mergeValue_old keyedSource found absent objects
  · intro path found
    rw [← whole] at found
    rcases isSome_at?_mergeValue keyedSource found with ⟨_, ⟨⟩, kept⟩ | new
    · exact .inl kept
    · exact .inr new
  · intro path members rows told changed
    refine ⟨merge members rows, ?_, ?_⟩
    · rw [← whole]
      exact at?_mergeValue_both keyedSource told changed
    · exact keys_merge (keyedTarget.at? told).nodup (keyedSource.at? changed).nodup

/-- One setting is changed and a member added: the other setting is kept, and the new member comes
last. -/
theorem merge_by_paths_settings :
    let target : Members := [("version", .string "1"),
      ("security", .object [("level", .string "STRICT"), ("fail_on", .string "high")])]
    let source : Members :=
      [("note", .string ""), ("security", .object [("fail_on", .string "low")])]
    (object target).Keyed ∧ (object source).Keyed ∧
      (object (merge target source)).at? ["security", "fail_on"] = some (.string "low") ∧
      (object (merge target source)).at? ["security", "level"] = some (.string "STRICT") ∧
      (merge target source).map (·.1) = ["version", "security", "note"] := by
  intro target source
  have keyedTarget : (object target).Keyed := by
    refine keyed_object (by decide) ?_
    simp only [target, List.forall_mem_cons, List.not_mem_nil, false_imp_iff, implies_true,
      and_true]
    refine ⟨keyed_string _, keyed_object (by decide) ?_⟩
    simp only [List.forall_mem_cons, List.not_mem_nil, false_imp_iff, implies_true, and_true]
    exact ⟨keyed_string _, keyed_string _⟩
  have keyedSource : (object source).Keyed := by
    refine keyed_object (by decide) ?_
    simp only [source, List.forall_mem_cons, List.not_mem_nil, false_imp_iff, implies_true,
      and_true]
    refine ⟨keyed_string _, keyed_object (by decide) ?_⟩
    exact List.forall_mem_singleton.mpr (keyed_string _)
  obtain ⟨new, old, -, order, -⟩ := merge_by_paths keyedTarget keyedSource
  refine ⟨keyedTarget, keyedSource, new _ _ rfl rfl, ?_, ?_⟩
  · refine old _ _ rfl rfl ?_
    refine onlyObjectsAlong_cons fun inner here => ?_
    cases here
    exact onlyObjectsAlong_cons nofun
  · obtain ⟨joined, ⟨⟩, keys⟩ := order [] _ _ rfl rfl
    exact keys

end ShellVet.Json
