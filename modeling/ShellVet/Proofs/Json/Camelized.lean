import Mathlib.Data.List.Induction
import ShellVet.Proofs.Json.Merged
import ShellVet.Proofs.Json.Spelled

/-!
# Documents in camel case

`Respelled` says what a document becomes: scalars stay, arrays keep their items in their places, and
an object gets the camel forms of its keys, each once, with what becomes of the value that the last
key of the form had. `camelized` gives that and nothing else (`respelled_iff`). No key in what it
gives has a joint, and no object there has a key twice (`everywhere_camelized`); a document of that
kind stays as it is (`camelized_of_isCamel`).
-/

namespace ShellVet.Json

/-! ## What a document becomes -/

/-- The document is neither an array nor an object. -/
def IsScalar : Json → Prop
  | .array _ | .object _ => False
  | _ => True

/-- The last member whose key has this camel form has this value. -/
def LastFormed (form : String) (members : Members) (value : Json) : Prop :=
  ∃ before key after, members = before ++ (key, value) :: after ∧ toCamel key = form ∧
    ∀ member ∈ after, toCamel member.1 ≠ form

/-- The second document is the first one with all keys in camel case. -/
inductive Respelled : Json → Json → Prop where
  | scalar {value : Json} (plain : value.IsScalar) : Respelled value value
  | array {items results : List Json} (length : results.length = items.length)
      (inside : ∀ (place : Nat) (item result : Json), items[place]? = some item →
        results[place]? = some result → Respelled item result) :
      Respelled (.array items) (.array results)
  | object {members rows : Members}
      (keys : rows.map (·.1) = (members.map fun member => toCamel member.1).eraseDups)
      (values : ∀ row ∈ rows, ∀ value, LastFormed row.1 members value → Respelled value row.2) :
      Respelled (.object members) (.object rows)

/-! ## Inside a document -/

variable {key form : String} {value result document : Json} {members rows : Members}

/-! ## Distinct members -/

theorem distinct_concat (members : Members) (member : String × Json) :
    distinct (members ++ [member]) = put member.1 member.2 (distinct members) := by
  rw [distinct, List.foldl_append]
  rfl

/-- Distinct members have the keys of the given ones, each at its first place. -/
theorem keys_distinct (members : Members) :
    (distinct members).map (·.1) = (members.map (·.1)).eraseDups := by
  induction members using List.reverseRecOn with
  | nil => rfl
  | append_singleton members member ih =>
    rw [distinct_concat, List.map_append, List.map_singleton, List.eraseDups_append]
    by_cases present : member.1 ∈ members.map (·.1)
    · have known : member.1 ∈ (distinct members).map (·.1) := by
        rwa [ih, List.mem_eraseDups]
      have none : [member.1].removeAll (members.map (·.1)) = [] := by
        rw [List.cons_removeAll, List.contains_iff_mem.mpr present]
        rfl
      rw [keys_put_of_mem known, ih, none, List.eraseDups_nil, List.append_nil]
    · have new : member.1 ∉ (distinct members).map (·.1) := by
        rwa [ih, List.mem_eraseDups]
      have single : [member.1].removeAll (members.map (·.1)) = [member.1] := by
        rw [List.cons_removeAll, List.contains_eq_mem, decide_eq_false present]
        rfl
      rw [put_of_not_mem new, List.map_append, ih, single]
      rfl

/-- Distinct members have the value that was given last. -/
theorem lookup_distinct (members : Members) (name : String) :
    (distinct members).lookup name = members.reverse.lookup name := by
  induction members using List.reverseRecOn with
  | nil => rfl
  | append_singleton members member ih =>
    rw [distinct_concat, lookup_put, ih, List.reverse_append, List.reverse_singleton,
      List.singleton_append, lookup_cons_eq]

/-! ## Members in camel case -/

theorem camelizedItems_eq (items : List Json) : camelizedItems items = items.map camelized := by
  induction items with
  | nil => rfl
  | cons item items ih => rw [camelizedItems, ih, List.map_cons]

theorem camelizedMembers_eq (members : Members) :
    camelizedMembers members =
      members.map fun member => (toCamel member.1, member.2.camelized) := by
  induction members with
  | nil => rfl
  | cons member members ih => rw [camelizedMembers, ih, List.map_cons]

/-- The value of the last key that has this camel form. -/
def lastFormed? (form : String) (members : Members) : Option Json :=
  (members.reverse.find? fun member => toCamel member.1 == form).map (·.2)

theorem lastFormed?_eq_some_iff :
    lastFormed? form members = some value ↔ LastFormed form members value := by
  unfold lastFormed? LastFormed
  rw [find?_reverse_eq_some_iff fun key => toCamel key == form]
  simp only [beq_iff_eq, beq_eq_false_iff_ne]

/-- Every camel form of a key has a last key that it is the form of. -/
theorem exists_lastFormed (among : form ∈ members.map fun member => toCamel member.1) :
    ∃ value, LastFormed form members value := by
  obtain ⟨member, known, rfl⟩ := List.mem_map.mp among
  have found : (lastFormed? (toCamel member.1) members).isSome = true := by
    rw [lastFormed?, Option.isSome_map, List.find?_isSome]
    exact ⟨member, List.mem_reverse.mpr known, beq_self_eq_true _⟩
  obtain ⟨value, last⟩ := Option.isSome_iff_exists.mp found
  exact ⟨value, lastFormed?_eq_some_iff.mp last⟩

theorem lookup_map_camelized (members : Members) (form : String) :
    (members.map fun member => (toCamel member.1, member.2.camelized)).lookup form =
      (members.find? fun member => toCamel member.1 == form).map (·.2.camelized) := by
  induction members with
  | nil => rfl
  | cons member members ih =>
    rw [List.map_cons, lookup_cons_eq, List.find?_cons, ih]
    by_cases same : toCamel member.1 = form
    · rw [if_pos same.symm, beq_iff_eq.mpr same]
      rfl
    · rw [if_neg (Ne.symm same), beq_eq_false_iff_ne.mpr same]

/-- Under a camel form is the value of its last key, in camel case. -/
theorem lookup_distinct_camelized (members : Members) (form : String) :
    (distinct (camelizedMembers members)).lookup form =
      (lastFormed? form members).map camelized := by
  rw [lookup_distinct, camelizedMembers_eq, ← List.map_reverse, lookup_map_camelized, lastFormed?,
    Option.map_map]
  rfl

theorem keys_distinct_camelized (members : Members) :
    (distinct (camelizedMembers members)).map (·.1) =
      (members.map fun member => toCamel member.1).eraseDups := by
  rw [keys_distinct, camelizedMembers_eq, List.map_map]
  rfl

theorem mem_parts_of_lastFormed (last : LastFormed form members value) :
    value ∈ (object members).parts := by
  obtain ⟨before, key, after, rfl, -, -⟩ := last
  exact List.mem_map_of_mem (List.mem_append_right before List.mem_cons_self)

theorem value_of_mem_camelized {row : String × Json}
    (known : row ∈ distinct (camelizedMembers members)) (last : LastFormed row.1 members value) :
    row.2 = value.camelized := by
  have found := lookup_of_mem (nodup_distinct _) known
  rw [lookup_distinct_camelized, lastFormed?_eq_some_iff.mpr last] at found
  exact (Option.some.inj found).symm

theorem exists_value_of_mem_camelized {row : String × Json}
    (known : row ∈ distinct (camelizedMembers members)) :
    ∃ value, LastFormed row.1 members value ∧ row.2 = value.camelized := by
  have form := List.mem_map_of_mem (f := (·.1)) known
  rw [keys_distinct_camelized, List.mem_eraseDups] at form
  obtain ⟨value, last⟩ := exists_lastFormed form
  exact ⟨value, last, value_of_mem_camelized known last⟩

/-! ## What is given is what a document becomes -/

theorem respelled_camelized (document : Json) : Respelled document document.camelized := by
  induction document using partInduction with
  | step document ih =>
    cases document with
    | array items =>
      rw [camelized, camelizedItems_eq]
      refine .array (List.length_map ..) fun place item result found given => ?_
      rw [List.getElem?_map, found] at given
      cases given
      exact ih item (List.mem_of_getElem? found)
    | object members =>
      rw [camelized]
      refine .object (keys_distinct_camelized members) fun row known value last => ?_
      rw [value_of_mem_camelized known last]
      exact ih value (mem_parts_of_lastFormed last)
    | _ => exact .scalar trivial

theorem eq_map_keys (told : String → Json) (tells : ∀ row ∈ rows, row.2 = told row.1) :
    rows = (rows.map (·.1)).map fun key => (key, told key) := by
  have same (row : String × Json) (known : row ∈ rows) : (row.1, told row.1) = row := by
    rw [← tells row known]
  rw [List.map_map]
  exact ((List.map_congr_left same).trans (List.map_id' rows)).symm

/-- Members are the same if their keys are, and each key tells the value in both. -/
theorem eq_of_keys (told : String → Json) (keys : rows.map (·.1) = members.map (·.1))
    (tellsRows : ∀ row ∈ rows, row.2 = told row.1)
    (tellsMembers : ∀ member ∈ members, member.2 = told member.1) : rows = members := by
  rw [eq_map_keys told tellsRows, keys, ← eq_map_keys told tellsMembers]

theorem camelized_of_isScalar (plain : document.IsScalar) : document.camelized = document := by
  cases document with
  | array items => exact plain.elim
  | object members => exact plain.elim
  | _ => unfold camelized; rfl

/-- A document becomes what `camelized` gives, and nothing else. -/
theorem Respelled.eq_camelized (respelled : Respelled document result) :
    result = document.camelized := by
  induction respelled with
  | scalar plain => exact (camelized_of_isScalar plain).symm
  | @array items results length inside ih =>
    have same : results = items.map camelized := by
      refine List.ext_getElem? fun place => ?_
      rw [List.getElem?_map]
      cases found : items[place]? with
      | none =>
        rw [List.getElem?_eq_none_iff] at found
        rw [List.getElem?_eq_none (by omega)]
        rfl
      | some item =>
        obtain ⟨within, -⟩ := List.getElem?_eq_some_iff.mp found
        have given := List.getElem?_eq_getElem (l := results) (i := place) (by omega)
        rw [given, ih place item _ found given]
        rfl
    rw [camelized, camelizedItems_eq, same]
  | @object members rows keys values ih =>
    rw [camelized]
    -- in both lists the value under a key is that of the last spelling, so the keys tell all
    refine congrArg Json.object (eq_of_keys
      (fun form => ((lastFormed? form members).map camelized).getD .null)
      (keys.trans (keys_distinct_camelized members).symm) ?_ ?_)
    · intro row known
      have form : row.1 ∈ members.map fun member => toCamel member.1 := by
        rw [← List.mem_eraseDups, ← keys]
        exact List.mem_map_of_mem known
      obtain ⟨value, last⟩ := exists_lastFormed form
      rw [ih row known value last, lastFormed?_eq_some_iff.mpr last]
      rfl
    · intro row known
      rw [← lookup_distinct_camelized, lookup_of_mem (nodup_distinct _) known]
      rfl

theorem respelled_iff : Respelled document result ↔ result = document.camelized := by
  constructor
  · exact Respelled.eq_camelized
  · rintro rfl
    exact respelled_camelized document

/-! ## Keys in camel case -/

/-- No key comes twice in the object, and each is in camel case. -/
def IsCamel : Json → Prop
  | .object members => (members.map (·.1)).Nodup ∧ ∀ member ∈ members, toCamel member.1 = member.1
  | _ => True

theorem everywhere_camelized (document : Json) : document.camelized.Everywhere IsCamel := by
  induction document using partInduction with
  | step document ih =>
    cases document with
    | array items =>
      rw [camelized, camelizedItems_eq]
      refine .intro trivial fun part inside => ?_
      obtain ⟨item, known, rfl⟩ := List.mem_map.mp inside
      exact ih item known
    | object members =>
      rw [camelized]
      refine everywhere_object ⟨nodup_distinct _, fun row known => ?_⟩ fun row known => ?_
      · obtain ⟨-, ⟨-, key, -, -, form, -⟩, -⟩ := exists_value_of_mem_camelized known
        rw [← form, toCamel_toCamel]
      · obtain ⟨value, last, same⟩ := exists_value_of_mem_camelized known
        rw [same]
        exact ih value (mem_parts_of_lastFormed last)
    | _ => exact .leaf trivial rfl

/-- A document whose keys are in camel case stays as it is. -/
theorem camelized_of_isCamel (camel : document.Everywhere IsCamel) :
    document.camelized = document := by
  induction camel with
  | @intro document here inside ih =>
    cases document with
    | array items =>
      have same : items.map camelized = items :=
        (List.map_congr_left ih).trans (List.map_id' items)
      rw [camelized, camelizedItems_eq, same]
    | object members =>
      have same (member : String × Json) (known : member ∈ members) :
          (toCamel member.1, member.2.camelized) = member := by
        rw [here.2 member known, ih member.2 (List.mem_map_of_mem known)]
      rw [camelized, camelizedMembers_eq, List.map_congr_left same, List.map_id',
        distinct_of_nodup here.1]
    | _ => exact camelized_of_isScalar trivial

/-- **Documents in camel case.** `camelized` gives the document with its keys respelled and nothing
else. Doing it again changes nothing, and no key at any depth of what it gives has a joint. -/
theorem camelized_respells (document : Json) :
    (∀ result, Respelled document result ↔ result = document.camelized) ∧
      document.camelized.camelized = document.camelized ∧
      document.camelized.Everywhere fun part => ∀ members, part = .object members →
        ∀ member ∈ members, ¬ HasJoint member.1.toList := by
  refine ⟨fun result => respelled_iff, camelized_of_isCamel (everywhere_camelized document), ?_⟩
  refine Everywhere.imp (fun part here members same member known => ?_)
    (everywhere_camelized document)
  rw [same] at here
  exact toCamel_eq_self_iff.mp (here.2 member known)

example : camelized (.object [("a_b", .int 1), ("c", .null), ("aB", .object [("d__e", .null)])]) =
    .object [("aB", .object [("d_E", .null)]), ("c", .null)] := by
  rfl

end ShellVet.Json
