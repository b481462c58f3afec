import ShellVet.Proofs.Yaml.Nodes
import ShellVet.Yaml.Basic

/-!
# Making values

What keeps a text from being a YAML document is a fault of the text, or more nesting than there is
room for, or a part of its nodes misreads: its tag asks for a truth value, a number or a point in
time, and its text is none (`settles_read`).
-/

namespace ShellVet.Yaml

variable {anchored : Anchored}

/-! ## Parts -/

/-- The part is in the node, or in the node of an anchor, which an alias may stand for. -/
def Node.Reached (anchored : Anchored) (node part : Node) : Prop :=
  part.Within node ∨ ∃ entry ∈ anchored, part.Within entry.2

namespace Node

variable {node inner part : Node} {name : String}

theorem Reached.within (reached : node.Reached anchored inner) (inside : part.Within inner) :
    node.Reached anchored part :=
  reached.imp inside.trans fun ⟨entry, known, within⟩ => ⟨entry, known, inside.trans within⟩

/-- What is reached from a part that is reached is reached. -/
theorem Reached.trans (reached : node.Reached anchored inner)
    (further : inner.Reached anchored part) : node.Reached anchored part :=
  further.elim reached.within .inr

theorem reached_of_lookup (known : anchored.lookup name = some inner) :
    node.Reached anchored inner := by
  obtain ⟨before, after, whole, -⟩ := List.lookup_eq_some_iff.mp known
  exact .inr ⟨(name, inner), by simp [whole], .refl⟩

theorem reached_resolved (node : Node) : node.Reached anchored (node.resolved anchored) := by
  unfold resolved
  split
  · next name =>
    cases known : anchored.lookup name with
    | none => exact .inl .refl
    | some inner => exact reached_of_lookup known
  · exact .inl .refl

theorem size_le_reach (node : Node) (anchored : Anchored) : node.size ≤ node.reach anchored :=
  List.foldlRecOn (motive := (node.size ≤ ·)) anchored _ (Nat.le_refl _)
    fun _ within _ _ => Nat.le_add_right_of_le within

/-- The node reaches an alias inside its own anchor. -/
def IsLooped (anchored : Anchored) (node : Node) : Prop :=
  ∃ name, node.Reached anchored (enclosing name)

/-- The node stands for a scalar with the text: its own, or that of the member with the value sign,
or that of the node which an alias stands for. -/
inductive HasText (anchored : Anchored) (text : CodeText) : Node → Prop
  | scalar {tag : Tag} : HasText anchored text (.scalar tag text)
  | mapping {tag : Tag} {members : List (Node × Node)} {member : Node × Node}
      (found : members.find? (fun member =>
        (member.1.resolved anchored).tag? == some .value) = some member)
      (inner : HasText anchored text member.2) : HasText anchored text (.mapping tag members)
  | enclosing {name : String} {node : Node} (known : anchored.lookup name = some node)
      (inner : HasText anchored text node) : HasText anchored text (.enclosing name)

end Node

/-- The tag of the node asks for a value that its text is not. -/
inductive Misreads (anchored : Anchored) (fault : Fault) : Node → Prop
  | truth {node : Node} {text : CodeText} (tag : node.tag? = some .bool)
      (has : node.HasText anchored text) (refused : boolOf text.legible = .error fault) :
      Misreads anchored fault node
  | integer {node : Node} {text : CodeText} (tag : node.tag? = some .int)
      (has : node.HasText anchored text) (refused : intOf text.legible = .error fault) :
      Misreads anchored fault node
  | decimal {node : Node} {text : CodeText} (tag : node.tag? = some .float)
      (has : node.HasText anchored text)
      (refused : floatOf (Text.lower text.legible) = .error fault) : Misreads anchored fault node
  | moment {text : CodeText} (refused : timestampOf text.legible = .error fault) :
      Misreads anchored fault (.scalar .timestamp text)
  | mapping {members : List (Node × Node)} {text : CodeText}
      (has : (Node.mapping .timestamp members).HasText anchored text)
      (same : fault = .momentOfMapping) : Misreads anchored fault (.mapping .timestamp members)

/-- The fault is that of a malformed text, or of an alias inside its own anchor that the node
reaches, or of a part it reaches that misreads. -/
def Node.Blamed (anchored : Anchored) (node : Node) (fault : Fault) : Prop :=
  fault = .malformed ∨ (fault = .endless ∧ node.IsLooped anchored) ∨
    ∃ part, node.Reached anchored part ∧ Misreads anchored fault part

section

variable {node part : Node} {fault : Fault}

theorem Node.Blamed.reached (blamed : part.Blamed anchored fault)
    (reached : node.Reached anchored part) : node.Blamed anchored fault := by
  refine blamed.imp id (.imp ?_ ?_)
  · rintro ⟨looping, name, looped⟩
    exact ⟨looping, name, reached.trans looped⟩
  · rintro ⟨inner, within, misreads⟩
    exact ⟨inner, reached.trans within, misreads⟩

theorem blamed_of_malformed (node : Node) (fault : Fault) (malformed : fault = .malformed) :
    node.Blamed anchored fault :=
  .inl malformed

end

/-! ## Scalars -/

theorem size_le_memberSizes {members : List (Node × Node)} {member : Node × Node}
    (among : member ∈ members) : member.2.size ≤ Node.size.memberSizes members := by
  induction members with
  | nil => cases among
  | cons first rest ih =>
    obtain ⟨key, value⟩ := first
    rw [Node.size.memberSizes]
    rcases List.mem_cons.mp among with rfl | later
    · exact Nat.le_trans (Nat.le_add_left _ _) (Nat.le_add_right _ _)
    · exact Nat.le_trans (ih later) (Nat.le_add_left _ _)

/-- A node has no text only where the document is malformed, or a way through it leads back. -/
theorem settles_textFrom {root : Node} (fuel : Nat) {node : Node}
    (reached : root.Reached anchored node) (enough : node.size ≤ fuel ∨ root.IsLooped anchored) :
    Settles (fun text => node.HasText anchored text)
      (fun fault => fault = .malformed ∨ fault = .endless ∧ root.IsLooped anchored)
      (textFrom anchored fuel node) := by
  induction fuel generalizing node with
  | zero =>
    cases node with
    | scalar tag text => exact .scalar
    | sequence tag items => exact .inl rfl
    | mapping tag members =>
      refine .inr ⟨rfl, enough.resolve_left fun none => ?_⟩
      rw [Node.size] at none
      omega
    | enclosing name => exact .inr ⟨rfl, name, reached⟩
  | succ fuel ih =>
    cases node with
    | scalar tag text => exact .scalar
    | sequence tag items => exact .inl rfl
    | mapping tag members =>
      rw [textFrom]
      split
      · next member found =>
        have among := List.mem_of_find?_eq_some found
        have shallow : member.2.size ≤ fuel ∨ root.IsLooped anchored := by
          refine enough.imp_left fun fits => ?_
          have := size_le_memberSizes among
          rw [Node.size] at fits
          omega
        exact (ih (reached.within (.value among .refl)) shallow).imp fun text has =>
          .mapping found has
      · exact .inl rfl
    | enclosing name =>
      rw [textFrom]
      split
      · next inner known =>
        exact (ih (Node.reached_of_lookup known) (.inr ⟨name, reached⟩)).imp fun text has =>
          .enclosing known has
      · exact .inl rfl

/-- A node has no text only where it is to blame for it. -/
theorem settles_textOf (node : Node) :
    Settles (fun text => node.HasText anchored text) (node.Blamed anchored)
      (textOf anchored node) := by
  have enough : node.size ≤ node.reach anchored := node.size_le_reach anchored
  refine (settles_textFrom _ (.inl .refl) (.inl enough)).blame fun fault blamed => ?_
  exact blamed.imp id .inl

theorem settles_bytesFrom (count held pads : Nat) (text : List Char) :
    Settles (fun _ => True) (· = .malformed) (bytesFrom count held pads text) := by
  induction text generalizing count held pads with
  | nil => exact .ite (fun _ => trivial) fun _ => rfl
  | cons c rest ih =>
    refine .ite (fun _ => .ite (fun _ => trivial) fun _ => ih _ _ _) fun _ => ?_
    split
    · exact ih _ _ _
    · exact .ite (fun _ => ih _ _ _) fun _ => (ih _ _ _).map fun _ _ => trivial

theorem settles_bytesOf (text : List Char) :
    Settles (fun _ => True) (· = .malformed) (bytesOf text) :=
  .ite (fun _ => settles_bytesFrom _ _ _ _) fun _ => rfl

section

variable {node : Node} {level : Nat}

theorem settles_onLevel {α : Type} {good : α → Prop} {read : Except Fault α}
    (settles : Settles good (node.Blamed anchored) read) :
    Settles good (fun leveled => node.Blamed anchored leveled.fault) (onLevel level read) := by
  cases read with
  | ok value => exact settles
  | error fault => exact settles

theorem settles_bind_textOf {α : Type} {read : CodeText → Except Fault α}
    (reads : ∀ text, node.HasText anchored text →
      Settles (fun _ => True) (node.Blamed anchored) (read text)) :
    Settles (fun _ => True) (node.Blamed anchored) ((textOf anchored node).bind read) :=
  (settles_textOf node).bind reads

/-- The value of a node that is read from its text. -/
theorem settles_ofText {read : CodeText → Except Fault Document}
    (reads : ∀ text, node.HasText anchored text →
      Settles (fun _ => True) (node.Blamed anchored) (read text)) :
    Settles (fun _ => True) (fun leveled => node.Blamed anchored leveled.fault)
      (onLevel level (((textOf anchored node).bind read).map some)) :=
  settles_onLevel ((settles_bind_textOf reads).map fun _ => id)

/-- Where a text is read, the node is blamed if it misreads. -/
theorem settles_of_misreads {α : Type} {read : Except Fault α}
    (misreads : ∀ fault, read = .error fault → Misreads anchored fault node) :
    Settles (fun _ => True) (node.Blamed anchored) read :=
  settles_of_error fun fault refused => .inr (.inr ⟨node, .inl .refl, misreads fault refused⟩)

theorem settles_timestampOfNode (moment : node.tag? = some .timestamp) :
    Settles (fun _ => True) (node.Blamed anchored) (timestampOfNode anchored node) := by
  cases node with
  | scalar tag text =>
    cases moment
    exact settles_of_misreads fun fault refused => .moment refused
  | sequence tag items =>
    refine settles_bind_textOf fun text has => ?_
    cases has
  | mapping tag members =>
    cases moment
    refine settles_bind_textOf fun text has => settles_of_misreads fun fault refused => ?_
    cases refused
    exact .mapping has rfl
  | enclosing name => cases moment

end

/-! ## Keys -/

section

variable {node part : Node} {fault : Fault}

/-- What is in a node as a key is in the node, but for the key itself. -/
theorem Node.Within.of_asKey (inside : part.Within (asKey node)) :
    part = asKey node ∨ part.Within node := by
  unfold asKey at inside ⊢
  split at inside
  · cases inside
    exact .inl rfl
  · cases inside with
    | refl => exact .inl rfl
    | item among inner => exact .inr (.item among inner)
  · cases inside with
    | refl => exact .inl rfl
    | key among inner => exact .inr (.key among inner)
    | value among inner => exact .inr (.value among inner)
  · exact .inr inside

theorem not_misreads_of_str (tag : node.tag? = some .str) : ¬ Misreads anchored fault node := by
  intro misreads
  cases misreads with
  | truth other => cases tag.symm.trans other
  | integer other => cases tag.symm.trans other
  | decimal other => cases tag.symm.trans other
  | moment => cases tag
  | mapping => cases tag

/-- A key differs from its node in the tag at most, and with its new tag it does not misread. -/
theorem misreads_of_asKey (misreads : Misreads anchored fault (asKey node)) :
    Misreads anchored fault node := by
  unfold asKey at misreads
  split at misreads
  · exact absurd misreads (not_misreads_of_str rfl)
  · exact absurd misreads (not_misreads_of_str rfl)
  · exact absurd misreads (not_misreads_of_str rfl)
  · exact misreads

theorem eq_enclosing_of_asKey {name : String} (same : Node.enclosing name = asKey node) :
    node = .enclosing name := by
  unfold asKey at same
  split at same
  · cases same
  · cases same
  · cases same
  · exact same.symm

/-- As a key a node is blamed only for what it is blamed for itself. -/
theorem blamed_of_asKey (blamed : (asKey node).Blamed anchored fault) :
    node.Blamed anchored fault := by
  rcases blamed with malformed | ⟨looping, name, inside | known⟩ | ⟨part, inside | known, misreads⟩
  · exact .inl malformed
  · refine .inr (.inl ⟨looping, name, .inl ?_⟩)
    rcases inside.of_asKey with same | within
    · rw [eq_enclosing_of_asKey same]
      exact .refl
    · exact within
  · exact .inr (.inl ⟨looping, name, .inr known⟩)
  · rcases inside.of_asKey with rfl | within
    · exact .inr (.inr ⟨node, .inl .refl, misreads_of_asKey misreads⟩)
    · exact .inr (.inr ⟨part, .inl within, misreads⟩)
  · exact .inr (.inr ⟨part, .inr known, misreads⟩)

end

/-- The nodes of the member are reached. -/
def Node.ReachesMember (anchored : Anchored) (node : Node) (member : Node × Node) : Prop :=
  node.Reached anchored member.1 ∧ node.Reached anchored member.2

/-- The nodes of the member are reached, and the first one has become a key. -/
def Node.HasMember (anchored : Anchored) (node : Node) (member : Node × Node) : Prop :=
  (∃ key : Node, member.1 = asKey key ∧ node.Reached anchored key) ∧
    node.Reached anchored member.2

theorem reachesMember_of_mem {root : Node} {tag : Tag} {members : List (Node × Node)}
    {member : Node × Node} (reached : root.Reached anchored (.mapping tag members))
    (among : member ∈ members) : root.ReachesMember anchored member :=
  ⟨reached.within (.key among .refl), reached.within (.value among .refl)⟩

theorem reached_of_mem_mergedNodes {root value node : Node}
    (reached : root.Reached anchored value) (among : node ∈ mergedNodes anchored value) :
    root.Reached anchored node := by
  have resolved : root.Reached anchored (value.resolved anchored) :=
    reached.trans (Node.reached_resolved value)
  unfold mergedNodes at among
  split at among
  · next tag items whole =>
    rw [whole] at resolved
    exact resolved.within (.item (List.mem_reverse.mp among) .refl)
  · cases List.mem_singleton.mp among
    exact resolved

/-- What a mapping merges comes from the node that the mapping is in, or from the nodes of
anchors. -/
theorem settles_mergedMembers {root : Node} (depth : Nat)
    {opened : List (Node × List (Node × Node))} {node : Node}
    (reached : root.Reached anchored node)
    (known : ∀ entry ∈ opened, ∀ member ∈ entry.2, root.ReachesMember anchored member) :
    Settles (fun merged => ∀ member ∈ merged, root.HasMember anchored member)
      (· = .malformed) (mergedMembers anchored depth opened node) := by
  induction depth generalizing opened node with
  | zero => exact rfl
  | succ depth ih =>
    unfold mergedMembers
    split
    · next tag all resolved =>
      have within : root.Reached anchored (.mapping tag all) :=
        resolved ▸ reached.trans (Node.reached_resolved node)
      dsimp only
      generalize found : ((opened.find? fun entry => entry.1.same (.mapping tag all)).map
        (·.2)).getD all = members
      have reaches : ∀ member ∈ members, root.ReachesMember anchored member := by
        rw [← found]
        cases held : opened.find? fun entry => entry.1.same (.mapping tag all) with
        | none => exact fun member among => reachesMember_of_mem within among
        | some entry => exact known entry (List.mem_of_find?_eq_some held)
      refine Settles.bind (Settles.mapM ?_) fun parts
        (keyed : ∀ part ∈ parts, ∀ member ∈ part.1 ++ part.2, root.HasMember anchored member) => ?_
      · rintro ⟨member, place⟩ among
        obtain ⟨ofKey, ofValue⟩ := reaches member (List.fst_mem_of_mem_zipIdx among)
        refine .ite (fun _ => ?_) fun _ => ?_
        · dsimp only
          refine Settles.bind (Settles.mapM fun inner among => ?_) fun rows
            (keyed : ∀ row ∈ rows, ∀ member ∈ row, root.HasMember anchored member) => ?_
          · refine ih (reached_of_mem_mergedNodes ofValue among) ?_
            refine List.forall_mem_cons.mpr ⟨fun member among => reaches member ?_, known⟩
            rcases List.mem_append.mp among with before | after
            · exact List.mem_of_mem_take (List.mem_of_mem_filter before)
            · exact List.mem_of_mem_drop after
          · intro member among
            obtain ⟨row, known, among⟩ : ∃ row ∈ rows, member ∈ row := by simpa using among
            exact keyed row known member among
        · intro member among
          cases List.mem_singleton.mp among
          exact ⟨⟨_, rfl, ofKey⟩, ofValue⟩
      · intro member among
        rcases List.mem_append.mp among with first | last
        · obtain ⟨part, known, among⟩ := List.mem_flatMap.mp first
          exact keyed part known member (List.mem_append_left _ among)
        · obtain ⟨part, known, among⟩ := List.mem_flatMap.mp last
          exact keyed part known member (List.mem_append_right _ among)
    · exact rfl

/-! ## Rows -/

section

variable {good : LeveledFault → Prop}

theorem settles_both {α β : Type} {one : Made α} {another : Made β}
    (first : Settles (fun _ => True) good one) (second : Settles (fun _ => True) good another) :
    Settles (fun _ => True) good (one.both another) := by
  unfold Made.both
  split
  · trivial
  · exact first
  · exact second
  · exact .ite (fun _ => second) fun _ => first

variable {make : Node → Made (Option Document)}

theorem settles_makeAll {nodes : List Node}
    (each : ∀ node ∈ nodes, Settles (fun _ => True) good (make node)) :
    Settles (fun _ => True) good (makeAll make nodes) := by
  induction nodes with
  | nil => trivial
  | cons node nodes ih =>
    obtain ⟨first, later⟩ := List.forall_mem_cons.mp each
    exact (settles_both first (ih later)).map fun _ _ => trivial

theorem settles_makeKey {level : Nat} {key : Node} (malformed : good ⟨level, .malformed⟩)
    (makes : Settles (fun _ => True) good (make key)) :
    Settles (fun _ => True) good (makeKey anchored level make key) := by
  refine .ite (fun _ => makes.bind fun value _ => ?_) fun _ => malformed
  cases value with
  | none => exact malformed
  | some value => trivial

theorem settles_makeMembers {level : Nat} {members : List (Node × Node)}
    (malformed : good ⟨level, .malformed⟩)
    (each : ∀ member ∈ members, Settles (fun _ => True) good (make member.1) ∧
      Settles (fun _ => True) good (make member.2)) :
    Settles (fun _ => True) good (makeMembers anchored level make members) := by
  induction members with
  | nil => trivial
  | cons member members ih =>
    obtain ⟨⟨key, value⟩, later⟩ := List.forall_mem_cons.mp each
    exact (settles_both (settles_makeKey malformed key)
      (settles_both value (ih later))).map fun _ _ => trivial

theorem settles_makePairs {level : Nat} {nodes : List Node}
    (malformed : good ⟨level, .malformed⟩)
    (each : ∀ tag member, .mapping tag [member] ∈ nodes →
      Settles (fun _ => True) good (make member.1) ∧ Settles (fun _ => True) good (make member.2)) :
    Settles (fun _ => True) good (makePairs level make nodes) := by
  induction nodes with
  | nil => trivial
  | cons node nodes ih =>
    unfold makePairs
    have later := ih fun tag member among => each tag member (List.mem_cons_of_mem _ among)
    refine (settles_both ?_ later).map fun _ _ => trivial
    unfold soleMember
    split
    · next tag member =>
      obtain ⟨key, value⟩ := each tag member List.mem_cons_self
      exact (settles_both key value).map fun _ _ => trivial
    · exact malformed

end

/-! ## Documents -/

/-- What a node reaches is made, also as keys, with faults that are to be blamed on it. -/
structure Node.Makes (anchored : Anchored) (node : Node) (make : Node → Made (Option Document)) :
    Prop where
  part {part : Node} (reached : node.Reached anchored part) :
    Settles (fun _ => True) (fun leveled => node.Blamed anchored leveled.fault) (make part)
  key {part : Node} (reached : node.Reached anchored part) :
    Settles (fun _ => True) (fun leveled => node.Blamed anchored leveled.fault) (make (asKey part))

section

variable {level : Nat} {tag : Tag} {make : Node → Made (Option Document)}

theorem settles_items {items : List Node}
    (makes : (Node.sequence tag items).Makes anchored make) :
    Settles (fun _ => True)
      (fun leveled => (Node.sequence tag items).Blamed anchored leveled.fault)
      (makeAll make items) :=
  settles_makeAll fun _ among => makes.part (.inl (.item among .refl))

theorem settles_pairs {items : List Node}
    (makes : (Node.sequence tag items).Makes anchored make) :
    Settles (fun _ => True)
      (fun leveled => (Node.sequence tag items).Blamed anchored leveled.fault)
      (makePairs level make items) := by
  refine settles_makePairs (.inl rfl) fun inner member among => ?_
  have alone : member ∈ [member] := List.mem_singleton.mpr rfl
  exact ⟨makes.part (.inl (.item among (.key alone .refl))),
    makes.part (.inl (.item among (.value alone .refl)))⟩

theorem settles_members {node : Node} (depth : Nat) (makes : node.Makes anchored make) :
    Settles (fun _ => True) (fun leveled => node.Blamed anchored leveled.fault)
      ((onLevel level (mergedMembers anchored depth [] node)).bind fun merged =>
        (makeMembers anchored level make merged).map Document.distinct) := by
  have merges : Settles (fun merged => ∀ member ∈ merged, node.HasMember anchored member)
      (node.Blamed anchored) (mergedMembers anchored depth [] node) :=
    (settles_mergedMembers depth (.inl .refl) (by simp)).blame (blamed_of_malformed node)
  refine (settles_onLevel merges).bind fun merged parts => ?_
  refine (settles_makeMembers (.inl rfl) fun member among => ?_).map fun _ _ => trivial
  obtain ⟨⟨key, same, ofKey⟩, ofValue⟩ := parts member among
  rw [same]
  exact ⟨makes.key ofKey, makes.part ofValue⟩

end

theorem settles_make (depth : Nat) (opened : List Node) (level : Nat) (node : Node) :
    Settles (fun _ => True) (fun leveled => node.Blamed anchored leveled.fault)
      (make anchored depth opened level node) := by
  induction depth generalizing opened level node with
  | zero => exact .inl rfl
  | succ depth ih =>
    have makes (opened : List Node) :
        node.Makes anchored (make anchored depth opened (level + 1)) :=
      { part := fun {part} reached => (ih opened _ part).blame fun _ blamed =>
          blamed.reached reached
        key := fun {part} reached => (ih opened _ (asKey part)).blame fun _ blamed =>
          (blamed_of_asKey blamed).reached reached }
    unfold make
    refine .ite (fun _ => trivial) fun _ => ?_
    dsimp only
    split
    · split
      · exact (ih _ level _).blame fun _ blamed => blamed.reached (Node.reached_resolved _)
      · exact .inl rfl
    · exact settles_ofText fun _ _ => trivial
    · next tag =>
      exact settles_ofText fun _ has =>
        (settles_of_misreads fun _ => .truth tag has).map fun _ => id
    · next tag =>
      exact settles_ofText fun _ has =>
        (settles_of_misreads fun _ => .integer tag has).map fun _ => id
    · next tag =>
      exact settles_ofText fun _ has =>
        (settles_of_misreads fun _ => .decimal tag has).map fun _ => id
    · refine settles_ofText fun text _ => ?_
      exact ((settles_bytesOf text.legible).blame (blamed_of_malformed node)).map fun _ => id
    · next tag => exact settles_onLevel ((settles_timestampOfNode tag).map fun _ => id)
    · exact settles_ofText fun _ _ => trivial
    · split
      · exact (settles_items (makes _)).map fun _ _ => trivial
      · exact .inl rfl
    · split
      · exact (settles_members _ (makes _)).map fun _ _ => trivial
      · exact .inl rfl
    · split
      · exact (settles_members _ (makes _)).map fun _ _ => trivial
      · exact .inl rfl
    · split
      · exact (settles_pairs (makes _)).map fun _ _ => trivial
      · exact .inl rfl
    · split
      · exact (settles_pairs (makes _)).map fun _ _ => trivial
      · exact .inl rfl
    · exact .inl rfl
    · exact .inl rfl
    · exact .inl rfl

/-- The fault is one of the text, or is for want of room, or of a part of its nodes that
misreads. -/
def Fault.IsAbout (room : Nat) (text : List Char) (fault : Fault) : Prop :=
  fault.IsOf text ∨ (fault = .tooDeep ∧ room < openings (tokensOf text).1) ∨
    ∃ root anchored part, nodeOf room text = .ok (some root, anchored) ∧
      root.Reached anchored part ∧ Misreads anchored fault part

/-- A node that reaches an alias inside its own anchor is one of a text in which both stand. -/
theorem holdsAlias_of_isLooped {text : List Char} {root : Node} (whole : root.IsOf text)
    (anchors : ∀ entry ∈ anchored, entry.2.IsOf text) (looped : root.IsLooped anchored) :
    HoldsAlias text := by
  obtain ⟨name, inside | ⟨entry, known, inside⟩⟩ := looped
  · exact ⟨name.toList, whole name inside⟩
  · exact ⟨name.toList, anchors entry known name inside⟩

/-- A text is refused only with a fault of it, or for want of room, or of a part of its nodes that
misreads. -/
theorem settles_read (room : Nat) (text : List Char) :
    Settles (fun _ => True) (Fault.IsAbout room text) (read room text) := by
  have ofText := settles_nodeOf room text
  unfold read
  cases found : nodeOf room text with
  | error fault =>
    rw [found] at ofText
    exact Or.imp id Or.inl ofText
  | ok nodes =>
    obtain ⟨root?, anchored⟩ := nodes
    cases root? with
    | none => trivial
    | some root =>
      rw [found] at ofText
      have aliased := holdsAlias_of_isLooped (ofText.1 root rfl) ofText.2
      refine (settles_make _ [] 0 root).mapError fun leveled blamed => ?_
      rcases blamed with malformed | ⟨endless, looped⟩ | ⟨part, reached, misreads⟩
      · rw [malformed]
        exact .inl trivial
      · rw [endless]
        exact .inl (aliased looped)
      · exact .inr (.inr ⟨root, anchored, part, found, reached, misreads⟩)

end ShellVet.Yaml
