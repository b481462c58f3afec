import ShellVet.Proofs.Yaml.Tokens
import ShellVet.Yaml.Node

/-!
# Reading nodes

Each reader of nodes goes on in the tokens of the text. Its fault is one of the text, or more
collections are opened there than there is room for (`settles_nodeOf`); and if a node holds an alias
inside its own anchor, then the anchor and the alias stand there under one name (`Node.IsOf`).
-/

namespace ShellVet.Yaml

/-! ## Parts -/

/-- The node is the other one, or stands somewhere in it. -/
inductive Node.Within (part : Node) : Node → Prop
  | refl : part.Within part
  | item {tag : Tag} {items : List Node} {item : Node} (among : item ∈ items)
      (inner : part.Within item) : part.Within (.sequence tag items)
  | key {tag : Tag} {members : List (Node × Node)} {member : Node × Node}
      (among : member ∈ members) (inner : part.Within member.1) : part.Within (.mapping tag members)
  | value {tag : Tag} {members : List (Node × Node)} {member : Node × Node}
      (among : member ∈ members) (inner : part.Within member.2) : part.Within (.mapping tag members)

theorem Node.Within.trans {part middle node : Node} (first : part.Within middle)
    (second : middle.Within node) : part.Within node := by
  induction second with
  | refl => exact first
  | item among _ ih => exact .item among ih
  | key among _ ih => exact .key among ih
  | value among _ ih => exact .value among ih

/-- Whether the token may open a collection. -/
def Token.opens : Token → Bool
  | .blockSequenceStart | .blockMappingStart | .flowSequenceStart | .flowMappingStart => true
  | .blockEntry | .key => true
  | _ => false

/-- How many collections the tokens open at most. -/
def openings (tokens : List Token) : Nat := tokens.countP Token.opens

variable {text : List Char} {room : Nat}

/-- An anchor of the name and an alias of it stand in the text. -/
def IsLooped (text : List Char) (name : String) : Prop :=
  '&' :: name.toList <:+: text ∧ '*' :: name.toList <:+: text

/-- Each alias in the node that is inside its own anchor stands in the text, and so does the
anchor. -/
def Node.IsOf (node : Node) (text : List Char) : Prop :=
  ∀ name, (Node.enclosing name).Within node → IsLooped text name

namespace Node

theorem isOf_scalar (tag : Tag) (value : CodeText) : (scalar tag value).IsOf text := by
  intro name within
  cases within

theorem isOf_enclosing {name : String} (looped : IsLooped text name) :
    (enclosing name).IsOf text := by
  intro other within
  cases within
  exact looped

theorem isOf_sequence (tag : Tag) {items : List Node} (inner : ∀ item ∈ items, item.IsOf text) :
    (sequence tag items).IsOf text := by
  intro name within
  cases within with
  | item among inside => exact inner _ among name inside

theorem isOf_mapping (tag : Tag) {members : List (Node × Node)}
    (inner : ∀ member ∈ members, member.1.IsOf text ∧ member.2.IsOf text) :
    (mapping tag members).IsOf text := by
  intro name within
  cases within with
  | key among inside => exact (inner _ among).1 name inside
  | value among inside => exact (inner _ among).2 name inside

end Node

/-- The tokens and anchors that are left to read, and the fault behind them, are those of the
text. -/
structure Reading.IsOf (reading : Reading) (text : List Char) : Prop where
  tokens : ∀ token ∈ reading.tokens, token.StandsIn text
  fault : (reading.fault.getD .malformed).IsOf text
  anchors : ∀ entry ∈ reading.anchors, '&' :: entry.1.toList <:+: text
  anchored : ∀ entry ∈ reading.anchors, ∀ node ∈ entry.2, node.IsOf text

namespace NodeReader

/-- From here the reader goes on with a result that has the property, or its fault is one of the
text, or the tokens that are left open more collections than there is room for. -/
def GivesFrom {α : Type} (text : List Char) (room : Nat) (good : α → Prop) (reading : Reading)
    (reader : NodeReader α) : Prop :=
  Settles (fun read => good read.1 ∧ read.2.IsOf text ∧ read.2.tokens <:+ reading.tokens)
    (fun fault => fault.IsOf text ∨ fault = .tooDeep ∧ room < openings reading.tokens)
    (reader.run reading)

/-- Wherever the reader is in the text, it goes on with a result that has the property, or fails as
it may there. -/
def Gives {α : Type} (text : List Char) (room : Nat) (good : α → Prop)
    (reader : NodeReader α) : Prop :=
  ∀ reading : Reading, reading.IsOf text → GivesFrom text room good reading reader

/-- The reader goes on, or fails as it may. -/
def GoesOn {α : Type} (text : List Char) (room : Nat) (reader : NodeReader α) : Prop :=
  Gives text room (fun _ => True) reader

section

variable {α β : Type} {good : α → Prop} {goal : β → Prop} {reader : NodeReader α}
  {reading : Reading}

theorem Gives.pure {result : α} (holds : good result) : Gives text room good (pure result) :=
  fun _ inside => ⟨holds, inside, List.suffix_rfl⟩

theorem Gives.throw {fault : Fault} (blamed : fault.IsOf text) :
    Gives text room good (throw fault) :=
  fun _ _ => .inl blamed

theorem GivesFrom.bind {next : α → NodeReader β} (gives : GivesFrom text room good reading reader)
    (further : ∀ result, good result → Gives text room goal (next result)) :
    GivesFrom text room goal reading (reader >>= next) := by
  refine Settles.bind gives fun read after => ?_
  obtain ⟨holds, inside, later⟩ := after
  refine ((further read.1 holds read.2 inside).imp fun _ last => ?_).blame fun _ blamed => ?_
  · exact ⟨last.1, last.2.1, last.2.2.trans later⟩
  · refine blamed.imp id fun deep => ⟨deep.1, Nat.lt_of_lt_of_le deep.2 ?_⟩
    exact later.sublist.countP_le

theorem Gives.bind {next : α → NodeReader β} (gives : Gives text room good reader)
    (further : ∀ result, good result → Gives text room goal (next result)) :
    Gives text room goal (reader >>= next) :=
  fun reading inside => (gives reading inside).bind further

theorem GoesOn.bind {next : α → NodeReader β} (goes : GoesOn text room reader)
    (further : ∀ result, Gives text room goal (next result)) :
    Gives text room goal (reader >>= next) :=
  Gives.bind goes fun result _ => further result

/-- What goes wrong for want of room does so with less room. -/
theorem Gives.mono {more : Nat} (fits : room ≤ more) (gives : Gives text more good reader) :
    Gives text room good reader :=
  fun reading inside => (gives reading inside).blame fun _ blamed =>
    blamed.imp id fun deep => ⟨deep.1, Nat.lt_of_le_of_lt fits deep.2⟩

theorem goesOn_pure (result : α) : GoesOn text room (pure result) :=
  .pure trivial

theorem gives_malformed : Gives text room good malformed :=
  .throw trivial

theorem gives_malformed_bind {next : α → NodeReader β} :
    Gives text room goal (malformed >>= next) :=
  fun _ _ => .inl trivial

theorem Gives.ite {condition : Prop} [Decidable condition] {other : NodeReader α}
    (one : Gives text room good reader) (another : Gives text room good other) :
    Gives text room good (if condition then reader else other) := by
  split
  · exact one
  · exact another

theorem Gives.bindIf {condition : Prop} [Decidable condition] {other : NodeReader α}
    {next : α → NodeReader β} (one : Gives text room good reader)
    (another : Gives text room good other)
    (further : ∀ result, good result → Gives text room goal (next result)) :
    Gives text room goal (if condition then reader >>= next else other >>= next) :=
  .ite (one.bind further) (another.bind further)

theorem Gives.afterIf {condition : Prop} [Decidable condition] {before : NodeReader Unit}
    {next : Unit → NodeReader β} (goes : GoesOn text room before)
    (further : Gives text room goal (next ())) :
    Gives text room goal (if condition then before >>= next else next ()) :=
  .ite (goes.bind fun _ => further) further

theorem gives_get : Gives text room (fun reading : Reading => reading.IsOf text) get :=
  fun _ inside => ⟨inside, inside, List.suffix_rfl⟩

theorem goesOn_modify {change : Reading → Reading}
    (keeps : ∀ reading, reading.IsOf text → (change reading).IsOf text)
    (same : ∀ reading, (change reading).tokens <:+ reading.tokens) :
    GoesOn text room (modify change) :=
  fun reading inside => ⟨trivial, keeps reading inside, same reading⟩

end

/-! ## Tokens -/

section

variable {β : Type} {goal : β → Prop} {reading : Reading} {token : Token}

/-- What is done with the next token is done where it comes next. -/
theorem Gives.peek {next : Token → NodeReader β}
    (further : ∀ token, token.StandsIn text → ∀ reading, reading.IsOf text →
      reading.tokens.head? = some token → GivesFrom text room goal reading (next token)) :
    Gives text room goal (peek >>= next) := by
  intro reading inside
  cases comes : reading.tokens with
  | nil =>
    have ends : (NodeReader.peek >>= next).run reading =
        .error (reading.fault.getD .malformed) := by
      simp [NodeReader.peek, comes]
      rfl
    unfold GivesFrom
    rw [ends]
    exact .inl inside.fault
  | cons token rest =>
    have goes : (NodeReader.peek >>= next).run reading = (next token).run reading := by
      simp [NodeReader.peek, comes]
    have known : token ∈ reading.tokens := by rw [comes]; exact List.mem_cons_self
    have here := further token (inside.tokens token known) reading inside (by rw [comes]; rfl)
    unfold GivesFrom at here ⊢
    rwa [goes]

theorem gives_peek : Gives text room (fun token : Token => token.StandsIn text) peek := by
  rw [← bind_pure (m := NodeReader) NodeReader.peek]
  exact .peek fun token stands reading inside _ => Gives.pure stands reading inside

theorem goesOn_skip : GoesOn text room skip :=
  goesOn_modify (fun _ inside =>
    ⟨fun token among => inside.tokens token (List.mem_of_mem_drop among), inside.fault,
      inside.anchors, inside.anchored⟩) fun _ => List.drop_suffix _ _

/-- Behind a token that opens a collection there is room for one less. -/
theorem GivesFrom.opened {next : NodeReader β} (inside : reading.IsOf text)
    (opens : token.opens = true) (comes : reading.tokens.head? = some token)
    (goes : Gives text room goal next) :
    GivesFrom text (room + 1) goal reading (skip >>= fun _ => next) := by
  obtain ⟨rest, tokens⟩ := List.head?_eq_some_iff.mp comes
  have skipped : (skip >>= fun _ => next).run reading =
      next.run { reading with tokens := rest } := by
    simp [skip, tokens]
  have later : Reading.IsOf { reading with tokens := rest } text :=
    ⟨fun other among => inside.tokens other (by rw [tokens]; exact List.mem_cons_of_mem _ among),
      inside.fault, inside.anchors, inside.anchored⟩
  unfold GivesFrom
  rw [skipped]
  refine ((goes _ later).imp fun _ last => ?_).blame fun _ blamed => ?_
  · exact ⟨last.1, last.2.1, last.2.2.trans (tokens ▸ List.suffix_cons _ _)⟩
  · refine blamed.imp id fun deep => ⟨deep.1, ?_⟩
    have counted : openings reading.tokens = openings rest + 1 := by
      rw [tokens, openings, List.countP_cons_of_pos opens]
      rfl
    rw [counted]
    exact Nat.succ_lt_succ deep.2

/-- A collection that a token opens is entered. -/
theorem GivesFrom.enter {body : Nat → NodeReader β} (inside : reading.IsOf text)
    (opens : token.opens = true) (comes : reading.tokens.head? = some token)
    (goes : ∀ left, room = left + 1 → Gives text left goal (body left)) :
    GivesFrom text room goal reading (skip >>= fun _ => enter room >>= body) := by
  cases room with
  | zero =>
    refine .inr ⟨rfl, List.countP_pos_iff.mpr ⟨token, List.mem_of_head? comes, opens⟩⟩
  | succ left => exact .opened inside opens comes (goes left rfl)

/-- A token is read if it comes next. -/
theorem Gives.accept {next : Bool → NodeReader β} (token : Token)
    (found : ∀ reading, reading.IsOf text → reading.tokens.head? = some token →
      GivesFrom text room goal reading (skip >>= fun _ => next true))
    (missing : Gives text room goal (next false)) :
    Gives text room goal (accept token >>= next) := by
  unfold NodeReader.accept
  rw [bind_assoc]
  refine .peek fun other _ reading inside comes => ?_
  by_cases same : other = token
  · rw [if_pos same]
    exact found reading inside (same ▸ comes)
  · rw [if_neg same]
    exact missing reading inside

theorem goesOn_accept (token : Token) : GoesOn text room (accept token) := by
  refine gives_peek.bind fun next _ => ?_
  split
  · exact goesOn_skip.bind fun _ => goesOn_pure true
  · exact goesOn_pure false

theorem goesOn_expect (token : Token) : GoesOn text room (expect token) := by
  refine (goesOn_accept token).bind fun accepted => ?_
  split
  · exact goesOn_pure ()
  · exact gives_malformed

theorem goesOn_nextIn (tokens : List Token) : GoesOn text room (nextIn tokens) :=
  gives_peek.bind fun _ _ => goesOn_pure _

end

/-! ## Properties -/

/-- The name of the anchor, if there is one, stands in the text behind its sign. -/
def Properties.IsOf (properties : Properties) (text : List Char) : Prop :=
  ∀ name ∈ properties.anchor, '&' :: name.toList <:+: text

theorem Properties.isOf_empty : ({} : Properties).IsOf text :=
  fun _ absent => nomatch absent

theorem gives_readAnchor {properties : Properties} (inside : properties.IsOf text) :
    Gives text room (fun read : Properties => read.IsOf text) (readAnchor properties) := by
  refine gives_peek.bind fun token stands => ?_
  split
  · next name =>
    refine goesOn_skip.bind fun _ => .pure fun other same => ?_
    cases same
    exact stands
  · exact .pure inside

theorem gives_readTag {properties : Properties} (inside : properties.IsOf text) :
    Gives text room (fun read : Properties => read.IsOf text) (readTag properties) := by
  refine gives_peek.bind fun token _ => ?_
  split
  · exact goesOn_skip.bind fun _ => .pure inside
  · exact .pure inside

theorem gives_readProperties :
    Gives text room (fun read : Properties => read.IsOf text) readProperties := by
  refine gives_peek.bind fun token _ => ?_
  split
  · exact (gives_readAnchor Properties.isOf_empty).bind fun _ read => gives_readTag read
  · exact (gives_readTag Properties.isOf_empty).bind fun _ read => gives_readAnchor read
  · exact .pure Properties.isOf_empty

theorem goesOn_tagName (properties : Properties) : GoesOn text room (tagName properties) := by
  unfold tagName
  split
  · exact goesOn_pure _
  · exact goesOn_pure _
  · refine gives_get.bind fun reading _ => ?_
    split
    · exact goesOn_pure _
    · exact gives_malformed

/-- An anchor of the text is noted, with a node of the text or without one. -/
theorem goesOn_note {name : String} {node? : Option Node} (stands : '&' :: name.toList <:+: text)
    (known : ∀ node ∈ node?, node.IsOf text) :
    GoesOn text room (modify fun reading =>
      { reading with anchors := (name, node?) :: reading.anchors }) :=
  goesOn_modify (fun _ inside => ⟨inside.tokens, inside.fault,
    List.forall_mem_cons.mpr ⟨stands, inside.anchors⟩,
    List.forall_mem_cons.mpr ⟨known, inside.anchored⟩⟩) fun _ => List.suffix_rfl

theorem goesOn_openAnchor {anchor : Option String}
    (stands : ∀ name ∈ anchor, '&' :: name.toList <:+: text) :
    GoesOn text room (openAnchor anchor) := by
  unfold openAnchor
  split
  · exact goesOn_pure ()
  · next name =>
    refine gives_get.bind fun reading _ => ?_
    split
    · exact gives_malformed_bind
    · exact goesOn_note (stands name rfl) nofun

theorem gives_closeAnchor {anchor : Option String} {node : Node} (known : node.IsOf text)
    (stands : ∀ name ∈ anchor, '&' :: name.toList <:+: text) :
    Gives text room (fun node : Node => node.IsOf text) (closeAnchor anchor node) := by
  unfold closeAnchor
  split
  · exact .pure known
  · next name =>
    refine (goesOn_note (stands name rfl) ?_).bind fun _ => .pure known
    rintro _ ⟨⟩
    exact known

theorem gives_aliased {name : String} (stands : '*' :: name.toList <:+: text) :
    Gives text room (fun node : Node => node.IsOf text) (aliased name) := by
  refine gives_get.bind fun reading inside => ?_
  split
  · next node found =>
    obtain ⟨before, after, among, -⟩ := List.lookup_eq_some_iff.mp found
    refine .pure (inside.anchored (name, some node) ?_ node rfl)
    exact among ▸ List.mem_append_right before List.mem_cons_self
  · next opened =>
    -- the anchor is still open, so the alias is inside it
    obtain ⟨before, after, among, -⟩ := List.lookup_eq_some_iff.mp opened
    have anchored : '&' :: name.toList <:+: text :=
      inside.anchors (name, none) (among ▸ List.mem_append_right before List.mem_cons_self)
    exact .pure (Node.isOf_enclosing ⟨anchored, stands⟩)
  · exact gives_malformed

/-! ## Nodes -/

/-- All nodes of a row are of the text. -/
def AllOf (text : List Char) (nodes : List Node) : Prop := ∀ node ∈ nodes, node.IsOf text

/-- All keys and values of a row of members are of the text. -/
def MembersOf (text : List Char) (members : List (Node × Node)) : Prop :=
  ∀ member ∈ members, member.1.IsOf text ∧ member.2.IsOf text

theorem gives_emptyNode : Gives text room (fun node : Node => node.IsOf text) (pure emptyNode) :=
  .pure (Node.isOf_scalar _ _)

/-- With this fuel the readers of nodes go on, whatever room there is. What is read of a sequence
that is not indented opens it. -/
structure ReadersGoOn (text : List Char) (fuel : Nat) : Prop where
  node (room : Nat) (context : Context) :
    Gives text room (fun node : Node => node.IsOf text) (node fuel room context)
  nodeUnless (room : Nat) (context : Context) (tokens : List Token) :
    Gives text room (fun node : Node => node.IsOf text) (nodeUnless fuel room context tokens)
  blockItems (room : Nat) : Gives text room (AllOf text) (blockItems fuel room)
  indentless (room : Nat) : Gives text (room + 1) (AllOf text) (indentless fuel room)
  blockMembers (room : Nat) : Gives text room (MembersOf text) (blockMembers fuel room)
  flowItems (room : Nat) (first : Bool) : Gives text room (AllOf text) (flowItems fuel room first)
  flowMembers (room : Nat) (first : Bool) :
    Gives text room (MembersOf text) (flowMembers fuel room first)

section

variable {fuel : Nat} (readers : ReadersGoOn text fuel)

include readers

theorem gives_node (room : Nat) (context : Context) :
    Gives text room (fun node : Node => node.IsOf text) (node (fuel + 1) room context) := by
  unfold node
  refine gives_peek.bind fun token stands => ?_
  split
  · next name => exact goesOn_skip.bind fun _ => gives_aliased stands
  · refine gives_readProperties.bind fun properties named => ?_
    refine (goesOn_tagName properties).bind fun name => ?_
    refine (goesOn_openAnchor named).bind fun _ => ?_
    refine .peek fun next _ reading inside comes => ?_
    have kept {α : Type} {good : α → Prop} {room : Nat} {reader : NodeReader α}
        (gives : Gives text room good reader) {found : α → Node}
        (known : ∀ read, good read → (found read).IsOf text) :
        Gives text room (fun node : Node => node.IsOf text) (do
          let read ← reader
          closeAnchor properties.anchor (found read)) :=
      gives.bind fun read holds => gives_closeAnchor (known read holds) named
    have sequence {tag : Tag} {items : List Node} : AllOf text items →
        (Node.sequence tag items).IsOf text := Node.isOf_sequence tag
    have mapping {tag : Tag} {members : List (Node × Node)} : MembersOf text members →
        (Node.mapping tag members).IsOf text := Node.isOf_mapping tag
    simp only [pure_bind]
    split
    · next unindented =>
      -- the sign of the first item opens the sequence, and is read with it
      have entry : next = .blockEntry := of_decide_eq_true (Bool.and_eq_true_iff.mp unindented).2
      cases room with
      | zero =>
        refine .inr ⟨rfl, List.countP_pos_iff.mpr ⟨next, List.mem_of_head? comes, ?_⟩⟩
        rw [entry]
        rfl
      | succ room => exact kept (readers.indentless room) (fun _ => sequence) reading inside
    · split
      · exact goesOn_skip.bind (fun _ => gives_closeAnchor (Node.isOf_scalar _ _) named) reading
          inside
      · exact .enter inside rfl comes fun left _ =>
          kept (readers.flowItems left true) fun _ => sequence
      · exact .enter inside rfl comes fun left _ =>
          kept (readers.flowMembers left true) fun _ => mapping
      · split
        · next starts =>
          have start : next = .blockSequenceStart := of_decide_eq_true
            (Bool.and_eq_true_iff.mp starts).2
          exact .enter inside (start ▸ rfl) comes fun left _ =>
            kept (readers.blockItems left) fun _ => sequence
        · split
          · next starts =>
            have start : next = .blockMappingStart := of_decide_eq_true
              (Bool.and_eq_true_iff.mp starts).2
            exact .enter inside (start ▸ rfl) comes fun left _ =>
              kept (readers.blockMembers left) fun _ => mapping
          · split
            · exact gives_closeAnchor (Node.isOf_scalar _ _) named reading inside
            · exact gives_malformed_bind reading inside

theorem gives_nodeUnless (room : Nat) (context : Context) (tokens : List Token) :
    Gives text room (fun node : Node => node.IsOf text)
      (nodeUnless (fuel + 1) room context tokens) := by
  unfold nodeUnless
  refine (goesOn_nextIn tokens).bind fun ends => ?_
  split
  · exact gives_emptyNode
  · exact readers.node room context

theorem gives_blockItems (room : Nat) :
    Gives text room (AllOf text) (blockItems (fuel + 1) room) := by
  unfold blockItems
  refine (goesOn_accept .blockEntry).bind fun found => ?_
  split
  · refine (readers.nodeUnless room _ _).bind fun item known => ?_
    exact (readers.blockItems room).bind fun items all =>
      .pure (List.forall_mem_cons.mpr ⟨known, all⟩)
  · exact (goesOn_expect _).bind fun _ => .pure nofun

theorem gives_indentless (room : Nat) :
    Gives text (room + 1) (AllOf text) (indentless (fuel + 1) room) := by
  unfold indentless
  refine .accept .blockEntry (fun reading inside comes => ?_) (.pure nofun)
  refine .opened inside rfl comes ?_
  rw [if_pos rfl]
  refine (readers.nodeUnless room _ _).bind fun item known => ?_
  refine Gives.mono (Nat.le_succ room) ?_
  exact (readers.indentless room).bind fun items all =>
    .pure (List.forall_mem_cons.mpr ⟨known, all⟩)

theorem gives_blockMembers (room : Nat) :
    Gives text room (MembersOf text) (blockMembers (fuel + 1) room) := by
  unfold blockMembers
  refine (goesOn_accept .blockEnd).bind fun ends => ?_
  split
  · exact .pure nofun
  · refine (goesOn_accept .key).bind fun keyed => ?_
    refine .bindIf (readers.nodeUnless room _ _) gives_malformed fun key ofKey => ?_
    refine (goesOn_accept .value).bind fun valued => ?_
    refine .bindIf (readers.nodeUnless room _ _) gives_emptyNode fun value ofValue => ?_
    exact (readers.blockMembers room).bind fun members all =>
      .pure (List.forall_mem_cons.mpr ⟨⟨ofKey, ofValue⟩, all⟩)

theorem gives_flowItems (room : Nat) (first : Bool) :
    Gives text room (AllOf text) (flowItems (fuel + 1) room first) := by
  unfold flowItems
  refine (goesOn_accept .flowSequenceEnd).bind fun ends => ?_
  split
  · exact .pure nofun
  · refine .afterIf (goesOn_expect _) ?_
    refine (goesOn_accept .flowSequenceEnd).bind fun ends => ?_
    split
    · exact .pure nofun
    · have item {found : Node} (known : found.IsOf text) :
          Gives text room (AllOf text) (do return found :: (← flowItems fuel room false)) :=
        (readers.flowItems room false).bind fun items all =>
          .pure (List.forall_mem_cons.mpr ⟨known, all⟩)
      simp only [pure_bind]
      refine .accept .key (fun reading inside comes => ?_)
        ((readers.node room _).bind fun _ => item)
      rw [if_pos rfl]
      refine .enter inside rfl comes fun left one => ?_
      have fits : left ≤ room := by omega
      have further {found : Node} (known : found.IsOf text) := (item known).mono fits
      have pair {key value : Node} (ofKey : key.IsOf text) (ofValue : value.IsOf text) :
          (Node.mapping .map [(key, value)]).IsOf text :=
        Node.isOf_mapping _ (List.forall_mem_singleton.mpr ⟨ofKey, ofValue⟩)
      refine (readers.nodeUnless left _ _).bind fun key ofKey => ?_
      refine (goesOn_accept .value).bind fun valued => ?_
      exact .bindIf (readers.nodeUnless left _ _) gives_emptyNode fun value ofValue =>
        further (pair ofKey ofValue)

theorem gives_flowMembers (room : Nat) (first : Bool) :
    Gives text room (MembersOf text) (flowMembers (fuel + 1) room first) := by
  unfold flowMembers
  refine (goesOn_accept .flowMappingEnd).bind fun ends => ?_
  split
  · exact .pure nofun
  · refine .afterIf (goesOn_expect _) ?_
    refine (goesOn_accept .flowMappingEnd).bind fun ends => ?_
    split
    · exact .pure nofun
    · refine (goesOn_accept .key).bind fun keyed => ?_
      have member {key value : Node} (ofKey : key.IsOf text) (ofValue : value.IsOf text) :
          Gives text room (MembersOf text) (do
            return (key, value) :: (← flowMembers fuel room false)) :=
        (readers.flowMembers room false).bind fun members all =>
          .pure (List.forall_mem_cons.mpr ⟨⟨ofKey, ofValue⟩, all⟩)
      simp only [pure_bind]
      split
      · refine (readers.nodeUnless room _ _).bind fun key ofKey => ?_
        refine (goesOn_accept .value).bind fun valued => ?_
        exact .bindIf (readers.nodeUnless room _ _) gives_emptyNode fun value => member ofKey
      · exact (readers.node room _).bind fun key ofKey => member ofKey (Node.isOf_scalar _ _)

end

theorem readersGoOn (text : List Char) (fuel : Nat) : ReadersGoOn text fuel := by
  induction fuel with
  | zero =>
    constructor <;> intros
    case node => rw [node]; exact gives_malformed
    case nodeUnless => rw [nodeUnless]; exact gives_malformed
    case blockItems => rw [blockItems]; exact gives_malformed
    case indentless => rw [indentless]; exact gives_malformed
    case blockMembers => rw [blockMembers]; exact gives_malformed
    case flowItems => rw [flowItems]; exact gives_malformed
    case flowMembers => rw [flowMembers]; exact gives_malformed
  | succ fuel readers =>
    exact ⟨gives_node readers, gives_nodeUnless readers, gives_blockItems readers,
      gives_indentless readers, gives_blockMembers readers, gives_flowItems readers,
      gives_flowMembers readers⟩

/-! ## Documents -/

theorem goesOn_directives (fuel : Nat) (versioned : Bool) (handles : List (String × String)) :
    GoesOn text room (directives fuel versioned handles) := by
  induction fuel generalizing versioned handles with
  | zero => exact gives_malformed
  | succ fuel ih =>
    unfold directives
    refine gives_peek.bind fun token _ => ?_
    split
    · refine goesOn_skip.bind fun _ => ?_
      split
      · exact gives_malformed
      · exact ih _ _
    · refine goesOn_skip.bind fun _ => ?_
      split
      · exact gives_malformed
      · exact ih _ _
    · exact goesOn_skip.bind fun _ => ih _ _
    · exact goesOn_pure _

theorem goesOn_documentEnds (fuel : Nat) : GoesOn text room (documentEnds fuel) := by
  induction fuel with
  | zero => exact goesOn_pure ()
  | succ fuel ih =>
    unfold documentEnds
    refine (goesOn_accept .documentEnd).bind fun found => ?_
    split
    · exact ih
    · exact goesOn_pure ()

theorem goesOn_finish (fuel : Nat) : GoesOn text room (finish fuel) :=
  (goesOn_documentEnds fuel).bind fun _ => goesOn_expect _

theorem gives_document (room : Nat) :
    Gives text room (fun root? : Option Node => ∀ root ∈ root?, root.IsOf text)
      (document room) := by
  unfold document
  refine gives_get.bind fun reading _ => ?_
  have whole := (readersGoOn text (4 * reading.tokens.length + 4)).node room .block
  have ended (root : Node) (known : root.IsOf text) :
      Gives text room (fun root? : Option Node => ∀ root ∈ root?, root.IsOf text) (do
        finish (4 * reading.tokens.length + 4)
        return some root) := by
    refine (goesOn_finish _).bind fun _ => .pure ?_
    rintro _ ⟨⟩
    exact known
  have handled (handles : List (String × String)) :
      GoesOn text room (modify fun reading => { reading with handles }) :=
    goesOn_modify (fun _ inside => ⟨inside.tokens, inside.fault, inside.anchors, inside.anchored⟩)
      fun _ => List.suffix_rfl
  refine gives_peek.bind fun token _ => .ite ?_ ?_
  · exact (handled _).bind fun _ => whole.bind ended
  · refine (goesOn_accept .streamEnd).bind fun ends => .ite (.pure nofun) ?_
    refine (goesOn_directives _ _ _).bind fun handles => ?_
    refine (goesOn_expect _).bind fun _ => (handled _).bind fun _ => ?_
    exact gives_peek.bind fun token _ => .bindIf gives_emptyNode whole ended

end NodeReader

/-- The nodes of anchors are of the text. -/
theorem Reading.IsOf.isOf_of_mem_anchored {reading : Reading} (inside : reading.IsOf text)
    {entry : String × Node} (among : entry ∈ reading.anchored) : entry.2.IsOf text := by
  obtain ⟨⟨name, node?⟩, known, kept⟩ := List.mem_filterMap.mp among
  obtain ⟨node, rfl, rfl⟩ := Option.map_eq_some_iff.mp kept
  exact inside.anchored _ known node rfl

/-- The nodes that are read are of the text, and what keeps them from being read is a fault of the
text, or more collections are opened in it than there is room for. -/
theorem settles_nodeOf (room : Nat) (text : List Char) :
    Settles (fun read => (∀ root ∈ read.1, root.IsOf text) ∧ ∀ entry ∈ read.2, entry.2.IsOf text)
      (fun fault => fault.IsOf text ∨ fault = .tooDeep ∧ room < openings (tokensOf text).1)
      (nodeOf room text) := by
  have stand := stand_tokensOf text
  unfold nodeOf
  split
  · generalize tokensOf text = read at stand ⊢
    have inside : Reading.IsOf { tokens := read.1, fault := read.2 } text :=
      ⟨stand.tokens, stand.fault, nofun, nofun⟩
    exact (NodeReader.gives_document room _ inside).map fun _ last =>
      ⟨last.1, fun _ among => last.2.1.isOf_of_mem_anchored among⟩
  · exact .inl trivial

end ShellVet.Yaml
