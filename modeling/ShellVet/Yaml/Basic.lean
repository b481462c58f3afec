import ShellVet.Document.Key
import ShellVet.Text.Case
import ShellVet.Yaml.Node
import ShellVet.Yaml.Number

/-!
# YAML documents

`Yaml.read` reads the document of a text. The values of a collection are made after the collection
itself, level by level, so of several faults the one nearest to the root counts, and of those on one
level the first. A fault carries its level for that.
-/

namespace ShellVet.Yaml

/-- A fault and the level it is on. -/
structure LeveledFault where
  level : Nat
  fault : Fault

/-- A value, or a fault with its level. -/
abbrev Made (α : Type) := Except LeveledFault α

/-- Two values, or the fault that counts. -/
def Made.both {α β : Type} : Made α → Made β → Made (α × β)
  | .ok a, .ok b => .ok (a, b)
  | .error fault, .ok _ => .error fault
  | .ok _, .error fault => .error fault
  | .error first, .error second =>
    if second.level < first.level then .error second else .error first

/-- A fault on a level. -/
def faultAt {α : Type} (level : Nat) (fault : Fault) : Made α := .error ⟨level, fault⟩

/-- Puts a result on a level. -/
def onLevel {α : Type} (level : Nat) : Except Fault α → Made α
  | .ok value => .ok value
  | .error fault => faultAt level fault

/-! ## Scalars -/

/-- The tag of a node; none for an alias inside its own anchor. -/
def Node.tag? : Node → Option Tag
  | .scalar tag _ | .sequence tag _ | .mapping tag _ => some tag
  | .enclosing _ => none

/-- The number of nodes in a node, itself among them. -/
def Node.size : Node → Nat
  | .scalar .. | .enclosing _ => 1
  | .sequence _ items => 1 + sizes items
  | .mapping _ members => 1 + memberSizes members
where
  /-- The number of nodes in a row of nodes. -/
  sizes : List Node → Nat
    | [] => 0
    | node :: nodes => node.size + sizes nodes
  /-- The number of nodes in a row of members. -/
  memberSizes : List (Node × Node) → Nat
    | [] => 0
    | (key, value) :: members => key.size + value.size + memberSizes members

/-- The number of nodes that one can get to from a node, by going to its parts, and from each alias
inside its own anchor to the node of the anchor. -/
def Node.reach (node : Node) (anchored : Anchored) : Nat :=
  anchored.foldl (fun total entry => total + entry.2.size) node.size

/-- Whether two nodes are the same. -/
def Node.same : Node → Node → Bool
  | .scalar tag text, .scalar tag' text' => tag == tag' && text == text'
  | .sequence tag items, .sequence tag' items' => tag == tag' && sameRow items items'
  | .mapping tag members, .mapping tag' members' => tag == tag' && sameMembers members members'
  | .enclosing name, .enclosing name' => name == name'
  | _, _ => false
where
  /-- Whether two rows of nodes are the same. -/
  sameRow : List Node → List Node → Bool
    | [], [] => true
    | node :: nodes, node' :: nodes' => node.same node' && sameRow nodes nodes'
    | _, _ => false
  /-- Whether two rows of members are the same. -/
  sameMembers : List (Node × Node) → List (Node × Node) → Bool
    | [], [] => true
    | (key, value) :: members, (key', value') :: members' =>
      key.same key' && value.same value' && sameMembers members members'
    | _, _ => false

section

variable (anchored : Anchored)

/-- The node that an alias inside its own anchor stands for; any other node is as it is. -/
def Node.resolved : Node → Node
  | .enclosing name => (anchored.lookup name).getD (.enclosing name)
  | node => node

/-- The text of a node that stands for a scalar: its own, or that of the member with the value
sign. -/
def textFrom : Nat → Node → Except Fault CodeText
  | _, .scalar _ text => .ok text
  | _, .sequence .. => .error .malformed
  | 0, _ => .error .endless
  | fuel + 1, .enclosing name =>
    match anchored.lookup name with
    | some node => textFrom fuel node
    | none => .error .malformed
  | fuel + 1, .mapping _ members =>
    match members.find? fun member => (member.1.resolved anchored).tag? == some .value with
    | some member => textFrom fuel member.2
    | none => .error .malformed

@[inherit_doc textFrom]
def textOf (node : Node) : Except Fault CodeText := textFrom anchored (node.reach anchored) node

end

/-- The truth value of a text. -/
def boolOf (text : List Char) : Except Fault Bool :=
  let name := String.ofList (Text.lower text)
  if ["yes", "true", "on"].contains name then .ok true
  else if ["no", "false", "off"].contains name then .ok false
  else .error .truth

/-- The value of a digit of base sixty-four. -/
def sixBits? (c : Char) : Option Nat :=
  if c.isUpper then some (c.toNat - 65)
  else if c.isLower then some (c.toNat - 71)
  else if c.isDigit then some (c.toNat + 4)
  else if c == '+' then some 62
  else if c == '/' then some 63
  else none

/-- Bytes in base sixty-four. `count` digits of the present group of four are read, and `held` are
their bits that no byte has taken; `pads` counts the signs that fill the group. Other characters are
passed over. -/
def bytesFrom (count held pads : Nat) : List Char → Except Fault (List UInt8)
  | [] => if count = 0 then .ok [] else .error .malformed
  | c :: rest =>
    if c == '=' then
      if count ≥ 2 && count + pads + 1 ≥ 4 then .ok []
      else bytesFrom count held (if count ≥ 2 then pads + 1 else pads) rest
    else match sixBits? c with
      | none => bytesFrom count held pads rest
      | some bits =>
        let all := held * 64 + bits
        if count = 0 then bytesFrom 1 bits 0 rest
        else
          let spare := 6 - 2 * count
          let byte := UInt8.ofNat (all / 2 ^ spare)
          (bytesFrom ((count + 1) % 4) (all % 2 ^ spare) 0 rest).map (byte :: ·)

/-- The bytes of a text. -/
def bytesOf (text : List Char) : Except Fault (List UInt8) :=
  if text.all fun c => c.toNat < 128 then bytesFrom 0 0 0 text else .error .malformed

/-! ## Points in time -/

/-- The number at the start of a text, of at least `least` and at most `most` digits, and the text
after it. -/
def takeNumber (least most : Nat) (text : List Char) : Option (Nat × List Char) :=
  let digits := (text.takeWhile Char.isDigit).take most
  if digits.length < least then none
  else some (Decimal.ofDigits 10 digits, text.drop digits.length)

/-- The text after a character, which has to come first. -/
def after? (c : Char) : List Char → Option (List Char)
  | d :: rest => if c == d then some rest else none
  | [] => none

/-- The text without blanks and tabs at its start. -/
def dropGap (text : List Char) : List Char := text.dropWhile isGap

/-- The offset at the end of a point in time, in seconds, if there is one. -/
def zoneOf? (text : List Char) : Option (Option Int) :=
  match dropGap text with
  | [] => if text.isEmpty then some none else none
  | ['Z'] => some (some 0)
  | c :: rest =>
    if c == '+' || c == '-' then do
      let (hours, rest) ← takeNumber 1 2 rest
      let (minutes, rest) ← match rest with
        | ':' :: rest => takeNumber 2 2 rest
        | rest => some (0, rest)
      if rest.isEmpty then some (some (signed (c == '-') ((hours * 60 + minutes) * 60))) else none
    else none

/-- Microseconds of the digits behind a point. -/
def fractionOf (digits : List Char) : Nat :=
  let kept := digits.take 6
  Decimal.ofDigits 10 (kept ++ List.replicate (6 - kept.length) '0')

/-- The time of day at the end of a point in time, and its offset. -/
def timeOf? (text : List Char) : Option (Nat × Nat × Nat × Nat × Option Int) := do
  let (hour, rest) ← takeNumber 1 2 text
  let (minute, rest) ← takeNumber 2 2 (← after? ':' rest)
  let (second, rest) ← takeNumber 2 2 (← after? ':' rest)
  let (fraction, rest) := match rest with
    | '.' :: rest => (rest.takeWhile Char.isDigit, rest.dropWhile Char.isDigit)
    | rest => ([], rest)
  return (hour, minute, second, fractionOf fraction, ← zoneOf? rest)

/-- The text without the line feed at its end, if it has one. -/
def dropLineEnd (text : List Char) : List Char :=
  if text.getLast? = some '\n' then text.dropLast else text

/-- Checks a day. -/
def checkDate (date : Date) : Except Fault Date := do
  if date.year = 0 then throw (.calendar (.year date.year))
  if date.month = 0 || 12 < date.month then throw (.calendar .month)
  if date.day = 0 || Date.monthLength date.year date.month < date.day then throw (.calendar .day)
  return date

/-- Checks a point in time. -/
def checkMoment (moment : Moment) : Except Fault Moment := do
  match moment.offset with
  | some offset =>
    if daySeconds ≤ offset.natAbs then throw (.calendar (.offset offset))
  | none => pure ()
  let _ ← checkDate moment.date
  if 23 < moment.hour then throw (.calendar .hour)
  if 59 < moment.minute then throw (.calendar .minute)
  if 59 < moment.second then throw (.calendar .second)
  return moment

/-- The parts of a point in time: its day, and the text after it. -/
def dateOf? (text : List Char) : Option (Date × List Char) := do
  let (year, rest) ← takeNumber 4 4 text
  let (month, rest) ← takeNumber 1 2 (← after? '-' rest)
  let (day, rest) ← takeNumber 1 2 (← after? '-' rest)
  return (⟨year, month, day⟩, rest)

/-- The text of a time of day behind its day and a gap. -/
def timeText? : List Char → Option (List Char)
  | c :: rest =>
    if c == 'T' || c == 't' then some rest
    else if isGap c then some (dropGap rest) else none
  | [] => none

/-- The day or point in time of a text. -/
def timestampOf (text : List Char) : Except Fault Document :=
  match dateOf? (dropLineEnd text) with
  | none => .error .moment
  | some (date, []) => (checkDate date).map .date
  | some (date, rest) =>
    match (timeText? rest).bind timeOf? with
    | none => .error .moment
    | some (hour, minute, second, microsecond, offset) =>
      (checkMoment { date, hour, minute, second, microsecond, offset }).map .moment

/-- The point in time of a node. -/
def timestampOfNode (anchored : Anchored) : Node → Except Fault Document
  | .scalar _ text => timestampOf text.legible
  | node => (textOf anchored node).bind fun _ => .error .momentOfMapping

/-! ## Mappings -/

/-- The node as a key, where the value sign is a text. -/
def asKey : Node → Node
  | .scalar .value text => .scalar .str text
  | .sequence .value items => .sequence .str items
  | .mapping .value members => .mapping .str members
  | node => node

/-- Whether the key of the member is the merge sign. -/
def merges (member : Node × Node) : Bool := member.1.tag? == some .merge

section

variable (anchored : Anchored)

/-- The nodes whose members come with a value of the merge sign, those that count most at last. -/
def mergedNodes (value : Node) : List Node :=
  match value.resolved anchored with
  | .sequence _ items => items.reverse
  | value => [value]

/-- The members of a mapping with those that it merges in front. `opened` are the mappings that are
being put together on the way to this one, each with the members that are still to come and those
that it does not merge: a mapping that is merged into itself has only those. -/
def mergedMembers : Nat → List (Node × List (Node × Node)) → Node →
    Except Fault (List (Node × Node))
  | 0, _, _ => .error .malformed
  | depth + 1, opened, node =>
    match node.resolved anchored with
    | .mapping tag all => do
      let whole : Node := .mapping tag all
      let members := ((opened.find? fun entry => entry.1.same whole).map (·.2)).getD all
      let parts ← members.zipIdx.mapM fun (member, place) => do
        if merges member then
          let left := (members.take place).filter (!merges ·) ++ members.drop (place + 1)
          let rows ← (mergedNodes anchored member.2).mapM
            (mergedMembers depth ((whole, left) :: opened))
          return (rows.flatten, [])
        else return ([], [(asKey member.1, member.2)])
      return parts.flatMap (·.1) ++ parts.flatMap (·.2)
    | _ => .error .malformed

end

/-! ## Documents

A collection that holds itself has no document: every way through it would be endless. It is `none`,
and so is every collection that holds one. A way comes back to where it was only through an alias
inside its own anchor, or through a mapping that merges such an alias.
-/

/-- Whether the node stands for a value that can be a key, which collections are not. -/
def canBeKey (node : Node) : Bool :=
  match node.tag? with
  | some tag => !([.seq, .map, .set, .omap, .pairs].contains tag)
  | none => false

/-- Documents in a row, unless one holds itself. -/
def allOf (documents : List (Option Document)) : Option (List Document) := documents.mapM id

/-- The documents of members, unless one holds itself. -/
def membersOf (members : List (Document × Option Document)) : Option (List (Document × Document)) :=
  members.mapM fun (key, value) => value.map (key, ·)

/-- The values of a row of nodes. -/
def makeAll (make : Node → Made (Option Document)) : List Node → Made (List (Option Document))
  | [] => .ok []
  | node :: nodes =>
    ((make node).both (makeAll make nodes)).map fun (value, values) => value :: values

/-- The value of a key. -/
def makeKey (anchored : Anchored) (level : Nat) (make : Node → Made (Option Document))
    (key : Node) :
    Made Document :=
  if canBeKey (key.resolved anchored) then
    (make key).bind fun
      | some key => .ok key
      | none => faultAt level .malformed
  else faultAt level .malformed

/-- The key and value of each member of a row. -/
def makeMembers (anchored : Anchored) (level : Nat) (make : Node → Made (Option Document)) :
    List (Node × Node) → Made (List (Document × Option Document))
  | [] => .ok []
  | (key, value) :: members =>
    ((makeKey anchored level make key).both
      ((make value).both (makeMembers anchored level make members))).map
        fun (key, value, members) => (key, value) :: members

/-- The one member of a mapping. -/
def soleMember (level : Nat) : Node → Made (Node × Node)
  | .mapping _ [member] => .ok member
  | _ => faultAt level .malformed

/-- The pairs of a row of mappings of one member each. -/
def makePairs (level : Nat) (make : Node → Made (Option Document)) :
    List Node → Made (List (Option Document))
  | [] => .ok []
  | node :: nodes =>
    let pair : Made (Option Document) := (soleMember level node).bind fun (key, value) =>
      ((make key).both (make value)).map fun (key, value) => (allOf [key, value]).map .tuple
    (pair.both (makePairs level make nodes)).map fun (pair, pairs) => pair :: pairs

/-- Whether a way from the node may come back to it at once: it is an alias inside its own anchor,
or a mapping that merges. -/
def Node.leadsBack : Node → Bool
  | .enclosing _ => true
  | .mapping _ members => members.any merges
  | _ => false

/-- The value of a node. A collection on one level has its parts on the next one. `opened` are the
nodes on the way to this node that lead back. -/
def make (anchored : Anchored) : Nat → List Node → Nat → Node → Made (Option Document)
  | 0, _, level, _ => faultAt level .malformed
  | depth + 1, opened, level, node =>
    if opened.any node.same then .ok none else
    let opened := if node.leadsBack then node :: opened else opened
    let inner := make anchored depth opened (level + 1)
    let scalar (read : CodeText → Except Fault Document) : Made (Option Document) :=
      onLevel level (((textOf anchored node).bind read).map some)
    let members : Made (List (Document × Option Document)) :=
      match node with
      | .mapping .. =>
        (onLevel (level + 1) (mergedMembers anchored (depth + 1) [] node)).bind fun merged =>
          (makeMembers anchored (level + 1) inner merged).map Document.distinct
      | _ => faultAt (level + 1) .malformed
    let pairs : Made (Option Document) :=
      match node with
      | .sequence _ items =>
        (makePairs (level + 1) inner items).map fun pairs => (allOf pairs).map .list
      | _ => faultAt (level + 1) .malformed
    match node.tag? with
    | none =>
      match node with
      | .enclosing _ => make anchored depth opened level (node.resolved anchored)
      | _ => faultAt level .malformed
    | some .null => scalar fun _ => .ok .null
    | some .bool => scalar fun text => (boolOf text.legible).map .bool
    | some .int => scalar fun text => (intOf text.legible).map .int
    | some .float => scalar fun text => (floatOf (Text.lower text.legible)).map .float
    | some .binary => scalar fun text => (bytesOf text.legible).map .bytes
    | some .timestamp => onLevel level ((timestampOfNode anchored node).map some)
    | some .str => scalar fun text => .ok (.text text)
    | some .seq =>
      match node with
      | .sequence _ items => (makeAll inner items).map fun items => (allOf items).map .list
      | _ => faultAt (level + 1) .malformed
    | some .map => members.map fun members => (membersOf members).map .map
    | some .set => members.map fun members => some (.set (members.map (·.1)))
    | some .omap | some .pairs => pairs
    | some .merge | some .value | some (.other _) => faultAt level .malformed

/-- The document of a text, where the stack has room for so many levels; none if it holds itself. A
text without a document holds null. -/
def read (room : Nat) (text : List Char) : Except Fault (Option Document) := do
  match ← nodeOf room text with
  | (none, _) => return some .null
  | (some node, anchored) =>
    -- No way has a node that leads back twice, and between two of them it goes from part to part.
    let enough := node.reach anchored + 1
    (make anchored (2 * enough * enough) [] 0 node).mapError (·.fault)

end ShellVet.Yaml
