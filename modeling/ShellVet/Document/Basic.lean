import ShellVet.Calendar.Basic
import ShellVet.Json.Basic

/-!
# Configuration documents

The values that a configuration file can hold, whichever of the two formats it is written in. A
mapping keeps its members in the order written.
-/

namespace ShellVet

/-- A configuration document. -/
inductive Document where
  | null
  | bool (value : Bool)
  | int (value : Int)
  | float (value : Float)
  | text (value : CodeText)
  | list (items : List Document)
  | tuple (items : List Document)
  | map (members : List (Document × Document))
  | set (items : List Document)
  | bytes (value : List UInt8)
  | date (value : Date)
  | moment (value : Moment)
  deriving Inhabited, Repr

namespace Document

mutual

/-- The document that a JSON document is. -/
def ofJson : Json CodeText → Document
  | .null => .null
  | .bool value => .bool value
  | .int value => .int value
  | .float value => .float value
  | .string value => .text value
  | .array items => .list (ofJsonItems items)
  | .object members => .map (ofJsonMembers members)

/-- The items of an array as documents. -/
def ofJsonItems : List (Json CodeText) → List Document
  | [] => []
  | item :: items => ofJson item :: ofJsonItems items

/-- The members of an object as documents. -/
def ofJsonMembers : List (CodeText × Json CodeText) → List (Document × Document)
  | [] => []
  | (key, value) :: members => (.text key, ofJson value) :: ofJsonMembers members

end

mutual

/-- How deep the document nests, as far as a search goes that passes over keys and the members of
sets. -/
def depth : Document → Nat
  | .list items | .tuple items => 1 + depthOfItems items
  | .map members => 1 + depthOfMembers members
  | _ => 0

/-- The greatest depth of items. -/
def depthOfItems : List Document → Nat
  | [] => 0
  | item :: items => max item.depth (depthOfItems items)

/-- The greatest depth of the values of members. -/
def depthOfMembers : List (Document × Document) → Nat
  | [] => 0
  | (_, value) :: members => max value.depth (depthOfMembers members)

end

end Document

end ShellVet
