import ShellVet.Document.Basic

/-!
# The commands in a document

Commands stand under certain keys, as a text or as a list of texts, anywhere in the document. They
are listed in the order of the document, each as often as it occurs.
-/

namespace ShellVet.Document

/-- The keys that commands stand under. -/
def commandKeys : List CodeText := ["commands", "post-install", "post_install"]

/-- Whether commands stand under the key. -/
def isCommandKey : Document → Bool
  | .text key => commandKeys.contains key
  | _ => false

mutual

/-- The commands of a document. Under a command key, where `under` holds, texts are commands, also
as items of lists. -/
def commandsFrom (under : Bool) : Document → List CodeText
  | .text value => if under then [value] else []
  | .list items | .tuple items => commandsOfItems under items
  | .map members => commandsOfMembers members
  | _ => []

/-- The commands of items in a row. -/
def commandsOfItems (under : Bool) : List Document → List CodeText
  | [] => []
  | item :: items => item.commandsFrom under ++ commandsOfItems under items

/-- The commands of members in a row. -/
def commandsOfMembers : List (Document × Document) → List CodeText
  | [] => []
  | (key, value) :: members =>
    value.commandsFrom key.isCommandKey ++ commandsOfMembers members

end

/-- The commands of a document. -/
def commands (document : Document) : List CodeText :=
  document.commandsFrom false

end ShellVet.Document
