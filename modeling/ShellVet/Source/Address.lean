/-!
# Addresses of hosts

A host in brackets is an address of version six, or one of a later version that says so.
-/

namespace ShellVet.Source

/-- A number of a dotted address: up to three digits, no zero in front, at most 255. -/
def isOctet (text : List Char) : Bool :=
  !text.isEmpty && text.length ≤ 3 && text.all Char.isDigit &&
    (text == ['0'] || text.head? != some '0') &&
    text.foldl (fun n c => n * 10 + (c.toNat - 48)) 0 ≤ 255

/-- An address of four numbers with points between them. -/
def isDotted (text : List Char) : Bool :=
  let octets := text.splitOn '.'
  octets.length == 4 && octets.all isOctet

/-- Whether the character is a hexadecimal digit. -/
def isHexDigit (c : Char) : Bool :=
  c.isDigit || ('a' ≤ c && c ≤ 'f') || ('A' ≤ c && c ≤ 'F')

/-- A group of an address of version six. -/
def isGroup (text : List Char) : Bool :=
  !text.isEmpty && text.length ≤ 4 && text.all isHexDigit

/-- The groups of an address, where a dotted address at the end stands for two groups; none if the
dotted address is wrong. -/
def groupsOf (text : List Char) : Option (List (List Char)) :=
  let groups := text.splitOn ':'
  match groups.getLast? with
  | some last =>
    if last.contains '.' then
      if isDotted last then some (groups.dropLast ++ [['0'], ['0']]) else none
    else some groups
  | none => some groups

/-- Places of empty groups between the ends. -/
def gaps (groups : List (List Char)) : List Nat :=
  (List.range groups.length).filter fun i =>
    0 < i && i + 1 < groups.length && (groups[i]?.getD []).isEmpty

/-- The groups of one side of a gap; an empty end next to the gap counts for nothing. -/
def sideGroups (side : List (List Char)) : List (List Char) :=
  if side == [[]] then [] else side

/-- Whether the groups make an address: eight of them, or fewer with one gap. -/
def areGroups (groups : List (List Char)) : Bool :=
  3 ≤ groups.length && groups.length ≤ 9 &&
    match gaps groups with
    | [] => groups.length == 8 && groups.all isGroup
    | [gap] =>
      let sides := sideGroups (groups.take gap) ++ sideGroups (groups.drop (gap + 1))
      sides.length < 8 && sides.all isGroup
    | _ => false

/-- Whether a text is an address of version six, with or without a scope behind a percent sign. -/
def isVersionSix (text : List Char) : Bool :=
  let address := text.takeWhile (· != '%')
  let scopeFits := match text.dropWhile (· != '%') with
    | [] => true
    | _ :: scope => !scope.isEmpty && !scope.contains '%'
  -- A dotted address at the end needs two groups before it.
  scopeFits && !text.contains '/' && 3 ≤ (address.splitOn ':').length &&
    (groupsOf address).any areGroups

/-- Whether a text is an address of a later version: its number behind a `v`, a point, and more. -/
def isLaterVersion (text : List Char) : Bool :=
  match text with
  | 'v' :: rest =>
    let version := rest.takeWhile isHexDigit
    !version.isEmpty &&
      match rest.drop version.length with
      | '.' :: more => !more.isEmpty && !more.contains '\n'
      | _ => false
  | _ => false

/-- Whether a text may stand in brackets. -/
def isBracketed (text : List Char) : Bool :=
  if text.head? = some 'v' then isLaterVersion text else isVersionSix text

end ShellVet.Source
