import ShellVet.Regex.CharSet

/-!
# Patterns

A pattern is a tree over single characters. Alternatives and repetitions are ordered: the first one
that lets the rest of the pattern match is taken.
-/

namespace ShellVet

/-- A condition on a place that takes no characters. -/
inductive Anchor where
  | textStart
  | textEnd
  /-- The end of the text, or before a line end that ends it. -/
  | lastLineEnd
  | lineStart
  | lineEnd
  /-- Between a word character and another one, or, if `inside`, not so. The empty text has
  neither. -/
  | wordEdge (asciiOnly inside : Bool)
  deriving DecidableEq, Repr

/-- A pattern. -/
inductive Regex where
  | empty
  | one (set : CharSet)
  | seq (first second : Regex)
  | alt (first second : Regex)
  /-- At least `least` and at most `most` times; as often as possible, or as rarely if `lazy`. -/
  | loop (lazy : Bool) (least : Nat) (most : Option Nat) (body : Regex)
  /-- Remembers the text of the body under a number. -/
  | group (index : Nat) (body : Regex)
  /-- The text remembered under a number. -/
  | again (folding : Folding) (index : Nat)
  | anchor (kind : Anchor)
  /-- The body matches from here on, or does not. -/
  | ahead (positive : Bool) (body : Regex)
  /-- The body matches from `width` characters before, or does not. -/
  | behind (positive : Bool) (width : Nat) (body : Regex)
  /-- The first match of the body, for good. -/
  | atomic (body : Regex)
  /-- One of two patterns, by whether a number has a text. -/
  | given (index : Nat) (yes no : Regex)
  deriving DecidableEq, Repr

namespace Regex

/-- Patterns one after the other. -/
def row : List Regex → Regex
  | [] => .empty
  | [last] => last
  | first :: rest => .seq first (row rest)

/-- Patterns of which the first that fits is taken. -/
def choice : List Regex → Regex
  | [] => .empty
  | [last] => last
  | first :: rest => .alt first (choice rest)

/-- Any number of times. -/
def many (body : Regex) : Regex := .loop false 0 none body

/-- At least once. -/
def several (body : Regex) : Regex := .loop false 1 none body

/-- Once or not at all. -/
def maybe (body : Regex) : Regex := .loop false 0 (some 1) body

/-- Exactly so many times. -/
def times (count : Nat) (body : Regex) : Regex := .loop false count (some count) body

/-- As often as possible, each time for good. -/
def possessive (least : Nat) (most : Option Nat) (body : Regex) : Regex :=
  .atomic (.loop false least most (.atomic body))

/-- The pattern with letter case ignored throughout. -/
def caseless : Regex → Regex
  | .one set => .one { set with folding := .full }
  | .again _ index => .again .full index
  | .seq first second => .seq first.caseless second.caseless
  | .alt first second => .alt first.caseless second.caseless
  | .loop lazy least most body => .loop lazy least most body.caseless
  | .group index body => .group index body.caseless
  | .ahead positive body => .ahead positive body.caseless
  | .behind positive width body => .behind positive width body.caseless
  | .atomic body => .atomic body.caseless
  | .given index yes no => .given index yes.caseless no.caseless
  | .empty => .empty
  | .anchor kind => .anchor kind

/-- The least and the greatest number of characters a pattern takes; `none` without a bound. The
widths of remembered groups are given. -/
def width (groups : Nat → Nat × Option Nat) : Regex → Nat × Option Nat
  | .empty | .anchor _ | .ahead .. | .behind .. => (0, some 0)
  | .one _ => (1, some 1)
  | .seq first second =>
    let a := width groups first
    let b := width groups second
    (a.1 + b.1, a.2.bind fun x => b.2.map (x + ·))
  | .alt first second | .given _ first second =>
    let a := width groups first
    let b := width groups second
    (min a.1 b.1, a.2.bind fun x => b.2.map (max x ·))
  | .loop _ least most body =>
    let a := width groups body
    (a.1 * least, if a.2 = some 0 || most = some 0 then some 0
      else a.2.bind fun x => most.map (x * ·))
  | .group _ body | .atomic body => width groups body
  | .again _ index => groups index

end Regex

end ShellVet
