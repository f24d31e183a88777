/-
# Regular expressions

The tree of an expression.  Flags stand nowhere in it: what they change is
settled where the tree is built, in its sets, anchors and references.
-/

import RouteTable.Regex.CharSet
import RouteTable.Regex.Width

namespace RouteTable
namespace Regex

/-- A condition on a position. -/
inductive Anchor where
  /-- At the start of the text, or of a line. -/
  | start (ofLine : Bool)
  /-- At the end of the text, or before its last line feed; or at the end of a
  line. -/
  | stop (ofLine : Bool)
  /-- At the very end of the text. -/
  | veryEnd
  /-- Between a word character and something else; or not there. -/
  | wordBoundary (negated ascii : Bool)
  deriving DecidableEq, Repr

/-- Which of its repetitions a loop tries first, and whether it comes back for
others. -/
inductive Greed where
  | greedy | lazy | possessive
  deriving DecidableEq, Repr

/-- A regular expression. -/
inductive Node where
  | empty
  | set (s : CharSet)
  | seq (first second : Node)
  | alt (first second : Node)
  | loop (greed : Greed) (least : Nat) (greatest : Option Nat) (body : Node)
  | group (index : Nat) (body : Node)
  /-- The text that a group has captured. -/
  | reference (index : Nat) (ignoreCase ascii : Bool)
  | anchor (a : Anchor)
  /-- What follows matches `body`, or does not. -/
  | ahead (negated : Bool) (body : Node)
  /-- What precedes matches `body`, or does not. -/
  | behind (negated : Bool) (width : Width) (body : Node)
  /-- `body` as it matches first, with no second try. -/
  | atomic (body : Node)
  /-- One expression if a group has captured, another if not. -/
  | ifGroup (index : Nat) (yes no : Node)
  deriving Repr

namespace Node

/-- The width of an expression, if groups that it refers to have the widths
given. -/
def width (groups : List (Nat × Width)) : Node → Width
  | empty => .exactly 0
  | set _ => .exactly 1
  | seq a b => (a.width groups).add (b.width groups)
  | alt a b => (a.width groups).either (b.width groups)
  | loop _ least greatest body => (body.width groups).times least greatest
  | group _ body => body.width groups
  | reference index _ _ => (groups.lookup index).getD (.exactly 0)
  | anchor _ => .exactly 0
  | ahead _ _ => .exactly 0
  | behind _ _ _ => .exactly 0
  | atomic body => body.width groups
  | ifGroup _ yes no => (yes.width groups).either (no.width groups)

/-- Expressions in a row. -/
def inRow : List Node → Node
  | [] => empty
  | [n] => n
  | n :: ns => seq n (inRow ns)

/-- Any one of some expressions, the first before the others. -/
def anyOf : List Node → Node
  | [] => empty
  | [n] => n
  | n :: ns => alt n (anyOf ns)

end Node

end Regex
end RouteTable
