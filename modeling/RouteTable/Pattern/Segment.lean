/-
# Segments

A source pattern is read as a list of segments.  Three kinds:

| segment | written as | stands for |
| --- | --- | --- |
| `literal` | any text | that text |
| `group` | a brace around text, `{.html}?` | that text, as often as its modifier says |
| `capture` | `:name`, `:name(body)`, `(body)`, or a brace around one | what its body matches |

A capture has a name or none, text of its own before and after (`lead` and
`trail`: a brace's text, or the separator `/` or `.` right before it), and a
modifier that says how often the whole is repeated.
-/

import RouteTable.Text.Basic

namespace RouteTable
namespace Pattern

/-- How often a group or a capture stands: exactly once, at most once, any
number of times, or at least once. -/
inductive Modifier where
  | once
  | optional
  | star
  | plus
  deriving DecidableEq, Repr

namespace Modifier

/-- The written modifier; `once` is written as nothing. -/
def text : Modifier → Text
  | once => []
  | optional => ['?']
  | star => ['*']
  | plus => ['+']

/-- The modifier that a character writes. -/
def ofChar? : CodePoint → Option Modifier
  | '?' => some optional
  | '*' => some star
  | '+' => some plus
  | _ => none

/-- A modifier is read from the character that writes it. -/
theorem ofChar?_eq_some_iff {c : CodePoint} {m : Modifier} : ofChar? c = some m ↔ m.text = [c] := by
  constructor
  · intro h
    unfold ofChar? at h
    split at h <;> cases h <;> rfl
  · intro h
    cases m <;> cases h <;> rfl

end Modifier

/-- The characters of a parameter's name: ASCII letters, digits and `_`. -/
def isNameChar (c : CodePoint) : Bool := c.isAlphanum || c == '_'

/-- One run that crosses no path, hash or query delimiter; lazy, so that a
literal after it can still match. -/
def defaultBody : Text := "[^\\/#\\?]+?".text

/-- A capturing segment. -/
structure Capture where
  /-- The name, or none for an unnamed group. -/
  name : Option Text
  /-- Text right before each captured run. -/
  lead : Text
  /-- The regular expression that a captured run matches. -/
  body : Text
  /-- Text right after each captured run. -/
  trail : Text
  modifier : Modifier
  deriving DecidableEq, Repr

/-- One segment of a source pattern. -/
inductive Segment where
  | literal (text : Text)
  | group (text : Text) (modifier : Modifier)
  | capture (capture : Capture)
  deriving DecidableEq, Repr

namespace Segment

/-- The capture, of a capturing segment. -/
def capture? : Segment → Option Capture
  | capture c => some c
  | _ => none

/-- The parameter name, of a named capture. -/
def name? (s : Segment) : Option Text := s.capture?.bind Capture.name

/-- A character in front of segments: part of the literal that they begin with,
or a literal of its own. -/
def consChar (c : CodePoint) : List Segment → List Segment
  | literal t :: s => literal (c :: t) :: s
  | s => literal [c] :: s

end Segment
end Pattern
end RouteTable
