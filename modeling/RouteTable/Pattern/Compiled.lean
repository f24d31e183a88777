/-
# Compiled patterns

A source pattern compiles to a regular expression, anchored at both ends, and
the registry of its parameters.  With `l` and `t` for the escaped lead and trail
of a capture and `b` for its body, the segments are emitted as follows.

| segment | emitted |
| --- | --- |
| literal | its text, escaped |
| group | `(?:` text, escaped `)` modifier |
| capture without lead and trail | `(b)` modifier |
| other capture, `once` or `optional` | `(?:l(b)t)` modifier |
| other capture, `plus` | `(?:l((?:b)(?:tl(?:b))*)t)` |
| other capture, `star` | as for `plus`, and `?` |

So lead and trail stand outside the group that captures, except between the runs
of one repeated capture.
-/

import RouteTable.Pattern.Parser
import RouteTable.Pattern.Registry

namespace RouteTable
namespace Pattern

/-- The characters that are escaped in a regular expression. -/
def isSpecial (c : CodePoint) : Bool := ".+*?=^!:$\x7b\x7d()[]|/\\".text.contains c

/-- A text as a regular expression that matches just it. -/
def escapeLiteral (t : Text) : Text := t.flatMap fun c => if isSpecial c then ['\\', c] else [c]

/-- A parenthesised group: what opens it, what it holds, and what closes it. -/
def parenthesised (opening : String) (body : Text) : Text := opening.text ++ body ++ [scalar ')']

namespace Capture

/-- The regular expression of a capture. -/
def emit (c : Capture) : Text :=
  let lead := escapeLiteral c.lead
  let trail := escapeLiteral c.trail
  if lead = [] ∧ trail = [] then parenthesised "(" c.body ++ c.modifier.text
  else match c.modifier with
    | .once => once lead trail
    | .optional => once lead trail ++ [scalar '?']
    | .plus => repeated lead trail
    | .star => repeated lead trail ++ [scalar '?']
where
  /-- One run between its lead and its trail. -/
  once (lead trail : Text) : Text :=
    parenthesised "(?:" (lead ++ parenthesised "(" c.body ++ trail)
  /-- Runs between the first lead and the last trail. -/
  repeated (lead trail : Text) : Text :=
    let run := parenthesised "(?:" c.body
    let more := parenthesised "(?:" (trail ++ lead ++ run) ++ [scalar '*']
    parenthesised "(?:" (lead ++ parenthesised "(" (run ++ more) ++ trail)

end Capture

namespace Segment

/-- The regular expression of a segment. -/
def emit : Segment → Text
  | literal t => escapeLiteral t
  | group t m => parenthesised "(?:" (escapeLiteral t) ++ m.text
  | capture c => c.emit

/-- What a segment adds to a registry: its capture, if it is one. -/
def register (b : Registry.Builder) (s : Segment) : Registry.Builder :=
  match s.capture? with
  | some c => b.capture c.name c.modifier.text
  | none => b

end Segment

/-- The registry of segments: each capture takes the next group. -/
def Registry.ofSegments (segments : List Segment) : Registry :=
  (segments.foldl Segment.register Registry.Builder.empty).build

/-- The regular expression of segments, anchored at both ends. -/
def regexOf (segments : List Segment) : Text :=
  scalar '^' :: segments.flatMap Segment.emit ++ [scalar '$']

/-- A compiled source pattern. -/
structure Compiled where
  source : Text
  segments : List Segment
  deriving DecidableEq, Repr

namespace Compiled

/-- The anchored regular expression. -/
def regex (c : Compiled) : Text := regexOf c.segments

/-- The registry of the parameters. -/
def registry (c : Compiled) : Registry := Registry.ofSegments c.segments

end Compiled

/-- Compiles a source pattern. -/
def compile (source : Text) : Except Error Compiled :=
  (segments source).map fun s => ⟨source, s⟩

example : (compile "/old/:segment/path".text).toOption.map Compiled.regex =
    some "^\\/old(?:\\/([^\\/#\\?]+?))\\/path$".text := by decide +kernel

end Pattern
end RouteTable
