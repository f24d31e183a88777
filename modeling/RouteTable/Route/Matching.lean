/-
# Matching paths

A route applies to the paths in which its source is found.  The source is read by
the backtracking engine as it stands, of a route or of a map in the wire form of
one, whatever else that map holds.
-/

import RouteTable.Failure
import RouteTable.Regex.Matcher

namespace RouteTable
namespace Matching

/-- The source of a route, or of a map in the wire form of one. -/
def sourceOf : Value → Except Failure Value
  | .map es =>
    match Value.lookup "src".text es with
    | some src => .ok src
    | none => .error .sourceMissing
  | .redirectRoute src _ _ => .ok src
  | .rewriteRoute src _ _ => .ok src
  | .headerRoute src _ _ => .ok src
  | v => .error (.sourceless v.kind)

/-- The source of a route as a text. -/
def sourceText (route : Value) : Except Failure Text := do
  let src ← sourceOf route
  match src.unhashable?, src with
  | some kind, _ => throw (.value (.unhashable kind))
  | none, .text t => return t
  | none, _ => throw .sourceNotText

/-- The source of a route and the expression that it writes. -/
def expression (edition : Regex.Backtracking.Edition) (route : Value) :
    Except Failure (Text × Regex.Node) := do
  let t ← sourceText route
  match Regex.Backtracking.parse edition t with
  | .ok n => return (t, n)
  | .error e => throw (.regex (.backtracking e))

/-- Whether a route applies to a path. -/
def appliesTo (edition : Regex.Backtracking.Edition) (route : Value) (path : Text) :
    Except Failure Bool := do
  let (_, n) ← expression edition route
  return n.isFoundIn path

end Matching
end RouteTable
