/-
# Route tables

A table is read entry by entry, and its first invalid entry makes all of it
invalid.  Each phase is marked once at most.
-/

import RouteTable.Failure
import RouteTable.Route.Reader

namespace RouteTable
namespace Table

/-- The route of an entry that stands alone. -/
def readAlone (engine : Regex.Engine) (entry : Value) : Except Failure Route :=
  (Route.read engine entry).mapError (Failure.ofEntry none)

/-- The routes of entries, the first of which has the position `index`, after
routes that mark `marked`. -/
def readFrom (engine : Regex.Engine) (index : Nat) (marked : List Text) :
    List Value → Except Failure (List Route)
  | [] => .ok []
  | entry :: entries => do
    let route ← (Route.read engine entry).mapError (Failure.ofEntry (some index))
    match route with
    | .handle phase =>
      if marked.contains phase then
        throw (.route ⟨.repeatedPhase phase, some index, some "handle".text⟩)
      return route :: (← readFrom engine (index + 1) (phase :: marked) entries)
    | _ => return route :: (← readFrom engine (index + 1) marked entries)

/-- The table of some entries; what does not count as true has none. -/
def read (engine : Regex.Engine) (entries : Value) : Except Failure (List Route) :=
  if entries.isTrue then
    match entries.items with
    | .ok vs => readFrom engine 0 [] vs
    | .error f => .error (.value f)
  else .ok []

/-- A table, or the failure that rejects what it was to be made of. -/
inductive Verdict where
  | accepted (routes : List Route)
  | rejected (failure : Failure)

/-- Reads a table; an invalid entry is a verdict, any other failure stays one. -/
def judge (engine : Regex.Engine) (entries : Value) : Except Failure Verdict :=
  match read engine entries with
  | .ok routes => .ok (.accepted routes)
  | .error (.route e) => .ok (.rejected (.route e))
  | .error e => .error e

end Table
end RouteTable
