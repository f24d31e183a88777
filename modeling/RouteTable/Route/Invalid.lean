/-
# Invalid routes

Why an entry is no route of a table.  A `Problem` is a reason and the field that
it concerns, if it concerns one; an `Invalid` is a problem with the position of
the entry, when it stands in a table.
-/

import RouteTable.Regex.Engine
import RouteTable.Route
import RouteTable.Value.Display

namespace RouteTable
namespace Route

/-- Why an entry is invalid. -/
inductive Reason where
  | notAMapping (kind : String)
  | fieldNotText (shown : Text)
  | unknownFields (names : List Text)
  | handleWith (names : List Text)
  | unknownPhase (shown : Text)
  | repeatedPhase (phase : Text)
  | neitherHandleNorSource
  | noKind
  | emptySource
  | refusedSource (flaw : Regex.Flaw)
  | cannotCombine (owner : String)
  | headersNotAMapping (kind : String)
  | headerNotText (shown : Text)
  | noLocation
  | destNotText (kind : String)
  | statusNotInteger (kind : String)
  | notARedirectStatus (status : Int)
  | notBoolean (kind : String)
  deriving Repr

/-- Texts in quotes, with a comma and a blank between neighbours. -/
def quotedNames (names : List Text) : Text := Value.commaSeparated (names.map Text.quoted)

/-- The message of a reason. -/
def Reason.message : Reason → Text
  | notAMapping kind => s!"route must be a mapping, got {kind}".text
  | fieldNotText shown => "field names must be strings, got ".text ++ shown
  | unknownFields names => "unknown field(s): ".text ++ quotedNames names
  | handleWith names => "handle routes cannot set ".text ++ quotedNames names
  | unknownPhase shown =>
    "unknown handle ".text ++ shown ++ " (expected one of [".text ++ quotedNames phases ++ "])".text
  | repeatedPhase phase => "handle ".text ++ Text.quoted phase ++ " appears more than once".text
  | neitherHandleNorSource => "a route must set either 'handle' or 'src'".text
  | noKind => "a route must set one of 'dest', 'status' or 'continue'".text
  | emptySource => "must be a non-empty string".text
  | refusedSource flaw => flaw.message
  | cannotCombine owner => s!"cannot be combined with '{owner}'".text
  | headersNotAMapping kind => s!"must be a mapping, got {kind}".text
  | headerNotText shown => "header ".text ++ shown ++ " must map a string to a string".text
  | noLocation => "redirect routes need a 'Location' header".text
  | destNotText kind => s!"must be a string, got {kind}".text
  | statusNotInteger kind => s!"must be an integer, got {kind}".text
  | notARedirectStatus status =>
    let statuses := ", ".intercalate (redirectStatuses.map toString)
    s!"{status} is not a redirect status (expected one of [{statuses}])".text
  | notBoolean kind => s!"must be a boolean, got {kind}".text

/-- A reason, and the field that it concerns. -/
structure Problem where
  reason : Reason
  field : Option Text
  deriving Repr

/-- An invalid entry, with its position when it stands in a table. -/
structure Invalid where
  reason : Reason
  index : Option Nat
  field : Option Text
  deriving Repr

/-- The message: the entry and the field, as far as they are known, and the
reason. -/
def Invalid.message (e : Invalid) : Text :=
  let place := match e.index with
    | some i => s!"routes[{i}]".text
    | none => []
  let place := match e.field with
    | some f => if place = [] then f else place ++ scalar '.' :: f
    | none => place
  if place = [] then e.reason.message else place ++ ": ".text ++ e.reason.message

/-- Why an entry is not read as a route. -/
inductive Failure where
  | invalid (problem : Problem)
  /-- Its data cannot be used as their place asks. -/
  | fault (fault : Value.Fault)
  /-- The engine fails on its source. -/
  | regex (breakdown : Regex.Breakdown)
  deriving Repr

end Route
end RouteTable
