/-
# Reading routes

An entry of a table is a route, or a map in the wire form of one.  It is accepted
in exactly four shapes:

| fields | route |
| --- | --- |
| `handle` | handle |
| `src`, `headers`, `continue` | headers |
| `src`, `dest`, and `check` or not | rewrite |
| `src`, `headers`, `status` | redirect |

A source is anchored where it is not: `^` is put in front and `$` behind.  A
redirect has a `Location` among its headers, in whatever case.
-/

import RouteTable.Outcome
import RouteTable.Route.Invalid

namespace RouteTable
namespace Route

/-- The fields of an entry. -/
abbrev Fields := List (Text × Value)

namespace Fields

/-- The value of a field. -/
def get? (fs : Fields) (name : String) : Option Value := (fs.find? (·.1 == name.text)).map (·.2)

/-- Whether a field is set. -/
def has (fs : Fields) (name : String) : Bool := (fs.get? name).isSome

/-- The names of the fields that are not among some names, sorted. -/
def others (fs : Fields) (names : List String) : List Text :=
  ((fs.map (·.1)).filter fun n => !(names.map String.text).contains n).mergeSort Text.isAtMost

end Fields

/-- The names of all fields. -/
def fieldNames : List String := ["src", "dest", "headers", "status", "check", "continue", "handle"]

/-- An entry that is refused because of one of its fields. -/
def refuse {α : Type} (field : String) (reason : Reason) : Except Failure α :=
  .error (.invalid ⟨reason, some field.text⟩)

/-- An entry that is refused in words that show a value, if these can be found. -/
def refuseShowing {α : Type} (field : Option Text) (v : Value) (reason : Text → Reason) :
    Except Failure α :=
  match v.shown with
  | .ok shown => .error (.invalid ⟨reason shown, field⟩)
  | .error fault => .error (.fault fault)

/-- The entries of a map as fields: every key is a text. -/
def toFields : List (Value × Value) → Except Failure Fields
  | [] => .ok []
  | (.text t, v) :: es => (toFields es).map ((t, v) :: ·)
  | (k, _) :: _ => refuseShowing none k .fieldNotText

/-- The source with an anchor at each end. -/
def anchor (src : Text) : Text :=
  let src := if src.head? = some (scalar '^') then src else '^' :: src
  if src.getLast? = some (scalar '$') then src else src ++ [scalar '$']

/-- A source, anchored and accepted by the engine. -/
def readSource (engine : Regex.Engine) : Value → Except Failure Text
  | .text (c :: t) =>
    let src := anchor (c :: t)
    match engine.check src with
    | .ok () => .ok src
    | .error (.refused flaw) => refuse "src" (.refusedSource flaw)
    | .error (.broken b) => .error (.regex b)
  | _ => refuse "src" .emptySource

/-- The headers of a map from texts to texts. -/
def toHeaders : List (Value × Value) → Except Failure Headers
  | [] => .ok []
  | (.text k, .text v) :: es => (toHeaders es).map ((k, v) :: ·)
  | (k, _) :: _ => refuseShowing (some "headers".text) k .headerNotText

/-- The headers of an entry. -/
def readHeaders (fs : Fields) : Except Failure Headers :=
  match (fs.get? "headers").getD .null with
  | .map es => toHeaders es
  | v => refuse "headers" (.headersNotAMapping v.kind)

/-- A switch of an entry. -/
def readSwitch (field : String) : Value → Except Failure Bool
  | .bool b => .ok b
  | v => refuse field (.notBoolean v.kind)

/-- The `check` of a rewrite, which is off if it is not set. -/
def readCheck (fs : Fields) : Except Failure Bool :=
  match fs.get? "check" with
  | some v => readSwitch "check" v
  | none => .ok false

/-- The status of a redirect. -/
def readStatus : Value → Except Failure Int
  | .int n =>
    if n ∈ redirectStatuses then .ok n
    else refuseShowing (some "status".text) (.int n) fun _ => .notARedirectStatus n
  | v => refuse "status" (.statusNotInteger v.kind)

/-- Refuses the first of some fields that is set beside another. -/
def forbid (fs : Fields) (owner : String) : List String → Except Failure Unit
  | [] => .ok ()
  | f :: rest => if fs.has f then refuse f (.cannotCombine owner) else forbid fs owner rest

/-- Whether a header is `Location`, in whatever case: no character outside ASCII
is another spelling of one of its letters. -/
def isLocation (key : Text) : Bool := key.map CodePoint.toLower == "location".text

/-- A phase marker. -/
def readHandle (fs : Fields) (marker : Value) : Except Failure Route :=
  match fs.others ["handle"] with
  | first :: rest => .error (.invalid ⟨.handleWith (first :: rest), some first⟩)
  | [] =>
    match marker.unhashable? with
    | some kind => .error (.fault (.unhashable kind))
    | none =>
      match marker with
      | .text phase =>
        if phases.contains phase then .ok (.handle phase)
        else refuseShowing (some "handle".text) marker .unknownPhase
      | _ => refuseShowing (some "handle".text) marker .unknownPhase

/-- The route of fields that are all known. -/
def ofFields (engine : Regex.Engine) (fs : Fields) : Except Failure Route := do
  if let some marker := fs.get? "handle" then
    return ← readHandle fs marker
  let some src := fs.get? "src" | throw (.invalid ⟨.neitherHandleNorSource, none⟩)
  let src ← readSource engine src
  if let some goOn := fs.get? "continue" then
    forbid fs "continue" ["dest", "status", "check"]
    let hs ← readHeaders fs
    return .headers src hs (← readSwitch "continue" goOn)
  if let some dest := fs.get? "dest" then
    forbid fs "dest" ["status", "headers"]
    let .text dest := dest | refuse "dest" (.destNotText dest.kind)
    return .rewrite src dest (← readCheck fs)
  if let some status := fs.get? "status" then
    forbid fs "status" ["check"]
    let hs ← readHeaders fs
    if !hs.any (fun (k, _) => isLocation k) then refuse "headers" .noLocation
    return .redirect src hs (.int (← readStatus status))
  throw (.invalid ⟨.noKind, none⟩)

/-- The route of a wire form. -/
def ofWire (engine : Regex.Engine) (es : List (Value × Value)) : Except Failure Route :=
  match toFields es with
  | .error e => .error e
  | .ok fs =>
    match fs.others fieldNames with
    | first :: rest => .error (.invalid ⟨.unknownFields (first :: rest), some first⟩)
    | [] => ofFields engine fs

/-- The route that an entry is, or is the wire form of. -/
def read (engine : Regex.Engine) (entry : Value) : Except Failure Route :=
  match entry.routeWire? with
  | some (.error f) => .error (.fault f)
  | some (.ok es) => ofWire engine es
  | none =>
    match entry with
    | .map es => ofWire engine es
    | v => .error (.invalid ⟨.notAMapping v.kind, none⟩)

end Route
end RouteTable
