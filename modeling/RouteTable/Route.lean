/-
# Routes

The entries of a route table.  Each kind has a fixed shape in the table's wire
form, which is a map:

| route | wire fields |
| --- | --- |
| redirect | `src`, `headers`, `status` |
| rewrite | `src`, `dest`, and `check`, which is left out unless it holds |
| headers | `src`, `headers`, `continue` |
| handle | `handle` |

`src` is a regular expression; references to its capture groups stand in
`headers` and `dest` only.
-/

import RouteTable.Value

namespace RouteTable

/-- Headers with their values, in the order of insertion. -/
abbrev Headers := List (Text × Text)

namespace Headers

/-- The headers with a value assigned to a key: an old key keeps its place, a new
one comes last. -/
def assign (key value : Text) : Headers → Headers
  | [] => [(key, value)]
  | (k, v) :: hs => if k = key then (k, value) :: hs else (k, v) :: assign key value hs

/-- The headers that assignments, one after the other, give. -/
def ofList (pairs : List (Text × Text)) : Headers :=
  pairs.foldl (fun hs (k, v) => assign k v hs) []

/-- The headers as the entries of a map. -/
def toEntries (hs : Headers) : List (Value × Value) :=
  hs.map fun (k, v) => (.text k, .text v)

end Headers

/-- The status of a redirect that names none: moved for good. -/
def defaultStatus : Int := 308

/-- The statuses of a redirect. -/
def redirectStatuses : List Int := [301, 302, 303, 307, 308]

/-- The phase in which files are looked up. -/
def filesystemPhase : Text := "filesystem".text

/-- The phases that a route may mark. -/
def phases : List Text := [filesystemPhase]

/-- A route. -/
inductive Route where
  /-- Answer with the status and the headers. -/
  | redirect (src : Text) (headers : Headers) (status : Value)
  /-- Serve `dest` instead, after a look whether something is there if `check`
  holds. -/
  | rewrite (src dest : Text) (check : Bool)
  /-- Attach the headers, and go on with later routes if `goOn` holds. -/
  | headers (src : Text) (headers : Headers) (goOn : Bool)
  /-- The routes that follow belong to the phase. -/
  | handle (phase : Text)

namespace Route

/-- The route as a value. -/
def toValue : Route → Value
  | redirect src hs status => .redirectRoute (.text src) (.map hs.toEntries) status
  | rewrite src dest check => .rewriteRoute (.text src) (.text dest) (.bool check)
  | headers src hs goOn => .headerRoute (.text src) (.map hs.toEntries) (.bool goOn)
  | handle phase => .handleRoute (.text phase)

/-- The route as it goes over the wire. -/
def wire : Route → List (Value × Value)
  | redirect src hs status =>
    [(.text "src".text, .text src), (.text "headers".text, .map hs.toEntries),
      (.text "status".text, status)]
  | rewrite src dest check =>
    (.text "src".text, .text src) :: (.text "dest".text, .text dest) ::
      (if check then [(.text "check".text, .bool true)] else [])
  | headers src hs goOn =>
    [(.text "src".text, .text src), (.text "headers".text, .map hs.toEntries),
      (.text "continue".text, .bool goOn)]
  | handle phase => [(.text "handle".text, .text phase)]

end Route

namespace Value

/-- The wire form of a value that is a route, its fields unchecked. -/
def routeWire? : Value → Option (Except Fault (List (Value × Value)))
  | redirectRoute src headers status => some do
    return [(text "src".text, src), (text "headers".text, ← headers.toMap),
      (text "status".text, status)]
  | rewriteRoute src dest check =>
    some <| .ok <| (text "src".text, src) :: (text "dest".text, dest) ::
      (if check.isTrue then [(text "check".text, bool true)] else [])
  | headerRoute src headers goOn => some do
    return [(text "src".text, src), (text "headers".text, ← headers.toMap),
      (text "continue".text, goOn)]
  | handleRoute handle => some (.ok [(text "handle".text, handle)])
  | _ => none

end Value

/-- A route as a value has the wire form of the route. -/
theorem Route.routeWire?_toValue (r : Route) : r.toValue.routeWire? = some (.ok r.wire) := by
  cases r <;> rfl

end RouteTable
