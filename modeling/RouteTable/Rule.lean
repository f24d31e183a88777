/-
# Rules and configurations

What an author writes: redirects, rewrites and header rules, each with a source
pattern, and a configuration with a section for each kind and two switches.  A
section that is absent differs from one that is empty.

| rule | in a map |
| --- | --- |
| redirect | `source`, `destination`, and `statusCode` or not |
| rewrite | `source`, `destination` |
| header rule | `source`, and `headers`, a list of maps of `key` and `value` |
| configuration | any of `cleanUrls`, `trailingSlash`, `redirects`, `rewrites`, `headers` |

Other keys of the maps are ignored, and a configuration's key with nothing as its
value counts as absent.
-/

import RouteTable.Outcome
import RouteTable.Value

namespace RouteTable

/-- A redirect to a destination.  Its status is nothing for the default; a redirect
that is read from a map has nothing or an integer. -/
structure Redirect where
  source : Text
  destination : Text
  status : Value

/-- A rewrite to a destination. -/
structure Rewrite where
  source : Text
  destination : Text
  deriving DecidableEq, Repr

/-- Headers for what a source matches; keys and values are templates. -/
structure HeaderRule where
  source : Text
  headers : List (Text × Text)
  deriving DecidableEq, Repr

/-- A configuration. -/
structure Config where
  cleanUrls : Option Bool
  trailingSlash : Option Bool
  redirects : Option (List Redirect)
  rewrites : Option (List Rewrite)
  headers : Option (List HeaderRule)

namespace Rule

/-- What a message is about. -/
inductive Subject where
  | redirect | rewrite | headerRule | header
  deriving DecidableEq, Repr

/-- The words for a subject. -/
def Subject.words : Subject → String
  | redirect => "redirect"
  | rewrite => "rewrite"
  | headerRule => "header rule"
  | header => "header"

/-- What a field should hold. -/
inductive Expected where
  | string | integer | boolean | list
  deriving DecidableEq, Repr

/-- The words for what a field should hold. -/
def Expected.words : Expected → String
  | string => "a string"
  | integer => "an integer"
  | boolean => "a boolean"
  | list => "a list"

/-- Why data is no rule or no configuration. -/
inductive Error where
  /-- The configuration is no map. -/
  | configNotAMap (kind : String)
  /-- A part of the configuration is no map. -/
  | notAMap (subject : Subject) (kind : String)
  /-- A field is absent. -/
  | missingField (subject : Subject) (field : String)
  /-- A field of a rule, or of the configuration, holds something else than it
  should. -/
  | wrongField (subject : Option Subject) (field : String) (expected : Expected) (kind : String)
  deriving DecidableEq, Repr

/-- The message of an error. -/
def Error.message : Error → String
  | configNotAMap kind => s!"expected dict, got {kind}"
  | notAMap subject kind => s!"{subject.words} must be a dict, got {kind}"
  | missingField subject field => s!"{subject.words} missing required field '{field}'"
  | wrongField (some subject) field expected kind =>
    s!"{subject.words} '{field}' must be {expected.words}, got {kind}"
  | wrongField none field expected kind => s!"'{field}' must be {expected.words}, got {kind}"

/-- The entries of what should be a map. -/
def entries (subject : Subject) : Value → Except Error (List (Value × Value))
  | .map es => .ok es
  | v => .error (.notAMap subject v.kind)

/-- The value of an entry, where an entry with nothing counts as absent. -/
def present? (es : List (Value × Value)) (field : String) : Option Value :=
  match Value.lookup field.text es with
  | some .null => none
  | v => v

/-- The text of an entry that must be there. -/
def textField (subject : Subject) (es : List (Value × Value)) (field : String) :
    Except Error Text :=
  match Value.lookup field.text es with
  | none => .error (.missingField subject field)
  | some (.text t) => .ok t
  | some v => .error (.wrongField (some subject) field .string v.kind)

/-- A redirect from a map. -/
def readRedirect (v : Value) : Except Error Redirect := do
  let es ← entries .redirect v
  let source ← textField .redirect es "source"
  let destination ← textField .redirect es "destination"
  match present? es "statusCode" with
  | none => return ⟨source, destination, .null⟩
  | some (.int n) => return ⟨source, destination, .int n⟩
  | some w => throw (.wrongField (some .redirect) "statusCode" .integer w.kind)

/-- A rewrite from a map. -/
def readRewrite (v : Value) : Except Error Rewrite := do
  let es ← entries .rewrite v
  let source ← textField .rewrite es "source"
  let destination ← textField .rewrite es "destination"
  return ⟨source, destination⟩

/-- A key and a value from a map. -/
def readHeader (v : Value) : Except Error (Text × Text) := do
  let es ← entries .header v
  let key ← textField .header es "key"
  let value ← textField .header es "value"
  return (key, value)

/-- A header rule from a map. -/
def readHeaderRule (v : Value) : Except Error HeaderRule := do
  let es ← entries .headerRule v
  let source ← textField .headerRule es "source"
  match present? es "headers" with
  | none => throw (.missingField .headerRule "headers")
  | some (.list items) => return ⟨source, ← items.mapM readHeader⟩
  | some w => throw (.wrongField (some .headerRule) "headers" .list w.kind)

/-- A switch of a configuration. -/
def readSwitch (es : List (Value × Value)) (field : String) : Except Error (Option Bool) :=
  match present? es field with
  | none => .ok none
  | some (.bool b) => .ok (some b)
  | some v => .error (.wrongField none field .boolean v.kind)

/-- A section of a configuration, rule by rule. -/
def readSection {α : Type} (read : Value → Except Error α) (es : List (Value × Value))
    (field : String) : Except Error (Option (List α)) :=
  match present? es field with
  | none => .ok none
  | some (.list items) => (items.mapM read).map some
  | some v => .error (.wrongField none field .list v.kind)

/-- A configuration from a map. -/
def readConfig (v : Value) : Except Error Config := do
  let .map es := v | throw (.configNotAMap v.kind)
  let cleanUrls ← readSwitch es "cleanUrls"
  let trailingSlash ← readSwitch es "trailingSlash"
  let redirects ← readSection readRedirect es "redirects"
  let rewrites ← readSection readRewrite es "rewrites"
  let headers ← readSection readHeaderRule es "headers"
  return ⟨cleanUrls, trailingSlash, redirects, rewrites, headers⟩

/-- A redirect: one that was built earlier, or one in a map. -/
def toRedirect : Value → Except Error Redirect
  | .redirect source destination status => .ok ⟨source, destination, status⟩
  | v => readRedirect v

/-- A rewrite: one that was built earlier, or one in a map. -/
def toRewrite : Value → Except Error Rewrite
  | .rewrite source destination => .ok ⟨source, destination⟩
  | v => readRewrite v

/-- A header rule: one that was built earlier, or one in a map. -/
def toHeaderRule : Value → Except Error HeaderRule
  | .headerRule source headers => .ok ⟨source, headers⟩
  | v => readHeaderRule v

end Rule

/-- The redirect as a value. -/
def Redirect.toValue (r : Redirect) : Value := .redirect r.source r.destination r.status

/-- The rewrite as a value. -/
def Rewrite.toValue (r : Rewrite) : Value := .rewrite r.source r.destination

/-- The header rule as a value. -/
def HeaderRule.toValue (r : HeaderRule) : Value := .headerRule r.source r.headers

theorem Rule.toRedirect_toValue (r : Redirect) : Rule.toRedirect r.toValue = .ok r := rfl

theorem Rule.toRewrite_toValue (r : Rewrite) : Rule.toRewrite r.toValue = .ok r := rfl

theorem Rule.toHeaderRule_toValue (r : HeaderRule) : Rule.toHeaderRule r.toValue = .ok r := rfl

end RouteTable
