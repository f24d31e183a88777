/-
# Failures

Why a whole operation fails, whichever of its parts is at fault.
-/

import RouteTable.Pattern.Error
import RouteTable.Route.Invalid
import RouteTable.Rule

namespace RouteTable

/-- Why an operation fails. -/
inductive Failure where
  /-- A source pattern is refused. -/
  | pattern (error : Pattern.Error)
  /-- A configuration or a rule is none. -/
  | rule (error : Rule.Error)
  /-- An entry of a route table is invalid. -/
  | route (error : Route.Invalid)
  /-- Data cannot be used as their place asks. -/
  | value (fault : Value.Fault)
  /-- An engine fails on an expression. -/
  | regex (breakdown : Regex.Breakdown)
  /-- There is no engine of the name. -/
  | unknownEngine (name : Text)
  /-- The wire form of a route has no source. -/
  | sourceMissing
  /-- A value of the kind never has a source. -/
  | sourceless (kind : String)
  /-- The source of a route is no text. -/
  | sourceNotText

namespace Failure

/-- The message of a failure. -/
def message : Failure → Text
  | pattern e => e.message
  | rule e => e.message.text
  | route e => e.message
  | value f => f.message.text
  | regex b => b.message
  | unknownEngine name => "unknown regex engine: ".text ++ Text.quoted name
  | sourceMissing => "'src'".text
  | sourceless kind => s!"'{kind}' object has no attribute 'src'".text
  | sourceNotText => "first argument must be string or compiled pattern".text

/-- The failure of an entry at a position of a table, or of an entry alone. -/
def ofEntry (index : Option Nat) : Route.Failure → Failure
  | .invalid p => route ⟨p.reason, index, p.field⟩
  | .fault f => value f
  | .regex b => regex b

end Failure

/-- The engine of a name. -/
def Regex.Engine.named (rt : Regex.Runtime) (name : Text) : Except Failure Regex.Engine :=
  match Regex.Engine.ofName? rt name with
  | some engine => .ok engine
  | none => .error (.unknownEngine name)

end RouteTable
