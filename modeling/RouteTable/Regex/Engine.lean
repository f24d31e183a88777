/-
# Engines

An engine accepts an expression or has a complaint: it refuses the expression, or fails on it
with no word about what is wrong.  A route's source is checked by one of two engines, named `re`
and `re2`.

The first one is the backtracking engine, which reads an expression by going down into its
parentheses, and may come to an end of the stack there.  The second runs in linear time.  How far
the stack reaches, and what the second engine says, is settled outside of this library: a `Runtime`
stands for both, and what is relied on of it is written down (`Runtime.HasRoom`,
`Runtime.LinearAsDocumented`).
-/

import RouteTable.Regex.Backtracking.Parser
import RouteTable.Regex.Syntax
import RouteTable.Text.Utf8

namespace RouteTable
namespace Regex

/-- What is wrong with an expression that an engine refuses. -/
inductive Flaw where
  | backtracking (cause : Backtracking.Cause) (place : Option Backtracking.Place)
  /-- The linear engine tells it in words of its own, as bytes. -/
  | linear (words : List UInt8)
  deriving DecidableEq, Repr

/-- The message of a flaw. -/
def Flaw.message : Flaw → Text
  | backtracking cause place =>
    "invalid regular expression: ".text ++ (Backtracking.Error.malformed cause place).message
  | linear words => "invalid RE2 regular expression: ".text ++ Text.quotedBytes words

/-- How an engine fails on an expression that it does not refuse. -/
inductive Breakdown where
  | backtracking (error : Backtracking.Error)
  /-- The nesting of the expression exhausts the stack. -/
  | stack (message : Text)
  /-- The linear engine fails with an error of a kind. -/
  | linear (kind : String) (message : Text)
  deriving DecidableEq, Repr

/-- The message of a breakdown. -/
def Breakdown.message : Breakdown → Text
  | backtracking e => e.message
  | stack message => message
  | linear _ message => message

/-- What an engine has against an expression. -/
inductive Complaint where
  /-- It is no expression of the engine's dialect. -/
  | refused (flaw : Flaw)
  /-- The engine fails on it. -/
  | broken (breakdown : Breakdown)
  deriving DecidableEq, Repr

/-- An engine, as far as routes are concerned. -/
structure Engine where
  /-- What the engine has against an expression, if anything. -/
  check : Text → Except Complaint Unit

/-- What the linear engine says to an expression. -/
inductive Answer where
  | accepted
  | refused (words : List UInt8)
  /-- It fails with an error of another kind. -/
  | failed (kind : String) (message : Text)
  deriving DecidableEq, Repr

/-- What engines depend on that is settled outside. -/
structure Runtime where
  /-- The edition of the backtracking engine. -/
  edition : Backtracking.Edition
  /-- The message, if the nesting of an expression exhausts the stack. -/
  exhausted? : Text → Option Text
  /-- The linear engine. -/
  answer : Text → Answer

namespace Runtime

/-- The depth of parentheses that the stack has room for. -/
def roomyDepth : Nat := 100

/-- The stack has room for expressions that are not deep. -/
def HasRoom (rt : Runtime) : Prop := ∀ t, IsExpression roomyDepth t → rt.exhausted? t = none

/-- The words for an expression whose program is beyond the linear engine's budget. -/
def tooLarge : List UInt8 := Text.toBytes "pattern too large - compile failed".text

/-- The length of expressions that are within the linear engine's budget. -/
def modestLength : Nat := 100

/-- The linear engine does what its documentation says: it reads the shared syntax, within its
budget; and it is given the bytes of an expression, and fails where there are none. -/
structure LinearAsDocumented (rt : Runtime) : Prop where
  reads : ∀ t, IsExpression roomyDepth t → t.IsEncodable →
    rt.answer t = .accepted ∨ rt.answer t = .refused tooLarge
  fits : ∀ t, IsExpression roomyDepth t → t.length ≤ modestLength → rt.answer t ≠ .refused tooLarge
  encodes : ∀ t, ¬ t.IsEncodable → ∃ message, rt.answer t = .failed "UnicodeEncodeError" message
  answers : ∀ t kind message, rt.answer t = .failed kind message → ¬ t.IsEncodable

end Runtime

namespace Engine

/-- The backtracking engine. -/
def backtracking (rt : Runtime) : Engine where
  check expression :=
    match rt.exhausted? expression with
    | some message => .error (.broken (.stack message))
    | none =>
      match Backtracking.parse rt.edition expression with
      | .ok _ => .ok ()
      | .error (.malformed cause place) => .error (.refused (.backtracking cause place))
      | .error e => .error (.broken (.backtracking e))

/-- The linear engine. -/
def linear (rt : Runtime) : Engine where
  check expression :=
    match rt.answer expression with
    | .accepted => .ok ()
    | .refused words => .error (.refused (.linear words))
    | .failed kind message => .error (.broken (.linear kind message))

/-- The engine of a name. -/
def ofName? (rt : Runtime) (name : Text) : Option Engine :=
  if name = "re".text then some (backtracking rt)
  else if name = "re2".text then some (linear rt)
  else none

end Engine

end Regex
end RouteTable
