/-
# What can be wrong with a source pattern

A `Fault` is a reason and the offset where it shows; three reasons concern the
source as a whole and have no offset.  An `Error` is a fault with the source, and
with the position of the rule that the source belongs to, when it belongs to one.
-/

import RouteTable.Text.Quoted
import RouteTable.Pattern.Segment

namespace RouteTable
namespace Pattern

/-- The classes of tokens, and the end of the source. -/
inductive TokenClass where
  | char | escapedChar | modifier | name | body | opening | closing | ending
  deriving DecidableEq, Repr

/-- The word for a class of tokens in messages. -/
def TokenClass.word : TokenClass → String
  | char => "CHAR"
  | escapedChar => "ESCAPED_CHAR"
  | modifier => "MODIFIER"
  | name => "NAME"
  | body => "PATTERN"
  | opening => "OPEN"
  | closing => "CLOSE"
  | ending => "END"

/-- Why a source pattern is refused. -/
inductive Reason where
  | emptySource
  | sourceTooLong (length limit : Nat)
  | duplicateName (name : Text)
  | danglingEscape
  | missingName
  | leadingQuestionMark
  | nestedCapture
  | unbalancedBody
  | emptyBody
  | unexpected (found expected : TokenClass)
  deriving DecidableEq, Repr

/-- The message of a reason. -/
def Reason.message : Reason → Text
  | emptySource => "source pattern is empty".text
  | sourceTooLong length limit => s!"pattern length {length} exceeds maximum {limit}".text
  | duplicateName name => "duplicate parameter name ".text ++ Text.quoted name
  | danglingEscape => "dangling escape character".text
  | missingName => "missing parameter name".text
  | leadingQuestionMark => "pattern cannot start with \"?\"".text
  | nestedCapture => "capturing groups are not allowed inside a pattern".text
  | unbalancedBody => "unbalanced pattern".text
  | emptyBody => "missing pattern".text
  | unexpected found expected => s!"unexpected {found.word}, expected {expected.word}".text

/-- A reason, and the offset in the source where it shows. -/
structure Fault where
  reason : Reason
  position : Option Nat
  deriving DecidableEq, Repr

/-- A refused source pattern. -/
structure Error where
  source : Text
  reason : Reason
  position : Option Nat
  /-- The position of the rule whose source it is. -/
  rule : Option Nat
  deriving DecidableEq, Repr

namespace Error

/-- The fault of a source that belongs to no rule. -/
def ofFault (source : Text) (f : Fault) : Error := ⟨source, f.reason, f.position, none⟩

/-- The same error, of the source of the rule at a position. -/
def atRule (index : Nat) (e : Error) : Error := { e with rule := some index }

/-- The message: the rule, the source, the reason and the offset. -/
def message (e : Error) : Text :=
  let place := match e.rule with
    | some i => s!"rule {i}: "
    | none => ""
  let offset := match e.position with
    | some p => s!" at {p}"
    | none => ""
  place.text ++ "invalid source ".text ++ Text.quoted e.source ++ ": ".text ++ e.reason.message
    ++ offset.text

end Error
end Pattern
end RouteTable
