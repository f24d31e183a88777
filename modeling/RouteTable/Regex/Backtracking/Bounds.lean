/-
# Repetitions

How often what precedes is repeated: `?`, `*`, `+`, or numbers in braces.  Braces
that hold anything else are no repetition.  A `?` after it makes the repetition
lazy, a `+` possessive.
-/

import RouteTable.Regex.Node
import RouteTable.Regex.Backtracking.Symbol
import RouteTable.Text.Numeral

namespace RouteTable
namespace Regex
namespace Backtracking

/-- The least number that bounds no repetition. -/
def endOfBounds : Nat := 4294967295

/-- How often something is repeated. -/
structure Bounds where
  least : Nat
  greatest : Option Nat
  deriving DecidableEq, Repr

namespace Bounds

/-- The bound that digits write; no digits write none. -/
def ofDigits (digits : Text) : Except Fault (Option Nat) :=
  let n := Text.numeral 10 digits
  if digits = [] then .ok none
  else if maxNumeralLength < digits.length then .error (.numeralTooLong digits.length)
  else if endOfBounds ≤ n then .error .boundTooLarge
  else .ok (some n)

/-- The bounds between braces, without what is checked of them. -/
def split? (rest : Symbols) : Option ((Text × Text) × Symbols) :=
  let (low, after) := readWhile CodePoint.isDigit rest.length rest
  let ((low, high), after) := match after with
    | .plain ',' :: after =>
      let (high, after) := readWhile CodePoint.isDigit after.length after
      ((low, high), after)
    | after => ((low, low), after)
  match after with
  | .plain '\x7d' :: after => if taken rest after = 1 then none else some ((low, high), after)
  | _ => none

/-- The bounds whose opening brace is read. -/
def readBraces? (rest : Symbols) : Except Fault (Option (Bounds × Symbols)) :=
  match split? rest with
  | none => .ok none
  | some ((low, high), after) => do
    if after = [.dangling] then failAtBackslash
    let least := (← ofDigits low).getD 0
    let greatest ← ofDigits high
    if greatest.any (· < least) then failAt (left rest) .leastOverGreatest after
    return some (⟨least, greatest⟩, after)

/-- The bounds that start with a character, if it starts any. -/
def read? (c : CodePoint) (rest : Symbols) : Except Fault (Option (Bounds × Symbols)) :=
  match c with
  | '?' => .ok (some (⟨0, some 1⟩, rest))
  | '*' => .ok (some (⟨0, none⟩, rest))
  | '+' => .ok (some (⟨1, none⟩, rest))
  | '\x7b' => readBraces? rest
  | _ => .ok none

end Bounds

/-- The greed that is told after bounds. -/
def readGreed : Symbols → Greed × Symbols
  | .plain '?' :: rest => (.lazy, rest)
  | .plain '+' :: rest => (.possessive, rest)
  | rest => (.greedy, rest)

end Backtracking
end Regex
end RouteTable
