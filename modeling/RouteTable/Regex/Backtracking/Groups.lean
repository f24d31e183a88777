/-
# Groups

Groups that capture are numbered from one in the order of their opening
parentheses, and may be named.  What a group captures can be referred to once it
is closed; what stands behind, only if it was closed before.  The condition of an
alternative may name a group that follows.

Two editions of the engine differ in how a condition may write the number of a group.
-/

import RouteTable.Regex.Backtracking.Symbol
import RouteTable.Regex.Width
import RouteTable.Text.Letters

namespace RouteTable
namespace Regex
namespace Backtracking

/-- The first number that no group can have. -/
def endOfGroups : Nat := 1073741823

/-- The editions of the engine. -/
inductive Edition where
  /-- The number of a group is written as any integer is. -/
  | lenient
  /-- The number of a group is written with digits of ASCII. -/
  | strict
  deriving DecidableEq, Repr

/-- The groups of an expression as far as it is read. -/
structure Groups where
  edition : Edition
  /-- How many are opened. -/
  opened : Nat
  /-- The widths of those that are closed. -/
  widths : List (Nat × Width)
  names : List (Text × Nat)
  /-- Inside what stands behind, how many groups were opened before it. -/
  floor : Option Nat
  /-- The numbers in conditions, each with its first place. -/
  conditions : List (Nat × Nat)
  deriving DecidableEq, Repr

namespace Groups

/-- No groups. -/
def empty (edition : Edition) : Groups := ⟨edition, 0, [], [], none, []⟩

/-- Whether a group is closed. -/
def isClosed (gs : Groups) (index : Nat) : Bool := (gs.widths.lookup index).isSome

/-- Opens a group, whose name is read where `rest` follows. -/
def openGroup (gs : Groups) (name : Option Text) (rest : Symbols) : Except Fault (Nat × Groups) :=
  let index := gs.opened + 1
  match name with
  | none => .ok (index, { gs with opened := index })
  | some t =>
    match gs.names.lookup t with
    | some old => fail (.redefinedGroup t index old) rest (t.length + 1)
    | none => .ok (index, { gs with opened := index, names := (t, index) :: gs.names })

/-- Closes a group of a width. -/
def close (gs : Groups) (index : Nat) (width : Width) : Groups :=
  { gs with widths := (index, width) :: gs.widths }

/-- Refuses, inside what stands behind, a group that was not closed before. -/
def checkFloor (gs : Groups) (index : Nat) (rest : Symbols) : Except Fault Unit :=
  match gs.floor with
  | none => .ok ()
  | some n =>
    if !gs.isClosed index then fail .openGroup rest 0
    else if n < index then fail .sameLookbehind rest 0
    else .ok ()

/-- Checks a reference by number, written with `length` characters. -/
def checkNumber (gs : Groups) (index length : Nat) (rest : Symbols) : Except Fault Unit :=
  if gs.opened < index then fail (.invalidReference index) rest (length - 1)
  else if !gs.isClosed index then fail .openGroup rest length
  else gs.checkFloor index rest

/-- The group that a reference names. -/
def named (gs : Groups) (name : Text) (rest : Symbols) : Except Fault Nat :=
  match gs.names.lookup name with
  | some index => .ok index
  | none => fail (.unknownGroupName name) rest (name.length + 1)

/-- Checks a reference by name: the group that it names. -/
def checkName (gs : Groups) (name : Text) (rest : Symbols) : Except Fault Nat := do
  let index ← gs.named name rest
  if !gs.isClosed index then fail .openGroup rest (name.length + 1)
  gs.checkFloor index rest
  return index

/-- The number that decimal digits of any script write, single `_` between them
left out. -/
def digitsNumber? : Text → Option Nat
  | [] => none
  | t => go 0 0 t
where
  /-- Reads on, after `count` digits that write `n`. -/
  go (count n : Nat) : Text → Option Nat
    | [] => if maxNumeralLength < count then none else some n
    | '_' :: c :: t =>
      if count = 0 then none
      else (Text.decimalDigitValue? c).bind fun d => go (count + 1) (10 * n + d) t
    | c :: t => (Text.decimalDigitValue? c).bind fun d => go (count + 1) (10 * n + d) t

/-- White space around a number. -/
def isBlankAround (c : CodePoint) : Bool :=
  if c.toNat < 0x80 then c == ' ' || (9 ≤ c.toNat && c.toNat ≤ 13) else Text.isBlank c

/-- The number that is written as an integer, which may have blanks around it and a sign. -/
def integerNumber? (t : Text) : Option Nat :=
  let t := ((t.dropWhile isBlankAround).reverse.dropWhile isBlankAround).reverse
  match t with
  | '+' :: t => digitsNumber? t
  | '-' :: t => (digitsNumber? t).filter (· == 0)
  | t => digitsNumber? t

/-- The number of a condition, which `rest` follows. -/
def conditionNumber (edition : Edition) (t : Text) (rest : Symbols) : Except Fault Nat :=
  match edition with
  | .lenient =>
    match integerNumber? t with
    | some n => .ok n
    | none => fail (.badGroupName t) rest (t.length + 1)
  | .strict =>
    if !t.all CodePoint.isDigit then fail (.badGroupName t) rest (t.length + 1)
    else if maxNumeralLength < t.length then .error (.numeralTooLong t.length)
    else .ok (Text.numeral 10 t)

/-- Checks the condition of an alternative, which `rest` follows: the group that
it names or numbers. -/
def checkCondition (gs : Groups) (t : Text) (rest : Symbols) : Except Fault (Nat × Groups) := do
  let back := t.length + 1
  let (index, gs) ←
    if Text.isIdentifier t then do
      pure (← gs.named t rest, gs)
    else do
      let index ← conditionNumber gs.edition t rest
      if index = 0 then fail .badGroupNumber rest back
      else if endOfGroups ≤ index then fail (.invalidReference index) rest back
      else if (gs.conditions.lookup index).isSome then .ok (index, gs)
      else .ok (index, { gs with conditions := gs.conditions ++ [(index, left rest + back)] })
  gs.checkFloor index rest
  return (index, gs)

/-- Checks, at the end of an expression, that the groups of its conditions
exist. -/
def checkConditions (gs : Groups) : Except Fault Unit :=
  match gs.conditions.find? fun (index, _) => gs.opened < index with
  | some (index, place) => .error (.located (.invalidReference index) place)
  | none => .ok ()

/-- Begins what stands behind. -/
def raiseFloor (gs : Groups) : Groups := { gs with floor := gs.floor <|> some gs.opened }

end Groups

end Backtracking
end Regex
end RouteTable
