/-
# Classes of characters

Letters, digits, blanks, printable characters and identifiers, read off the
general category.  Identifiers start with a letter, a letter number or `_`, and
go on with those, marks, decimal digits and connectors; the few characters that
the standard adds to or takes from that rule are listed by name.
-/

import RouteTable.Text.CategoryTable

namespace RouteTable
namespace Text

/-- A letter of any script. -/
def isLetter (c : CodePoint) : Bool :=
  if c.toNat < 0x80 then c.isAlpha else (Category.of c).isLetter

/-- A decimal digit of any script. -/
def isDecimalDigit (c : CodePoint) : Bool :=
  if c.toNat < 0x80 then c.isDigit else Category.of c == .nd

/-- The value of a decimal digit: the ten digits of a script stand in a row from
zero, and rows that touch, as in the mathematical alphabets, follow each other in
tens. -/
def decimalDigitValue? (c : CodePoint) : Option Nat :=
  match Run.find? c.toNat (CategoryTable.part c.toNat) with
  | some (.of first _ .nd) => some ((c.toNat - first) % 10)
  | _ => none

/-- A letter or a number of any script, or `_`. -/
def isWordChar (c : CodePoint) : Bool :=
  if c.toNat < 0x80 then c.isAlphanum || c == '_'
  else (Category.of c).isLetter || (Category.of c).isNumber

/-- White space: the separators, and the control characters that move the
position or separate records. -/
def isBlank (c : CodePoint) : Bool :=
  let n := c.toNat
  (0x09 ≤ n && n ≤ 0x0D) || (0x1C ≤ n && n ≤ 0x20) || n == 0x85 || n == 0xA0 || n == 0x1680
    || (0x2000 ≤ n && n ≤ 0x200A) || n == 0x2028 || n == 0x2029 || n == 0x202F || n == 0x205F
    || n == 0x3000

/-- A character that shows as itself: the plain space, and whatever is neither a
separator nor invisible. -/
def isPrintable (c : CodePoint) : Bool :=
  if c.toNat < 0x7F then 0x20 ≤ c.toNat else !(Category.of c).isInvisible

/-- Characters that neither start nor continue an identifier, although their
category would let them. -/
def notInIdentifiers : List Nat :=
  [0x37A, 0x2E2F, 0xFC5E, 0xFC5F, 0xFC60, 0xFC61, 0xFC62, 0xFC63, 0xFDFA, 0xFDFB,
   0xFE70, 0xFE72, 0xFE74, 0xFE76, 0xFE78, 0xFE7A, 0xFE7C, 0xFE7E]

/-- A character that an identifier may start with. -/
def startsIdentifier (c : CodePoint) : Bool :=
  let n := c.toNat
  if n < 0x80 then c.isAlpha || c == '_'
  else if [0x1885, 0x1886, 0x2118, 0x212E].contains n then true
  else if (0xE33 :: 0xEB3 :: 0xFF9E :: 0xFF9F :: notInIdentifiers).contains n then false
  else (Category.of c).isLetter || Category.of c == .nl

/-- A character that an identifier may go on with. -/
def continuesIdentifier (c : CodePoint) : Bool :=
  let n := c.toNat
  if n < 0x80 then c.isAlphanum || c == '_'
  else if (0x1369 ≤ n ∧ n ≤ 0x1371) ∨ [0xB7, 0x387, 0x19DA, 0x2118, 0x212E].contains n then true
  else if notInIdentifiers.contains n then false
  else match Category.of c with
    | .mn | .mc | .nd | .nl | .pc => true
    | k => k.isLetter

/-- An identifier: one starting character, then continuing ones. -/
def isIdentifier : Text → Bool
  | [] => false
  | c :: t => startsIdentifier c && t.all continuesIdentifier

end Text
end RouteTable
