/-
# Escapes

What a backslash and a character stand for, in a set and out of it:

| escape | stands for |
| --- | --- |
| `\a` `\f` `\n` `\r` `\t` `\v` `\\` | a control character, the backslash |
| `\xHH` `\uHHHH` `\UHHHHHHHH` | the code point of the hexadecimal digits |
| `\N{…}` | the character of a name |
| `\d` `\s` `\w` and `\D` `\S` `\W` | a class, and what is not in it |
| `\0`, three octal digits | the code point of the octal digits |
| `\A` `\Z` `\b` `\B` | an anchor; in a set, `\b` is the backspace |
| `\1` to `\99` | what a group has captured |

Other letters have no meaning, and all other characters stand for themselves.
-/

import RouteTable.Text.CharacterName
import RouteTable.Text.Numeral
import RouteTable.Regex.Node
import RouteTable.Regex.Backtracking.Symbol

namespace RouteTable
namespace Regex
namespace Backtracking

/-- An octal digit. -/
def isOctalDigit (c : CodePoint) : Bool := '0' ≤ c && c ≤ '7'

/-- A hexadecimal digit. -/
def isHexDigit (c : CodePoint) : Bool := (Text.hexDigit? c).isSome

namespace Escape

/-- The code point of a letter that stands for a control character, or of the
backslash. -/
def control? : CodePoint → Option Nat
  | 'a' => some 7
  | 'f' => some 12
  | 'n' => some 10
  | 'r' => some 13
  | 't' => some 9
  | 'v' => some 11
  | '\\' => some 92
  | _ => none

/-- The class of a letter. -/
def class? : CodePoint → Option SetItem
  | 'd' => some (.charClass .digit false)
  | 'D' => some (.charClass .digit true)
  | 's' => some (.charClass .blank false)
  | 'S' => some (.charClass .blank true)
  | 'w' => some (.charClass .word false)
  | 'W' => some (.charClass .word true)
  | _ => none

/-- The code point that hexadecimal digits write, `count` of them. -/
def readHex (count : Nat) (c : CodePoint) (rest : Symbols) : Except Fault (Nat × Symbols) :=
  let (digits, after) := readWhile isHexDigit count rest
  let written := scalar '\\' :: c :: digits
  if digits.length < count then fail (.incompleteEscape written) after written.length
  else if 0x10FFFF < Text.numeral 16 digits then fail (.badEscape written) after written.length
  else .ok (Text.numeral 16 digits, after)

/-- The code point of a character that is named in braces. -/
def readNamed : Symbols → Except Fault (Nat × Symbols)
  | .plain '\x7b' :: rest => do
    let (name, after) ← readUntil '\x7d' "character name" rest
    match Text.codeNamed? name with
    | some n => return (n, after)
    | none => fail (.undefinedCharacter name) after (name.length + 4)
  | rest => fail .missingBrace rest 0

/-- The code point of an escape that spells it out by digits or by a name. -/
def spelled? (c : CodePoint) (rest : Symbols) : Option (Except Fault (Nat × Symbols)) :=
  match c with
  | 'x' => some (readHex 2 c rest)
  | 'u' => some (readHex 4 c rest)
  | 'U' => some (readHex 8 c rest)
  | 'N' => some (readNamed rest)
  | _ => none

/-- The code point of octal digits, which `after` follows; a byte has at most 255. -/
def octal (digits : Text) (after : Symbols) : Except Fault (Nat × Symbols) :=
  if 0xFF < Text.numeral 8 digits then
    fail (.octalTooLarge ('\\' :: digits)) after (digits.length + 1)
  else .ok (Text.numeral 8 digits, after)

/-- The code point of a character that stands for itself. -/
def itself (c : CodePoint) (rest : Symbols) : Except Fault (Nat × Symbols) :=
  if c.isAlphanum then fail (.badEscape ['\\', c]) rest 2 else .ok (c.toNat, rest)

/-- What the escape of `c` names in a set. -/
def readInSet (c : CodePoint) (rest : Symbols) : Except Fault (SetItem × Symbols) :=
  match class? c with
  | some k => .ok (k, rest)
  | none => Except.map (fun (n, after) => (.code n, after)) <|
    if c = 'b' then .ok (8, rest)
    else if let some n := control? c then .ok (n, rest)
    else if let some read := spelled? c rest then read
    else if isOctalDigit c then
      let (digits, after) := readWhile isOctalDigit 2 rest
      octal (c :: digits) after
    else itself c rest

end Escape

/-- What an escape stands for outside sets. -/
inductive Escape where
  | item (i : SetItem)
  | anchor (a : Anchor)
  /-- What a group has captured; the escape has `length` characters. -/
  | reference (group length : Nat)
  deriving DecidableEq, Repr

namespace Escape

/-- The anchor of a letter. -/
def anchor? (ascii : Bool) : CodePoint → Option Anchor
  | 'A' => some (.start false)
  | 'Z' => some .veryEnd
  | 'b' => some (.wordBoundary false ascii)
  | 'B' => some (.wordBoundary true ascii)
  | _ => none

/-- The digits of a reference or of an octal number, of which `first` is read:
three octal digits are an octal number. -/
def readDigits (first : CodePoint) (rest : Symbols) : Except Fault (Escape × Symbols) :=
  let (second, after) := readWhile CodePoint.isDigit 1 rest
  match if (first :: second).all isOctalDigit && !second.isEmpty then
      readWhile isOctalDigit 1 after else ([], after) with
  | ([], _) => .ok (.reference (Text.numeral 10 (first :: second)) (second.length + 2), after)
  | (third, after) =>
    (octal (first :: second ++ third) after).map fun (n, after) => (.item (.code n), after)

/-- What the escape of `c` stands for outside sets. -/
def read (ascii : Bool) (c : CodePoint) (rest : Symbols) : Except Fault (Escape × Symbols) :=
  if let some a := anchor? ascii c then .ok (.anchor a, rest)
  else if let some k := class? c then .ok (.item k, rest)
  else if c.isDigit && c != '0' then readDigits c rest
  else Except.map (fun (n, after) => (.item (.code n), after)) <|
    if let some n := control? c then .ok (n, rest)
    else if let some read := spelled? c rest then read
    else if c = '0' then
      let (digits, after) := readWhile isOctalDigit 2 rest
      octal (c :: digits) after
    else itself c rest

end Escape

end Backtracking
end Regex
end RouteTable
