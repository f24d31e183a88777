/-
# Character sets

What a single character of an expression matches: the characters in some ranges
and classes, or those that are in none of them.  Case may be ignored, and the
classes of digits, blanks and word characters may be narrowed to ASCII.
-/

import RouteTable.Text.LetterCase
import RouteTable.Text.Letters

namespace RouteTable
namespace Regex

/-- A class that has an escape of its own. -/
inductive CharClass where
  | digit | blank | word
  deriving DecidableEq, Repr

/-- Whether a character is in a class, among all characters or in ASCII only. -/
def CharClass.contains (ascii : Bool) (k : CharClass) (c : CodePoint) : Bool :=
  if ascii && 0x80 ≤ c.toNat then false
  else match k with
    | digit => Text.isDecimalDigit c
    | blank => if ascii then (9 ≤ c.toNat && c.toNat ≤ 13) || c == ' ' else Text.isBlank c
    | word => Text.isWordChar c

/-- What a set names: the code points of a range, or a class or what is not in
it. -/
inductive SetItem where
  | range (first last : Nat)
  | charClass (k : CharClass) (negated : Bool)
  deriving DecidableEq, Repr

namespace SetItem

/-- A single code point. -/
def code (n : Nat) : SetItem := range n n

/-- Whether the item names a character. -/
def contains (ascii : Bool) (c : CodePoint) : SetItem → Bool
  | range first last => first ≤ c.toNat && c.toNat ≤ last
  | charClass k negated => k.contains ascii c != negated

/-- Whether the item names a character or, of a range, one that is the same when
case is ignored. -/
def containsIgnoringCase (ascii : Bool) (c : CodePoint) : SetItem → Bool
  | range first last =>
    (if ascii then Text.asciiCaseVariants c.toNat else Text.caseVariants c.toNat).any fun n =>
      first ≤ n && n ≤ last
  | item => item.contains ascii c

end SetItem

/-- A set of characters. -/
structure CharSet where
  negated : Bool
  items : List SetItem
  ignoreCase : Bool
  ascii : Bool
  deriving DecidableEq, Repr

/-- Whether a character is in the set. -/
def CharSet.contains (s : CharSet) (c : CodePoint) : Bool :=
  s.items.any (if s.ignoreCase then SetItem.containsIgnoringCase s.ascii c
    else SetItem.contains s.ascii c) != s.negated

end Regex
end RouteTable
