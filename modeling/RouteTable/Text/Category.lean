/-
# General categories

The general category of a code point is one of thirty two-letter classes, such
as `Lu` for upper-case letters or `Cf` for invisible format characters.  A table
of the standard is a list of runs of code points; where upper and lower case
letters alternate, one run covers the whole stretch.
-/

import RouteTable.Text.Basic

namespace RouteTable
namespace Text

/-- The general category of a code point, by its two-letter abbreviation. -/
inductive Category where
  | lu | ll | lt | lm | lo
  | mn | mc | me
  | nd | nl | no
  | pc | pd | ps | pe | pi | pf | po
  | sm | sc | sk | so
  | zs | zl | zp
  | cc | cf | cs | co | cn
  deriving DecidableEq, Repr

namespace Category

/-- The categories of letters. -/
def isLetter : Category → Bool
  | lu | ll | lt | lm | lo => true
  | _ => false

/-- The categories of numbers. -/
def isNumber : Category → Bool
  | nd | nl | no => true
  | _ => false

/-- The categories of separators and of characters that show nothing by
themselves. -/
def isInvisible : Category → Bool
  | zs | zl | zp | cc | cf | cs | co | cn => true
  | _ => false

end Category

/-- A run of code points in a table of categories. -/
inductive Run where
  /-- Every code point from `first` to `last` has the category. -/
  | of (first last : Nat) (category : Category)
  /-- Upper and lower case letters in turn, from an upper case `first`. -/
  | cased (first last : Nat)
  deriving Repr

namespace Run

/-- Whether the run covers a code point. -/
def covers (n : Nat) : Run → Bool
  | of first last _ => first ≤ n && n ≤ last
  | cased first last => first ≤ n && n ≤ last

/-- The category of a code point that the run covers. -/
def category (n : Nat) : Run → Category
  | of _ _ category => category
  | cased first _ => if (n - first) % 2 = 0 then .lu else .ll

/-- The run of a table that covers a code point. -/
def find? (n : Nat) (runs : List Run) : Option Run := runs.find? (covers n)

end Run
end Text
end RouteTable
