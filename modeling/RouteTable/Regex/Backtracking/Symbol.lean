/-
# Symbols

An expression is read symbol by symbol: a character, or a backslash with the
character after it.  A backslash that ends the expression is a symbol of its own
that nothing reads.

Places are told by what is left: a `Fault` names the number of characters between
the place and the end of the expression.  Where nothing but a last backslash is
left, that backslash is the fault, whatever else is wrong: `failAt` sees to it.
-/

import RouteTable.Regex.Backtracking.Error

namespace RouteTable
namespace Regex
namespace Backtracking

/-- A symbol of an expression. -/
inductive Symbol where
  | plain (c : CodePoint)
  | escaped (c : CodePoint)
  | dangling
  deriving DecidableEq, Repr

/-- Symbols in order. -/
abbrev Symbols := List Symbol

namespace Symbol

/-- The symbol as it is written. -/
def written : Symbol → Text
  | plain c => [c]
  | escaped c => ['\\', c]
  | dangling => ['\\']

/-- The symbols of a text. -/
def ofText : Text → Symbols
  | [] => []
  | ['\\'] => [dangling]
  | '\\' :: c :: t => escaped c :: ofText t
  | c :: t => plain c :: ofText t

/-- The symbols of a text write the text. -/
theorem flatMap_written_ofText (t : Text) : (ofText t).flatMap written = t := by
  fun_induction ofText t <;> simp_all [written]

end Symbol

/-- The characters that symbols take. -/
def left (ss : Symbols) : Nat := (ss.flatMap Symbol.written).length

/-- Why reading an expression fails. -/
inductive Fault where
  /-- A cause, and how many characters are left at its place. -/
  | located (cause : Cause) (left : Nat)
  /-- A cause without a place. -/
  | unlocated (cause : Cause)
  | boundTooLarge
  | numeralTooLong (digits : Nat)
  | conflictingAlphabets
  deriving DecidableEq, Repr

/-- The error of a fault in an expression. -/
def Fault.toError (expression : Text) : Fault → Error
  | located cause left => .malformed cause (some (Place.of expression (expression.length - left)))
  | unlocated cause => .malformed cause none
  | boundTooLarge => .boundTooLarge
  | numeralTooLong n => .numeralTooLong n
  | conflictingAlphabets => .conflictingAlphabets

/-- Reading comes to a backslash that ends the expression. -/
def failAtBackslash {α : Type} : Except Fault α := .error (.located .danglingEscape 1)

/-- A fault at a place, found where some symbols follow. -/
def failAt {α : Type} (place : Nat) (cause : Cause) (following : Symbols) : Except Fault α :=
  if following = [.dangling] then failAtBackslash else .error (.located cause place)

/-- A fault whose place is `back` characters before the symbols that follow. -/
def fail {α : Type} (cause : Cause) (following : Symbols) (back : Nat) : Except Fault α :=
  failAt (left following + back) cause following

/-- What follows the opening of a name that ends at `terminator`: the name, and
what follows its end. -/
def readUntil (terminator : CodePoint) (what : String) (ss : Symbols) :
    Except Fault (Text × Symbols) :=
  go [] ss
where
  /-- Reads on after the symbols of `name`. -/
  go (name : Text) : Symbols → Except Fault (Text × Symbols)
    | [] =>
      if name = [] then fail (.missingName what) [] 0
      else fail (.unterminatedName terminator) [] name.length
    | .dangling :: _ => failAtBackslash
    | s :: rest =>
      if s = .plain terminator then
        if name = [] then fail (.missingName what) rest 1 else .ok (name, rest)
      else go (name ++ s.written) rest

/-- At most `n` plain characters of a class at the front of symbols, and what
follows. -/
def readWhile (p : CodePoint → Bool) : Nat → Symbols → Text × Symbols
  | n + 1, .plain c :: rest =>
    if p c then
      let (t, after) := readWhile p n rest
      (c :: t, after)
    else ([], .plain c :: rest)
  | _, ss => ([], ss)

/-- How many of some symbols stand before an end of them. -/
def taken (ss after : Symbols) : Nat := ss.length - after.length

theorem taken_append (ss after : Symbols) : taken (ss ++ after) after = ss.length := by
  rw [taken, List.length_append, Nat.add_sub_cancel]

end Backtracking
end Regex
end RouteTable
