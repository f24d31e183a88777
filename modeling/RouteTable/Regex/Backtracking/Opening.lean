/-
# Parentheses

What a parenthesis opens:

| written | opens |
| --- | --- |
| `(` | a group that captures |
| `(?P<name>` | the same, with a name |
| `(?:` and `(?i-s:` | a group that does not, with flags on and off |
| `(?>` | a group that is matched without a second try |
| `(?=` `(?!` `(?<=` `(?<!` | what follows or precedes, or does not |
| `(?(name)` `(?(number)` | an alternative |

`(?#…)` is a comment, `(?i)` sets flags for the whole expression, and `(?P=name)`
is a reference.
-/

import RouteTable.Regex.Backtracking.Flags

namespace RouteTable
namespace Regex
namespace Backtracking

/-- What a parenthesis opens. -/
inductive Opening where
  | capture (name : Option Text)
  | plain (on off : List Flag)
  | atomic
  | ahead (negated : Bool)
  | behind (negated : Bool)
  | ifGroup (condition : Text)
  deriving DecidableEq, Repr

/-- What starts with a parenthesis. -/
inductive Parenthesis where
  | opens (o : Opening)
  | comment
  | wholeFlags (on : List Flag)
  | reference (name : Text)
  deriving DecidableEq, Repr

/-- The parenthesis that flags are written in. -/
def FlagGroup.parenthesis : FlagGroup → Parenthesis
  | whole on => .wholeFlags on
  | opening on off => .opens (.plain on off)

namespace Parenthesis

/-- What follows a comment that starts at `start`. -/
def skipComment (start : Nat) : Symbols → Except Fault Symbols
  | [] => failAt start .unterminatedComment []
  | .dangling :: _ => failAtBackslash
  | s :: rest => if s = .plain ')' then .ok rest else skipComment start rest

/-- Refuses an extension whose last symbol is read. -/
def unknown {α : Type} (start : Text) (rest : Symbols) : Symbol → Except Fault α
  | .dangling => failAtBackslash
  | s => fail (.unknownExtension (start ++ s.written)) rest (start ++ s.written).length

/-- A name up to its terminator. -/
def readName (terminator : CodePoint) (rest : Symbols) : Except Fault (Text × Symbols) := do
  let (name, after) ← readUntil terminator "group name" rest
  if !Text.isIdentifier name then fail (.badGroupName name) after (name.length + 1)
  return (name, after)

/-- What follows `(?P`. -/
def readNamed : Symbols → Except Fault (Parenthesis × Symbols)
  | .plain '<' :: rest => (readName '>' rest).map fun (n, after) => (.opens (.capture n), after)
  | .plain '=' :: rest => (readName ')' rest).map fun (n, after) => (.reference n, after)
  | [] => fail .endOfExpression [] 0
  | s :: rest => unknown ['?', 'P'] rest s

/-- What follows `(?<`. -/
def readBehind : Symbols → Except Fault (Parenthesis × Symbols)
  | .plain '=' :: rest => .ok (.opens (.behind false), rest)
  | .plain '!' :: rest => .ok (.opens (.behind true), rest)
  | [] => fail .endOfExpression [] 0
  | s :: rest => unknown ['?', '<'] rest s

/-- What follows `(?`, of a parenthesis at `start`. -/
def readExtension (start : Nat) : Symbols → Except Fault (Parenthesis × Symbols)
  | [] => fail .endOfExpression [] 0
  | .plain 'P' :: rest => readNamed rest
  | .plain ':' :: rest => .ok (.opens (.plain [] []), rest)
  | .plain '#' :: rest => (skipComment start rest).map fun after => (.comment, after)
  | .plain '=' :: rest => .ok (.opens (.ahead false), rest)
  | .plain '!' :: rest => .ok (.opens (.ahead true), rest)
  | .plain '<' :: rest => readBehind rest
  | .plain '(' :: rest =>
    (readUntil ')' "group name" rest).map fun (t, after) => (.opens (.ifGroup t), after)
  | .plain '>' :: rest => .ok (.opens .atomic, rest)
  | s :: rest =>
    if s = .plain '-' ∨ (Flag.ofSymbol? s).isSome then
      (readFlagsOn [] (s :: rest)).map fun (flags, after) => (flags.parenthesis, after)
    else unknown ['?'] rest s

/-- What starts with a parenthesis at `start`, which is read. -/
def read (start : Nat) : Symbols → Except Fault (Parenthesis × Symbols)
  | .plain '?' :: rest => readExtension start rest
  | rest => .ok (.opens (.capture none), rest)

end Parenthesis

end Backtracking
end Regex
end RouteTable
