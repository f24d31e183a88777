/-
# Matching

An expression is matched by backtracking: a node tries its ways one after the
other, and each way hands the position that it reaches to a continuation; the
first way whose continuation succeeds is taken.

A loop that is not bound to go on stops as soon as a repetition matches nothing.
Groups keep what they captured last, in later repetitions too.  What looks ahead
or behind, and an atomic node, is matched by itself and tried once.
-/

import RouteTable.Regex.Node

namespace RouteTable
namespace Regex

/-- A position in a text, and what groups have captured on the way to it: of two
captures of one group the first counts. -/
structure Position where
  /-- The text before, the nearest character first. -/
  before : Text
  after : Text
  captures : List (Nat × Text)
  deriving DecidableEq, Repr

namespace Position

/-- The position one character on, past `c`. -/
def advance (p : Position) (c : CodePoint) (rest : Text) : Position :=
  { p with before := c :: p.before, after := rest }

/-- What a group has captured. -/
def captured? (p : Position) (index : Nat) : Option Text := p.captures.lookup index

/-- The position `n` characters back. -/
def back? : Nat → Position → Option Position
  | 0, p => some p
  | n + 1, p =>
    match p.before with
    | [] => none
    | c :: before => back? n { p with before := before, after := c :: p.after }

/-- The text between a position and a later one. -/
def textUpTo (p q : Position) : Text := p.after.take (p.after.length - q.after.length)

/-- Whether an anchor holds. -/
def satisfies (p : Position) : Anchor → Bool
  | .start ofLine => p.before.isEmpty || (ofLine && p.before.head? == some (scalar '\n'))
  | .stop ofLine =>
    p.after.isEmpty || p.after == [scalar '\n'] || (ofLine && p.after.head? == some (scalar '\n'))
  | .veryEnd => p.after.isEmpty
  | .wordBoundary negated ascii =>
    let isWord (t : Text) : Bool := t.head?.any (CharClass.word.contains ascii)
    !(p.before.isEmpty && p.after.isEmpty) && ((isWord p.before != isWord p.after) != negated)

end Position

/-- What is to be matched after a node: the position that everything reaches. -/
abbrev Continuation := Position → Option Position

/-- A way to match from a position, with a continuation. -/
abbrev Run := Position → Continuation → Option Position

namespace Run

/-- `n` repetitions. -/
def times (body : Run) : Nat → Run
  | 0, p, k => k p
  | n + 1, p, k => body p fun q => times body n q k

/-- Repetitions as long as they match, at most `limit`, and fewer where those
lead nowhere.  `fuel` bounds those that match something. -/
def greedy (body : Run) : Nat → Option Nat → Run
  | _, some 0, p, k => k p
  | 0, _, p, k => k p
  | fuel + 1, limit, p, k =>
    let further : Continuation := fun q =>
      if q.after.length = p.after.length then k q
      else greedy body fuel (limit.map (· - 1)) q k
    match body p further with
    | some r => some r
    | none => k p

/-- As few repetitions as lead on, at most `limit`.  The last one may match
nothing, which `idle` tells. -/
def lazy (body : Run) : Nat → Option Nat → Bool → Run
  | 0, _, _, p, k => k p
  | fuel + 1, limit, idle, p, k =>
    match k p with
    | some r => some r
    | none =>
      if limit = some 0 ∨ idle then none
      else body p fun q =>
        lazy body fuel (limit.map (· - 1)) (q.after.length = p.after.length) q k

/-- The first match of `body`, with no second try. -/
def once (body : Run) (p : Position) : Option Position := body p some

/-- Exactly `n` repetitions, each the first match. -/
def onceTimes (body : Run) : Nat → Position → Option Position
  | 0, p => some p
  | n + 1, p => (once body p).bind (onceTimes body n)

/-- Repetitions as long as they match, at most `limit`, each the first match. -/
def possessive (body : Run) : Nat → Option Nat → Position → Position
  | _, some 0, p => p
  | 0, _, p => p
  | fuel + 1, limit, p =>
    match once body p with
    | none => p
    | some q =>
      if q.after.length = p.after.length then q
      else possessive body fuel (limit.map (· - 1)) q

/-- A loop.  Besides the last one, every repetition past the least number matches
a character, so there are no more than characters that follow, and one. -/
def loop (body : Run) (greed : Greed) (least : Nat) (greatest : Option Nat) : Run :=
  let limit := greatest.map (· - least)
  fun p k =>
    match greed with
    | .greedy => times body least p fun q => greedy body (q.after.length + 1) limit q k
    | .lazy => times body least p fun q => lazy body (q.after.length + 2) limit false q k
    | .possessive =>
      match onceTimes body least p with
      | none => none
      | some q => k (possessive body (q.after.length + 1) limit q)

end Run

/-- Whether two characters are the same, when case is ignored or not. -/
def sameChar (ignoreCase ascii : Bool) (c d : CodePoint) : Bool :=
  if !ignoreCase then c == d
  else if ascii then (Text.asciiCaseVariants c.toNat).contains d.toNat
  else Text.lowerCode c.toNat == Text.lowerCode d.toNat

/-- The position past a text that follows. -/
def Position.past? (ignoreCase ascii : Bool) : Text → Position → Option Position
  | [], p => some p
  | c :: t, p =>
    match p.after with
    | [] => none
    | d :: rest =>
      if sameChar ignoreCase ascii c d then past? ignoreCase ascii t (p.advance d rest) else none

/-- Matches a node from a position, and goes on with a continuation. -/
def Node.run : Node → Run
  | empty, p, k => k p
  | set s, p, k =>
    match p.after with
    | [] => none
    | c :: rest => if s.contains c then k (p.advance c rest) else none
  | seq a b, p, k => a.run p fun q => b.run q k
  | alt a b, p, k =>
    match a.run p k with
    | some r => some r
    | none => b.run p k
  | loop greed least greatest body, p, k => Run.loop body.run greed least greatest p k
  | group index body, p, k =>
    body.run p fun q => k { q with captures := (index, p.textUpTo q) :: q.captures }
  | reference index ignoreCase ascii, p, k =>
    match p.captured? index with
    | none => none
    | some t =>
      match p.past? ignoreCase ascii t with
      | none => none
      | some q => k q
  | anchor a, p, k => if p.satisfies a then k p else none
  | ahead negated body, p, k =>
    match body.run p some with
    | some q => if negated then none else k { p with captures := q.captures }
    | none => if negated then k p else none
  | behind negated width body, p, k =>
    match (p.back? width.least).bind fun q => body.run q some with
    | some q => if negated then none else k { p with captures := q.captures }
    | none => if negated then k p else none
  | atomic body, p, k =>
    match body.run p some with
    | none => none
    | some q => k q
  | ifGroup index yes no, p, k =>
    if (p.captured? index).isSome then yes.run p k else no.run p k

/-- A match: how many characters precede it, and the position where it ends. -/
structure Match where
  start : Nat
  stop : Position
  deriving DecidableEq, Repr

/-- The first match that starts at a position or later. -/
def Node.searchFrom (n : Node) (before : Text) (after : Text) : Option Match :=
  match n.run ⟨before, after, []⟩ some with
  | some p => some ⟨before.length, p⟩
  | none =>
    match after with
    | [] => none
    | c :: rest => n.searchFrom (c :: before) rest

/-- The first match in a text. -/
def Node.search (n : Node) (t : Text) : Option Match := n.searchFrom [] t

/-- Whether a text has a match. -/
def Node.isFoundIn (n : Node) (t : Text) : Bool := (n.search t).isSome

end Regex
end RouteTable
