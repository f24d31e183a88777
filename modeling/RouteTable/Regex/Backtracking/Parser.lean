/-
# Reading expressions

An expression is read from left to right by a machine.  Its `State` holds the
level that is being read, which is the inside of the innermost open parenthesis,
and a stack of those around it.  A symbol adds an item to the level, repeats its
last item, starts a branch, or opens or closes a level.

Once everything is read, two things are checked that a place inside an expression
does not tell: that the groups of conditions exist, and that what stands behind
has one width.
-/

import RouteTable.Regex.Backtracking.Bounds
import RouteTable.Regex.Backtracking.Groups
import RouteTable.Regex.Backtracking.Opening
import RouteTable.Regex.Backtracking.SetReader

namespace RouteTable
namespace Regex
namespace Backtracking

/-- What stands in a row on a level.  Anchors and repetitions cannot be repeated,
unless in parentheses. -/
inductive Item where
  | anchor (a : Anchor)
  | loop (greed : Greed) (bounds : Bounds) (body : Node)
  | other (n : Node)
  deriving Repr

namespace Item

/-- The expression of an item. -/
def node : Item → Node
  | anchor a => .anchor a
  | loop greed bounds body => .loop greed bounds.least bounds.greatest body
  | other n => n

/-- The item repeated. -/
def repeated (greed : Greed) (bounds : Bounds) (i : Item) : Except Cause Item :=
  match i with
  | anchor _ => .error .nothingToRepeat
  | loop .. => .error .multipleRepeat
  | other n => .ok (loop greed bounds n)

end Item

/-- The inside of a parenthesis, or of the expression, as far as it is read. -/
structure Level where
  flags : Flags
  /-- The branches before the one that is being read, the latest first. -/
  branches : List Node
  /-- The items of the branch that is being read, the latest first. -/
  items : List Item
  deriving Repr

namespace Level

/-- The start of a level. -/
def start (flags : Flags) : Level := ⟨flags, [], []⟩

/-- The level with one more item. -/
def push (l : Level) (i : Item) : Level := { l with items := i :: l.items }

/-- The expression of the branch that is being read. -/
def branch (l : Level) : Node := .inRow (l.items.reverse.map Item.node)

/-- The level with its branch at an end and another begun. -/
def nextBranch (l : Level) : Level := { l with branches := l.branch :: l.branches, items := [] }

/-- The expression of the whole level. -/
def node (l : Level) : Node := .anyOf (l.branch :: l.branches).reverse

/-- The set of what a single character names under the level's flags. -/
def set (l : Level) (negated : Bool) (items : List SetItem) : Item :=
  .other (.set ⟨negated, items, l.flags.ignoreCase, l.flags.ascii⟩)

end Level

/-- What an open parenthesis makes of its inside. -/
inductive Bracket where
  | capture (index : Nat)
  | plain
  | atomic
  | ahead (negated : Bool)
  /-- Groups are free again at the end of what is `outermost`. -/
  | behind (negated outermost : Bool)
  | ifGroup (index : Nat)
  deriving DecidableEq, Repr

/-- An open parenthesis: its place, and the level around it. -/
structure Frame where
  bracket : Bracket
  start : Nat
  outer : Level
  deriving Repr

/-- How far an expression is read. -/
structure State where
  level : Level
  stack : List Frame
  groups : Groups
  /-- The flags that are set for the whole expression. -/
  wholeFlags : List Flag
  deriving Repr

namespace State

/-- Nothing is read. -/
def start (edition : Edition) : State := ⟨.start .none, [], .empty edition, []⟩

/-- The state with one more item. -/
def push (s : State) (i : Item) : State := { s with level := s.level.push i }

/-- The state with a reference to a group. -/
def pushReference (s : State) (index : Nat) : State :=
  s.push (.other (.reference index s.level.flags.ignoreCase s.level.flags.ascii))

/-- The bracket of an opening whose end `rest` follows, and the groups from there
on. -/
def bracket (s : State) (rest : Symbols) : Opening → Except Fault (Bracket × Groups)
  | .capture name => (s.groups.openGroup name rest).map fun (index, gs) => (.capture index, gs)
  | .plain _ _ => .ok (.plain, s.groups)
  | .atomic => .ok (.atomic, s.groups)
  | .ahead negated => .ok (.ahead negated, s.groups)
  | .behind negated => .ok (.behind negated s.groups.floor.isNone, s.groups.raiseFloor)
  | .ifGroup t => (s.groups.checkCondition t rest).map fun (index, gs) => (.ifGroup index, gs)

/-- The flags inside an opening. -/
def innerFlags (s : State) : Opening → Flags
  | .plain on off => s.level.flags.change on off
  | _ => s.level.flags

/-- Sets flags for the whole expression, which nothing may precede. -/
def setFlags (s : State) (start : Nat) (on : List Flag) (rest : Symbols) : Except Fault State :=
  if s.stack.isEmpty && s.level.branches.isEmpty && s.level.items.isEmpty then
    .ok { s with
      level := .start (s.level.flags.change on [])
      wholeFlags := on ++ s.wholeFlags }
  else failAt start .lateGlobalFlags rest

/-- Goes on after an opening parenthesis. -/
def enter (s : State) (rest : Symbols) : Except Fault (State × Symbols) := do
  let start := left rest + 1
  let (p, after) ← Parenthesis.read start rest
  match p with
  | .comment => return (s, after)
  | .wholeFlags on => return (← s.setFlags start on after, after)
  | .reference name => return (s.pushReference (← s.groups.checkName name after), after)
  | .opens o =>
    let (bracket, groups) ← s.bracket after o
    return ({ s with
      level := .start (s.innerFlags o)
      stack := ⟨bracket, start, s.level⟩ :: s.stack
      groups := groups }, after)

/-- What a closed parenthesis stands for. -/
def close (l : Level) : Bracket → Groups → Node × Groups
  | .capture index, gs => (.group index l.node, gs.close index (l.node.width gs.widths))
  | .plain, gs => (l.node, gs)
  | .atomic, gs => (.atomic l.node, gs)
  | .ahead negated, gs => (.ahead negated l.node, gs)
  | .behind negated outermost, gs =>
    (.behind negated (l.node.width gs.widths) l.node,
      if outermost then { gs with floor := none } else gs)
  | .ifGroup index, gs =>
    match l.branches with
    | [] => (.ifGroup index l.branch .empty, gs)
    | yes :: _ => (.ifGroup index yes l.branch, gs)

/-- Why an expression has a `)` of its own. -/
def unbalanced {α : Type} (s : State) (following : Symbols) : Except Fault α :=
  if .ascii ∈ s.wholeFlags ∧ .unicode ∈ s.wholeFlags then .error .conflictingAlphabets
  else fail .unbalancedParenthesis following 0

/-- Goes on after a closing parenthesis. -/
def leave (s : State) (rest : Symbols) : Except Fault State :=
  match s.stack with
  | [] => s.unbalanced (.plain ')' :: rest)
  | f :: stack =>
    let (n, groups) := close s.level f.bracket s.groups
    .ok { s with level := f.outer.push (.other n), stack := stack, groups := groups }

/-- Goes on after a `|`; an alternative has two branches at most. -/
def nextBranch (s : State) (rest : Symbols) : Except Fault State :=
  match s.stack.head?.map Frame.bracket, s.level.branches with
  | some (.ifGroup _), _ :: _ => fail .tooManyBranches (.plain '|' :: rest) 0
  | _, _ => .ok { s with level := s.level.nextBranch }

/-- Repeats the last item, as a sign says that `rest` and then `after` follow. -/
def loop (s : State) (bounds : Bounds) (rest after : Symbols) : Except Fault (State × Symbols) :=
  let refuse (cause : Cause) := failAt (left rest + 1) cause after
  match s.level.items with
  | [] => refuse .nothingToRepeat
  | i :: items =>
    let (greed, following) := readGreed after
    match i.repeated greed bounds with
    | .error cause => refuse cause
    | .ok i => .ok ({ s with level := { s.level with items := i :: items } }, following)

/-- Goes on after an escape. -/
def escape (s : State) (c : CodePoint) (rest : Symbols) : Except Fault (State × Symbols) := do
  let (e, after) ← Escape.read s.level.flags.ascii c rest
  match e with
  | .item i => return (s.push (s.level.set false [i]), after)
  | .anchor a => return (s.push (.anchor a), after)
  | .reference index length =>
    s.groups.checkNumber index length after
    return (s.pushReference index, after)

/-- Goes on after a character that is no blank and no comment. -/
def char (s : State) (c : CodePoint) (rest : Symbols) : Except Fault (State × Symbols) :=
  match c with
  | '|' => (s.nextBranch rest).map (·, rest)
  | ')' => (s.leave rest).map (·, rest)
  | '(' => s.enter rest
  | '[' => (readSet rest).map fun ((negated, items), after) =>
    (s.push (s.level.set negated items), after)
  | '.' =>
    let excluded := if s.level.flags.dotAll then [] else [SetItem.code '\n'.toNat]
    .ok (s.push (s.level.set true excluded), rest)
  | '^' => .ok (s.push (.anchor (.start s.level.flags.multiline)), rest)
  | '$' => .ok (s.push (.anchor (.stop s.level.flags.multiline)), rest)
  | c => do
    match ← Bounds.read? c rest with
    | some (bounds, after) => s.loop bounds rest after
    | none => return (s.push (s.level.set false [.code c.toNat]), rest)

/-- White space between symbols. -/
def isBlank (c : CodePoint) : Bool := c == ' ' || (9 ≤ c.toNat && c.toNat ≤ 13)

/-- What follows the line that is being read. -/
def skipLine : Symbols → Except Fault Symbols
  | [] => .ok []
  | .dangling :: _ => failAtBackslash
  | s :: rest => if s = .plain '\n' then .ok rest else skipLine rest

/-- Goes on after a symbol: the state, and what follows what is read. -/
def step (s : State) (t : Symbol) (rest : Symbols) : Except Fault (State × Symbols) :=
  match t with
  | .dangling => failAtBackslash
  | .escaped c => s.escape c rest
  | .plain c =>
    if s.level.flags.verbose && isBlank c then .ok (s, rest)
    else if s.level.flags.verbose && c == '#' then (skipLine rest).map (s, ·)
    else s.char c rest

/-- Reads symbols, of which the first `skip` are read already. -/
def run (s : State) : (skip : Nat) → Symbols → Except Fault State
  | _, [] => .ok s
  | skip + 1, _ :: rest => run s skip rest
  | 0, t :: rest =>
    match s.step t rest with
    | .error f => .error f
    | .ok (s', after) => run s' (taken rest after) rest

/-- What is read already is passed over. -/
theorem run_eq_run_drop (s : State) (skip : Nat) (ss : Symbols) :
    s.run skip ss = s.run 0 (ss.drop skip) := by
  induction ss generalizing skip with
  | nil => cases skip <;> rfl
  | cons t rest ih =>
    cases skip with
    | zero => rfl
    | succ skip => exact ih skip

/-- **A step hands on what it has not read.** -/
theorem run_cons_of_step {s s' : State} {t : Symbol} {read after : Symbols}
    (h : s.step t (read ++ after) = .ok (s', after)) :
    s.run 0 (t :: (read ++ after)) = s'.run 0 after := by
  rw [run, h]
  dsimp only
  rw [run_eq_run_drop, taken_append, List.drop_left]

end State

/-- The greatest width of what stands behind. -/
def maxBehind : Nat := Nat.pow 2 32 - 1

/-- What an expression holds that cannot be matched: a look behind of no one
width, and repetitions where the flags exclude them. -/
def unsupported? (loopless : Bool) : Node → Option Cause
  | .empty | .set _ | .reference .. | .anchor _ => none
  | .seq a b | .alt a b => unsupported? loopless a <|> unsupported? loopless b
  | .ifGroup _ yes no => unsupported? loopless yes <|> unsupported? loopless no
  | .group _ body | .ahead _ body | .atomic body => unsupported? loopless body
  | .loop greed _ _ body =>
    if loopless then
      some <| .unsupportedRepeat <| match greed with
        | .greedy => "MAX_REPEAT"
        | .lazy => "MIN_REPEAT"
        | .possessive => "POSSESSIVE_REPEAT"
    else unsupported? loopless body
  | .behind _ width body =>
    if maxBehind < width.least then some .lookbehindTooWide
    else if width.least ≠ width.greatest then some .variableLookbehind
    else unsupported? loopless body

/-- The expression that is read, if it is complete. -/
def State.finish (s : State) : Except Fault Node := do
  if let f :: _ := s.stack then
    failAt f.start .unterminatedGroup []
  if .ascii ∈ s.wholeFlags ∧ .unicode ∈ s.wholeFlags then throw .conflictingAlphabets
  s.groups.checkConditions
  let n := s.level.node
  match unsupported? (s.wholeFlags.contains .loopless) n with
  | some cause => throw (.unlocated cause)
  | none => return n

/-- The expression that a text writes. -/
def parse (edition : Edition) (t : Text) : Except Error Node :=
  match ((State.start edition).run 0 (Symbol.ofText t)).bind State.finish with
  | .ok n => .ok n
  | .error f => .error (f.toError t)

end Backtracking
end Regex
end RouteTable
