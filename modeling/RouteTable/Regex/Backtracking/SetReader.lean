/-
# Sets in brackets

A set names characters, ranges and classes, and ends at `]`, which is a member
where it comes first.  A `-` between two members makes a range of them; where it
comes first or last it is a member.
-/

import RouteTable.Regex.Backtracking.Escape

namespace RouteTable
namespace Regex
namespace Backtracking

/-- What a symbol of a set names. -/
def readMember (rest : Symbols) : Symbol → Except Fault (SetItem × Symbols)
  | .plain c => .ok (.code c.toNat, rest)
  | .escaped c => Escape.readInSet c rest
  | .dangling => failAtBackslash

/-- The range from one member to another, read at `first` and `last`. -/
def range? : SetItem → SetItem → Option SetItem
  | .range lo _, .range hi _ => if lo ≤ hi then some (.range lo hi) else none
  | _, _ => none

/-- The members of a set that starts at `start`, after those that are read, the
latest first.  The first `skip` symbols are read already. -/
def readMembers (start : Nat) (members : List SetItem) :
    (skip : Nat) → Symbols → Except Fault (List SetItem × Symbols)
  | _, [] => failAt start .unterminatedSet []
  | skip + 1, _ :: rest => readMembers start members skip rest
  | 0, s :: rest =>
    if s = .plain ']' ∧ members ≠ [] then .ok (members.reverse, rest)
    else do
      let (first, after) ← readMember rest s
      match after with
      | .plain '-' :: [] => failAt start .unterminatedSet []
      | .plain '-' :: .plain ']' :: after =>
        return ((.code '-'.toNat :: first :: members).reverse, after)
      | .plain '-' :: t :: after =>
        let (last, after) ← readMember after t
        match range? first last with
        | some r => readMembers start (r :: members) (taken rest after) rest
        | none =>
          fail (.badRange s.written t.written) after (s.written.length + 1 + t.written.length)
      | after => readMembers start (first :: members) (taken rest after) rest

/-- The set whose opening bracket is read: whether it is negated, and what it
names. -/
def readSet (rest : Symbols) : Except Fault ((Bool × List SetItem) × Symbols) :=
  let start := left rest + 1
  match rest with
  | .plain '^' :: rest =>
    (readMembers start [] 0 rest).map fun (members, after) => ((true, members), after)
  | rest => (readMembers start [] 0 rest).map fun (members, after) => ((false, members), after)

end Backtracking
end Regex
end RouteTable
