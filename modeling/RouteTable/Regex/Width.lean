/-
# Widths

How many characters an expression matches, at least and at most.  Numbers from
2^64 on are not told apart.
-/

namespace RouteTable
namespace Regex

/-- How many characters an expression matches, at least and at most. -/
structure Width where
  least : Nat
  greatest : Nat
  deriving DecidableEq, Repr

namespace Width

/-- The number from which on none are told apart. -/
def limit : Nat := Nat.pow 2 64

/-- The width of so many characters. -/
def exactly (n : Nat) : Width := ⟨n, n⟩

/-- A width with no number over the limit. -/
def capped (w : Width) : Width := ⟨min w.least limit, min w.greatest limit⟩

/-- The width of two expressions in a row. -/
def add (v w : Width) : Width := capped ⟨v.least + w.least, v.greatest + w.greatest⟩

/-- The width of either of two expressions. -/
def either (v w : Width) : Width := ⟨min v.least w.least, max v.greatest w.greatest⟩

/-- The width of repetitions. -/
def times (w : Width) (least : Nat) (greatest : Option Nat) : Width :=
  capped ⟨w.least * least, match greatest with
    | some n => w.greatest * n
    | none => if w.greatest = 0 then 0 else limit⟩

end Width

end Regex
end RouteTable
