/-
# Shortest decimals

The shortest decimal that reads back as a given number `m · 2 ^ q`, where reading
rounds to the nearest number with at most 53 binary digits, and ties go to even
`m`.  Decimals of 1, 2, … digits are tried in turn; of a given number of digits
only the two neighbours of the number can be the nearest, so those are tried.
-/

namespace RouteTable
namespace Number

/-- A positive rational, as the quotient of two numbers. -/
structure Ratio where
  num : Nat
  den : Nat
  deriving Repr

namespace Ratio

/-- `r · b ^ e`. -/
def scale (r : Ratio) (b : Nat) (e : Int) : Ratio :=
  if 0 ≤ e then ⟨r.num * Nat.pow b e.toNat, r.den⟩
  else ⟨r.num, r.den * Nat.pow b (-e).toNat⟩

/-- Whether `r ≤ s`. -/
def le (r s : Ratio) : Bool := r.num * s.den ≤ s.num * r.den

/-- Whether `r < s`. -/
def lt (r s : Ratio) : Bool := r.num * s.den < s.num * r.den

/-- The integer part. -/
def floor (r : Ratio) : Nat := r.num / r.den

end Ratio

/-- The numbers that read back as a given one: an interval, with or without its
ends. -/
structure Interval where
  low : Ratio
  high : Ratio
  closed : Bool

/-- Whether a number lies in the interval. -/
def Interval.contains (i : Interval) (r : Ratio) : Bool :=
  if i.closed then i.low.le r && r.le i.high else i.low.lt r && r.lt i.high

/-- The numbers that read back as `m · 2 ^ q`.  They reach halfway to the two
neighbours; the lower neighbour of the least number of a binade is half as far
away, which `narrow` tells. -/
def readBack (m : Nat) (q : Int) (narrow : Bool) : Interval where
  low := (⟨4 * m - (if narrow then 1 else 2), 1⟩ : Ratio).scale 2 (q - 2)
  high := (⟨4 * m + 2, 1⟩ : Ratio).scale 2 (q - 2)
  closed := m % 2 = 0

/-- The least `k` with `r < 10 ^ k`. -/
def magnitude (r : Ratio) : Int :=
  if 1 ≤ r.floor then (Nat.toDigits 10 r.floor).length
  else -(((List.range 400).takeWhile fun (j : Nat) => (r.scale 10 (j + 1)).floor = 0).length : Int)

/-- The digit strings are numbers `d`, each with the exponent of its unit. -/
structure Decimal where
  digits : Nat
  exponent : Int
  deriving DecidableEq, Repr

/-- The decimal of `n` digits that reads back as `v`, if there is one; of two the
nearer to `v`, and of two that are equally near the one with the even last
digit. -/
def decimalOfLength? (v : Ratio) (i : Interval) (k : Int) (n : Nat) : Option Decimal :=
  let e := k - n
  let below := (v.scale 10 (-e)).floor
  let value (d : Nat) : Ratio := (⟨d, 1⟩ : Ratio).scale 10 e
  let inside (d : Nat) : Bool := i.contains (value d)
  let twice : Ratio := (⟨2 * v.num, v.den⟩ : Ratio)
  let middle := value (2 * below + 1)
  let pick : Option Nat :=
    match inside below && below != 0, inside (below + 1) with
    | true, true =>
      some <| if twice.lt middle then below
        else if middle.lt twice then below + 1
        else if below % 2 = 0 then below else below + 1
    | true, false => some below
    | false, true => some (below + 1)
    | false, false => none
  pick.map fun d => ⟨d, e⟩

/-- The shortest decimal that reads back as `m · 2 ^ q`; seventeen digits always
do. -/
def shortest (m : Nat) (q : Int) (narrow : Bool) : Decimal :=
  let v := (⟨m, 1⟩ : Ratio).scale 2 q
  let i := readBack m q narrow
  let k := magnitude v
  ((List.range 17).findSome? fun n => decimalOfLength? v i k (n + 1)).getD ⟨m, q⟩

example : shortest 0x1999999999999A (-56) false = ⟨1, -1⟩ := by decide +kernel
example : shortest 0x11C37937E08000 1 false = ⟨1, 16⟩ := by decide +kernel

end Number
end RouteTable
