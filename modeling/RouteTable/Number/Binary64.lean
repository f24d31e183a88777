/-
# Binary fractions of 64 bits

A number with a sign, an exponent of eleven bits and a fraction of 52, as its
bits; infinities and non-numbers have the greatest exponent.

It is shown by the shortest decimal that reads back: positionally from `0.0001`
up to below `10 ^ 16`, always with a point and a digit after it, and with an
exponent of a sign and at least two digits elsewhere.
-/

import RouteTable.Number.Shortest
import RouteTable.Text.Basic

namespace RouteTable

/-- A binary fraction of 64 bits. -/
structure Binary64 where
  bits : UInt64
  deriving DecidableEq, Repr

namespace Binary64

/-- Whether the sign bit is set. -/
def isNegative (x : Binary64) : Bool := x.bits.toNat / Nat.pow 2 63 = 1

/-- The eleven bits of the exponent. -/
def biasedExponent (x : Binary64) : Nat := x.bits.toNat / Nat.pow 2 52 % Nat.pow 2 11

/-- The 52 bits of the fraction. -/
def fraction (x : Binary64) : Nat := x.bits.toNat % Nat.pow 2 52

/-- Whether it is an infinity or no number. -/
def isSpecial (x : Binary64) : Bool := x.biasedExponent = 2047

/-- The `m` of the absolute value `m · 2 ^ q`. -/
def significand (x : Binary64) : Nat :=
  if x.biasedExponent = 0 then x.fraction else Nat.pow 2 52 + x.fraction

/-- The `q` of the absolute value `m · 2 ^ q`. -/
def exponent (x : Binary64) : Int :=
  (if x.biasedExponent = 0 then 1 else x.biasedExponent : Nat) - 1075

/-- Whether it is a zero of either sign. -/
def isZero (x : Binary64) : Bool := x.biasedExponent = 0 && x.fraction = 0

/-- Whether it is the given integer. -/
def isInteger (x : Binary64) (n : Int) : Bool :=
  if x.isSpecial then false
  else
    let v := (⟨x.significand, 1⟩ : Number.Ratio).scale 2 x.exponent
    v.num = n.natAbs * v.den && (n = 0 || x.isNegative = (n < 0))

/-- Whether two numbers are equal: zeros of both signs are, and what is no number
equals nothing. -/
def isEqual (x y : Binary64) : Bool :=
  if x.isSpecial && x.fraction != 0 then false
  else (x.isZero && y.isZero) || x.bits = y.bits

/-- The digits of a decimal with the point after the first `point` of them,
or before all of them where `point` is negative. -/
def positional (digits : Text) (point : Int) : Text :=
  if point ≤ 0 then "0.".text ++ List.replicate (-point).toNat (scalar '0') ++ digits
  else
    let n := point.toNat
    if digits.length ≤ n then
      digits ++ List.replicate (n - digits.length) (scalar '0') ++ ".0".text
    else digits.take n ++ scalar '.' :: digits.drop n

/-- The digits of a decimal with an exponent. -/
def exponential (digits : Text) (point : Int) : Text :=
  let e := point - 1
  let magnitude := Text.inBase 10 e.natAbs
  digits.take 1
    ++ (if digits.length ≤ 1 then [] else scalar '.' :: digits.drop 1)
    ++ scalar 'e' :: (if e < 0 then scalar '-' else '+')
      :: List.replicate (2 - magnitude.length) (scalar '0')
    ++ magnitude

/-- The digits without the zeros they end in. -/
def trimZeros (digits : Text) : Text := (digits.reverse.dropWhile (· == scalar '0')).reverse

/-- The text of the absolute value. -/
def absoluteText (x : Binary64) : Text :=
  if x.isSpecial then (if x.fraction = 0 then "inf" else "nan").text
  else if x.isZero then "0.0".text
  else
    let narrow := x.fraction = 0 && 1 < x.biasedExponent
    let d := Number.shortest x.significand x.exponent narrow
    let written := Text.inBase 10 d.digits
    let point := written.length + d.exponent
    let digits := trimZeros written
    if -4 < point ∧ point ≤ 16 then positional digits point else exponential digits point

/-- The text of a number. -/
def text (x : Binary64) : Text :=
  if x.isNegative && !(x.isSpecial && x.fraction != 0) then '-' :: x.absoluteText
  else x.absoluteText

example : (⟨0x3FB999999999999A⟩ : Binary64).text = "0.1".text := by decide +kernel
example : (⟨0x4341C37937E08000⟩ : Binary64).text = "1e+16".text := by decide +kernel
example : (⟨0x8000000000000000⟩ : Binary64).text = "-0.0".text := by decide +kernel
example : (⟨0x4072D00000000000⟩ : Binary64).text = "301.0".text := by decide +kernel

end Binary64
end RouteTable
