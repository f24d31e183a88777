/-
# Form decoding

The key or value that a piece of a query string stands for: `+` is a blank, `%`
and two hexadecimal digits are a byte, and every other character is itself.  A
`%` without two digits after it stays as it is.

Bytes are decoded where they stand together, and a character outside ASCII ends
what stands before it.
-/

import RouteTable.Text.Numeral
import RouteTable.Text.Utf8

namespace RouteTable
namespace Text

/-- What a piece of a query string stands for: bytes, and characters outside
ASCII. -/
def formUnits : Text → List (UInt8 ⊕ CodePoint)
  | [] => []
  | '+' :: t => .inl 0x20 :: formUnits t
  | '%' :: a :: b :: t =>
    match hexDigit? a, hexDigit? b with
    | some x, some y => .inl (UInt8.ofNat (16 * x + y)) :: formUnits t
    | _, _ => .inl 0x25 :: formUnits (a :: b :: t)
  | c :: t =>
    (if c.toNat < 0x80 then .inl (UInt8.ofNat c.toNat) else .inr c) :: formUnits t

/-- The text of bytes and characters after an unfinished character. -/
def ofUnits (pending : Option LeadByte) : List (UInt8 ⊕ CodePoint) → Text
  | [] => breakOff pending
  | .inl b :: rest =>
    let (t, p) := nextByte pending b.toNat
    t ++ ofUnits p rest
  | .inr c :: rest => breakOff pending ++ c :: ofUnits none rest

/-- The text that a piece of a query string stands for. -/
def formDecode (t : Text) : Text := ofUnits none (formUnits t)

example : formDecode "a+b%20%C3%A9%4%zz".text = "a b é%4%zz".text := by decide +kernel
example : formDecode "%C3é%E2%82%F0%80".text = "\uFFFDé\uFFFD\uFFFD\uFFFD".text := by
  decide +kernel

end Text
end RouteTable
