/-
# Quoted texts

How a text or a byte string is shown inside a message: between quotes, with
everything that would not show as itself written as an escape.

| character | written |
| --- | --- |
| the backslash and the quote in use | after a backslash |
| tab, line feed, carriage return | `\t`, `\n`, `\r` |
| any other that does not print | `\x`, `\u` or `\U` and 2, 4 or 8 hexadecimal digits |

The quote in use is `'`, unless the text has a `'` and no `"`.  Bytes print when
they are printable ASCII, and stand between quotes after a `b`.
-/

import RouteTable.Text.Letters

namespace RouteTable
namespace Text

/-- A number in lower-case hexadecimal, padded with zeros to `width` digits. -/
def hex (width n : Nat) : Text :=
  let digits := inBase 16 n
  List.replicate (width - digits.length) (scalar '0') ++ digits

/-- The quote that a quoted form of the text stands between. -/
def quoteFor (t : Text) : CodePoint := if t.contains '\'' && !t.contains '"' then '"' else '\''

/-- The escape of a character that does not print. -/
def codeEscape (n : Nat) : Text :=
  if n < 0x100 then '\\' :: 'x' :: hex 2 n
  else if n < 0x10000 then '\\' :: 'u' :: hex 4 n
  else '\\' :: 'U' :: hex 8 n

/-- The written form of one character between the given quotes. -/
def escapeChar (quote : CodePoint) (isPrinted : CodePoint → Bool) (c : CodePoint) : Text :=
  if c = quote ∨ c = '\\' then ['\\', c]
  else if c = '\t' then ['\\', 't']
  else if c = '\n' then ['\\', 'n']
  else if c = '\r' then ['\\', 'r']
  else if isPrinted c then [c]
  else codeEscape c.toNat

/-- The quoted form of a text. -/
def quoted (t : Text) : Text :=
  let q := quoteFor t
  q :: t.flatMap (escapeChar q isPrintable) ++ [q]

/-- The quoted form of a byte string. -/
def quotedBytes (bytes : List UInt8) : Text :=
  let t := bytes.map fun b => scalar (Char.ofNat b.toNat)
  let q := quoteFor t
  scalar 'b' :: q :: t.flatMap (escapeChar q fun c => 0x20 ≤ c.toNat && c.toNat < 0x7F) ++ [q]

example : quoted "it's".text = "\"it's\"".text := by decide +kernel
example : quoted "a\"b'c\u200b".text = "'a\"b\\'c\\u200b'".text := by decide +kernel
example : quotedBytes [0x7A, 0xC3, 0xA9, 0x0A] = "b'z\\xc3\\xa9\\n'".text := by decide +kernel

end Text
end RouteTable
