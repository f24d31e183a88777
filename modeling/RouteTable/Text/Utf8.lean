/-
# Texts as bytes

The encoding of a text as bytes, one to four for a character, and the decoding
of any byte string: where bytes encode nothing, each longest run that some
encoding begins with is read as one replacement character.

A surrogate has no encoding, and a text with one in it has none.
-/

import RouteTable.Text.Quoted

namespace RouteTable
namespace Text

/-- The bytes of a text, its surrogates left out. -/
def toBytes (t : Text) : List UInt8 := t.flatMap fun
  | .scalar c => String.utf8EncodeChar c
  | .surrogate _ => []

/-- A text that has an encoding: it is free of surrogates. -/
def IsEncodable (t : Text) : Prop := ∀ c ∈ t, c.isScalar = true

instance (t : Text) : Decidable (IsEncodable t) :=
  inferInstanceAs (Decidable (∀ c ∈ t, c.isScalar = true))

/-- What is wrong with a text that is to be encoded, if anything: the surrogates that come first,
and where they stand. -/
def encodingError? (t : Text) : Option Text :=
  let first := (t.takeWhile CodePoint.isScalar).length
  match (t.dropWhile CodePoint.isScalar).takeWhile fun c => !c.isScalar with
  | [] => none
  | [c] =>
    some ("'utf-8' codec can't encode character ".text ++ quoted [c] ++
      s!" in position {first}: surrogates not allowed".text)
  | run =>
    let last := first + run.length - 1
    some ("'utf-8' codec can't encode characters in position ".text ++
      s!"{first}-{last}: surrogates not allowed".text)

theorem isEncodable_append {t u : Text} :
    (t ++ u).IsEncodable ↔ t.IsEncodable ∧ u.IsEncodable := List.forall_mem_append

/-- The character that stands for bytes that encode nothing. -/
def replacement : CodePoint := '\uFFFD'

/-- What a first byte announces: the value of its own bits, how many bytes
follow, and the least and the greatest byte that may follow it. -/
structure LeadByte where
  bits : Nat
  following : Nat
  least : Nat
  greatest : Nat

/-- The announcement of a byte that starts an encoding of two bytes or more.
The bounds on the second byte leave out longer spellings of lower code points,
surrogates, and what lies above the last code point. -/
def LeadByte.of? (b : Nat) : Option LeadByte :=
  if 0xC2 ≤ b ∧ b ≤ 0xDF then some ⟨b - 0xC0, 1, 0x80, 0xBF⟩
  else if 0xE0 ≤ b ∧ b ≤ 0xEF then
    some ⟨b - 0xE0, 2, if b = 0xE0 then 0xA0 else 0x80, if b = 0xED then 0x9F else 0xBF⟩
  else if 0xF0 ≤ b ∧ b ≤ 0xF4 then
    some ⟨b - 0xF0, 3, if b = 0xF0 then 0x90 else 0x80, if b = 0xF4 then 0x8F else 0xBF⟩
  else none

/-- What a byte that continues no character gives: a character of its own, the
start of one, or nothing that is encoded. -/
def startByte (n : Nat) : Text × Option LeadByte :=
  if n < 0x80 then ([scalar (Char.ofNat n)], none)
  else match LeadByte.of? n with
    | some lead => ([], some lead)
    | none => ([replacement], none)

/-- What the next byte gives, where `pending` is the unfinished character before
it: the characters that are now complete, and the character that is unfinished
now. -/
def nextByte (pending : Option LeadByte) (n : Nat) : Text × Option LeadByte :=
  match pending with
  | none => startByte n
  | some lead =>
    if lead.least ≤ n ∧ n ≤ lead.greatest then
      let bits := lead.bits * 64 + (n - 0x80)
      if lead.following = 1 then ([scalar (Char.ofNat bits)], none)
      else ([], some ⟨bits, lead.following - 1, 0x80, 0xBF⟩)
    else
      let (t, p) := startByte n
      (replacement :: t, p)

/-- What an unfinished character is read as, where bytes break off. -/
def breakOff (pending : Option LeadByte) : Text := if pending.isSome then [replacement] else []

end Text
end RouteTable
