/-
# The grammar of source patterns

A source pattern is a row of pieces, and each piece knows how it is written:

| piece | written |
| --- | --- |
| text | a character that is not reserved, or a backslash and any character |
| parameter | a name, a name and a body, or a body, and a modifier or none |
| brace | `{`, text, a parameter without modifier, text, `}`, and a modifier or none |
| group | `{`, text, `}`, and a modifier or none |

A name is `:` and name characters, as many as there are, so that no other may follow;
a body right after a name belongs to it, so that none may follow a name that has
none.  A body is closed: its parentheses balance, where a backslash takes the next
character with it, and each that it opens is opened right before a `?`.

`IsParse source ps` says that the pieces are a reading of the source.  What it means
is `segmentsOf ps`, and says nothing of tokens: neighbouring text is one literal, and
a parameter takes a plain `/` or `.` right before it as its lead.
-/

import RouteTable.Pattern.Parser

namespace RouteTable
namespace Pattern

/-- The characters that are no plain text. -/
def reserved : List CodePoint :=
  [scalar '?', scalar '*', scalar '+', scalar '\\', scalar '\x7b', scalar '\x7d', scalar ':',
    scalar '(']

theorem slash_not_mem_reserved : scalar '/' ∉ reserved := by decide

/-- A text closes its own parentheses and `d` that are open before it.  A backslash
takes the next character with it, and a parenthesis is only opened right before a
`?`. -/
inductive Closes : Nat → Text → Prop where
  | nil : Closes 0 []
  | escape {d : Nat} {c : CodePoint} {t : Text} : Closes d t → Closes d (scalar '\\' :: c :: t)
  | opens {d : Nat} {t : Text} :
      Closes (d + 1) (scalar '?' :: t) → Closes d (scalar '(' :: scalar '?' :: t)
  | closes {d : Nat} {t : Text} : Closes d t → Closes (d + 1) (scalar ')' :: t)
  | other {d : Nat} {c : CodePoint} {t : Text} :
    c ∉ [scalar '\\', scalar '(', scalar ')'] → Closes d t → Closes d (c :: t)

/-- What may stand in the parentheses of a parameter. -/
structure IsBody (t : Text) : Prop where
  ne_nil : t ≠ []
  head_ne : t.head? ≠ some (scalar '?')
  closes : Closes 0 t

/-- What may stand after the colon of a parameter. -/
structure IsName (t : Text) : Prop where
  ne_nil : t ≠ []
  isNameChar : ∀ c ∈ t, isNameChar c = true

/-- The body of a parameter. -/
abbrev Body := { t : Text // IsBody t }

/-- The name of a parameter. -/
abbrev Name := { t : Text // IsName t }

/-- A character of text. -/
inductive TextItem where
  | plain (c : CodePoint) (h : c ∉ reserved)
  | escaped (c : CodePoint)
  deriving DecidableEq

namespace TextItem

/-- The character that the item stands for. -/
def char : TextItem → CodePoint
  | plain c _ => c
  | escaped c => c

/-- The item as it is written. -/
def written : TextItem → Text
  | plain c _ => [c]
  | escaped c => [scalar '\\', c]

end TextItem

/-- A parameter without its modifier. -/
inductive Parameter where
  | named (name : Name) (body : Option Body)
  | unnamed (body : Body)

namespace Parameter

/-- The name, if the parameter has one. -/
def name? : Parameter → Option Text
  | named n _ => some n.1
  | unnamed _ => none

/-- The body, which is the default one if none is written. -/
def body : Parameter → Text
  | named _ (some b) => b.1
  | named _ none => defaultBody
  | unnamed b => b.1

/-- The body that is written, if one is. -/
def body? : Parameter → Option Text
  | named _ b => b.map Subtype.val
  | unnamed b => some b.1

/-- The parameter as it is written. -/
def written : Parameter → Text
  | named n (some b) => scalar ':' :: n.1 ++ scalar '(' :: b.1 ++ [scalar ')']
  | named n none => scalar ':' :: n.1
  | unnamed b => scalar '(' :: b.1 ++ [scalar ')']

/-- The parameter ends before a text: no more of it follows. -/
def EndsBefore (rest : Text) : Parameter → Prop
  | named _ none => ∀ c ∈ rest.head?, isNameChar c = false ∧ c ≠ '('
  | _ => True

/-- The segment of the parameter between a lead and a trail. -/
def segment (p : Parameter) (lead trail : Text) (m : Modifier) : Segment :=
  .capture ⟨p.name?, lead, p.body, trail, m⟩

end Parameter

/-- A piece of a source pattern. -/
inductive Piece where
  | text (x : TextItem)
  | parameter (p : Parameter) (m : Modifier)
  | brace (lead : List TextItem) (p : Parameter) (trail : List TextItem) (m : Modifier)
  | group (ts : List TextItem) (m : Modifier)

namespace Piece

/-- The piece as it is written. -/
def written : Piece → Text
  | text x => x.written
  | parameter p m => p.written ++ m.text
  | brace lead p trail m =>
    scalar '\x7b' :: lead.flatMap TextItem.written ++ p.written ++ trail.flatMap TextItem.written ++
      scalar '\x7d' :: m.text
  | group ts m => scalar '\x7b' :: ts.flatMap TextItem.written ++ scalar '\x7d' :: m.text

/-- The piece ends before a text, and so does the parameter in it. -/
def EndsBefore (rest : Text) : Piece → Prop
  | parameter p m => p.EndsBefore (m.text ++ rest)
  | brace _ p trail _ => p.EndsBefore (trail.flatMap TextItem.written ++ [scalar '\x7d'])
  | _ => True

/-- The name of the parameter in the piece. -/
def name? : Piece → Option Text
  | parameter p _ | brace _ p _ _ => p.name?
  | _ => none

/-- The parameter in the piece, if there is one. -/
def parameter? : Piece → Option Parameter
  | parameter p _ | brace _ p _ _ => some p
  | _ => none

/-- The body that is written in the piece, if one is. -/
def body? : Piece → Option Text
  | parameter p _ | brace _ p _ _ => p.body?
  | _ => none

end Piece

/-- Pieces one after the other, each of which ends before the next one. -/
def Apart : List Piece → Prop
  | [] => True
  | p :: ps => p.EndsBefore (ps.flatMap Piece.written) ∧ Apart ps

/-- Pieces are a reading of a source. -/
structure IsParse (source : Text) (ps : List Piece) : Prop where
  written_eq : ps.flatMap Piece.written = source
  apart : Apart ps

/-- No body is written in a source. -/
def WithoutBodies (source : Text) : Prop :=
  ∀ ps, IsParse source ps → ∀ p ∈ ps, p.body? = none

/-- The segments that pieces mean. -/
def segmentsOf : List Piece → List Segment
  | [] => []
  | .text (.plain c _) :: .parameter p m :: ps =>
    if c = '/' ∨ c = '.' then p.segment [c] [] m :: segmentsOf ps
    else Segment.consChar c (p.segment [] [] m :: segmentsOf ps)
  | .text x :: ps => Segment.consChar x.char (segmentsOf ps)
  | .parameter p m :: ps => p.segment [] [] m :: segmentsOf ps
  | .brace lead p trail m :: ps =>
    p.segment (lead.map TextItem.char) (trail.map TextItem.char) m :: segmentsOf ps
  | .group ts m :: ps => .group (ts.map TextItem.char) m :: segmentsOf ps

end Pattern
end RouteTable
