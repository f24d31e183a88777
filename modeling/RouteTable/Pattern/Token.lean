/-
# Tokens

A source pattern is first cut into tokens:

| token | written | its text |
| --- | --- | --- |
| `char` | any character that starts no other token | itself |
| `escaped` | a backslash and a character | the character |
| `modifier` | `?`, `*` or `+` | itself |
| `name` | `:` and the longest run of name characters, which is not empty | the run |
| `body` | a balanced `(` … `)` | what stands between the two |
| `opening`, `closing` | the braces | themselves |

In a body a backslash takes the next character with it, and a parenthesis is
only opened for what does not capture, that is right before a `?`; the body
itself does not start with `?`.
-/

import RouteTable.Outcome
import RouteTable.Pattern.Error

namespace RouteTable
namespace Pattern

/-- What a token is, and the text that it carries. -/
inductive TokenShape where
  | char (c : CodePoint)
  | escaped (c : CodePoint)
  | modifier (m : Modifier)
  | name (t : Text)
  | body (t : Text)
  | opening
  | closing
  deriving DecidableEq, Repr

/-- A token, and the offset in the source where it is written. -/
structure Token where
  offset : Nat
  shape : TokenShape
  deriving DecidableEq, Repr

namespace TokenShape

/-- The class that messages name. -/
def tokenClass : TokenShape → TokenClass
  | char _ => .char
  | escaped _ => .escapedChar
  | modifier _ => .modifier
  | name _ => .name
  | body _ => .body
  | opening => .opening
  | closing => .closing

/-- The token as it is written. -/
def written : TokenShape → Text
  | char c => [c]
  | escaped c => ['\\', c]
  | modifier m => m.text
  | name t => ':' :: t
  | body t => scalar '(' :: t ++ [scalar ')']
  | opening => ['{']
  | closing => ['}']

/-- The character of a token that is plain text. -/
def textChar? : TokenShape → Option CodePoint
  | char c => some c
  | escaped c => some c
  | _ => none

end TokenShape

namespace Token

/-- Reads a body up to its closing parenthesis: the body, and what follows.
`depth` counts the parentheses that are open inside it, `start` is the offset of
its own, and `i` the offset of what is read. -/
def readBody (start : Nat) : Nat → Nat → Text → Except Fault (Text × Text)
  | _, _, [] => .error ⟨.unbalancedBody, some start⟩
  | _, _, ['\\'] => .error ⟨.unbalancedBody, some start⟩
  | depth, i, '\\' :: c :: t =>
    (readBody start depth (i + 2) t).map fun (body, rest) => ('\\' :: c :: body, rest)
  | 0, _, ')' :: t => .ok ([], t)
  | depth + 1, i, ')' :: t =>
    (readBody start depth (i + 1) t).map fun (body, rest) => (')' :: body, rest)
  | depth, i, '(' :: t =>
    if t.head? = some (scalar '?') then
      (readBody start (depth + 1) (i + 1) t).map fun (body, rest) => ('(' :: body, rest)
    else .error ⟨.nestedCapture, some i⟩
  | depth, i, c :: t =>
    (readBody start depth (i + 1) t).map fun (body, rest) => (c :: body, rest)

/-- What `readBody` reads is written before a closing parenthesis. -/
theorem eq_append_of_readBody {start depth i : Nat} {t body rest : Text}
    (h : readBody start depth i t = .ok (body, rest)) : t = body ++ scalar ')' :: rest := by
  fun_induction readBody start depth i t generalizing body rest <;>
    simp_all [Outcome.map_eq_ok] <;> grind

/-- Reads the token that starts at offset `i`: its shape, and what follows. -/
def read (i : Nat) (c : CodePoint) (t : Text) : Except Fault (TokenShape × Text) :=
  match Modifier.ofChar? c with
  | some m => .ok (.modifier m, t)
  | none =>
    match c with
    | '\\' =>
      match t with
      | [] => .error ⟨.danglingEscape, some i⟩
      | d :: t => .ok (.escaped d, t)
    | '{' => .ok (.opening, t)
    | '}' => .ok (.closing, t)
    | ':' =>
      match t.takeWhile isNameChar with
      | [] => .error ⟨.missingName, some i⟩
      | name => .ok (.name name, t.dropWhile isNameChar)
    | '(' =>
      if t.head? = some (scalar '?') then .error ⟨.leadingQuestionMark, some (i + 1)⟩
      else match readBody i 0 (i + 1) t with
        | .error f => .error f
        | .ok ([], _) => .error ⟨.emptyBody, some i⟩
        | .ok (body, rest) => .ok (.body body, rest)
    | _ => .ok (.char c, t)

/-- **A token is read as it is written:** its written form and what follows it
are what was read. -/
theorem written_append_of_read {i : Nat} {c : CodePoint} {t rest : Text} {shape : TokenShape}
    (h : read i c t = .ok (shape, rest)) : shape.written ++ rest = c :: t := by
  unfold read at h
  split at h
  · rename_i m hm
    obtain ⟨rfl, rfl⟩ := Prod.mk.inj (Except.ok.inj h)
    simp [TokenShape.written, Modifier.ofChar?_eq_some_iff.1 hm]
  · split at h
    · split at h
      · simp at h
      · obtain ⟨rfl, rfl⟩ := Prod.mk.inj (Except.ok.inj h); rfl
    · obtain ⟨rfl, rfl⟩ := Prod.mk.inj (Except.ok.inj h); rfl
    · obtain ⟨rfl, rfl⟩ := Prod.mk.inj (Except.ok.inj h); rfl
    · split at h
      · simp at h
      · obtain ⟨rfl, rfl⟩ := Prod.mk.inj (Except.ok.inj h)
        simp [TokenShape.written, List.takeWhile_append_dropWhile]
    · split at h
      · simp at h
      · split at h
        · simp at h
        · simp at h
        · rename_i hb
          obtain ⟨rfl, rfl⟩ := Prod.mk.inj (Except.ok.inj h)
          simp [TokenShape.written, eq_append_of_readBody hb]
    · obtain ⟨rfl, rfl⟩ := Prod.mk.inj (Except.ok.inj h); rfl

/-- A token is written with a character at least. -/
theorem TokenShape.written_ne_nil {i : Nat} {c : CodePoint} {t rest : Text} {shape : TokenShape}
    (h : read i c t = .ok (shape, rest)) : shape.written ≠ [] := by
  unfold read at h
  split at h
  · rename_i m hm
    obtain ⟨rfl, rfl⟩ := Prod.mk.inj (Except.ok.inj h)
    simp [TokenShape.written, Modifier.ofChar?_eq_some_iff.1 hm]
  · cases shape <;> simp [TokenShape.written]
    grind

/-- Reading a token takes a character at least. -/
theorem length_of_read {i : Nat} {c : CodePoint} {t rest : Text} {shape : TokenShape}
    (h : read i c t = .ok (shape, rest)) : rest.length < (c :: t).length := by
  have hw := written_append_of_read h
  have := List.length_pos_iff.2 (TokenShape.written_ne_nil h)
  rw [← hw]; simp; omega

/-- The tokens of a text that starts at offset `i`. -/
def scan (i : Nat) (t : Text) : Except Fault (List Token) :=
  match t with
  | [] => .ok []
  | c :: t =>
    match _h : read i c t with
    | .error f => .error f
    | .ok (shape, rest) => (scan (i + shape.written.length) rest).map (⟨i, shape⟩ :: ·)
termination_by t.length
decreasing_by exact length_of_read ‹_›

/-- **The tokens of a text, written one after the other, are the text.** -/
theorem flatMap_written_of_scan {i : Nat} {t : Text} {tokens : List Token}
    (h : scan i t = .ok tokens) : tokens.flatMap (fun k => k.shape.written) = t := by
  fun_induction scan i t generalizing tokens with
  | case1 => simp_all
  | case2 => simp at h
  | case3 i c t shape rest hr ih =>
    obtain ⟨u, hu, rfl⟩ := Outcome.map_eq_ok.1 h
    simp [ih hu, written_append_of_read hr]

end Token
end Pattern
end RouteTable
