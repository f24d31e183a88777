/-
# The syntax that engines share

Engines differ in what they read.  This is what every one of them reads in the same way:
characters, escaped punctuation, the dot, sets of characters, anchors at both ends of the text,
parentheses with and without a group, and the signs of a repetition behind any of these but an
anchor.

Such expressions stand one after the other in parentheses, and these in others.  How deep they do
so is told, because an engine that goes down into them may come to an end of its stack.
-/

import RouteTable.Text.Basic

namespace RouteTable
namespace Regex

/-- The characters that stand for more than themselves. -/
def metacharacters : Text := "\\^$.[|()*+?\x7b".text

/-- A mark of ASCII: no letter, no digit, no blank and no control character. -/
def IsPunctuation (c : CodePoint) : Prop :=
  0x20 < c.toNat ∧ c.toNat < 0x7F ∧ c.isAlphanum = false

/-- The signs of a repetition, or none. -/
def repetitionSigns : List Text :=
  [[], "*".text, "+".text, "?".text, "*?".text, "+?".text, "??".text]

/-- What a set names, one character after the other. -/
inductive IsMembers : Text → Prop
  | nil : IsMembers []
  | char {c : CodePoint} {t : Text} (hc : c ∉ "\\]^-[".text) (ht : IsMembers t) :
    IsMembers (c :: t)
  | escaped {c : CodePoint} {t : Text} (hc : IsPunctuation c) (ht : IsMembers t) :
    IsMembers (scalar '\\' :: c :: t)

/-- What names one character. -/
inductive IsSingle : Text → Prop
  | char {c : CodePoint} (hc : c ∉ metacharacters) : IsSingle [c]
  | escaped {c : CodePoint} (hc : IsPunctuation c) : IsSingle [scalar '\\', c]
  | any : IsSingle [scalar '.']
  | set {o t : Text} (ho : o ∈ ["[".text, "[^".text]) (ht : IsMembers t) (hne : t ≠ []) :
    IsSingle (o ++ t ++ [scalar ']'])

/-- The expressions of the shared syntax, with parentheses in one another `depth` deep at most.
Behind what names one character and behind what stands in parentheses there is a mark `m` of a
repetition, or none. -/
inductive IsExpression : (depth : Nat) → Text → Prop
  | nil {n : Nat} : IsExpression n []
  | anchor {n : Nat} {c : CodePoint} {t : Text} (hc : c = '^' ∨ c = '$')
    (ht : IsExpression n t) : IsExpression n (c :: t)
  | single {n : Nat} {s m t : Text} (hs : IsSingle s) (hm : m ∈ repetitionSigns)
    (ht : IsExpression n t) : IsExpression n (s ++ m ++ t)
  | parentheses {n : Nat} {o u m t : Text} (ho : o ∈ ["(".text, "(?:".text])
    (hu : IsExpression n u) (hm : m ∈ repetitionSigns) (ht : IsExpression (n + 1) t) :
    IsExpression (n + 1) (o ++ u ++ [scalar ')'] ++ m ++ t)

end Regex
end RouteTable
