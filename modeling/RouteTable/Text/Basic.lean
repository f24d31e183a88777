/-
# Text

A text is its list of code points: lengths, offsets and cuts all count code
points, and every function on texts is by recursion on the list.

Texts are cut at a character: `cut` at its first occurrence, `pieces` at every
one.  What is cut into pieces can be put back, `join_pieces`.
-/

import RouteTable.Text.CodePoint

namespace RouteTable

namespace Text

/-- A number in a base. -/
def inBase (base n : Nat) : Text := (Nat.toDigits base n).map scalar

/-- The text before the first `c`, and what follows that `c` if there is one. -/
def cut (c : CodePoint) : Text → Text × Option Text
  | [] => ([], none)
  | d :: t =>
    if d = c then ([], some t)
    else let (before, after) := cut c t; (d :: before, after)

/-- The texts between consecutive `c`: always one more than there are `c`. -/
def pieces (c : CodePoint) : Text → List Text
  | [] => [[]]
  | d :: t =>
    match pieces c t with
    | [] => [[]]
    | p :: ps => if d = c then [] :: p :: ps else (d :: p) :: ps

/-- The texts one after the other with `sep` between neighbours. -/
def join (sep : Text) : List Text → Text
  | [] => []
  | [t] => t
  | t :: u :: ts => t ++ sep ++ join sep (u :: ts)

/-- The text without a leading `before`, if it starts so. -/
def dropLeading? : Text → Text → Option Text
  | [], t => some t
  | _ :: _, [] => none
  | c :: before, d :: t => if c = d then dropLeading? before t else none

/-- The text without a trailing `after`, if it ends so. -/
def dropTrailing? (after t : Text) : Option Text :=
  (dropLeading? after.reverse t.reverse).map List.reverse

/-- Whether a text is another one or sorts before it, code point by code point. -/
def isAtMost : Text → Text → Bool
  | [], _ => true
  | _ :: _, [] => false
  | c :: t, d :: u => c.toNat < d.toNat || (c == d && isAtMost t u)

/-- What stands before a cut has no such character. -/
theorem cut_fst_not_mem (c : CodePoint) (t : Text) : c ∉ (cut c t).1 := by
  induction t with
  | nil => simp [cut]
  | cons d t ih =>
    by_cases h : d = c
    · simp [cut, h]
    · simpa [cut, h, Ne.symm h] using ih

/-- A text has one piece at least. -/
theorem pieces_ne_nil (c : CodePoint) (t : Text) : pieces c t ≠ [] := by
  cases t with
  | nil => simp [pieces]
  | cons d t => simp only [pieces]; split <;> (try split) <;> simp

/-- **Joining undoes cutting into pieces.** -/
theorem join_pieces (c : CodePoint) (t : Text) : join [c] (pieces c t) = t := by
  induction t with
  | nil => rfl
  | cons d t ih =>
    simp only [pieces]
    split
    · exact absurd ‹_› (pieces_ne_nil c t)
    · rename_i p ps h
      rw [h] at ih
      by_cases hd : d = c
      · subst hd; simp [join, ih]
      · simp only [hd, if_false]
        cases ps with
        | nil => simpa [join] using ih
        | cons q qs => simpa [join] using ih

/-- A beginning is dropped from the texts that start with it. -/
theorem dropLeading?_eq_some_iff {before t rest : Text} :
    dropLeading? before t = some rest ↔ t = before ++ rest := by
  induction before generalizing t with
  | nil => simp [dropLeading?, eq_comm]
  | cons c before ih =>
    cases t with
    | nil => simp [dropLeading?]
    | cons d t =>
      by_cases h : c = d
      · simp [dropLeading?, h, ih]
      · simp [dropLeading?, h, Ne.symm h]

/-- An ending is dropped from the texts that end in it. -/
theorem dropTrailing?_eq_some_iff {after t rest : Text} :
    dropTrailing? after t = some rest ↔ t = rest ++ after := by
  rw [dropTrailing?, Option.map_eq_some_iff]
  constructor
  · rintro ⟨u, hu, rfl⟩
    have := dropLeading?_eq_some_iff.1 hu
    rw [← List.reverse_reverse t, this]; simp
  · rintro rfl
    exact ⟨rest.reverse, dropLeading?_eq_some_iff.2 (by simp), by simp⟩

end Text
end RouteTable
