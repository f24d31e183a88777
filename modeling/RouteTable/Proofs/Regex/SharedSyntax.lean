/-
# Expressions that engines share

Shared expressions can be put together: one after the other, and in parentheses with or without a
sign.  What is allowed to be deep includes what is not.
-/

import RouteTable.Pattern.Compiled
import RouteTable.Regex.Syntax

namespace RouteTable
namespace Regex

open Pattern (parenthesised)

namespace IsExpression

variable {n : Nat} {c : CodePoint} {s t u m : Text}

/-- **Shared expressions one after the other** are one. -/
theorem append (ht : IsExpression n t) (hu : IsExpression n u) : IsExpression n (t ++ u) := by
  induction ht with
  | nil => exact hu
  | anchor hc _ ih => exact .anchor hc (ih hu)
  | single hs hm _ ih =>
    rw [List.append_assoc]
    exact .single hs hm (ih hu)
  | parentheses ho hi hm _ _ ih =>
    rw [List.append_assoc]
    exact .parentheses ho hi hm (ih hu)

/-- **Where parentheses may be deeper,** an expression is still one. -/
theorem mono {k : Nat} (ht : IsExpression n t) (h : n ≤ k) : IsExpression k t := by
  induction ht generalizing k with
  | nil => exact .nil
  | anchor hc _ ih => exact .anchor hc (ih h)
  | single hs hm _ ih => exact .single hs hm (ih h)
  | parentheses ho _ hm _ ihu ih =>
    obtain ⟨d, rfl⟩ : ∃ d, k = d + 1 := ⟨k - 1, by omega⟩
    exact .parentheses ho (ihu (by omega)) hm (ih h)

/-- What names one character, with a sign or without. -/
theorem of_single (hs : IsSingle s) (hm : m ∈ repetitionSigns) : IsExpression n (s ++ m) := by
  have hlast : IsExpression n [] := .nil
  have h := IsExpression.single hs hm hlast
  rwa [List.append_nil] at h

/-- A character that stands for itself. -/
theorem cons (hc : c ∉ metacharacters) (ht : IsExpression n t) : IsExpression n (c :: t) :=
  .single (.char hc) List.mem_cons_self ht

/-- A mark of ASCII behind a backslash. -/
theorem escaped (hc : IsPunctuation c) (ht : IsExpression n t) :
    IsExpression n (scalar '\\' :: c :: t) :=
  .single (m := []) (.escaped hc) List.mem_cons_self ht

/-- Characters that stand for themselves. -/
theorem plain_append (ht : ∀ c ∈ t, c ∉ metacharacters) (hu : IsExpression n u) :
    IsExpression n (t ++ u) := by
  induction t with
  | nil => exact hu
  | cons c t ih =>
    obtain ⟨hc, ht⟩ := List.forall_mem_cons.1 ht
    exact .cons hc (ih ht)

/-- **A shared expression in parentheses,** with a sign or without. -/
theorem parenthesised {o : String} (ho : o ∈ ["(", "(?:"]) (ht : IsExpression n t)
    (hm : m ∈ repetitionSigns) : IsExpression (n + 1) (Pattern.parenthesised o t ++ m) := by
  have hopening : o.text ∈ ["(".text, "(?:".text] := List.mem_map_of_mem ho
  have h := IsExpression.parentheses hopening ht hm .nil
  rwa [List.append_nil] at h

end IsExpression

end Regex
end RouteTable
