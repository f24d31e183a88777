/-
# Where a redirect leads

A route applies to the paths in which its source is found, and the match may have captured
something in the first group of the source.  The location of a redirect takes it up: `$1`
stands for what the group holds, and for nothing where the group has not matched
(`Route.target?`).

A source between anchors whose groups are not repeated is described by a relation between
texts and captures (`Pattern.Traces`).  For paths of one line the relation tells to which the
route applies (`Route.appliesIff_of_traces`) and what its first group holds
(`Route.firstGroup?_eq_some`).
-/

import RouteTable.Proofs.Pattern.Traces
import RouteTable.Proofs.Route.Anchored

namespace RouteTable
namespace Route

open Pattern (Traces anchored)
open Regex.Backtracking (Item)

/-- What the first group of a route's source holds where the source is found in a path: `none`
if it is not found, and `some none` if the group has not matched. -/
def firstGroup? (edition : Regex.Backtracking.Edition) (r : Route) (path : Text) :
    Except RouteTable.Failure (Option (Option Text)) := do
  let (_, n) ← Matching.expression edition r.toValue
  return (n.search path).map fun m => m.stop.captured? 1

/-- Whether a route applies to a path is told by a condition. -/
def AppliesIff (edition : Regex.Backtracking.Edition) (r : Route) (path : Text)
    (condition : Prop) : Prop :=
  ∃ b, Matching.appliesTo edition r.toValue path = .ok b ∧ (b = true ↔ condition)

/-- The location that a redirect names. -/
def location? : Route → Option Text
  | redirect _ hs _ => hs.lookup "Location".text
  | rewrite .. | headers .. | handle _ => none

/-- A location with a text in the place of each `$1`. -/
def filled (group : Text) : Text → Text
  | scalar '$' :: scalar '1' :: t => group ++ filled group t
  | c :: t => c :: filled group t
  | [] => []

/-- Where a redirect leads from a path, if it applies to it. -/
def target? (edition : Regex.Backtracking.Edition) (r : Route) (path : Text) :
    Except RouteTable.Failure (Option Text) :=
  (r.firstGroup? edition path).map fun held =>
    held.bind fun group => r.location?.map (filled (group.getD []))

variable {edition : Regex.Backtracking.Edition} {r : Route} {path src l : Text} {items : List Item}
  {g : Option Text}
  {R : Text → List (Nat × Text) → Prop} {cs : List (Nat × Text)} {p q : Prop}

/-- A route applies where its source is found. -/
theorem appliesTo_eq (edition : Regex.Backtracking.Edition) (r : Route) (path : Text) :
    Matching.appliesTo edition r.toValue path =
      (r.firstGroup? edition path).map Option.isSome := by
  rw [Matching.appliesTo, firstGroup?]
  cases Matching.expression edition r.toValue with
  | error e => rfl
  | ok e =>
    obtain ⟨t, n⟩ := e
    change Except.ok (n.search path).isSome = Except.ok _
    rw [Option.isSome_map]

/-- A route applies where its first group holds something or nothing. -/
theorem appliesTo_of_firstGroup? (h : r.firstGroup? edition path = .ok (some g)) :
    Matching.appliesTo edition r.toValue path = .ok true := by
  rw [appliesTo_eq, h]
  rfl

/-- A redirect leads to its location, filled with what the group holds. -/
theorem target?_of_firstGroup? (h : r.firstGroup? edition path = .ok (some g))
    (hl : r.location? = some l) : r.target? edition path = .ok (some (filled (g.getD []) l)) := by
  rw [target?, h, hl]
  rfl

namespace AppliesIff

theorem congr (h : r.AppliesIff edition path p) (hpq : p ↔ q) : r.AppliesIff edition path q := by
  obtain ⟨b, hb, hp⟩ := h
  exact ⟨b, hb, hp.trans hpq⟩

theorem eq_true (h : r.AppliesIff edition path p) (hp : p) :
    Matching.appliesTo edition r.toValue path = .ok true := by
  obtain ⟨b, hb, hiff⟩ := h
  rw [hb, hiff.2 hp]

theorem eq_false (h : r.AppliesIff edition path p) (hp : ¬p) :
    Matching.appliesTo edition r.toValue path = .ok false := by
  obtain ⟨b, hb, hiff⟩ := h
  rw [hb, Bool.eq_false_iff.2 (mt hiff.1 hp)]

theorem of_eq_true (h : r.AppliesIff edition path p)
    (happlies : Matching.appliesTo edition r.toValue path = .ok true) : p := by
  obtain ⟨b, hb, hiff⟩ := h
  exact hiff.1 (Except.ok.inj (hb.symm.trans happlies))

end AppliesIff

/-! ### Sources that a relation describes -/

section Traced

variable (hr : r.source? = some src)
  (hsrc : Regex.Backtracking.parse edition src = .ok (anchored items))
  (h : Traces items R) (hline : scalar '\n' ∉ path)

include hr hsrc

/-- The first group is that of the source's expression. -/
theorem firstGroup?_of_source :
    r.firstGroup? edition path =
      .ok (((anchored items).search path).map fun m => m.stop.captured? 1) := by
  rw [firstGroup?, expression_toValue hr hsrc]
  rfl

include h hline

/-- A route applies to the paths that its source relates to something. -/
theorem appliesIff_of_traces : r.AppliesIff edition path (∃ cs, R path cs) := by
  refine ⟨_, ?_, (h.search_iff hline).1⟩
  rw [appliesTo_eq, firstGroup?_of_source hr hsrc]
  exact congrArg Except.ok (Option.isSome_map ..)

/-- **What the first group holds,** if all that a path is related to agrees on it. -/
theorem firstGroup?_eq_some (hR : R path cs) (hg : ∀ ds, R path ds → ds.lookup 1 = g) :
    r.firstGroup? edition path = .ok (some g) := by
  obtain ⟨hfound, hheld⟩ := h.search_iff hline
  obtain ⟨m, hm⟩ := Option.isSome_iff_exists.1 (hfound.2 ⟨cs, hR⟩)
  have hgroup : m.stop.captured? 1 = g := hg _ (hheld m hm)
  rw [firstGroup?_of_source hr hsrc, hm, Option.map_some, hgroup]

end Traced

end Route
end RouteTable
