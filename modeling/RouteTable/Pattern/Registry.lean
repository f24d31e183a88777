/-
# Registries of parameters

A registry lists named parameters in the order of their declaration, each with
the number of the capture group that it lands in.  A builder hands out the
numbers: every capture takes the next one, and only a named capture is listed.
-/

import RouteTable.Text.Basic

namespace RouteTable
namespace Pattern

/-- A named parameter. -/
structure Entry where
  name : Text
  /-- The number of the capture group that the parameter lands in. -/
  index : Int
  /-- The modifier that the parameter is declared with. -/
  modifier : Text
  deriving DecidableEq, Repr

/-- The reference to the entry's capture group: `$` and its number. -/
def Entry.reference (e : Entry) : Text := '$' :: (toString e.index).text

/-- Named parameters in the order of their declaration. -/
structure Registry where
  entries : List Entry
  deriving DecidableEq, Repr

namespace Registry

/-- The registry without parameters. -/
def empty : Registry := ⟨[]⟩

/-- The first entry of a name. -/
def get? (r : Registry) (name : Text) : Option Entry := r.entries.find? (·.name == name)

/-- Whether a name is listed. -/
def contains (r : Registry) (name : Text) : Bool := r.entries.any (·.name == name)

/-- The names, in order. -/
def names (r : Registry) : List Text := r.entries.map (·.name)

/-- A name has an entry exactly if it is listed. -/
theorem isSome_get?_iff_contains {r : Registry} {name : Text} :
    (r.get? name).isSome = r.contains name := by
  rw [Bool.eq_iff_iff]; simp [get?, contains]

/-- A registry under construction: how many groups are handed out, and the named
ones. -/
structure Builder where
  groups : Nat
  entries : List Entry
  deriving DecidableEq, Repr

namespace Builder

/-- The builder that has handed out nothing. -/
def empty : Builder := ⟨0, []⟩

/-- Hands out the next group, and lists it when it has a name. -/
def capture (b : Builder) (name : Option Text) (modifier : Text) : Builder where
  groups := b.groups + 1
  entries := match name with
    | some n => b.entries ++ [⟨n, b.groups + 1, modifier⟩]
    | none => b.entries

/-- The registry of the captures so far. -/
def build (b : Builder) : Registry := ⟨b.entries⟩

end Builder
end Registry
end Pattern
end RouteTable
