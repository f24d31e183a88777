/-
# Rewriting templates

A registry turns the references of a template into references to capture
groups.  The modifier of a reference is taken with it only where the parameter
is declared with that modifier; elsewhere it stays as text.  A reference to a
name that is not listed stays as it is.
-/

import RouteTable.Template
import RouteTable.Pattern.Registry

namespace RouteTable
namespace Template

open Pattern (Registry Entry)

/-- What a reference becomes. -/
def Reference.rewrite (registry : Registry) (r : Reference) : Text :=
  match registry.get? r.name with
  | none => r.written
  | some e =>
    if r.modifier.text = e.modifier then e.reference else e.reference ++ r.modifier.text

/-- What a part becomes. -/
def Part.rewrite (registry : Registry) : Part → Text
  | .literal t => t
  | .reference r => r.rewrite registry

/-- The template with its references rewritten. -/
def rewrite (registry : Registry) (t : Text) : Text :=
  if registry.entries = [] then t else (scan t).flatMap (Part.rewrite registry)

end Template
end RouteTable
