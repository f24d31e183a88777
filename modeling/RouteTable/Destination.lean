/-
# Destinations

A destination is an address or a path.  It is cut into an origin, a path, a query
and a fragment; only the origin is no template.

| component | is |
| --- | --- |
| origin | `//` and what follows it up to `/`, `?` or `#`, with a scheme and `:` before it or not |
| path | what follows the origin, up to `?` or `#` |
| query | what follows the first `?` before the fragment |
| fragment | what follows the first `#` after the origin |

Rewriting a destination rewrites its components, and appends to the query every
parameter that is not yet one of its keys.
-/

import RouteTable.Text.FormDecoding
import RouteTable.Template.Rewriting

namespace RouteTable

open Pattern (Registry Entry)

/-- A destination, cut into its components. -/
structure Destination where
  origin : Text
  path : Text
  query : Option Text
  fragment : Option Text
  deriving DecidableEq, Repr

namespace Destination

/-- A character of a scheme after its first letter. -/
def isSchemeChar (c : CodePoint) : Bool := c.isAlphanum || c == '+' || c == '.' || c == '-'

/-- What follows a scheme and its `:` at the front of a text. -/
def afterScheme? : Text → Option Text
  | [] => none
  | c :: t =>
    if c.isAlpha then
      match t.dropWhile isSchemeChar with
      | ':' :: rest => some rest
      | _ => none
    else none

/-- A character that ends an authority. -/
def endsAuthority (c : CodePoint) : Bool := c == '/' || c == '?' || c == '#'

/-- What follows `//` and an authority at the front of a text. -/
def afterAuthority? : Text → Option Text
  | '/' :: '/' :: t => some (t.dropWhile (!endsAuthority ·))
  | _ => none

/-- What follows the origin of a destination. -/
def afterOrigin (t : Text) : Text :=
  match (afterScheme? t).bind afterAuthority? with
  | some rest => rest
  | none => (afterAuthority? t).getD t

/-- The components of a destination. -/
def parse (t : Text) : Destination :=
  let rest := afterOrigin t
  let (beforeFragment, fragment) := Text.cut '#' rest
  let (path, query) := Text.cut '?' beforeFragment
  ⟨t.take (t.length - rest.length), path, query, fragment⟩

/-- The components put together. -/
def text (d : Destination) : Text :=
  d.origin ++ d.path ++ part '?' d.query ++ part '#' d.fragment
where
  /-- A component after its mark, if there is one. -/
  part (mark : CodePoint) : Option Text → Text
    | some t => mark :: t
    | none => []

/-- The pairs of a query that are not empty. -/
def pairs (query : Text) : List Text := (Text.pieces '&' query).filter (· ≠ [])

/-- The key that a pair stands for. -/
def key (pair : Text) : Text := Text.formDecode (Text.cut '=' pair).1

/-- The pair with its value rewritten. -/
def rewritePair (registry : Registry) (pair : Text) : Text :=
  match Text.cut '=' pair with
  | (k, some value) => k ++ scalar '=' :: Template.rewrite registry value
  | (k, none) => k

/-- The pair that hands on a parameter. -/
def parameterPair (e : Entry) : Text := e.name ++ scalar '=' :: e.reference

/-- The pairs of a rewritten query: those of the query, then one for each
parameter that is not one of its keys. -/
def rewritePairs (registry : Registry) (query : Text) : List Text :=
  let old := pairs query
  let keys := old.map key
  old.map (rewritePair registry)
    ++ (registry.entries.filter (fun e => !keys.contains e.name)).map parameterPair

/-- The components of a rewritten destination.  After an origin the path is never
empty. -/
def rewriteComponents (registry : Registry) (d : Destination) : Destination where
  origin := d.origin
  path := Template.rewrite registry (if d.origin ≠ [] ∧ d.path = [] then ['/'] else d.path)
  query := match rewritePairs registry (d.query.getD []) with
    | [] => none
    | ps => some (Text.join ['&'] ps)
  fragment := d.fragment.map (Template.rewrite registry)

/-- The destination with its templates rewritten and the parameters handed on.
Without parameters it stays as it is. -/
def rewrite (registry : Registry) (t : Text) : Text :=
  if registry.entries = [] then t else (rewriteComponents registry (parse t)).text

end Destination
end RouteTable
