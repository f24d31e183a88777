/-
# The route table of a configuration

The sections of a configuration give the table's routes in this order: clean
URLs, trailing slashes, redirects, headers, the marker of the filesystem phase,
rewrites.  Rewrites stand behind the marker, so that files win over them.  A
section that is absent gives nothing, and without rewrites there is no marker.

A configuration that was built earlier is taken as it is, its fields unchecked;
anything else is read as one.
-/

import RouteTable.Route.Table
import RouteTable.Site.RuleRoutes
import RouteTable.Site.Switches

namespace RouteTable
namespace Site

/-- A configuration whose fields nobody has checked; an absent one is nothing. -/
structure Sections where
  cleanUrls : Value
  trailingSlash : Value
  redirects : Value
  rewrites : Value
  headers : Value

/-- The sections of a configuration. -/
def Sections.ofConfig (c : Config) : Sections where
  cleanUrls := (c.cleanUrls.map Value.bool).getD .null
  trailingSlash := (c.trailingSlash.map Value.bool).getD .null
  redirects := (c.redirects.map fun rs => Value.tuple (rs.map Redirect.toValue)).getD .null
  rewrites := (c.rewrites.map fun rs => Value.tuple (rs.map Rewrite.toValue)).getD .null
  headers := (c.headers.map fun rs => Value.tuple (rs.map HeaderRule.toValue)).getD .null

/-- The sections of a value: a configuration, or the map of one. -/
def Sections.ofValue : Value → Except Rule.Error Sections
  | .config cleanUrls trailingSlash redirects rewrites headers =>
    .ok ⟨cleanUrls, trailingSlash, redirects, rewrites, headers⟩
  | v => (Rule.readConfig v).map Sections.ofConfig

/-- The routes of a section, none if it is absent. -/
def sectionRoutes (routes : Value → Except Failure (List Route)) :
    Value → Except Failure (List Route)
  | .null => .ok []
  | v => routes v

/-- The routes of all sections in order. -/
def assemble (s : Sections) : Except Failure (List Route) := do
  let clean ← sectionRoutes
    (fun v => .ok (cleanUrlRoutes v.isTrue s.trailingSlash.isTrue)) s.cleanUrls
  let slash ← sectionRoutes (fun v => .ok (trailingSlashRoutes v.isTrue)) s.trailingSlash
  let redirects ← sectionRoutes redirectRoutes s.redirects
  let headers ← sectionRoutes headerRoutes s.headers
  let rewrites ← sectionRoutes
    (fun v => (rewriteRoutes v).map (.handle filesystemPhase :: ·)) s.rewrites
  return clean ++ slash ++ redirects ++ headers ++ rewrites

/-- The routes of a configuration, assembled but not yet read as a table. -/
def routes (config : Value) : Except Failure (List Route) :=
  match Sections.ofValue config with
  | .error e => .error (.rule e)
  | .ok s => assemble s

/-- The table of a configuration, checked by the engine of a name.  What is wrong
with the configuration, with a source pattern or with a route is a verdict; any
other failure stays one. -/
def table (rt : Regex.Runtime) (engine : Text) (config : Value) : Except Failure Table.Verdict :=
  match routes config with
  | .error (.rule e) => .ok (.rejected (.rule e))
  | .error (.pattern e) => .ok (.rejected (.pattern e))
  | .error e => .error e
  | .ok rs => do Table.judge (← Regex.Engine.named rt engine) (.list (rs.map Route.toValue))

end Site
end RouteTable
