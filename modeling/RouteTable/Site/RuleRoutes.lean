/-
# The routes of rules

Each rule gives one route, and each list of rules the list of their routes: the
rule is read if it stands in a map, its source is compiled, and its templates are
rewritten with the parameters of the source.  The first rule that fails is the
failure of the list.
-/

import RouteTable.Destination
import RouteTable.Failure
import RouteTable.Pattern.Compiled

namespace RouteTable

/-- The route of a redirect whose source is compiled. -/
def Redirect.route (r : Redirect) (c : Pattern.Compiled) : Route :=
  .redirect c.regex [("Location".text, Destination.rewrite c.registry r.destination)]
    (match r.status with
      | .null => .int defaultStatus
      | status => status)

/-- The route of a rewrite whose source is compiled: it asks for a look whether
something is there. -/
def Rewrite.route (r : Rewrite) (c : Pattern.Compiled) : Route :=
  .rewrite c.regex (Destination.rewrite c.registry r.destination) true

/-- The route of a header rule whose source is compiled: later routes go on. -/
def HeaderRule.route (r : HeaderRule) (c : Pattern.Compiled) : Route :=
  .headers c.regex
    (Headers.ofList (r.headers.map fun (k, v) =>
      (Template.rewrite c.registry k, Template.rewrite c.registry v)))
    true

namespace Site

/-- The route of the rule at a position of its list. -/
def ruleRoute {α : Type} (toRule : Value → Except Rule.Error α) (source : α → Text)
    (route : α → Pattern.Compiled → Route) (index : Nat) (v : Value) : Except Failure Route := do
  let rule ← (toRule v).mapError .rule
  let compiled ← (Pattern.compile (source rule)).mapError fun e => .pattern (e.atRule index)
  return route rule compiled

/-- The routes of rules, the first of which has the position `index`. -/
def ruleRoutesFrom (route : Nat → Value → Except Failure Route) (index : Nat) :
    List Value → Except Failure (List Route)
  | [] => .ok []
  | v :: vs => do
    let r ← route index v
    return r :: (← ruleRoutesFrom route (index + 1) vs)

/-- The routes of the rules that a value lists. -/
def ruleRoutes (route : Nat → Value → Except Failure Route) (rules : Value) :
    Except Failure (List Route) :=
  match rules.items with
  | .ok vs => ruleRoutesFrom route 0 vs
  | .error f => .error (.value f)

/-- The routes of redirects. -/
def redirectRoutes (rules : Value) : Except Failure (List Route) :=
  ruleRoutes (ruleRoute Rule.toRedirect (·.source) Redirect.route) rules

/-- The routes of rewrites. -/
def rewriteRoutes (rules : Value) : Except Failure (List Route) :=
  ruleRoutes (ruleRoute Rule.toRewrite (·.source) Rewrite.route) rules

/-- The routes of header rules. -/
def headerRoutes (rules : Value) : Except Failure (List Route) :=
  ruleRoutes (ruleRoute Rule.toHeaderRule (·.source) HeaderRule.route) rules

end Site
end RouteTable
