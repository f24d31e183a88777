/-
# Rules one by one

The three assemblers take rules in any mixture, some of them built and some in maps.  Each works
one by one (`OneByOne`): what a list of rules gives is what its rules give alone, one after the
other, and a list that gives nothing fails as the first of its rules that fails.  Only the error
of a source says where its rule stands, and it is otherwise that of the source by itself.

An assembler looks at a rule only through what it is read as, so that a rule in a map may be
replaced by the rule that it is.
-/

import RouteTable.Proofs.Site.Rules

namespace RouteTable

/-- The error of a source that is compiled is that of its segments. -/
theorem Pattern.compile_eq_error_iff {t : Text} {e : Pattern.Error} :
    compile t = .error e ↔ segments t = .error e :=
  Outcome.map_eq_error

namespace Site

open Pattern (Compiled compile segments)
open List (Forall₂)

/-- An assembler that works rule by rule.  Values are read as rules by `toRule`, and `toValue` is
the value of a rule that is built. -/
structure OneByOne {α : Type} (toRule : Value → Except Rule.Error α) (toValue : α → Value)
    (source : α → Text) (routes : Value → Except Failure (List Route)) : Prop where
  /-- Rules give routes exactly if each of them alone does. -/
  exists_iff : ∀ vs, (∃ rs, routes (.list vs) = .ok rs) ↔
    ∀ v ∈ vs, ∃ rs, routes (.list [v]) = .ok rs
  /-- The routes are those of the rules alone, one after the other. -/
  eq_ok_iff : ∀ vs rs, routes (.list vs) = .ok rs ↔
    ∃ rss, Forall₂ (fun v rs => routes (.list [v]) = .ok rs) vs rss ∧ rs = rss.flatten
  /-- The failure is that of the first rule that fails: what it is read from is no rule, or its
  source is none, and then the error is that of the source with the position of the rule. -/
  eq_error_iff : ∀ vs f, routes (.list vs) = .error f ↔
    ∃ front v back, vs = front ++ v :: back ∧ (∀ w ∈ front, ∃ rs, routes (.list [w]) = .ok rs) ∧
      ((∃ e, toRule v = .error e ∧ f = .rule e) ∨
        ∃ a e, toRule v = .ok a ∧ segments (source a) = .error e ∧
          f = .pattern { e with rule := some front.length })
  /-- Any rules may be replaced by what they are read as. -/
  congr : ∀ vs ws, Forall₂ (fun v w => w = v ∨ ∃ a, toRule v = .ok a ∧ w = toValue a) vs ws →
    routes (.list vs) = routes (.list ws)

variable {α : Type} {toRule : Value → Except Rule.Error α} {toValue : α → Value}
  {source : α → Text} {route : α → Compiled → Route} {vs ws : List Value} {v : Value}
  {rs : List Route} {f : Failure}

/-- A rule that gives routes alone gives one. -/
theorem exists_singleton_iff :
    (∃ rs, ruleRoutes (ruleRoute toRule source route) (.list [v]) = .ok rs) ↔
      ∃ r, ruleRoutes (ruleRoute toRule source route) (.list [v]) = .ok [r] := by
  constructor
  · rintro ⟨rs, h⟩
    obtain ⟨r, -, rfl⟩ := (ruleRoutes_singleton_eq_ok_iff 0).1 h
    exact ⟨r, h⟩
  · rintro ⟨r, h⟩
    exact ⟨[r], h⟩

/-- One route for each rule is the same as the routes of the rules one after the other. -/
theorem forall₂_singleton_iff :
    Forall₂ (fun v r => ruleRoutes (ruleRoute toRule source route) (.list [v]) = .ok [r]) vs rs ↔
      ∃ rss, Forall₂ (fun v rs => ruleRoutes (ruleRoute toRule source route) (.list [v]) = .ok rs)
        vs rss ∧ rs = rss.flatten := by
  constructor
  · intro h
    refine ⟨rs.map ([·]), List.forall₂_map_right_iff.2 h, ?_⟩
    simp [← List.flatMap_def]
  · rintro ⟨rss, h, rfl⟩
    induction h with
    | nil => exact .nil
    | cons hv _ ih =>
      obtain ⟨r, -, rfl⟩ := (ruleRoutes_singleton_eq_ok_iff 0).1 hv
      exact .cons hv ih

/-- What is read as the same rules gives the same routes. -/
theorem ruleRoutesFrom_congr (hread : ∀ a, toRule (toValue a) = .ok a) (index : Nat)
    (h : Forall₂ (fun v w => w = v ∨ ∃ a, toRule v = .ok a ∧ w = toValue a) vs ws) :
    ruleRoutesFrom (ruleRoute toRule source route) index vs =
      ruleRoutesFrom (ruleRoute toRule source route) index ws := by
  induction h generalizing index with
  | nil => rfl
  | @cons v w vs ws hvw _ ih =>
    have hsame : toRule v = toRule w := by
      rcases hvw with rfl | ⟨a, ha, rfl⟩
      · rfl
      · rw [ha, hread]
    rw [ruleRoutesFrom, ruleRoutesFrom, ruleRoute, ruleRoute, hsame, ih]

/-- **A list of rules is assembled rule by rule,** whatever its rules are read by. -/
theorem oneByOne_ruleRoutes (hread : ∀ a, toRule (toValue a) = .ok a) :
    OneByOne toRule toValue source (ruleRoutes (ruleRoute toRule source route)) where
  exists_iff vs := by
    simp only [exists_singleton_iff]
    exact exists_ruleRoutesFrom_iff_forall 0
  eq_ok_iff vs rs := by
    change ruleRoutesFrom _ 0 vs = _ ↔ _
    rw [ruleRoutesFrom_eq_ok_iff_forall₂, forall₂_singleton_iff]
  eq_error_iff vs f := by
    change ruleRoutesFrom _ 0 vs = _ ↔ _
    simp only [ruleRoutesFrom_eq_error_iff_exists, exists_singleton_iff, ruleRoute_eq_error_iff,
      Pattern.compile_eq_error_iff, Nat.zero_add]
    rfl
  congr vs ws := ruleRoutesFrom_congr hread 0

/-- **Each assembler works rule by rule:** redirects, rewrites and header rules, built or in
maps. -/
theorem routes_oneByOne :
    OneByOne Rule.toRedirect Redirect.toValue (·.source) redirectRoutes ∧
      OneByOne Rule.toRewrite Rewrite.toValue (·.source) rewriteRoutes ∧
      OneByOne Rule.toHeaderRule HeaderRule.toValue (·.source) headerRoutes :=
  ⟨oneByOne_ruleRoutes Rule.toRedirect_toValue, oneByOne_ruleRoutes Rule.toRewrite_toValue,
    oneByOne_ruleRoutes Rule.toHeaderRule_toValue⟩

end Site
end RouteTable
