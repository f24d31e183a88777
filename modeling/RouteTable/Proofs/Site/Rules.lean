/-
# The routes of lists of rules

A list of rules gives one route for each, the one that the rule gives when it stands alone
(`Site.ruleRoutesFrom_eq_ok_iff`), or the failure of the first rule whose source is none
(`Site.ruleRoutesFrom_eq_error_iff`).  Both are cases of what holds of any values, of which some
may be no rules (`Site.ruleRoutesFrom_eq_ok_iff_forall₂`,
`Site.ruleRoutesFrom_eq_error_iff_exists`).  The routes that rules give are emitted routes, of
which the engine and the statuses of redirects are all that is left to be checked.
-/

import RouteTable.Proofs.Route.Emitted
import RouteTable.Proofs.Rule.Schema
import RouteTable.Site.RuleRoutes
import Mathlib.Data.List.Forall2

namespace RouteTable

open Pattern (Compiled compile)

/-- An expression that is compiled stands between anchors. -/
theorem Pattern.Compiled.isAnchored_regex (c : Compiled) : Route.IsAnchored c.regex where
  head := rfl
  last := by
    rw [regex, regexOf, List.getLast?_append]
    rfl

/-- The status that a redirect's route is to have, if it is a number. -/
def Redirect.statusNumber? (r : Redirect) : Option Int :=
  match r.status with
  | .null => some defaultStatus
  | .int n => some n
  | _ => none

/-- A redirect's status is one of a redirect: the default is. -/
theorem Redirect.mem_redirectStatuses_iff {r : Redirect} {n : Int}
    (h : r.statusNumber? = some n) : n ∈ redirectStatuses ↔
      r.status = .null ∨ ∃ m ∈ redirectStatuses, r.status = .int m := by
  unfold statusNumber? at h
  split at h
  · rename_i hs
    cases h
    exact ⟨fun _ => Or.inl hs, fun _ => by decide⟩
  · rename_i m hs
    cases h
    rw [hs]
    simp
  · cases h

/-- A redirect with a status has a route with a location. -/
theorem Redirect.route_eq {r : Redirect} {n : Int} (h : r.statusNumber? = some n) (c : Compiled) :
    r.route c = .redirect c.regex
      [("Location".text, Destination.rewrite c.registry r.destination)] (.int n) := by
  unfold statusNumber? at h
  unfold route
  split at h
  · rename_i hs
    cases h
    rw [hs]
  · rename_i hs
    cases h
    rw [hs]
  · cases h

/-- A redirect with a status is emitted. -/
theorem Redirect.emitted_route {r : Redirect} {n : Int} (h : r.statusNumber? = some n)
    (c : Compiled) : (r.route c).Emitted := by
  rw [r.route_eq h]
  exact .redirect _ n c.isAnchored_regex

/-- A redirect is admitted exactly if its source and its status are. -/
theorem Redirect.admitted_route_iff {engine : Regex.Engine} {r : Redirect} {n : Int}
    (h : r.statusNumber? = some n) (c : Compiled) : (r.route c).Admitted engine ↔
      engine.check c.regex = .ok () ∧ n ∈ redirectStatuses := by
  rw [r.route_eq h]
  constructor
  · rintro ⟨hsource, hstatus⟩
    exact ⟨hsource _ rfl, hstatus _ rfl⟩
  · rintro ⟨hsource, hstatus⟩
    exact ⟨fun t ht => Option.some.inj ht ▸ hsource, fun m hm => Option.some.inj hm ▸ hstatus⟩

theorem Rewrite.emitted_route (r : Rewrite) (c : Compiled) : (r.route c).Emitted :=
  .rewrite _ c.isAnchored_regex

theorem Rewrite.admitted_route_iff (engine : Regex.Engine) (r : Rewrite) (c : Compiled) :
    (r.route c).Admitted engine ↔ engine.check c.regex = .ok () :=
  ⟨fun h => h.source _ rfl, fun h => ⟨fun _ ht => Option.some.inj ht ▸ h, nofun⟩⟩

theorem HeaderRule.emitted_route (r : HeaderRule) (c : Compiled) : (r.route c).Emitted :=
  .headers _ c.isAnchored_regex

theorem HeaderRule.admitted_route_iff (engine : Regex.Engine) (r : HeaderRule) (c : Compiled) :
    (r.route c).Admitted engine ↔ engine.check c.regex = .ok () :=
  ⟨fun h => h.source _ rfl, fun h => ⟨fun _ ht => Option.some.inj ht ▸ h, nofun⟩⟩

namespace Rule

/-- A redirect that is described has a status that is a number, or the default. -/
theorem DescribesRedirect.exists_statusNumber? {v : Value} {r : Redirect}
    (h : DescribesRedirect v r) : ∃ n, r.statusNumber? = some n := by
  obtain ⟨es, -, -, -, code, -, hstatus⟩ := h
  rw [Redirect.statusNumber?, hstatus]
  cases code <;> exact ⟨_, rfl⟩

/-- The redirects of a configuration that is read have a status each. -/
theorem exists_statusNumber?_of_readConfig {v : Value} {c : Config} (h : readConfig v = .ok c)
    {r : Redirect} (hr : r ∈ c.redirects.getD []) : ∃ n, r.statusNumber? = some n := by
  obtain ⟨es, -, -, -, hredirects, -, -⟩ := readConfig_eq_ok_iff.1 h
  cases hrs : c.redirects with
  | none =>
    rw [hrs] at hr
    cases hr
  | some rs =>
    rw [hrs] at hr hredirects
    obtain ⟨w, -, hlists⟩ := hredirects
    obtain ⟨_, hdescribes⟩ := hlists.exists_of_mem hr
    exact hdescribes.exists_statusNumber?

end Rule

namespace Site

/-- The first rule whose source is none, and what is wrong with that: the error says which
rule it is. -/
def FirstRefused {α : Type} (source : α → Text) (rules : List α) (e : Pattern.Error) : Prop :=
  ∃ front rule back cause, rules = front ++ rule :: back ∧
    (∀ r ∈ front, ∃ c, compile (source r) = .ok c) ∧
    compile (source rule) = .error cause ∧ e = cause.atRule front.length

section RuleRoutes

variable {α : Type} {toRule : Value → Except Rule.Error α} {toValue : α → Value}
  {source : α → Text} {route : α → Compiled → Route} {rules : List α} {rs : List Route}
  {index : Nat} {v : Value} {vs : List Value} {r : Route} {f : Failure}

/-! ### One rule -/

/-- A rule gives a route if it is read and its source compiles, at whatever position. -/
theorem ruleRoute_eq_ok_iff : ruleRoute toRule source route index v = .ok r ↔
    ∃ a c, toRule v = .ok a ∧ compile (source a) = .ok c ∧ r = route a c := by
  constructor
  · intro h
    obtain ⟨a, ha, h⟩ := Outcome.bind_eq_ok.1 h
    obtain ⟨c, hc, h⟩ := Outcome.bind_eq_ok.1 h
    exact ⟨a, c, Outcome.mapError_eq_ok.1 ha, Outcome.mapError_eq_ok.1 hc, (Except.ok.inj h).symm⟩
  · rintro ⟨a, c, ha, hc, rfl⟩
    refine Outcome.bind_eq_ok.2 ⟨a, Outcome.mapError_eq_ok.2 ha, ?_⟩
    exact Outcome.bind_eq_ok.2 ⟨c, Outcome.mapError_eq_ok.2 hc, rfl⟩

/-- A rule fails if it is none, or if its source is none: only then its position is told. -/
theorem ruleRoute_eq_error_iff : ruleRoute toRule source route index v = .error f ↔
    (∃ e, toRule v = .error e ∧ f = .rule e) ∨
      ∃ a e, toRule v = .ok a ∧ compile (source a) = .error e ∧ f = .pattern (e.atRule index) := by
  constructor
  · intro h
    rcases Outcome.bind_eq_error.1 h with h | ⟨a, ha, h⟩
    · obtain ⟨e, he, rfl⟩ := Outcome.mapError_eq_error.1 h
      exact Or.inl ⟨e, he, rfl⟩
    · rcases Outcome.bind_eq_error.1 h with h | ⟨c, -, h⟩
      · obtain ⟨e, he, rfl⟩ := Outcome.mapError_eq_error.1 h
        exact Or.inr ⟨a, e, Outcome.mapError_eq_ok.1 ha, he, rfl⟩
      · cases h
  · rintro (⟨e, he, rfl⟩ | ⟨a, e, ha, he, rfl⟩)
    · exact Outcome.bind_eq_error.2 (Or.inl (Outcome.mapError_eq_error.2 ⟨e, he, rfl⟩))
    · refine Outcome.bind_eq_error.2 (Or.inr ⟨a, Outcome.mapError_eq_ok.2 ha, ?_⟩)
      exact Outcome.bind_eq_error.2 (Or.inl (Outcome.mapError_eq_error.2 ⟨e, he, rfl⟩))

/-- A list of one rule gives the route of the rule. -/
theorem ruleRoutes_singleton_eq_ok_iff (index : Nat) :
    ruleRoutes (ruleRoute toRule source route) (.list [v]) = .ok rs ↔
      ∃ r, ruleRoute toRule source route index v = .ok r ∧ rs = [r] := by
  have halone : ruleRoutes (ruleRoute toRule source route) (.list [v]) =
      (ruleRoute toRule source route 0 v).map ([·]) := by
    change ruleRoutesFrom _ 0 [v] = _
    rw [ruleRoutesFrom]
    cases ruleRoute toRule source route 0 v <;> rfl
  rw [halone, Outcome.map_eq_ok]
  simp only [ruleRoute_eq_ok_iff, eq_comm (a := rs)]

/-- The route of a rule alone. -/
theorem ruleRoutes_singleton_iff (hread : ∀ a, toRule (toValue a) = .ok a) {a : α} :
    ruleRoutes (ruleRoute toRule source route) (.list [toValue a]) = .ok [r] ↔
      ∃ c, compile (source a) = .ok c ∧ r = route a c := by
  rw [ruleRoutes_singleton_eq_ok_iff 0]
  simp [ruleRoute_eq_ok_iff, hread]

/-- A rule that is built gives a route alone if its source compiles. -/
theorem exists_route_iff (hread : ∀ a, toRule (toValue a) = .ok a) {a : α} :
    (∃ r, ruleRoutes (ruleRoute toRule source route) (.list [toValue a]) = .ok [r]) ↔
      ∃ c, compile (source a) = .ok c := by
  simp only [ruleRoutes_singleton_iff hread]
  constructor
  · rintro ⟨r, c, hc, -⟩
    exact ⟨c, hc⟩
  · rintro ⟨c, hc⟩
    exact ⟨route a c, c, hc, rfl⟩

/-! ### A row of rules -/

/-- **A row of rules gives the route of each rule,** as the rule alone does. -/
theorem ruleRoutesFrom_eq_ok_iff_forall₂ :
    ruleRoutesFrom (ruleRoute toRule source route) index vs = .ok rs ↔
      List.Forall₂ (fun v r => ruleRoutes (ruleRoute toRule source route) (.list [v]) =
        .ok [r]) vs rs := by
  induction vs generalizing index rs with
  | nil => simp [ruleRoutesFrom, eq_comm]
  | cons v vs ih =>
    rw [ruleRoutesFrom, List.forall₂_cons_left_iff]
    constructor
    · intro h
      obtain ⟨r, hr, h⟩ := Outcome.bind_eq_ok.1 h
      obtain ⟨rs, hrs, h⟩ := Outcome.bind_eq_ok.1 h
      cases h
      exact ⟨r, rs, (ruleRoutes_singleton_eq_ok_iff index).2 ⟨r, hr, rfl⟩, ih.1 hrs, rfl⟩
    · rintro ⟨r, rs, hr, hrs, rfl⟩
      obtain ⟨r', hr, heq⟩ := (ruleRoutes_singleton_eq_ok_iff index).1 hr
      cases heq
      exact Outcome.bind_eq_ok.2 ⟨r, hr, Outcome.bind_eq_ok.2 ⟨rs, ih.2 hrs, rfl⟩⟩

/-- A row of rules gives routes if every rule alone does. -/
theorem exists_ruleRoutesFrom_iff_forall (index : Nat) :
    (∃ rs, ruleRoutesFrom (ruleRoute toRule source route) index vs = .ok rs) ↔
      ∀ v ∈ vs, ∃ r, ruleRoutes (ruleRoute toRule source route) (.list [v]) = .ok [r] := by
  simp only [ruleRoutesFrom_eq_ok_iff_forall₂]
  induction vs with
  | nil => simp
  | cons v vs ih =>
    rw [List.forall_mem_cons, ← ih]
    simp only [List.forall₂_cons_left_iff]
    constructor
    · rintro ⟨-, r, rs, hr, hrs, rfl⟩
      exact ⟨⟨r, hr⟩, rs, hrs⟩
    · rintro ⟨⟨r, hr⟩, rs, hrs⟩
      exact ⟨r :: rs, r, rs, hr, hrs, rfl⟩

/-- **A row of rules fails at the first one that fails,** and as that one does. -/
theorem ruleRoutesFrom_eq_error_iff_exists :
    ruleRoutesFrom (ruleRoute toRule source route) index vs = .error f ↔
      ∃ front v back, vs = front ++ v :: back ∧
        (∀ w ∈ front, ∃ r, ruleRoutes (ruleRoute toRule source route) (.list [w]) = .ok [r]) ∧
        ruleRoute toRule source route (index + front.length) v = .error f := by
  induction vs generalizing index with
  | nil => simp [ruleRoutesFrom]
  | cons v vs ih =>
    rw [ruleRoutesFrom]
    constructor
    · intro h
      rcases Outcome.bind_eq_error.1 h with h | ⟨r, hr, h⟩
      · exact ⟨[], v, vs, rfl, List.forall_mem_nil _, h⟩
      · rcases Outcome.bind_eq_error.1 h with h | ⟨rs, -, h⟩
        · obtain ⟨front, w, back, rfl, hfront, hw⟩ := ih.1 h
          refine ⟨v :: front, w, back, rfl, ?_, ?_⟩
          · exact List.forall_mem_cons.2
              ⟨⟨r, (ruleRoutes_singleton_eq_ok_iff index).2 ⟨r, hr, rfl⟩⟩, hfront⟩
          · rwa [List.length_cons, Nat.add_comm front.length, ← Nat.add_assoc]
        · cases h
    · rintro ⟨front, w, back, hsplit, hfront, hw⟩
      cases front with
      | nil =>
        cases hsplit
        exact Outcome.bind_eq_error.2 (Or.inl hw)
      | cons u front =>
        rw [List.cons_append, List.cons.injEq] at hsplit
        obtain ⟨rfl, rfl⟩ := hsplit
        obtain ⟨⟨r, hr⟩, hfront⟩ := List.forall_mem_cons.1 hfront
        obtain ⟨r', hr, -⟩ := (ruleRoutes_singleton_eq_ok_iff index).1 hr
        refine Outcome.bind_eq_error.2 (Or.inr ⟨r', hr, ?_⟩)
        refine Outcome.bind_eq_error.2 (Or.inl (ih.2 ⟨front, w, back, rfl, hfront, ?_⟩))
        rwa [List.length_cons, Nat.add_comm front.length, ← Nat.add_assoc] at hw

/-! ### A row of rules that are built -/

/-- A list of rules gives the route of each rule. -/
theorem ruleRoutesFrom_eq_ok_iff :
    ruleRoutesFrom (ruleRoute toRule source route) index (rules.map toValue) = .ok rs ↔
      List.Forall₂ (fun a r => ruleRoutes (ruleRoute toRule source route) (.list [toValue a]) =
        .ok [r]) rules rs := by
  rw [ruleRoutesFrom_eq_ok_iff_forall₂, List.forall₂_map_left_iff]

/-- A list of rules fails at the first one whose source is none. -/
theorem ruleRoutesFrom_eq_error_iff (hread : ∀ a, toRule (toValue a) = .ok a) :
    ruleRoutesFrom (ruleRoute toRule source route) index (rules.map toValue) = .error f ↔
      ∃ front rule back cause, rules = front ++ rule :: back ∧
        (∀ r ∈ front, ∃ c, compile (source r) = .ok c) ∧
        compile (source rule) = .error cause ∧
        f = .pattern (cause.atRule (index + front.length)) := by
  have hfails : ∀ i a, ruleRoute toRule source route i (toValue a) = .error f ↔
      ∃ cause, compile (source a) = .error cause ∧ f = .pattern (cause.atRule i) := by
    intro i a
    simp [ruleRoute_eq_error_iff, hread]
  rw [ruleRoutesFrom_eq_error_iff_exists]
  constructor
  · rintro ⟨front, v, back, hsplit, hfront, hv⟩
    obtain ⟨front, rest, rfl, rfl, hrest⟩ := List.map_eq_append_iff.1 hsplit
    obtain ⟨rule, back, rfl, rfl, rfl⟩ := List.map_eq_cons_iff.1 hrest
    rw [List.length_map] at hv
    obtain ⟨cause, hcause, rfl⟩ := (hfails _ _).1 hv
    refine ⟨front, rule, back, cause, rfl, fun r hr => ?_, hcause, rfl⟩
    exact (exists_route_iff hread).1 (hfront _ (List.mem_map_of_mem hr))
  · rintro ⟨front, rule, back, cause, rfl, hfront, hcause, rfl⟩
    refine ⟨front.map toValue, toValue rule, back.map toValue, by simp, ?_, ?_⟩
    · exact List.forall_mem_map.2 fun r hr => (exists_route_iff hread).2 (hfront r hr)
    · rw [List.length_map]
      exact (hfails _ _).2 ⟨cause, hcause, rfl⟩

/-- From the first position on, the failure is the error of the first rule refused. -/
theorem ruleRoutesFrom_zero_eq_error_iff (hread : ∀ a, toRule (toValue a) = .ok a) :
    ruleRoutesFrom (ruleRoute toRule source route) 0 (rules.map toValue) = .error f ↔
      ∃ e, f = .pattern e ∧ FirstRefused source rules e := by
  rw [ruleRoutesFrom_eq_error_iff hread]
  constructor
  · rintro ⟨front, rule, back, cause, hsplit, hfront, hcause, rfl⟩
    rw [Nat.zero_add]
    exact ⟨_, rfl, front, rule, back, cause, hsplit, hfront, hcause, rfl⟩
  · rintro ⟨e, rfl, front, rule, back, cause, hsplit, hfront, hcause, rfl⟩
    exact ⟨front, rule, back, cause, hsplit, hfront, hcause, by rw [Nat.zero_add]⟩

/-- A list of rules gives routes if every source is one. -/
theorem exists_ruleRoutesFrom_iff (hread : ∀ a, toRule (toValue a) = .ok a) (i : Nat) :
    (∃ rs, ruleRoutesFrom (ruleRoute toRule source route) i (rules.map toValue) = .ok rs) ↔
      ∀ a ∈ rules, ∃ c, compile (source a) = .ok c := by
  rw [exists_ruleRoutesFrom_iff_forall, List.forall_mem_map]
  simp only [exists_route_iff hread]

/-- What holds of the routes of rules, rule by rule. -/
theorem forall_routes_iff (hread : ∀ a, toRule (toValue a) = .ok a) {P : Route → Prop}
    {Q : α → Compiled → Prop}
    (hPQ : ∀ a ∈ rules, ∀ c, P (route a c) ↔ Q a c)
    (h : List.Forall₂ (fun a r => ruleRoutes (ruleRoute toRule source route)
      (.list [toValue a]) = .ok [r]) rules rs) :
    (∀ r ∈ rs, P r) ↔ ∀ a ∈ rules, ∃ c, compile (source a) = .ok c ∧ Q a c := by
  induction h with
  | nil => simp
  | @cons a r rules rs hr _ ih =>
    obtain ⟨c, hc, rfl⟩ := (ruleRoutes_singleton_iff hread).1 hr
    rw [List.forall_mem_cons, List.forall_mem_cons,
      ih fun b hb => hPQ b (List.mem_cons_of_mem _ hb), hPQ a List.mem_cons_self]
    refine and_congr_left fun _ => ⟨fun hQ => ⟨c, hc, hQ⟩, ?_⟩
    rintro ⟨c', hc', hQ⟩
    cases hc.symm.trans hc'
    exact hQ

/-- What holds of the routes of all rules whose sources compile. -/
theorem forall_routes (hread : ∀ a, toRule (toValue a) = .ok a) {P : Route → Prop}
    (hP : ∀ a ∈ rules, ∀ c, compile (source a) = .ok c → P (route a c))
    (h : List.Forall₂ (fun a r => ruleRoutes (ruleRoute toRule source route)
      (.list [toValue a]) = .ok [r]) rules rs) : ∀ r ∈ rs, P r := by
  induction h with
  | nil => exact List.forall_mem_nil _
  | @cons a r rules rs hr _ ih =>
    obtain ⟨c, hc, rfl⟩ := (ruleRoutes_singleton_iff hread).1 hr
    exact List.forall_mem_cons.2 ⟨hP a List.mem_cons_self c hc,
      ih fun b hb => hP b (List.mem_cons_of_mem _ hb)⟩

end RuleRoutes

end Site
end RouteTable
