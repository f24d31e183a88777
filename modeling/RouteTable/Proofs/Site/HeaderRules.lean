/-
# The headers of a rule

The keys of a header rule are templates, and what they are rewritten to are the keys of the
route's headers.  Two keys can be rewritten to the same one, and are the same header then: where
`id` is declared with `?`, both `:id` and `:id?` are.  It stands in the place of the first and has
the value of the last.

`headerRoutes_headers` says which headers the route has, that none of the rule is lost exactly if
the rewritten keys are distinct, and that they are where the keys are distinct and each is got
back from its rewritten form.
-/

import RouteTable.Proofs.Route.Headers
import RouteTable.Proofs.Site.Rules
import RouteTable.Proofs.Template.Restoring

namespace RouteTable

open Pattern (Compiled Registry compile)

/-- The headers of a rule, keys and values rewritten one by one. -/
def HeaderRule.rewritten (r : HeaderRule) (registry : Registry) : Headers :=
  r.headers.map fun (k, v) => (Template.rewrite registry k, Template.rewrite registry v)

variable {rule : HeaderRule} {registry : Registry} {c : Compiled} {v rules : Value}
  {vs : List Value} {rs : List Route} {i : Nat}

/-- The keys of a header rule are rewritten. -/
theorem HeaderRule.keys_rewritten (rule : HeaderRule) (registry : Registry) :
    (rule.rewritten registry).keys =
      (Headers.keys rule.headers).map (Template.rewrite registry) := by
  simp [rewritten, Headers.keys]

/-- Distinct keys stay distinct if each is got back from its rewritten form. -/
theorem HeaderRule.nodup_keys_rewritten (hr : registry.IsNumbered)
    (hkeys : (Headers.keys rule.headers).Nodup)
    (h : ∀ k ∈ Headers.keys rule.headers, Template.IsRestorable registry k) :
    (rule.rewritten registry).keys.Nodup := by
  rw [keys_rewritten]
  exact hkeys.map_on fun k hk l hl heq => (h k hk).rewrite_inj hr (h l hl) heq

namespace Site

theorem headerRoutes_singleton (hrule : Rule.toHeaderRule v = .ok rule)
    (hc : compile rule.source = .ok c) : headerRoutes (.list [v]) =
      .ok [.headers c.regex (Headers.ofList (rule.rewritten c.registry)) true] :=
  (ruleRoutes_singleton_eq_ok_iff 0).2 ⟨_, ruleRoute_eq_ok_iff.2 ⟨rule, c, hrule, hc, rfl⟩, rfl⟩

/-- A rule among others gives the route that it gives alone. -/
theorem headerRoutes_getElem? (hitems : rules.items = .ok vs) (h : headerRoutes rules = .ok rs)
    (hv : vs[i]? = some v) : ∃ r, headerRoutes (.list [v]) = .ok [r] ∧ rs[i]? = some r := by
  rw [headerRoutes, ruleRoutes, hitems] at h
  have hroutes := ruleRoutesFrom_eq_ok_iff_forall₂.1 h
  obtain ⟨hi, rfl⟩ := List.getElem?_eq_some_iff.1 hv
  have hj : i < rs.length := hroutes.length_eq ▸ hi
  exact ⟨rs[i], hroutes.get hi hj, List.getElem?_eq_getElem hj⟩

/-- **The headers of a rule's route.**  There is one for each key that a key of the rule is
rewritten to, in the order in which the rule first has them, and its value is the rewritten value
that the rule gives it last.  They are the rewritten headers of the rule, one by one, exactly if
no two keys of the rule are rewritten to the same; and so they are if the keys are distinct, and
write no number of a group and no modifier that is taken. -/
theorem headerRoutes_headers (hrule : Rule.toHeaderRule v = .ok rule)
    (hc : compile rule.source = .ok c) :
    ∃ hs, headerRoutes (.list [v]) = .ok [.headers c.regex hs true] ∧
      (∀ (rules : Value) vs rs (i : Nat), rules.items = .ok vs → headerRoutes rules = .ok rs →
        vs[i]? = some v → rs[i]? = some (Route.headers c.regex hs true)) ∧
      Headers.keys hs = (rule.rewritten c.registry).keys.eraseDups ∧
      (∀ k, hs.lookup k = (rule.rewritten c.registry).reverse.lookup k) ∧
      (hs = rule.rewritten c.registry ↔ (rule.rewritten c.registry).keys.Nodup) ∧
      ((Headers.keys rule.headers).Nodup →
        (∀ k ∈ Headers.keys rule.headers, Template.IsRestorable c.registry k) →
          hs = rule.rewritten c.registry) := by
  have halone := headerRoutes_singleton hrule hc
  refine ⟨_, halone, ?_, Headers.keys_ofList _, Headers.lookup_ofList _,
    Headers.ofList_eq_self_iff, ?_⟩
  · intro rules vs rs i hitems hroutes hv
    obtain ⟨r, hr, hi⟩ := headerRoutes_getElem? hitems hroutes hv
    cases hr.symm.trans halone
    exact hi
  · intro hkeys hrestorable
    have hnumbered : c.registry.IsNumbered := Registry.isNumbered_ofSegments c.segments
    exact Headers.ofList_eq_self_iff.2 (HeaderRule.nodup_keys_rewritten hnumbered hkeys hrestorable)

/-- A rule with a parameter in a key. -/
def namedHeader : HeaderRule :=
  ⟨"/:id?".text, [("X-:id".text, ":id".text), ("X-Set".text, "yes".text)]⟩

/-- References are rewritten in keys and in values. -/
theorem headerRoutes_headers_namedHeader :
    headerRoutes (.list [namedHeader.toValue]) = .ok [.headers Template.optionalId.regex
      [("X-$1".text, "$1".text), ("X-Set".text, "yes".text)] true] := by
  have hc : compile namedHeader.source = .ok Template.optionalId := by decide +kernel
  have hreferences : (Headers.keys namedHeader.headers).flatMap Template.references =
      [⟨"id".text, .once⟩] := by decide +kernel
  have hnumbers : (Headers.keys namedHeader.headers).flatMap Template.groupNumbers = [] := by
    decide +kernel
  have hrestorable : ∀ k ∈ Headers.keys namedHeader.headers,
      Template.IsRestorable Template.optionalId.registry k := by
    refine fun k hk => ⟨fun n hn => ?_, fun r hr e _ _ => ?_⟩
    · rw [List.flatMap_eq_nil_iff.1 hnumbers k hk] at hn
      cases hn
    · have hmem := List.mem_flatMap.2 ⟨k, hk, hr⟩
      rw [hreferences] at hmem
      rw [List.mem_singleton.1 hmem]
  have hrewritten : namedHeader.rewritten Template.optionalId.registry =
      [("X-$1".text, "$1".text), ("X-Set".text, "yes".text)] := by decide +kernel
  obtain ⟨hs, hroute, -, -, -, -, hall⟩ :=
    headerRoutes_headers (Rule.toHeaderRule_toValue namedHeader) hc
  rw [hroute, hall (by decide) hrestorable, hrewritten]

/-- A rule that writes one key in two ways. -/
def twiceNamedHeader : HeaderRule :=
  ⟨"/:id?".text, [(":id".text, "a".text), (":id?".text, "b".text)]⟩

/-- **Distinct keys can be one header:** `:id` and `:id?` both are `$1`. -/
theorem headerRoutes_twiceNamedHeader :
    (Headers.keys twiceNamedHeader.headers).Nodup ∧
      compile twiceNamedHeader.source = .ok Template.optionalId ∧
      twiceNamedHeader.rewritten Template.optionalId.registry =
        [("$1".text, "a".text), ("$1".text, "b".text)] ∧
      headerRoutes (.list [twiceNamedHeader.toValue]) =
        .ok [.headers Template.optionalId.regex [("$1".text, "b".text)] true] := by
  have hc : compile twiceNamedHeader.source = .ok Template.optionalId := by decide +kernel
  have hheaders : Headers.ofList (twiceNamedHeader.rewritten Template.optionalId.registry) =
      [("$1".text, "b".text)] := by decide +kernel
  refine ⟨by decide, hc, by decide +kernel, ?_⟩
  rw [headerRoutes_singleton (Rule.toHeaderRule_toValue twiceNamedHeader) hc, hheaders]

end Site
end RouteTable
