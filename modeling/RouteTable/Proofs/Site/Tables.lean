/-
# The table of a configuration

A configuration goes through three stages: it is read, its sections give routes, and these
are read as a table.  `Site.table_map` puts the stages together: what makes the table of a
configuration, what stands in it, and which failure is told where several are due, which is
the one of the first stage that fails.
-/

import RouteTable.Proofs.Site.Layout

namespace RouteTable

open Pattern (compile)

namespace Site

variable {rt : Regex.Runtime} {name : Text} {engine : Regex.Engine} {es : List (Value × Value)}
  {c : Config}
  {rs : List Route} {f : Failure}

/-- The routes of a configuration are laid out as it says. -/
theorem routes_map_eq_ok_iff : routes (.map es) = .ok rs ↔
    ∃ c, Rule.readConfig (.map es) = .ok c ∧ c.IsLaidOut rs := by
  have hsections : Sections.ofValue (.map es) =
      (Rule.readConfig (.map es)).map Sections.ofConfig := rfl
  rw [routes, hsections]
  cases Rule.readConfig (.map es) with
  | error e => simp [Except.map]
  | ok c =>
    change assemble (.ofConfig c) = .ok rs ↔ _
    rw [assemble_eq_ok_iff]
    simp

/-- A configuration has no routes if it is refused, or one of its sources is. -/
theorem routes_map_eq_error_iff : routes (.map es) = .error f ↔
    (∃ e, f = .rule e ∧ Rule.readConfig (.map es) = .error e) ∨
      ∃ e c, f = .pattern e ∧ Rule.readConfig (.map es) = .ok c ∧ c.Refused e := by
  have hsections : Sections.ofValue (.map es) =
      (Rule.readConfig (.map es)).map Sections.ofConfig := rfl
  rw [routes, hsections]
  cases Rule.readConfig (.map es) with
  | error e => simp [Except.map, eq_comm]
  | ok c =>
    change assemble (.ofConfig c) = .error f ↔ _
    rw [assemble_eq_error_iff]
    simp

/-- The routes of a configuration are emitted routes, and mark one phase at most. -/
theorem emitted_of_routes (h : routes (.map es) = .ok rs) :
    (∀ r ∈ rs, r.Emitted) ∧ Table.MarkOnce [] rs := by
  obtain ⟨c, hc, hlaid⟩ := routes_map_eq_ok_iff.1 h
  exact ⟨emitted_of_isLaidOut hlaid fun _ => Rule.exists_statusNumber?_of_readConfig hc,
    (inPhases_of_isLaidOut hlaid).markOnce⟩

/-- The table of a configuration whose sections give routes. -/
theorem table_of_routes (hname : Regex.Engine.ofName? rt name = some engine)
    (h : routes (.map es) = .ok rs) : table rt name (.map es) =
      match Table.readFrom engine 0 [] (rs.map Route.toValue) with
      | .ok routes => .ok (.accepted routes)
      | .error (.route e) => .ok (.rejected (.route e))
      | .error e => .error e := by
  rw [table, h, ← Table.read_list]
  dsimp only
  rw [Regex.Engine.named, hname]
  rfl

/-- **What becomes of the routes of a configuration:** they are the table if all are admitted, and
otherwise the first one that is not says why there is none.  If it is invalid, that is a verdict,
and else a failure. -/
theorem table_cases (hname : Regex.Engine.ofName? rt name = some engine)
    (h : routes (.map es) = .ok rs) :
    ((∀ r ∈ rs, r.Admitted engine) ∧ table rt name (.map es) = .ok (.accepted rs)) ∨
    ∃ front r back, rs = front ++ r :: back ∧ (∀ q ∈ front, q.Admitted engine) ∧
      ∃ e, Route.recheck engine r = .error e ∧
        ((∃ p, e = .invalid p ∧ table rt name (.map es) =
            .ok (.rejected (.route ⟨p.reason, some front.length, p.field⟩))) ∨
          (∀ p, e ≠ .invalid p) ∧
            table rt name (.map es) = .error (Failure.ofEntry (some front.length) e)) := by
  obtain ⟨hemitted, honce⟩ := emitted_of_routes h
  rw [table_of_routes hname h]
  cases hread : Table.readFrom engine 0 [] (rs.map Route.toValue) with
  | ok rs' =>
    obtain ⟨rfl, hall⟩ := (Table.readFrom_eq_ok_iff hemitted honce).1 hread
    exact Or.inl ⟨hall, rfl⟩
  | error f =>
    obtain ⟨front, r, back, e, hsplit, hfront, he, rfl⟩ :=
      (Table.readFrom_eq_error_iff hemitted honce).1 hread
    rw [Nat.zero_add]
    refine Or.inr ⟨front, r, back, hsplit, hfront, e, he, ?_⟩
    cases e with
    | invalid p => exact Or.inl ⟨p, rfl, rfl⟩
    | fault fault => exact Or.inr ⟨nofun, rfl⟩
    | regex b => exact Or.inr ⟨nofun, rfl⟩

/-- Without an engine of the name there is no table. -/
theorem table_of_unknown (hname : Regex.Engine.ofName? rt name = none)
    (h : routes (.map es) = .ok rs) : table rt name (.map es) = .error (.unknownEngine name) := by
  rw [table, h]
  dsimp only
  rw [Regex.Engine.named, hname]
  rfl

/-- A source that is none is the error of none of the sources before it. -/
theorem exists_of_refused {e : Pattern.Error} (h : c.Refused e) :
    ∃ s ∈ c.sources, ∃ cause, compile s = .error cause := by
  have first : ∀ {α : Type} {source : α → Text} {rules : List α},
      FirstRefused source rules e → ∃ s ∈ rules.map source, ∃ cause, compile s = .error cause := by
    rintro α source rules ⟨front, rule, back, cause, rfl, -, hcause, -⟩
    exact ⟨source rule, List.mem_map_of_mem (by simp), cause, hcause⟩
  cases h with
  | redirects h =>
    obtain ⟨s, hs, hcause⟩ := first h
    exact ⟨s, List.mem_append_left _ (List.mem_append_left _ hs), hcause⟩
  | headers _ h =>
    obtain ⟨s, hs, hcause⟩ := first h
    exact ⟨s, List.mem_append_left _ (List.mem_append_right _ hs), hcause⟩
  | rewrites _ _ h =>
    obtain ⟨s, hs, hcause⟩ := first h
    exact ⟨s, List.mem_append_right _ hs, hcause⟩

/-- The sections give routes exactly if every source is a pattern. -/
theorem exists_isLaidOut_iff :
    (∃ rs, c.IsLaidOut rs) ↔ ∀ s ∈ c.sources, ∃ k, compile s = .ok k := by
  constructor
  · rintro ⟨rs, redirects, headers, rewrites, hredirects, hheaders, hrewrites, -⟩
    rw [Config.sources, List.forall_mem_append, List.forall_mem_append, List.forall_mem_map,
      List.forall_mem_map, List.forall_mem_map]
    exact ⟨⟨(exists_ruleRoutesFrom_iff Rule.toRedirect_toValue 0).1
        ⟨_, ruleRoutesFrom_eq_ok_iff.2 hredirects⟩,
      (exists_ruleRoutesFrom_iff Rule.toHeaderRule_toValue 0).1
        ⟨_, ruleRoutesFrom_eq_ok_iff.2 hheaders⟩⟩,
      (exists_ruleRoutesFrom_iff Rule.toRewrite_toValue 0).1
        ⟨_, ruleRoutesFrom_eq_ok_iff.2 hrewrites⟩⟩
  · intro h
    cases hassemble : assemble (.ofConfig c) with
    | ok rs => exact ⟨rs, assemble_eq_ok_iff.1 hassemble⟩
    | error f =>
      obtain ⟨e, -, he⟩ := assemble_eq_error_iff.1 hassemble
      obtain ⟨s, hs, cause, hcause⟩ := exists_of_refused he
      obtain ⟨k, hk⟩ := h s hs
      cases hk.symm.trans hcause

/-- A table is accepted with the routes that are laid out, where the rules are sound. -/
theorem table_eq_accepted_iff : table rt name (.map es) = .ok (.accepted rs) ↔
    ∃ engine c, Regex.Engine.ofName? rt name = some engine ∧
      Rule.readConfig (.map es) = .ok c ∧ c.Sound engine ∧ c.IsLaidOut rs := by
  constructor
  · intro h
    cases hroutes : routes (.map es) with
    | error f =>
      rw [table, hroutes] at h
      rcases routes_map_eq_error_iff.1 hroutes with ⟨e, rfl, -⟩ | ⟨e, c, rfl, -, -⟩ <;> cases h
    | ok rs' =>
      cases hname : Regex.Engine.ofName? rt name with
      | none => cases (table_of_unknown hname hroutes).symm.trans h
      | some engine =>
        rcases table_cases hname hroutes with
          ⟨hall, htable⟩ | ⟨front, r, back, -, -, e, -, ⟨p, -, htable⟩ | ⟨-, htable⟩⟩
        · cases htable.symm.trans h
          obtain ⟨c, hc, hlaid⟩ := routes_map_eq_ok_iff.1 hroutes
          exact ⟨engine, c, rfl, hc, (admitted_iff_sound hlaid fun _ =>
            Rule.exists_statusNumber?_of_readConfig hc).1 hall, hlaid⟩
        · cases htable.symm.trans h
        · cases htable.symm.trans h
  · rintro ⟨engine, c, hname, hc, hsound, hlaid⟩
    have hall := (admitted_iff_sound hlaid fun _ =>
      Rule.exists_statusNumber?_of_readConfig hc).2 hsound
    have hroutes := routes_map_eq_ok_iff.2 ⟨c, hc, hlaid⟩
    obtain ⟨hemitted, honce⟩ := emitted_of_routes hroutes
    rw [table_of_routes hname hroutes,
      (Table.readFrom_eq_ok_iff hemitted honce).2 ⟨rfl, hall⟩]

/-- A failure of the configuration or of a source is what rejects the table. -/
theorem table_of_routes_error (h : routes (.map es) = .error f) :
    table rt name (.map es) = .ok (.rejected f) := by
  rw [table, h]
  rcases routes_map_eq_error_iff.1 h with ⟨e, rfl, -⟩ | ⟨e, c, rfl, -, -⟩ <;> rfl

/-- Once there are routes, it is one of them that rejects the table. -/
theorem exists_route_of_rejected (h : routes (.map es) = .ok rs)
    (hf : table rt name (.map es) = .ok (.rejected f)) : ∃ e, f = .route e := by
  cases hname : Regex.Engine.ofName? rt name with
  | none => cases (table_of_unknown hname h).symm.trans hf
  | some engine =>
    rcases table_cases hname h with
      ⟨-, htable⟩ | ⟨front, r, back, -, -, e, -, ⟨p, -, htable⟩ | ⟨-, htable⟩⟩
    · cases htable.symm.trans hf
    · cases htable.symm.trans hf
      exact ⟨_, rfl⟩
    · cases htable.symm.trans hf

/-- What rejects a table, if it is no route, is the failure of its routes. -/
theorem table_eq_rejected_iff (hf : ∀ e, f ≠ .route e) :
    table rt name (.map es) = .ok (.rejected f) ↔ routes (.map es) = .error f := by
  constructor
  · intro h
    cases hroutes : routes (.map es) with
    | error f' =>
      cases (table_of_routes_error hroutes).symm.trans h
      rfl
    | ok rs =>
      obtain ⟨e, rfl⟩ := exists_route_of_rejected hroutes h
      exact absurd rfl (hf e)
  · exact table_of_routes_error

/-- **The table of a configuration, stage by stage.**  It is accepted exactly if the
configuration is read and is sound, and then consists of the routes of the sections in order, each
as its rule gives it alone, unchanged by the reading of the table.  A configuration that is none is
told before a source that is none, and that before a route that is not admitted.  What the switches
emit is accepted by engines that are as documented. -/
theorem table_map (rt : Regex.Runtime) (name : Text) (es : List (Value × Value)) :
    (∀ rs, table rt name (.map es) = .ok (.accepted rs) ↔ ∃ engine c,
      Regex.Engine.ofName? rt name = some engine ∧ Rule.readConfig (.map es) = .ok c ∧
        c.Sound engine ∧ c.IsLaidOut rs) ∧
    ((∃ rs, table rt name (.map es) = .ok (.accepted rs)) ↔ ∃ engine c,
      Regex.Engine.ofName? rt name = some engine ∧ Rule.readConfig (.map es) = .ok c ∧
        c.Sound engine) ∧
    (∀ rs, table rt name (.map es) = .ok (.accepted rs) → Route.InPhases rs) ∧
    (∀ e, table rt name (.map es) = .ok (.rejected (.rule e)) ↔
      Rule.readConfig (.map es) = .error e) ∧
    (∀ e, table rt name (.map es) = .ok (.rejected (.pattern e)) ↔
      ∃ c, Rule.readConfig (.map es) = .ok c ∧ c.Refused e) ∧
    (∀ e, table rt name (.map es) = .ok (.rejected (.route e)) →
      ∃ c, Rule.readConfig (.map es) = .ok c ∧ ∀ s ∈ c.sources, ∃ k, compile s = .ok k) ∧
    (rt.HasRoom → rt.LinearAsDocumented → ∀ engine c, Regex.Engine.ofName? rt name = some engine →
      ∀ src ∈ Config.switchSources c, engine.check src.text = .ok ()) := by
  refine ⟨fun rs => table_eq_accepted_iff, ?_, ?_, ?_, ?_, ?_, ?_⟩
  · simp only [table_eq_accepted_iff]
    constructor
    · rintro ⟨rs, engine, c, hname, hc, hsound, -⟩
      exact ⟨engine, c, hname, hc, hsound⟩
    · rintro ⟨engine, c, hname, hc, hsound⟩
      obtain ⟨rs, hlaid⟩ := exists_isLaidOut_iff.2 fun s hs => by
        obtain ⟨k, hk, -⟩ := hsound.sources s hs
        exact ⟨k, hk⟩
      exact ⟨rs, engine, c, hname, hc, hsound, hlaid⟩
  · intro rs h
    obtain ⟨_, _, -, -, -, hlaid⟩ := table_eq_accepted_iff.1 h
    exact inPhases_of_isLaidOut hlaid
  · intro e
    rw [table_eq_rejected_iff (fun _ hf => by cases hf), routes_map_eq_error_iff]
    simp [eq_comm]
  · intro e
    rw [table_eq_rejected_iff (fun _ hf => by cases hf), routes_map_eq_error_iff]
    simp [eq_comm]
  · intro e h
    cases hroutes : routes (.map es) with
    | error f =>
      cases (table_of_routes_error hroutes).symm.trans h
      rcases routes_map_eq_error_iff.1 hroutes with ⟨_, hf, -⟩ | ⟨_, _, hf, -, -⟩ <;> cases hf
    | ok rs =>
      obtain ⟨c, hc, hlaid⟩ := routes_map_eq_ok_iff.1 hroutes
      exact ⟨c, hc, exists_isLaidOut_iff.1 ⟨rs, hlaid⟩⟩
  · intro hroom hlinear engine c hname src hsrc
    exact check_of_mem_switchSources (mem_switchSources_of_mem hsrc) hroom hlinear hname

/-- A configuration that asks for slashes and rewrites `/a` to `/b`. -/
def slashedConfig : List (Value × Value) :=
  [(.text "trailingSlash".text, .bool true),
    (.text "rewrites".text, .list [.map [(.text "source".text, .text "/a".text),
      (.text "destination".text, .text "/b".text)]])]

/-- A configuration with a switch and a rewrite has a table in phases. -/
theorem table_map_slashedConfig :
    table .plain "re".text (.map slashedConfig) = .ok (.accepted
      [redirectTo unslashedSource "/$1/", .handle filesystemPhase,
        .rewrite "^\\/a$".text "/b".text true]) ∧
    Route.InPhases [redirectTo unslashedSource "/$1/", .handle filesystemPhase,
        .rewrite "^\\/a$".text "/b".text true] := by
  have hcompile : compile "/a".text =
      .ok ⟨"/a".text, [.literal "/a".text]⟩ := by decide +kernel
  have haccepted : table .plain "re".text (.map slashedConfig) = .ok (.accepted
      [redirectTo unslashedSource "/$1/", .handle filesystemPhase,
        .rewrite "^\\/a$".text "/b".text true]) := by
    refine ((table_map .plain "re".text slashedConfig).1 _).2 ⟨.backtracking .plain,
      ⟨none, some true, none, some [⟨"/a".text, "/b".text⟩], none⟩, rfl, rfl, ⟨?_, ?_, nofun⟩,
      [], [], _, .nil, .nil, .cons ((ruleRoutes_singleton_iff Rule.toRewrite_toValue).2
        ⟨_, hcompile, rfl⟩) .nil, rfl⟩
    · exact (table_map .plain "re".text slashedConfig).2.2.2.2.2.2 Regex.Runtime.hasRoom_plain
        Regex.Runtime.linearAsDocumented_plain _ _ rfl
    · intro s hs
      cases List.mem_singleton.1 hs
      exact ⟨_, hcompile, rfl⟩
  exact ⟨haccepted, (table_map .plain "re".text slashedConfig).2.2.1 _ haccepted⟩

end Site
end RouteTable
