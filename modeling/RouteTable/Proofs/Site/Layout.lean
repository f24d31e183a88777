/-
# How the routes of a configuration are laid out

The sections of a configuration that is read give their routes in order
(`Config.IsLaidOut`): clean URLs, trailing slashes, redirects, headers, the marker of the
filesystem phase, rewrites (`Site.assemble_eq_ok_iff`).  They fail for nothing but a source
that is none, the first one (`Site.assemble_eq_error_iff`).

All these routes are emitted routes, and the reader of tables admits them exactly if the
configuration is sound (`Site.admitted_iff_sound`).  The sources of the switches are in the syntax
that engines share, so engines that are as documented accept them
(`Site.check_of_mem_switchSources`).
-/

import RouteTable.Proofs.Regex.Engines
import RouteTable.Proofs.Regex.SharedSyntax
import RouteTable.Proofs.Site.Rules
import RouteTable.Site.Assembly

namespace RouteTable

open Pattern (Compiled compile)
open List (Forall₂)

namespace Config

/-- The source patterns of the rules, in the order of the table. -/
def sources (c : Config) : List Text :=
  (c.redirects.getD []).map (·.source) ++ (c.headers.getD []).map (·.source) ++
    (c.rewrites.getD []).map (·.source)

/-- The sources that the switches of a configuration emit. -/
def switchSources (c : Config) : List String :=
  (if c.cleanUrls = some true then [Site.indexSource, Site.htmlSource] else []) ++
    (match c.trailingSlash with
    | some true => [Site.unslashedSource]
    | some false => [Site.slashedSource]
    | none => [])

/-- The routes that the sections of a configuration give, in order.  Every rule gives the
route that it gives alone, and without rewrites there is no marker. -/
def IsLaidOut (c : Config) (rs : List Route) : Prop :=
  ∃ redirects headers rewrites : List Route,
    Forall₂ (fun rule r => Site.redirectRoutes (.list [rule.toValue]) = .ok [r])
      (c.redirects.getD []) redirects ∧
    Forall₂ (fun rule r => Site.headerRoutes (.list [rule.toValue]) = .ok [r])
      (c.headers.getD []) headers ∧
    Forall₂ (fun rule r => Site.rewriteRoutes (.list [rule.toValue]) = .ok [r])
      (c.rewrites.getD []) rewrites ∧
    rs = (if c.cleanUrls = some true then
        let location := if c.trailingSlash = some true then "/$1/" else "/$1"
        [Site.redirectTo Site.indexSource location, Site.redirectTo Site.htmlSource location]
      else []) ++
      (match c.trailingSlash with
      | some true => [Site.redirectTo Site.unslashedSource "/$1/"]
      | some false => [Site.redirectTo Site.slashedSource "/$1"]
      | none => []) ++
      redirects ++ headers ++
      (match c.rewrites with
      | some _ => .handle filesystemPhase :: rewrites
      | none => [])

/-- What the table of a configuration needs: the engine accepts what the switches emit, every
source is one whose expression the engine accepts, and every redirect that says a status says one
of a redirect. -/
structure Sound (engine : Regex.Engine) (c : Config) : Prop where
  switches : ∀ src ∈ c.switchSources, engine.check src.text = .ok ()
  sources : ∀ s ∈ c.sources, ∃ k, compile s = .ok k ∧ engine.check k.regex = .ok ()
  statuses : ∀ r ∈ c.redirects.getD [],
    r.status = .null ∨ ∃ n ∈ redirectStatuses, r.status = .int n

/-- The error of the first source that is none: that of a redirect is told before that of
a header rule, and that before one of a rewrite. -/
inductive Refused (c : Config) : Pattern.Error → Prop
  | redirects {e : Pattern.Error} (h : Site.FirstRefused (·.source) (c.redirects.getD []) e) :
    Refused c e
  | headers {e : Pattern.Error}
    (hredirects : ∀ r ∈ c.redirects.getD [], ∃ k, compile r.source = .ok k)
    (h : Site.FirstRefused (·.source) (c.headers.getD []) e) : Refused c e
  | rewrites {e : Pattern.Error}
    (hredirects : ∀ r ∈ c.redirects.getD [], ∃ k, compile r.source = .ok k)
    (hheaders : ∀ r ∈ c.headers.getD [], ∃ k, compile r.source = .ok k)
    (h : Site.FirstRefused (·.source) (c.rewrites.getD []) e) : Refused c e

end Config

/-- No route but the last ones is a rewrite, and these stand behind the marker of the
filesystem phase, the only marker that there is. -/
def Route.InPhases (rs : List Route) : Prop :=
  ∃ front back, rs = front ++ back ∧
    (∀ r ∈ front, (∃ src hs status, r = .redirect src hs status) ∨
      ∃ src hs goOn, r = .headers src hs goOn) ∧
    (back = [] ∨ ∃ rewrites, back = .handle filesystemPhase :: rewrites ∧
      ∀ r ∈ rewrites, ∃ src dest check, r = .rewrite src dest check)

namespace Site

open Regex (IsExpression IsSingle)

variable {c : Config} {rs : List Route} {engine : Regex.Engine}

/-! ### The sections -/

/-- The section of redirects has their routes. -/
theorem sectionRoutes_redirects (c : Config) :
    sectionRoutes redirectRoutes (Sections.ofConfig c).redirects =
      ruleRoutesFrom (ruleRoute Rule.toRedirect (·.source) Redirect.route) 0
        ((c.redirects.getD []).map Redirect.toValue) := by
  rcases c with ⟨_, _, _ | rules, _, _⟩ <;> rfl

/-- The section of header rules has their routes. -/
theorem sectionRoutes_headers (c : Config) :
    sectionRoutes headerRoutes (Sections.ofConfig c).headers =
      ruleRoutesFrom (ruleRoute Rule.toHeaderRule (·.source) HeaderRule.route) 0
        ((c.headers.getD []).map HeaderRule.toValue) := by
  rcases c with ⟨_, _, _, _, _ | rules⟩ <;> rfl

/-- The section of rewrites has the marker and their routes, if it is there. -/
theorem sectionRoutes_rewrites (c : Config) :
    sectionRoutes (fun v => (rewriteRoutes v).map (.handle filesystemPhase :: ·))
        (Sections.ofConfig c).rewrites =
      (ruleRoutesFrom (ruleRoute Rule.toRewrite (·.source) Rewrite.route) 0
        ((c.rewrites.getD []).map Rewrite.toValue)).map fun rewrites =>
          match c.rewrites with
          | some _ => .handle filesystemPhase :: rewrites
          | none => [] := by
  rcases c with ⟨_, _, _, _ | rules, _⟩ <;> rfl

/-- The routes of a configuration's sections, all rules being built. -/
theorem assemble_ofConfig (c : Config) : assemble (.ofConfig c) =
    (sectionRoutes redirectRoutes (Sections.ofConfig c).redirects).bind fun redirects =>
      (sectionRoutes headerRoutes (Sections.ofConfig c).headers).bind fun headers =>
        (sectionRoutes (fun v => (rewriteRoutes v).map (.handle filesystemPhase :: ·))
          (Sections.ofConfig c).rewrites).bind fun rewrites => .ok <|
            (if c.cleanUrls = some true then
              let location := if c.trailingSlash = some true then "/$1/" else "/$1"
              [redirectTo indexSource location, redirectTo htmlSource location]
            else []) ++
            (match c.trailingSlash with
            | some true => [redirectTo unslashedSource "/$1/"]
            | some false => [redirectTo slashedSource "/$1"]
            | none => []) ++ redirects ++ headers ++ rewrites := by
  rcases c with ⟨_ | _ | _, _ | _ | _, _, _, _⟩ <;> rfl

/-- **The sections of a configuration give the routes that are laid out.** -/
theorem assemble_eq_ok_iff : assemble (.ofConfig c) = .ok rs ↔ c.IsLaidOut rs := by
  rw [assemble_ofConfig, sectionRoutes_redirects, sectionRoutes_headers, sectionRoutes_rewrites]
  constructor
  · intro h
    obtain ⟨redirects, hredirects, h⟩ := Outcome.bind_eq_ok.1 h
    obtain ⟨headers, hheaders, h⟩ := Outcome.bind_eq_ok.1 h
    obtain ⟨_, hbehind, h⟩ := Outcome.bind_eq_ok.1 h
    obtain ⟨rewrites, hrewrites, rfl⟩ := Outcome.map_eq_ok.1 hbehind
    exact ⟨redirects, headers, rewrites,
      ruleRoutesFrom_eq_ok_iff.1 hredirects,
      ruleRoutesFrom_eq_ok_iff.1 hheaders,
      ruleRoutesFrom_eq_ok_iff.1 hrewrites, (Except.ok.inj h).symm⟩
  · rintro ⟨redirects, headers, rewrites, hredirects, hheaders, hrewrites, rfl⟩
    refine Outcome.bind_eq_ok.2 ⟨redirects,
      ruleRoutesFrom_eq_ok_iff.2 hredirects, ?_⟩
    refine Outcome.bind_eq_ok.2 ⟨headers,
      ruleRoutesFrom_eq_ok_iff.2 hheaders, ?_⟩
    exact Outcome.bind_eq_ok.2 ⟨_, Outcome.map_eq_ok.2 ⟨rewrites,
      ruleRoutesFrom_eq_ok_iff.2 hrewrites, rfl⟩, rfl⟩

/-- **The sections fail at the first source that is none,** and nothing else in a
configuration that is read makes them fail. -/
theorem assemble_eq_error_iff {f : Failure} :
    assemble (.ofConfig c) = .error f ↔ ∃ e, f = .pattern e ∧ c.Refused e := by
  rw [assemble_ofConfig, sectionRoutes_redirects, sectionRoutes_headers, sectionRoutes_rewrites]
  constructor
  · intro h
    rcases Outcome.bind_eq_error.1 h with h | ⟨redirects, hredirects, h⟩
    · obtain ⟨e, rfl, he⟩ :=
        (ruleRoutesFrom_zero_eq_error_iff Rule.toRedirect_toValue).1 h
      exact ⟨e, rfl, .redirects he⟩
    have hredirects := (exists_ruleRoutesFrom_iff Rule.toRedirect_toValue 0).1 ⟨_, hredirects⟩
    rcases Outcome.bind_eq_error.1 h with h | ⟨headers, hheaders, h⟩
    · obtain ⟨e, rfl, he⟩ :=
        (ruleRoutesFrom_zero_eq_error_iff Rule.toHeaderRule_toValue).1 h
      exact ⟨e, rfl, .headers hredirects he⟩
    have hheaders := (exists_ruleRoutesFrom_iff Rule.toHeaderRule_toValue 0).1 ⟨_, hheaders⟩
    rcases Outcome.bind_eq_error.1 h with h | ⟨rewrites, -, h⟩
    · obtain ⟨e, rfl, he⟩ :=
        (ruleRoutesFrom_zero_eq_error_iff Rule.toRewrite_toValue).1 (Outcome.map_eq_error.1 h)
      exact ⟨e, rfl, .rewrites hredirects hheaders he⟩
    · cases h
  · rintro ⟨e, rfl, he⟩
    cases he with
    | redirects h =>
      exact Outcome.bind_eq_error.2 (Or.inl
        ((ruleRoutesFrom_zero_eq_error_iff Rule.toRedirect_toValue).2 ⟨e, rfl, h⟩))
    | headers hredirects h =>
      obtain ⟨redirects, hredirects⟩ :=
        (exists_ruleRoutesFrom_iff Rule.toRedirect_toValue 0).2 hredirects
      refine Outcome.bind_eq_error.2 (Or.inr ⟨redirects, hredirects, ?_⟩)
      exact Outcome.bind_eq_error.2 (Or.inl
        ((ruleRoutesFrom_zero_eq_error_iff Rule.toHeaderRule_toValue).2 ⟨e, rfl, h⟩))
    | rewrites hredirects hheaders h =>
      obtain ⟨redirects, hredirects⟩ :=
        (exists_ruleRoutesFrom_iff Rule.toRedirect_toValue 0).2 hredirects
      obtain ⟨headers, hheaders⟩ :=
        (exists_ruleRoutesFrom_iff Rule.toHeaderRule_toValue 0).2 hheaders
      refine Outcome.bind_eq_error.2 (Or.inr ⟨redirects, hredirects, ?_⟩)
      refine Outcome.bind_eq_error.2 (Or.inr ⟨headers, hheaders, ?_⟩)
      exact Outcome.bind_eq_error.2 (Or.inl (Outcome.map_eq_error.2
        ((ruleRoutesFrom_zero_eq_error_iff Rule.toRewrite_toValue).2 ⟨e, rfl, h⟩)))

/-! ### The switches -/

/-- The sources that switches emit. -/
def switchSources : List String := [indexSource, htmlSource, unslashedSource, slashedSource]

/-- The switches that are on emit sources of the switches. -/
theorem mem_switchSources_of_mem {src : String} (h : src ∈ c.switchSources) :
    src ∈ switchSources := by
  rcases List.mem_append.1 h with h | h
  · split at h
    · exact List.mem_append_left [unslashedSource, slashedSource] h
    · cases h
  · split at h
    · rw [List.mem_singleton.1 h]
      decide
    · rw [List.mem_singleton.1 h]
      decide
    · cases h

/-- What the switches emit stands between anchors. -/
theorem isAnchored_of_mem_switchSources {src : String} (h : src ∈ switchSources) :
    Route.IsAnchored src.text := by
  rw [switchSources, List.mem_cons, List.mem_cons, List.mem_cons, List.mem_singleton] at h
  rcases h with rfl | rfl | rfl | rfl <;> exact ⟨by decide, by decide⟩

/-- **What the switches emit is in the syntax that engines share.** -/
theorem isExpression_of_mem_switchSources {src : String} (h : src ∈ switchSources) :
    IsExpression 2 src.text := by
  have slash {n : Nat} {t : Text} (ht : IsExpression n t) : IsExpression n (scalar '/' :: t) :=
    .cons (by decide) ht
  have stop {n : Nat} : IsExpression n "$".text := .anchor (.inr rfl) .nil
  have dot : Regex.IsPunctuation (scalar '.') := ⟨by decide, by decide, by decide⟩
  have mark : Regex.IsPunctuation (scalar '/') := ⟨by decide, by decide, by decide⟩
  have lastSlash {n : Nat} : IsExpression n "/?$".text :=
    .single (s := "/".text) (m := "?".text) (.char (by decide)) (by decide) stop
  have html {n : Nat} : IsExpression n "\\.html".text :=
    .escaped dot (.plain_append (t := "html".text) (by decide) .nil)
  have any : IsExpression 0 ".*".text := .of_single (s := ".".text) .any (by decide)
  have several : IsExpression 0 ".+".text := .of_single (s := ".".text) .any (by decide)
  rw [switchSources, List.mem_cons, List.mem_cons, List.mem_cons, List.mem_singleton] at h
  refine h.elim (fun h => ?_) fun h =>
    h.elim (fun h => ?_) fun h => h.elim (fun h => ?_) fun h => ?_
  · have hdirectory : IsExpression 1 "(.+)/".text :=
      .parentheses (o := "(".text) (m := []) (by decide) several (by decide)
        (slash .nil)
    have hending : IsExpression 2 "(?:\\.html)?/?$".text :=
      .parentheses (o := "(?:".text) (m := "?".text) (by decide) html (by decide)
        lastSlash
    have hindex : IsExpression 2 "index(?:\\.html)?/?$".text :=
      .plain_append (t := "index".text) (by decide) hending
    have hpath : IsExpression 2 "(?:(.+)/)?index(?:\\.html)?/?$".text :=
      .parentheses (o := "(?:".text) (m := "?".text) (by decide) hdirectory (by decide)
        hindex
    rw [h]
    exact .anchor (.inl rfl) (slash hpath)
  · have hpath : IsExpression 1 "(.*)\\.html/?$".text :=
      .parentheses (o := "(".text) (m := []) (by decide) any (by decide)
        (html.append lastSlash)
    rw [h]
    exact .anchor (.inl rfl) (slash (hpath.mono (by decide)))
  · have hlast : IsSingle "[^\\/]".text :=
      .set (o := "[^".text) (by decide) (.escaped mark .nil) (by decide)
    have hpath : IsExpression 1 "(.*[^\\/])$".text :=
      .parentheses (o := "(".text) (m := []) (by decide)
        (any.append (.of_single (m := []) hlast (by decide))) (by decide) stop
    rw [h]
    exact .anchor (.inl rfl) (slash (hpath.mono (by decide)))
  · have hpath : IsExpression 1 "(.*)\\/$".text :=
      .parentheses (o := "(".text) (m := []) (by decide) any (by decide)
        (.escaped mark stop)
    rw [h]
    exact .anchor (.inl rfl) (slash (hpath.mono (by decide)))

/-- The backtracking engine reads what the switches emit. -/
theorem exists_parse_of_mem_switchSources (edition : Regex.Backtracking.Edition) {src : String}
    (h : src ∈ switchSources) : ∃ n, Regex.Backtracking.parse edition src.text = .ok n := by
  rw [switchSources, List.mem_cons, List.mem_cons, List.mem_cons, List.mem_singleton] at h
  rcases h with rfl | rfl | rfl | rfl <;> exact ⟨_, rfl⟩

/-- **Engines that are as documented accept what the switches emit.** -/
theorem check_of_mem_switchSources {src : String} (h : src ∈ switchSources) {rt : Regex.Runtime}
    (hroom : rt.HasRoom) (hlinear : rt.LinearAsDocumented) {name : Text}
    (hname : Regex.Engine.ofName? rt name = some engine) : engine.check src.text = .ok () := by
  have hshared : IsExpression Regex.Runtime.roomyDepth src.text :=
    (isExpression_of_mem_switchSources h).mono (by decide)
  obtain ⟨hlength, hbytes⟩ : src.text.length ≤ Regex.Runtime.modestLength ∧
      src.text.IsEncodable := by
    rw [switchSources, List.mem_cons, List.mem_cons, List.mem_cons, List.mem_singleton] at h
    rcases h with rfl | rfl | rfl | rfl <;> exact ⟨by decide, by decide⟩
  rcases Regex.Engine.eq_of_ofName? hname with rfl | rfl
  · obtain ⟨n, hread⟩ := exists_parse_of_mem_switchSources rt.edition h
    exact Regex.Engine.backtracking_check_eq_ok (hroom _ hshared) hread
  · refine Regex.Engine.linear_check_eq_ok_iff.2 ?_
    exact (hlinear.reads _ hshared hbytes).resolve_right (hlinear.fits _ hshared hlength)

theorem emitted_redirectTo {src : String} (h : src ∈ switchSources) (location : String) :
    (redirectTo src location).Emitted :=
  .redirect _ _ (isAnchored_of_mem_switchSources h)

/-- What a switch emits is admitted exactly if the engine accepts its source. -/
theorem admitted_redirectTo_iff (src location : String) (engine : Regex.Engine) :
    (redirectTo src location).Admitted engine ↔ engine.check src.text = .ok () := by
  refine ⟨fun h => h.source _ rfl, fun h => ⟨fun t ht => ?_, fun n hn => ?_⟩⟩
  · cases ht
    exact h
  · cases hn
    decide

/-- **What holds of all routes of a table** is what holds of those of the switches and of the
rules, if it holds of the marker. -/
theorem exists_forall_routes_iff (h : c.IsLaidOut rs) {P : Route → Prop} {Q : String → Prop}
    (hswitch : ∀ src ∈ switchSources, ∀ location, P (redirectTo src location) ↔ Q src)
    (hmarker : P (.handle filesystemPhase)) :
    ∃ redirects headers rewrites : List Route,
      Forall₂ (fun rule r => redirectRoutes (.list [rule.toValue]) = .ok [r])
        (c.redirects.getD []) redirects ∧
      Forall₂ (fun rule r => headerRoutes (.list [rule.toValue]) = .ok [r])
        (c.headers.getD []) headers ∧
      Forall₂ (fun rule r => rewriteRoutes (.list [rule.toValue]) = .ok [r])
        (c.rewrites.getD []) rewrites ∧
      ((∀ r ∈ rs, P r) ↔ (∀ src ∈ c.switchSources, Q src) ∧
        (∀ r ∈ redirects, P r) ∧ (∀ r ∈ headers, P r) ∧ ∀ r ∈ rewrites, P r) := by
  obtain ⟨redirects, headers, rewrites, hredirects, hheaders, hrewrites, rfl⟩ := h
  refine ⟨redirects, headers, rewrites, hredirects, hheaders, hrewrites, ?_⟩
  have hclean : (∀ r ∈ (if c.cleanUrls = some true then
      let location := if c.trailingSlash = some true then "/$1/" else "/$1"
      [redirectTo indexSource location, redirectTo htmlSource location]
    else []), P r) ↔
      ∀ src ∈ (if c.cleanUrls = some true then [indexSource, htmlSource] else []), Q src := by
    split
    · rw [List.forall_mem_cons, List.forall_mem_singleton, List.forall_mem_cons,
        List.forall_mem_singleton, hswitch _ (by decide), hswitch _ (by decide)]
    · exact ⟨nofun, nofun⟩
  have hslash : (∀ r ∈ (match c.trailingSlash with
      | some true => [redirectTo unslashedSource "/$1/"]
      | some false => [redirectTo slashedSource "/$1"]
      | none => []), P r) ↔
      ∀ src ∈ (match c.trailingSlash with
      | some true => [unslashedSource]
      | some false => [slashedSource]
      | none => []), Q src := by
    split
    · rw [List.forall_mem_singleton, List.forall_mem_singleton, hswitch _ (by decide)]
    · rw [List.forall_mem_singleton, List.forall_mem_singleton, hswitch _ (by decide)]
    · exact ⟨nofun, nofun⟩
  have hbehind : (∀ r ∈ (match c.rewrites with
      | some _ => Route.handle filesystemPhase :: rewrites
      | none => []), P r) ↔ ∀ r ∈ rewrites, P r := by
    cases hr : c.rewrites with
    | none =>
      rw [hr] at hrewrites
      obtain rfl := List.forall₂_nil_left_iff.1 hrewrites
      rfl
    | some rules => exact List.forall_mem_cons.trans (and_iff_right hmarker)
  rw [List.forall_mem_append, List.forall_mem_append, List.forall_mem_append,
    List.forall_mem_append, hbehind, hclean, hslash, Config.switchSources, List.forall_mem_append]
  simp only [and_assoc]

/-! ### The table -/

/-- All routes of a table are emitted routes. -/
theorem emitted_of_isLaidOut (h : c.IsLaidOut rs)
    (hstatus : ∀ r ∈ c.redirects.getD [], ∃ n, r.statusNumber? = some n) :
    ∀ r ∈ rs, r.Emitted := by
  obtain ⟨redirects, headers, rewrites, hredirects, hheaders, hrewrites, hall⟩ :=
    exists_forall_routes_iff h (Q := fun _ => True)
      (fun _ hs l => iff_of_true (emitted_redirectTo hs l) trivial) .handle
  refine hall.2 ⟨fun _ _ => trivial, ?_, ?_, ?_⟩
  · refine forall_routes Rule.toRedirect_toValue (fun r hr k _ => ?_) hredirects
    obtain ⟨n, hn⟩ := hstatus r hr
    exact r.emitted_route hn k
  · exact forall_routes Rule.toHeaderRule_toValue (fun r _ k _ => r.emitted_route k) hheaders
  · exact forall_routes Rule.toRewrite_toValue (fun r _ k _ => r.emitted_route k) hrewrites

/-- A source that a table can have: one of the switches, or a compiled pattern. -/
inductive IsSource : Text → Prop
  | switch {s : String} (h : s ∈ switchSources) : IsSource s.text
  | compiled {source : Text} {k : Compiled} (h : compile source = .ok k) : IsSource k.regex

/-- The sources of a table come from its switches and its rules. -/
theorem isSource_of_isLaidOut (h : c.IsLaidOut rs) :
    ∀ r ∈ rs, ∀ src, r.source? = some src → IsSource src := by
  obtain ⟨redirects, headers, rewrites, hredirects, hheaders, hrewrites, hall⟩ :=
    exists_forall_routes_iff h (P := fun r => ∀ src, r.source? = some src → IsSource src)
      (Q := fun _ => True)
      (fun _ hs _ => iff_of_true (fun _ hsrc => Option.some.inj hsrc ▸ .switch hs) trivial)
      (fun _ hsrc => by cases hsrc)
  refine hall.2 ⟨fun _ _ => trivial, ?_, ?_, ?_⟩
  · refine forall_routes Rule.toRedirect_toValue (fun r _ k hk src hsrc => ?_) hredirects
    cases hsrc
    exact .compiled hk
  · refine forall_routes Rule.toHeaderRule_toValue (fun r _ k hk src hsrc => ?_) hheaders
    cases hsrc
    exact .compiled hk
  · refine forall_routes Rule.toRewrite_toValue (fun r _ k hk src hsrc => ?_) hrewrites
    cases hsrc
    exact .compiled hk

/-- **The routes of a table are admitted exactly if the configuration is sound.** -/
theorem admitted_iff_sound (h : c.IsLaidOut rs)
    (hstatus : ∀ r ∈ c.redirects.getD [], ∃ n, r.statusNumber? = some n) :
    (∀ r ∈ rs, r.Admitted engine) ↔ c.Sound engine := by
  obtain ⟨redirects, headers, rewrites, hredirects, hheaders, hrewrites, hall⟩ :=
    exists_forall_routes_iff h (fun src _ l => admitted_redirectTo_iff src l engine)
      ⟨nofun, nofun⟩
  have hroute : ∀ r ∈ c.redirects.getD [], ∀ k, (r.route k).Admitted engine ↔
      engine.check k.regex = .ok () ∧
        (r.status = .null ∨ ∃ n ∈ redirectStatuses, r.status = .int n) := by
    intro r hr k
    obtain ⟨n, hn⟩ := hstatus r hr
    rw [r.admitted_route_iff hn k, r.mem_redirectStatuses_iff hn]
  have hr := forall_routes_iff Rule.toRedirect_toValue hroute hredirects
  have hh := forall_routes_iff Rule.toHeaderRule_toValue
    (fun r _ k => r.admitted_route_iff engine k) hheaders
  have hw := forall_routes_iff Rule.toRewrite_toValue
    (fun r _ k => r.admitted_route_iff engine k) hrewrites
  rw [hall, hr, hh, hw]
  constructor
  · rintro ⟨hswitches, hr, hh, hw⟩
    refine ⟨hswitches, ?_, fun r hmem => ?_⟩
    · rw [Config.sources, List.forall_mem_append, List.forall_mem_append, List.forall_mem_map,
        List.forall_mem_map, List.forall_mem_map]
      refine ⟨⟨fun r hmem => ?_, hh⟩, hw⟩
      obtain ⟨k, hk, hcheck, -⟩ := hr r hmem
      exact ⟨k, hk, hcheck⟩
    · obtain ⟨k, -, -, hn⟩ := hr r hmem
      exact hn
  · rintro ⟨hswitches, hsources, hstatuses⟩
    rw [Config.sources, List.forall_mem_append, List.forall_mem_append, List.forall_mem_map,
      List.forall_mem_map, List.forall_mem_map] at hsources
    obtain ⟨⟨hr, hh⟩, hw⟩ := hsources
    refine ⟨hswitches, fun r hmem => ?_, hh, hw⟩
    obtain ⟨k, hk, hcheck⟩ := hr r hmem
    exact ⟨k, hk, hcheck, hstatuses r hmem⟩

/-- The rewrites of a table stand behind its marker, and all else before it. -/
theorem inPhases_of_isLaidOut (h : c.IsLaidOut rs) : Route.InPhases rs := by
  obtain ⟨redirects, headers, rewrites, hredirects, hheaders, hrewrites, rfl⟩ := h
  refine ⟨_, _, rfl, ?_, ?_⟩
  · rw [List.forall_mem_append, List.forall_mem_append, List.forall_mem_append]
    refine ⟨⟨⟨?_, ?_⟩, ?_⟩, ?_⟩
    · split
      · rw [List.forall_mem_cons, List.forall_mem_singleton]
        exact ⟨Or.inl ⟨_, _, _, rfl⟩, Or.inl ⟨_, _, _, rfl⟩⟩
      · exact nofun
    · split
      · exact List.forall_mem_singleton.2 (Or.inl ⟨_, _, _, rfl⟩)
      · exact List.forall_mem_singleton.2 (Or.inl ⟨_, _, _, rfl⟩)
      · exact nofun
    · exact forall_routes Rule.toRedirect_toValue
        (fun r _ k _ => Or.inl ⟨_, _, _, rfl⟩) hredirects
    · exact forall_routes Rule.toHeaderRule_toValue
        (fun r _ k _ => Or.inr ⟨_, _, _, rfl⟩) hheaders
  · split
    · refine Or.inr ⟨rewrites, rfl, ?_⟩
      exact forall_routes Rule.toRewrite_toValue (fun r _ k _ => ⟨_, _, _, rfl⟩) hrewrites
    · exact Or.inl rfl

end Site

/-- Routes in phases mark no phase twice. -/
theorem Route.InPhases.markOnce {rs : List Route} (h : Route.InPhases rs) :
    Table.MarkOnce [] rs := by
  obtain ⟨front, back, rfl, hfront, hback⟩ := h
  have hnone : front.filterMap phase? = [] := by
    rw [List.filterMap_eq_nil_iff]
    intro r hr
    rcases hfront r hr with ⟨_, _, _, rfl⟩ | ⟨_, _, _, rfl⟩ <;> rfl
  refine ⟨?_, nofun⟩
  rw [List.filterMap_append, hnone, List.nil_append]
  rcases hback with rfl | ⟨rewrites, rfl, hrewrites⟩
  · exact List.nodup_nil
  · have hnone : rewrites.filterMap phase? = [] := by
      rw [List.filterMap_eq_nil_iff]
      intro r hr
      obtain ⟨_, _, _, rfl⟩ := hrewrites r hr
      rfl
    change (filesystemPhase :: rewrites.filterMap phase?).Nodup
    rw [hnone]
    simp

end RouteTable
