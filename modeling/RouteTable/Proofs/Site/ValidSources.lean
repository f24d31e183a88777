/-
# Sources without bodies are valid wherever their routes stand

A source is checked twice: by its grammar when its rule is converted, and by the engine when the
route stands in a table.  A body can pass the first check and fail the second.  A source without
bodies cannot, whatever its text, its braces and its modifiers are: what is emitted for it is in
the syntax that engines share, and only a few parentheses deep (`Pattern.isExpression_regexOf`).
So both engines read it (`Compiled.check_regex`), the linear one if there are bytes of it and it is
within the engine's budget.

Then nothing is left to be said against the route of a rule with that source but the status of a
redirect (`field_of_read`), and a table that is rejected at the route is not rejected for its
source (`not_refused_for_source`).  A surrogate in a source has no bytes, and there the linear
engine has no answer to give (`not_accepted_surrogate`).
-/

import RouteTable.Proofs.Pattern.Meaning
import RouteTable.Proofs.Pattern.SharedEmission
import RouteTable.Proofs.Regex.Engines
import RouteTable.Proofs.Route.Verdicts
import RouteTable.Proofs.Site.Rules

namespace RouteTable

open Pattern (Compiled compile WithoutBodies idPieces surrogateInside)

/-- The engines that are asked for an expression they read: the backtracking engine for any, and
the linear one for what has bytes and is within its budget. -/
def Regex.Engine.Reaches (rt : Regex.Runtime) (engine : Regex.Engine) (source : Text)
    (c : Compiled) : Prop :=
  engine = .backtracking rt ∨
    engine = .linear rt ∧ source.IsEncodable ∧ rt.answer c.regex ≠ .refused Regex.Runtime.tooLarge

/-- **Both engines accept the expression of a source without bodies.** -/
theorem Pattern.Compiled.check_regex {source : Text} {c : Compiled} (h : compile source = .ok c)
    (hb : WithoutBodies source) {rt : Regex.Runtime} (hroom : rt.HasRoom)
    (hlinear : rt.LinearAsDocumented) {engine : Regex.Engine}
    (hengine : engine.Reaches rt source c) : engine.check c.regex = .ok () := by
  have hsegments := h
  obtain ⟨ss, hs, rfl⟩ := Outcome.map_eq_ok.1 hsegments
  obtain ⟨-, -, ps, hp, -, rfl⟩ := Pattern.segments_eq_ok_iff.1 hs
  have hbodies := Pattern.hasDefaultBodies_segmentsOf (hb ps hp)
  have hshared : Regex.IsExpression Regex.Runtime.roomyDepth
      (Pattern.regexOf (Pattern.segmentsOf ps)) :=
    (Pattern.isExpression_regexOf hbodies).mono (by decide)
  rcases hengine with rfl | ⟨rfl, hbytes, hbudget⟩
  · exact Regex.Engine.backtracking_check_eq_ok (hroom _ hshared) (Pattern.parse_regexOf hbodies)
  · refine Regex.Engine.linear_check_eq_ok_iff.2 ?_
    exact (hlinear.reads _ hshared (Compiled.isEncodable_regex h hbytes)).resolve_right hbudget

namespace Site

/-- The routes that the assemblers give for a rule, built or in a map, with a source. -/
inductive Converted (source : Text) : Route → Prop
  | redirect {v : Value} {rule : Redirect} {r : Route} (hrule : Rule.toRedirect v = .ok rule)
    (hsource : rule.source = source) (h : redirectRoutes (.list [v]) = .ok [r]) :
    Converted source r
  | rewrite {v : Value} {rule : Rewrite} {r : Route} (hrule : Rule.toRewrite v = .ok rule)
    (hsource : rule.source = source) (h : rewriteRoutes (.list [v]) = .ok [r]) :
    Converted source r
  | headers {v : Value} {rule : HeaderRule} {r : Route} (hrule : Rule.toHeaderRule v = .ok rule)
    (hsource : rule.source = source) (h : headerRoutes (.list [v]) = .ok [r]) :
    Converted source r

variable {source : Text} {c : Compiled} {engine : Regex.Engine} {r : Route}

/-- What a rule gives is its route. -/
theorem eq_route_of_singleton {α : Type} {toRule : Value → Except Rule.Error α} {of : α → Text}
    {route : α → Compiled → Route} {v : Value} {rule : α} (hc : compile (of rule) = .ok c)
    (hrule : toRule v = .ok rule)
    (h : ruleRoutes (ruleRoute toRule of route) (.list [v]) = .ok [r]) : r = route rule c := by
  obtain ⟨r', hr', heq⟩ := (ruleRoutes_singleton_eq_ok_iff 0).1 h
  obtain ⟨a, c', ha, hc', rfl⟩ := ruleRoute_eq_ok_iff.1 hr'
  obtain rfl : rule = a := Except.ok.inj (hrule.symm.trans ha)
  obtain rfl : c = c' := Except.ok.inj (hc.symm.trans hc')
  exact (List.cons.inj heq).1

/-- **A converted rule only fails for the status of a redirect,** if the engine accepts the
expression of its source. -/
theorem field_of_read (hc : compile source = .ok c) (hcheck : engine.check c.regex = .ok ())
    (hr : Converted source r) {e : Route.Failure} (h : Route.read engine r.toValue = .error e) :
    (∃ reason, e = .invalid ⟨reason, some "status".text⟩) ∨
      e = .fault .numeralTooLong ∧ r.HasUnwritableStatus := by
  have hsrc : Route.checkSource engine c.regex = .ok () := Route.checkSource_eq_ok_iff.2 hcheck
  cases hr with
  | @redirect v rule _ hrule hsource hv =>
    obtain rfl := eq_route_of_singleton (hsource ▸ hc) hrule hv
    rw [Redirect.route, c.isAnchored_regex.read_redirect, hsrc] at h
    refine (Route.cases_of_readStatus (Outcome.map_eq_error.1 h)).imp_right ?_
    rintro ⟨n, hn, hnone, hlong, rfl⟩
    refine ⟨rfl, n, ?_, hnone, hlong⟩
    rw [Redirect.route, hn]
    rfl
  | @rewrite v rule _ hrule hsource hv =>
    obtain rfl := eq_route_of_singleton (hsource ▸ hc) hrule hv
    rw [Route.read_toValue (rule.emitted_route c), Rewrite.route, Route.recheck, hsrc] at h
    cases h
  | @headers v rule _ hrule hsource hv =>
    obtain rfl := eq_route_of_singleton (hsource ▸ hc) hrule hv
    rw [Route.read_toValue (rule.emitted_route c), HeaderRule.route, Route.recheck, hsrc] at h
    cases h

/-- A table that is rejected at an entry is rejected for what is wrong with the entry alone, or
because the entry marks a phase again. -/
theorem cases_of_rejected {entries entry : Value} {front back : List Value} {e : Route.Invalid}
    (hitems : entries.items = .ok (front ++ entry :: back))
    (h : Table.judge engine entries = .ok (.rejected (.route e)))
    (hindex : e.index = some front.length) :
    Route.read engine entry = .error (.invalid ⟨e.reason, e.field⟩) ∨
      e.field = some "handle".text := by
  obtain ⟨_, ⟨⟩, hread⟩ := Table.judge_eq_rejected_iff.1 h
  unfold Table.read at hread
  split at hread
  · rw [hitems] at hread
    obtain ⟨front', entry', back', rs, hsplit, -, hentry⟩ :=
      Table.readFrom_eq_error_iff_exists.1 hread
    rw [Nat.zero_add] at hentry
    rcases Table.readEntry_eq_error_iff.1 hentry with ⟨f, hf, heq⟩ | ⟨phase, -, -, heq⟩
    · cases f with
      | invalid p =>
        cases heq
        have hlength : front.length = front'.length := Option.some.inj hindex.symm
        obtain rfl := (List.cons.inj (List.append_inj hsplit hlength).2).1
        exact Or.inl hf
      | fault | regex => cases heq
    · cases heq
      exact Or.inr rfl
  · cases hread

/-- **A rule whose source has no bodies is never refused for its source.**  The expression of the
source is accepted by the backtracking engine, and, if there are bytes of the source, by the linear
engine within its budget.  The route of a rule with that source, itself or its wire form, is read
from an entry of a table, or is invalid for another field, or has a status that cannot be written;
and no table is rejected at such an entry for its source. -/
theorem not_refused_for_source (h : compile source = .ok c) (hb : WithoutBodies source)
    {rt : Regex.Runtime} (hroom : rt.HasRoom) (hlinear : rt.LinearAsDocumented)
    (hengine : engine.Reaches rt source c) :
    engine.check c.regex = .ok () ∧
      ∀ r entry, Converted source r → entry = r.toValue ∨ entry = .map r.wire →
        (∀ e, Route.read engine entry = .error e →
          (∃ p, e = .invalid p ∧ p.field ≠ some "src".text) ∨
            e = .fault .numeralTooLong ∧ r.HasUnwritableStatus) ∧
        ∀ entries front back e, entries.items = .ok (front ++ entry :: back) →
          Table.judge engine entries = .ok (.rejected (.route e)) →
            e.index = some front.length → e.field ≠ some "src".text := by
  have hcheck := Compiled.check_regex h hb hroom hlinear hengine
  refine ⟨hcheck, fun r entry hr hentry => ?_⟩
  have hread : Route.read engine entry = Route.read engine r.toValue := by
    rcases hentry with rfl | rfl
    · rfl
    · rw [Route.read_map, Route.read_toValue_eq_ofWire]
  have hstatus : (some "status".text : Option Text) ≠ some "src".text := by decide
  constructor
  · intro e he
    refine (field_of_read h hcheck hr (hread ▸ he)).imp_left ?_
    rintro ⟨reason, rfl⟩
    exact ⟨_, rfl, hstatus⟩
  · intro entries front back e hitems hjudge hindex
    rcases cases_of_rejected hitems hjudge hindex with he | hhandle
    · rcases field_of_read h hcheck hr (hread ▸ he) with ⟨reason, heq⟩ | ⟨heq, -⟩
      · rw [(Route.Problem.mk.inj (Route.Failure.invalid.inj heq)).2]
        exact hstatus
      · cases heq
    · rw [hhandle]
      decide

/-- The rewrite of a source to `/`, in a map. -/
def rewriteOf (source : Text) : Value :=
  .map [(.text "source".text, .text source), (.text "destination".text, .text [scalar '/'])]

theorem rewriteRoutes_rewriteOf {source : Text} {c : Compiled} (hc : compile source = .ok c) :
    rewriteRoutes (.list [rewriteOf source]) = .ok [Rewrite.route ⟨source, [scalar '/']⟩ c] :=
  (ruleRoutes_singleton_eq_ok_iff 0).2 ⟨_, ruleRoute_eq_ok_iff.2 ⟨_, _, rfl, hc, rfl⟩, rfl⟩

/-- `/:id` is a source without bodies, and the linear engine accepts it. -/
theorem not_refused_for_source_id :
    compile "/:id".text = .ok ⟨"/:id".text, Pattern.segmentsOf idPieces⟩ ∧
      WithoutBodies "/:id".text ∧ Regex.Runtime.plain.HasRoom ∧
      Regex.Runtime.plain.LinearAsDocumented ∧
      (Regex.Engine.linear .plain).Reaches .plain "/:id".text
        ⟨"/:id".text, Pattern.segmentsOf idPieces⟩ ∧
      (Regex.Engine.linear .plain).check (Pattern.regexOf (Pattern.segmentsOf idPieces)) =
        .ok () ∧
      ∃ r, rewriteRoutes (.list [rewriteOf "/:id".text]) = .ok [r] ∧
        ∀ front back e,
          Table.judge (.linear .plain) (.list (front ++ r.toValue :: back)) =
              .ok (.rejected (.route e)) →
            e.index = some front.length → e.field ≠ some "src".text := by
  have hc : compile "/:id".text = .ok ⟨"/:id".text, Pattern.segmentsOf idPieces⟩ :=
    Pattern.isParse_idPieces.compile_eq_ok (by decide) (by decide) (by decide)
  have hb : WithoutBodies "/:id".text := by
    intro ps hps
    rw [hps.unique Pattern.isParse_idPieces]
    decide
  have hroom := Regex.Runtime.hasRoom_plain
  have hlinear := Regex.Runtime.linearAsDocumented_plain
  have haccepted : Regex.Runtime.plain.answer (Pattern.regexOf (Pattern.segmentsOf idPieces)) =
      .accepted := Regex.Runtime.answer_plain (by decide +kernel)
  have hreaches : (Regex.Engine.linear .plain).Reaches .plain "/:id".text
      ⟨"/:id".text, Pattern.segmentsOf idPieces⟩ := by
    refine .inr ⟨rfl, by decide, fun hrefused => ?_⟩
    cases haccepted.symm.trans hrefused
  have hroute := rewriteRoutes_rewriteOf hc
  obtain ⟨hcheck, htable⟩ := not_refused_for_source hc hb hroom hlinear hreaches
  exact ⟨hc, hb, hroom, hlinear, hreaches, hcheck, _, hroute, fun front back e =>
    (htable _ _ (.rewrite rfl rfl hroute) (.inl rfl)).2 _ front back e rfl⟩

/-- **The linear engine accepts no surrogate:** a source with one in it has a pattern and no bodies,
but no engine that is as documented accepts its expression, and its rewrite has no table. -/
theorem not_accepted_surrogate :
    compile surrogateInside.source = .ok surrogateInside ∧ WithoutBodies surrogateInside.source ∧
      (∀ rt : Regex.Runtime, rt.LinearAsDocumented →
        (Regex.Engine.linear rt).check surrogateInside.regex ≠ .ok ()) ∧
      ∃ r message, rewriteRoutes (.list [rewriteOf surrogateInside.source]) = .ok [r] ∧
        Table.judge (.linear .plain) (.list [r.toValue]) =
          .error (.regex (.linear "UnicodeEncodeError" message)) := by
  have hbytes : ¬ surrogateInside.regex.IsEncodable := by decide +kernel
  have hbroken : ∀ rt : Regex.Runtime, rt.LinearAsDocumented → ∃ message,
      (Regex.Engine.linear rt).check surrogateInside.regex =
        .error (.broken (.linear "UnicodeEncodeError" message)) := by
    intro rt hrt
    obtain ⟨message, hanswer⟩ := hrt.encodes _ hbytes
    exact ⟨message, Regex.Engine.linear_broken_iff.2 ⟨_, message, hanswer, rfl⟩⟩
  refine ⟨Pattern.compile_surrogateInside, Pattern.withoutBodies_surrogateInside,
    fun rt hrt haccepted => ?_, ?_⟩
  · obtain ⟨message, hcheck⟩ := hbroken rt hrt
    cases hcheck.symm.trans haccepted
  · obtain ⟨message, hcheck⟩ := hbroken .plain Regex.Runtime.linearAsDocumented_plain
    refine ⟨_, message, rewriteRoutes_rewriteOf Pattern.compile_surrogateInside, ?_⟩
    have hrecheck : Route.recheck (.linear .plain)
        (Rewrite.route ⟨surrogateInside.source, [scalar '/']⟩ surrogateInside) =
          .error (.regex (.linear "UnicodeEncodeError" message)) :=
      Route.checkSource_eq_regex_iff.2 hcheck
    have hread := Route.read_toValue_eq_error_iff (Rewrite.emitted_route _ _) |>.2 hrecheck
    refine Table.judge_eq_error_iff.2 ⟨nofun, ?_⟩
    rw [Table.read_list]
    exact Table.readFrom_eq_error_iff_exists.2 ⟨[], _, [], [], rfl, rfl,
      Table.readEntry_eq_error_iff.2 (.inl ⟨_, hread, rfl⟩)⟩

end Site
end RouteTable
