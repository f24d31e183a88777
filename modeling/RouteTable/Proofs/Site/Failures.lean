/-
# When there is no verdict

The table of a configuration that is a map has a verdict, unless an engine breaks on a source or
a status is an integer that cannot be written: the reader of tables only makes verdicts of what is
invalid.

The backtracking engine breaks where it comes to an end of its stack, and it takes a repetition
whose bound is too large for a failure of its own, not for a flaw of the expression.  It has two
more failures of that kind, but no source of a table makes it have them
(`Site.IsSource.cases_of_broken`): flags for the whole expression come too late behind its `^`,
and a numeral is never as long as that.  The linear engine breaks, if it is as documented, on a
source that has no bytes.

`Site.table_eq_error_iff` says that nothing else goes wrong.
-/

import RouteTable.Proofs.Pattern.Numerals
import RouteTable.Proofs.Pattern.SharedEmission
import RouteTable.Proofs.Regex.Faults
import RouteTable.Proofs.Site.Tables

namespace RouteTable

namespace Site

variable {rt : Regex.Runtime} {name : Text} {engine : Regex.Engine} {es : List (Value × Value)}
  {rs : List Route} {f : Failure}

/-- What an emitted route comes to no verdict for: the engine breaks on its source, or its source
passes, and its status is a number that is none and cannot be written. -/
inductive Stops (engine : Regex.Engine) (r : Route) : Failure → Prop
  | source {src : Text} {b : Regex.Breakdown} (hsrc : r.source? = some src)
    (hcheck : engine.check src = .error (.broken b)) : Stops engine r (.regex b)
  | status (hsrc : ∀ src, r.source? = some src → engine.check src = .ok ())
    (hstatus : r.HasUnwritableStatus) : Stops engine r (.value .numeralTooLong)

/-- The digits of a bound that is too large stand in a source. -/
def HasLargeNumeral (src : Text) : Prop :=
  ∃ ds, ds <:+: src ∧ (∀ d ∈ ds, d.isDigit = true) ∧
    Regex.Backtracking.endOfBounds ≤ Text.numeral 10 ds

/-- **On a source that a table can have, the backtracking engine only breaks** at an end of its
stack, and for a bound that is too large. -/
theorem IsSource.cases_of_broken {src : Text} (h : IsSource src) {b : Regex.Breakdown}
    (hb : (Regex.Engine.backtracking rt).check src = .error (.broken b)) :
    (∃ message, rt.exhausted? src = some message ∧ b = .stack message) ∨
      b = .backtracking .boundTooLarge ∧ HasLargeNumeral src := by
  rcases Regex.Engine.backtracking_broken_iff.1 hb with hstack | ⟨-, e, hparse, hflaw, rfl⟩
  · exact .inl hstack
  right
  cases h with
  | switch h =>
    obtain ⟨n, hn⟩ := exists_parse_of_mem_switchSources rt.edition h
    cases hn.symm.trans hparse
  | @compiled source k hk =>
    rcases Regex.Backtracking.parse_eq_error_of_caret hparse with
      ⟨cause, place, rfl⟩ | ⟨ds, hds, hdigits, ⟨rfl, hbound⟩ | ⟨rfl, hlength⟩⟩
    · exact absurd rfl (hflaw cause place)
    · exact ⟨rfl, ds, hds.trans (List.suffix_cons _ _).isInfix, hdigits, hbound⟩
    · exfalso
      have hshort := Pattern.Compiled.length_le_of_digits hk
        (hds.trans (List.suffix_cons _ _).isInfix) hdigits
      have hsource := Pattern.Compiled.length_source_le hk
      unfold maxNumeralLength at hlength
      unfold Pattern.maxSourceLength at hsource
      omega

/-- An emitted route comes to no verdict exactly if reading it fails, and not because it is
invalid. -/
theorem stops_iff_recheck {r : Route} (h : r.Emitted) (index : Option Nat) :
    Stops engine r f ↔ ∃ e, Route.recheck engine r = .error e ∧ (∀ p, e ≠ .invalid p) ∧
      f = Failure.ofEntry index e := by
  constructor
  · rintro (⟨hsrc, hcheck⟩ | ⟨hsrc, hstatus⟩)
    · exact ⟨_, (Route.recheck_eq_regex_iff h).2 ⟨_, hsrc, hcheck⟩, nofun, rfl⟩
    · exact ⟨_, (Route.recheck_eq_fault_iff h).2 ⟨rfl, hsrc, hstatus⟩, nofun, rfl⟩
  · rintro ⟨e, he, hvalid, rfl⟩
    cases e with
    | invalid p => exact absurd rfl (hvalid p)
    | fault fault =>
      obtain ⟨rfl, hsrc, hstatus⟩ := (Route.recheck_eq_fault_iff h).1 he
      exact .status hsrc hstatus
    | regex b =>
      obtain ⟨src, hsrc, hcheck⟩ := (Route.recheck_eq_regex_iff h).1 he
      exact .source hsrc hcheck

/-- The routes of a configuration have no table exactly if one of them comes to no verdict, all
before it being admitted. -/
theorem table_eq_error_of_routes_iff (hname : Regex.Engine.ofName? rt name = some engine)
    (h : routes (.map es) = .ok rs) : table rt name (.map es) = .error f ↔
      ∃ front r back, rs = front ++ r :: back ∧ (∀ q ∈ front, q.Admitted engine) ∧
        Stops engine r f := by
  obtain ⟨hemitted, honce⟩ := emitted_of_routes h
  constructor
  · intro hf
    rcases table_cases hname h with
      ⟨-, htable⟩ | ⟨front, r, back, rfl, hfront, e, he, ⟨p, -, htable⟩ | ⟨hvalid, htable⟩⟩
    · cases htable.symm.trans hf
    · cases htable.symm.trans hf
    · obtain rfl := Except.error.inj (htable.symm.trans hf)
      exact ⟨front, r, back, rfl, hfront,
        (stops_iff_recheck (hemitted r (by simp)) _).2 ⟨e, he, hvalid, rfl⟩⟩
  · rintro ⟨front, r, back, rfl, hfront, hstops⟩
    obtain ⟨e, he, hvalid, rfl⟩ :=
      (stops_iff_recheck (hemitted r (by simp)) (some (0 + front.length))).1 hstops
    rw [table_of_routes hname h, (Table.readFrom_eq_error_iff hemitted honce).2
      ⟨front, r, back, e, rfl, hfront, he, rfl⟩]
    cases e with
    | invalid p => exact absurd rfl (hvalid p)
    | fault | regex => rfl

/-- A configuration whose table comes to no verdict has routes. -/
theorem exists_routes_of_table_error (hname : Regex.Engine.ofName? rt name = some engine)
    (h : table rt name (.map es) = .error f) : ∃ front r back,
      routes (.map es) = .ok (front ++ r :: back) ∧ (∀ q ∈ front, q.Admitted engine) ∧
        Stops engine r f := by
  cases hroutes : routes (.map es) with
  | error f' => cases (table_of_routes_error hroutes).symm.trans h
  | ok rs =>
    obtain ⟨front, r, back, rfl, hfront, hstops⟩ :=
      (table_eq_error_of_routes_iff hname hroutes).1 h
    exact ⟨front, r, back, rfl, hfront, hstops⟩

/-- A configuration has a verdict, or one of its routes comes to none: its status cannot be
written, or the engine breaks on its source, which is one that a table can have. -/
theorem verdict_or_stops (hname : Regex.Engine.ofName? rt name = some engine)
    (es : List (Value × Value)) : (∃ v, table rt name (.map es) = .ok v) ∨
      ∃ f rs r, table rt name (.map es) = .error f ∧ routes (.map es) = .ok rs ∧ r ∈ rs ∧
        ((f = .value .numeralTooLong ∧ r.HasUnwritableStatus) ∨
          ∃ src b, r.source? = some src ∧ IsSource src ∧
            engine.check src = .error (.broken b) ∧ f = .regex b) := by
  cases h : table rt name (.map es) with
  | ok v => exact .inl ⟨v, rfl⟩
  | error f =>
    obtain ⟨front, r, back, hroutes, -, hstops⟩ := exists_routes_of_table_error hname h
    have hr : r ∈ front ++ r :: back := by simp
    refine .inr ⟨f, _, r, rfl, hroutes, hr, ?_⟩
    cases hstops with
    | status _ hstatus => exact .inl ⟨rfl, hstatus⟩
    | @source src b hsrc hcheck =>
      obtain ⟨c, -, hlaid⟩ := routes_map_eq_ok_iff.1 hroutes
      exact .inr ⟨src, b, hsrc, isSource_of_isLaidOut hlaid r hr src hsrc, hcheck, rfl⟩

/-- **A configuration has a verdict, unless an engine breaks or a status cannot be written.**  A map
whose table comes to no verdict has routes, and the first of them that is not admitted is what it
comes to none for.  What rejects a table is what is wrong with the configuration, with a source or
with a route.

With the backtracking engine there is a verdict, or a status that cannot be written, or a source
that exhausts the stack, or one with a numeral that is too large for a bound.  With a linear engine
that is as documented there is a verdict, or such a status, or a source that has no bytes. -/
theorem table_eq_error_iff (hname : Regex.Engine.ofName? rt name = some engine)
    (es : List (Value × Value)) :
    (∀ f, table rt name (.map es) = .error f ↔ ∃ front r back,
      routes (.map es) = .ok (front ++ r :: back) ∧ (∀ q ∈ front, q.Admitted engine) ∧
        Stops engine r f) ∧
    (∀ f, table rt name (.map es) = .ok (.rejected f) →
      (∃ e, f = .rule e) ∨ (∃ e, f = .pattern e) ∨ ∃ e, f = .route e) ∧
    (engine = .backtracking rt → (∃ v, table rt name (.map es) = .ok v) ∨
      ∃ f rs r, table rt name (.map es) = .error f ∧ routes (.map es) = .ok rs ∧ r ∈ rs ∧
        ((f = .value .numeralTooLong ∧ r.HasUnwritableStatus) ∨
          ∃ src, r.source? = some src ∧
            ((f = .regex (.backtracking .boundTooLarge) ∧ HasLargeNumeral src) ∨
              ∃ message, f = .regex (.stack message) ∧ rt.exhausted? src = some message))) ∧
    (engine = .linear rt → rt.LinearAsDocumented → (∃ v, table rt name (.map es) = .ok v) ∨
      ∃ f rs r, table rt name (.map es) = .error f ∧ routes (.map es) = .ok rs ∧ r ∈ rs ∧
        ((f = .value .numeralTooLong ∧ r.HasUnwritableStatus) ∨
          ∃ src message, r.source? = some src ∧ ¬ src.IsEncodable ∧
            f = .regex (.linear "UnicodeEncodeError" message))) := by
  refine ⟨fun f => ⟨exists_routes_of_table_error hname, ?_⟩, fun f h => ?_, ?_, ?_⟩
  · rintro ⟨front, r, back, hroutes, hfront, hstops⟩
    exact (table_eq_error_of_routes_iff hname hroutes).2 ⟨front, r, back, rfl, hfront, hstops⟩
  · cases hroutes : routes (.map es) with
    | error f' =>
      cases (table_of_routes_error hroutes).symm.trans h
      rcases routes_map_eq_error_iff.1 hroutes with ⟨e, rfl, -⟩ | ⟨e, c, rfl, -, -⟩
      · exact Or.inl ⟨e, rfl⟩
      · exact Or.inr (Or.inl ⟨e, rfl⟩)
    | ok rs => exact Or.inr (Or.inr (exists_route_of_rejected hroutes h))
  · rintro rfl
    refine (verdict_or_stops hname es).imp_right ?_
    rintro ⟨f, rs, r, hf, hroutes, hr, hstops⟩
    refine ⟨f, rs, r, hf, hroutes, hr, hstops.imp_right ?_⟩
    rintro ⟨src, b, hsrc, hsource, hcheck, rfl⟩
    refine ⟨src, hsrc, ?_⟩
    rcases hsource.cases_of_broken hcheck with ⟨message, hstack, rfl⟩ | ⟨rfl, hlarge⟩
    · exact .inr ⟨message, rfl, hstack⟩
    · exact .inl ⟨rfl, hlarge⟩
  · rintro rfl hdocumented
    refine (verdict_or_stops hname es).imp_right ?_
    rintro ⟨f, rs, r, hf, hroutes, hr, hstops⟩
    refine ⟨f, rs, r, hf, hroutes, hr, hstops.imp_right ?_⟩
    rintro ⟨src, b, hsrc, -, hcheck, rfl⟩
    obtain ⟨hbytes, message, -, rfl⟩ :=
      (Regex.Engine.linear_broken_iff_of_documented hdocumented).1 hcheck
    exact ⟨src, message, hsrc, hbytes, rfl⟩

/-- A configuration that redirects from a source to `/`. -/
def redirectConfig (source : Text) : List (Value × Value) :=
  [(.text "redirects".text, .list [.map [(.text "source".text, .text source),
    (.text "destination".text, .text "/".text)]])]

/-- A configuration of one redirect has its route. -/
theorem routes_redirectConfig {source : Text} {k : Pattern.Compiled}
    (hk : Pattern.compile source = .ok k) : routes (.map (redirectConfig source)) =
      .ok [Redirect.route ⟨source, "/".text, .null⟩ k] := by
  refine routes_map_eq_ok_iff.2 ⟨⟨none, none, some [⟨source, "/".text, .null⟩], none, none⟩, rfl,
    _, [], [], .cons ((ruleRoutes_singleton_iff Rule.toRedirect_toValue).2 ⟨k, hk, rfl⟩) .nil,
    .nil, .nil, rfl⟩

/-- A source with a bound that is too large, compiled. -/
def largeBound : Pattern.Compiled where
  source := "/:a(x\x7b4294967295\x7d)".text
  segments := [.capture ⟨some [scalar 'a'], [scalar '/'], "x\x7b4294967295\x7d".text, [], .once⟩]

/-- A bound that is too large compiles. -/
theorem compile_largeBound : Pattern.compile largeBound.source = .ok largeBound := by
  decide +kernel

/-- Each engine fails on one configuration, and has a verdict on the other. -/
theorem table_eq_error_iff_redirectConfig :
    let large := Value.map (redirectConfig largeBound.source)
    let surrogate := Value.map (redirectConfig Pattern.surrogateInside.source)
    (Regex.Engine.ofName? .plain "re".text = some (.backtracking .plain) ∧
      table .plain "re".text large = .error (.regex (.backtracking .boundTooLarge)) ∧
      ∃ v, table .plain "re".text surrogate = .ok v) ∧
    Regex.Engine.ofName? .plain "re2".text = some (.linear .plain) ∧
      Regex.Runtime.plain.LinearAsDocumented ∧ (∃ v, table .plain "re2".text large = .ok v) ∧
      ∃ message, table .plain "re2".text surrogate =
        .error (.regex (.linear "UnicodeEncodeError" message)) := by
  intro large surrogate
  have hlarge := routes_redirectConfig compile_largeBound
  have hsurrogate := routes_redirectConfig Pattern.compile_surrogateInside
  have hdocumented := Regex.Runtime.linearAsDocumented_plain
  have hre : Regex.Engine.ofName? .plain "re".text = some (.backtracking .plain) := rfl
  have hre2 : Regex.Engine.ofName? .plain "re2".text = some (.linear .plain) := rfl
  have hstatus : ∀ {k : Pattern.Compiled} {source : Text},
      ¬ (Redirect.route ⟨source, "/".text, .null⟩ k).HasUnwritableStatus := by
    rintro k source ⟨n, hn, hnone, -⟩
    cases hn
    exact hnone (by decide)
  refine ⟨⟨hre, ?_, ?_⟩, hre2, hdocumented, ?_, ?_⟩
  · refine ((table_eq_error_iff hre (redirectConfig largeBound.source)).1 _).2
      ⟨[], _, [], hlarge, List.forall_mem_nil _, .source rfl ?_⟩
    exact Regex.Engine.backtracking_broken_iff.2 (.inr ⟨rfl, .boundTooLarge, rfl, nofun, rfl⟩)
  · rcases (table_eq_error_iff hre (redirectConfig Pattern.surrogateInside.source)).2.2.1 rfl with
      hv | ⟨f, rs, r, -, hrs, hr, ⟨-, hunwritable⟩ | ⟨src, hsrc, ⟨-, hnumeral⟩ | ⟨_, -, hstack⟩⟩⟩
    · exact hv
    · cases hrs.symm.trans hsurrogate
      cases List.mem_singleton.1 hr
      exact absurd hunwritable hstatus
    · cases hrs.symm.trans hsurrogate
      cases List.mem_singleton.1 hr
      cases hsrc
      obtain ⟨ds, hds, hdigits, hbound⟩ := hnumeral
      have hnone : ∀ d ∈ Pattern.surrogateInside.regex, d.isDigit = false := by decide +kernel
      cases ds with
      | nil => exact absurd hbound (by decide)
      | cons d ds =>
        have hd := hdigits d List.mem_cons_self
        rw [hnone d (hds.subset List.mem_cons_self)] at hd
        cases hd
    · cases hstack
  · rcases (table_eq_error_iff hre2 (redirectConfig largeBound.source)).2.2.2 rfl hdocumented with
      hv | ⟨f, rs, r, -, hrs, hr, ⟨-, hunwritable⟩ | ⟨src, _, hsrc, hbytes, -⟩⟩
    · exact hv
    · cases hrs.symm.trans hlarge
      cases List.mem_singleton.1 hr
      exact absurd hunwritable hstatus
    · cases hrs.symm.trans hlarge
      cases List.mem_singleton.1 hr
      cases hsrc
      exact absurd (by decide +kernel) hbytes
  · obtain ⟨message, hanswer⟩ :=
      hdocumented.encodes Pattern.surrogateInside.regex (by decide +kernel)
    have hiff := (table_eq_error_iff hre2 (redirectConfig Pattern.surrogateInside.source)).1
    refine ⟨message, (hiff _).2 ⟨[], _, [], hsurrogate, List.forall_mem_nil _, .source rfl ?_⟩⟩
    exact Regex.Engine.linear_broken_iff.2 ⟨_, message, hanswer, rfl⟩

/-- **A bound that is too large has no verdict:** the backtracking engine fails on it, and so does
the table, where the configuration is a map like any other and the stack has no end. -/
theorem table_redirectConfig_eq_error :
    table .plain "re".text (.map (redirectConfig "/:a(x\x7b4294967295\x7d)".text)) =
      .error (.regex (.backtracking .boundTooLarge)) := by
  have hname : Regex.Engine.ofName? .plain "re".text = some (.backtracking .plain) := rfl
  refine (table_eq_error_of_routes_iff hname (routes_redirectConfig compile_largeBound)).2
    ⟨[], _, [], rfl, List.forall_mem_nil _, .source rfl ?_⟩
  exact Regex.Engine.backtracking_broken_iff.2 (.inr ⟨rfl, .boundTooLarge, rfl, nofun, rfl⟩)

end Site
end RouteTable
