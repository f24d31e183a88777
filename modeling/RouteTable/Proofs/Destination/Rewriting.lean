/-
# What becomes of the components of a destination

Rewriting never moves the marks between components: what a template becomes has none of its
own, and no origin begins anew (`isSplit_rewriteComponents`).  So a rewritten destination is
cut into its rewritten components (`isSplit_rewrite`), and rewriting it again changes nothing
(`rewrite_idempotent`).
-/

import RouteTable.Proofs.Destination.Queries
import RouteTable.Proofs.Destination.Splitting

namespace RouteTable
namespace Destination

open Pattern (Registry Entry Compiled IsParse compile defaultBody slash_not_mem_reserved)
open Text (cut pieces join uncut)

variable {registry : Registry} {c : CodePoint} {t : Text} {d : Destination}

/-! ### Components -/

/-- With a parameter there is a query, of the rewritten pairs. -/
theorem query_rewriteComponents (hne : registry.entries ≠ []) (d : Destination) :
    (rewriteComponents registry d).query =
      some (join [scalar '&'] (rewritePairs registry (d.query.getD []))) := by
  obtain ⟨p, ps, hps⟩ := List.exists_cons_of_ne_nil
    (rewritePairs_ne_nil (q := d.query.getD []) hne)
  simp only [rewriteComponents, hps]

/-- The path, which after an origin is never empty. -/
def rootedPath (d : Destination) : Text :=
  if d.origin ≠ [] ∧ d.path = [] then [scalar '/'] else d.path

/-- The path is rewritten, or a slash behind an origin. -/
theorem path_rewriteComponents (registry : Registry) (d : Destination) :
    (rewriteComponents registry d).path =
      if d.origin ≠ [] ∧ d.path = [] then [scalar '/'] else Template.rewrite registry d.path := by
  rw [rewriteComponents]
  split
  · exact Template.rewrite_eq_self (by simp [Template.references_eq_nil])
  · rfl

/-- What is in the rooted path is in the path, or is the slash in its place. -/
theorem mem_rootedPath (h : c ∈ d.rootedPath) : c = '/' ∨ c ∈ d.path := by
  rw [rootedPath] at h
  split at h
  · exact .inl (List.mem_singleton.1 h)
  · exact .inr h

/-- The path of a destination with an origin begins with `/`, and so does what becomes
of it. -/
theorem IsSplit.head?_rewrite_rootedPath (h : IsSplit t d) (registry : Registry)
    (ho : d.origin ≠ []) :
    (Template.rewrite registry d.rootedPath).head? = some (scalar '/') := by
  have hhead : d.rootedPath.head? = some (scalar '/') := by
    rw [rootedPath]
    split
    · rfl
    · rename_i hpath
      obtain ⟨c, p, hp⟩ := List.exists_cons_of_ne_nil fun hnil => hpath ⟨ho, hnil⟩
      have hc := h.head?_path ho
      rw [hp] at hc ⊢
      rw [List.head?_cons, hc c rfl]
  rcases Template.head?_rewrite registry d.rootedPath with heq | ⟨heq, -⟩
  · rw [heq, hhead]
  · rw [hhead] at heq
    cases heq

/-- Neither `$` nor a name after `:` stands in a scheme and the slashes after it. -/
theorem inert_of_isScheme {s : Text} (h : IsScheme s) :
    Template.Inert (s ++ [scalar '/', scalar '/']) := by
  have hslashes : Template.Inert [scalar '/', scalar '/'] :=
    ⟨by decide, nofun, by decide, nofun, trivial⟩
  rcases h.eq_nil_or with rfl | ⟨u, rfl, hu⟩
  · exact hslashes
  · have hcolon : Template.Inert [scalar ':', scalar '/', scalar '/'] := by
      refine ⟨by decide, fun _ => ⟨List.cons_ne_nil _ _, fun b hb => ?_⟩, hslashes⟩
      rw [← Option.some.inj hb]
      decide
    rw [List.append_assoc]
    refine Template.Inert.append (fun b hb => ⟨?_, ?_⟩) hcolon
    · rintro rfl
      cases hu _ hb
    · rintro rfl
      cases hu _ hb

/-- Rewriting builds no origin: the scheme and the slashes would stand in the path, and then
in the path before. -/
theorem IsSplit.not_begins_rewriteComponents (h : IsSplit t d) (hnil : d.origin = []) {o : Text}
    (ho : IsOrigin o) : ¬o <+: (rewriteComponents registry d).text := by
  intro hfront
  obtain ⟨s, a, rfl, hs, -⟩ := ho
  have hbare : IsOrigin (s ++ [scalar '/', scalar '/']) := ⟨s, [], rfl, hs, nofun⟩
  have hslashes : s ++ [scalar '/', scalar '/'] <+: s ++ scalar '/' :: scalar '/' :: a :=
    (List.prefix_append_right_inj s).2 ⟨a, rfl⟩
  have hrooted : d.rootedPath = d.path := if_neg fun hand => hand.1 hnil
  rw [text_eq_append, show (rewriteComponents registry d).origin = [] from hnil,
    List.nil_append] at hfront
  have hrewritten : s ++ [scalar '/', scalar '/'] <+: Template.rewrite registry d.rootedPath :=
    Text.prefix_of_prefix_uncut (hbare.not_mem (.inl rfl))
      (Text.prefix_of_prefix_uncut (hbare.not_mem (.inr rfl)) (hslashes.trans hfront))
  rw [hrooted] at hrewritten
  have hpath : s ++ [scalar '/', scalar '/'] <+: t := by
    rw [← h.text_eq, text_eq_append, hnil, List.nil_append]
    exact ((inert_of_isScheme hs).of_prefix_rewrite hrewritten).trans
      ((Text.prefix_uncut _ _ _).trans (Text.prefix_uncut _ _ _))
  have hle := h.longest _ hbare hpath
  rw [hnil, List.length_append] at hle
  cases hle

/-- An origin that a rewritten destination begins with is not longer than its own. -/
theorem IsSplit.length_le_origin_rewriteComponents (h : IsSplit t d) {o : Text} (ho : IsOrigin o)
    (hfront : o <+: (rewriteComponents registry d).text) : o.length ≤ d.origin.length := by
  by_cases hnil : d.origin = []
  · exact absurd hfront (h.not_begins_rewriteComponents hnil ho)
  · rw [text_eq_append] at hfront
    refine length_le_of_endsAuthority ho (h.origin.resolve_left hnil) (fun c hc => ?_) hfront
    obtain ⟨p, hp⟩ := List.head?_eq_some_iff.1 (h.head?_rewrite_rootedPath registry hnil)
    have hslash : [scalar '/'] <+: (rewriteComponents registry d).path := ⟨p, hp.symm⟩
    obtain ⟨w, hw⟩ := hslash.trans ((Text.prefix_uncut '?' _ _).trans (Text.prefix_uncut '#' _ _))
    rw [← hw] at hc
    rw [← Option.some.inj hc]
    decide

/-- **The components of a rewritten destination are the rewritten components.** -/
theorem isSplit_rewriteComponents (hr : registry.IsProper) (hne : registry.entries ≠ [])
    (h : IsSplit t d) :
    IsSplit (rewriteComponents registry d).text (rewriteComponents registry d) where
  text_eq := rfl
  origin := h.origin
  longest _ := h.length_le_origin_rewriteComponents
  path := by
    have hpath : ∀ c ∈ marks, c ≠ '/' → c ∉ d.path → c ∉ (rewriteComponents registry d).path :=
      fun c hc hslash hmem => not_mem_rewrite hc fun hrooted =>
        (mem_rootedPath hrooted).elim hslash hmem
    exact ⟨hpath '?' (by decide) (by decide) h.path.1, hpath '#' (by decide) (by decide) h.path.2⟩
  query q hq := by
    rw [query_rewriteComponents hne, Option.mem_some_iff] at hq
    rw [← hq]
    refine hash_not_mem_join_rewritePairs hr ?_
    cases hquery : d.query with
    | none => exact List.not_mem_nil
    | some u => exact h.query u hquery

theorem parse_text_rewriteComponents (hr : registry.IsProper) (hne : registry.entries ≠ [])
    (t : Text) :
    parse (rewriteComponents registry (parse t)).text = rewriteComponents registry (parse t) :=
  (isSplit_iff.1 (isSplit_rewriteComponents hr hne (isSplit_parse t))).symm

/-- The rooted path is rewritten as the path is. -/
theorem rootedPath_rewriteComponents (h : IsSplit t d) :
    (rewriteComponents registry d).rootedPath = Template.rewrite registry d.rootedPath := by
  refine if_neg fun hand => ?_
  have hhead := h.head?_rewrite_rootedPath registry hand.1
  rw [show Template.rewrite registry d.rootedPath = [] from hand.2] at hhead
  cases hhead

/-- **Rewritten components are not rewritten again.** -/
theorem rewriteComponents_rewriteComponents (hr : registry.IsProper)
    (hne : registry.entries ≠ []) (h : IsSplit t d) :
    rewriteComponents registry (rewriteComponents registry d) = rewriteComponents registry d := by
  have hpath : (rewriteComponents registry (rewriteComponents registry d)).path =
      (rewriteComponents registry d).path := by
    change Template.rewrite registry (rewriteComponents registry d).rootedPath = _
    rw [rootedPath_rewriteComponents h, Template.rewrite_rewrite]
    rfl
  have hquery : (rewriteComponents registry (rewriteComponents registry d)).query =
      (rewriteComponents registry d).query := by
    rw [query_rewriteComponents hne, query_rewriteComponents hne, Option.getD_some,
      rewritePairs_join_rewritePairs hr hne]
  have hfragment : (rewriteComponents registry (rewriteComponents registry d)).fragment =
      (rewriteComponents registry d).fragment := by
    change (d.fragment.map _).map _ = d.fragment.map _
    rw [Option.map_map]
    congr 1
    funext u
    exact Template.rewrite_rewrite registry u
  exact Destination.ext rfl hpath hquery hfragment

/-! ### Destinations -/

theorem rewrite_eq_text (hne : registry.entries ≠ []) (t : Text) :
    rewrite registry t = (rewriteComponents registry (parse t)).text := if_neg hne

/-- The components of a rewritten destination are those that were rewritten. -/
theorem parse_rewrite (hr : registry.IsProper) (hne : registry.entries ≠ []) (t : Text) :
    parse (rewrite registry t) = rewriteComponents registry (parse t) := by
  rw [rewrite_eq_text hne, parse_text_rewriteComponents hr hne]

/-- **A rewritten destination is cut into its rewritten components.**  The origin is the same,
path and fragment are rewritten, and the query has the pairs of the query with their values
rewritten and one pair for each parameter that was no key.  So every parameter is a key, and
one that was missing is so once. -/
theorem isSplit_rewrite {source : Text} {c : Compiled} (h : compile source = .ok c)
    (hne : c.registry.entries ≠ []) (t : Text) :
    ∃ d d', (∀ x, IsSplit t x ↔ x = d) ∧ (∀ x, IsSplit (rewrite c.registry t) x ↔ x = d') ∧
      d'.origin = d.origin ∧
      d'.path = (if d.origin ≠ [] ∧ d.path = [] then [scalar '/']
        else Template.rewrite c.registry d.path) ∧
      (∃ q, d'.query = some q ∧
        (pieces '&' q).map (cut '=') =
          ((pairs (d.query.getD [])).map (cut '=')).map
              (fun p => (p.1, p.2.map (Template.rewrite c.registry))) ++
            (missing c.registry (d.query.getD [])).map (fun e => (e.name, some e.reference)) ∧
        (∀ e ∈ c.registry.entries, e.name ∈ (pieces '&' q).map key) ∧
        ∀ e ∈ missing c.registry (d.query.getD []), ((pieces '&' q).map key).count e.name = 1) ∧
      d'.fragment = d.fragment.map (Template.rewrite c.registry) ∧
      (d'.fragment.isSome = true ↔ scalar '#' ∈ t) := by
  have hr := Compiled.isProper_registry h
  have hparse := parse_rewrite hr hne t
  have hpieces := pieces_join_rewritePairs hr hne ((parse t).query.getD [])
  refine ⟨parse t, parse (rewrite c.registry t), fun _ => isSplit_iff, fun _ => isSplit_iff, ?_⟩
  rw [hparse]
  refine ⟨rfl, path_rewriteComponents c.registry (parse t),
    ⟨_, query_rewriteComponents hne (parse t), ?_, ?_, ?_⟩, rfl, ?_⟩
  · rw [hpieces, map_cut_rewritePairs hr]
  · rw [hpieces]
    exact fun e he => name_mem_map_key_rewritePairs hr he
  · rw [hpieces]
    exact fun e he => count_key_rewritePairs hr he
  · rw [← (isSplit_parse t).isSome_fragment_iff]
    exact Iff.of_eq (congrArg (· = true) Option.isSome_map)

/-- The segments of `/:id/:rest*`. -/
def idRest : Compiled :=
  ⟨"/:id/:rest*".text,
    [.capture ⟨some "id".text, [scalar '/'], defaultBody, [], .once⟩,
      .capture ⟨some "rest".text, [scalar '/'], defaultBody, [], .star⟩]⟩

/-- `idRest` is what `/:id/:rest*` compiles to. -/
theorem compile_idRest : compile "/:id/:rest*".text = .ok idRest := by
  have hp : IsParse "/:id/:rest*".text
      [.text (.plain '/' slash_not_mem_reserved),
        .parameter (.named ⟨"id".text, by decide, List.all_eq_true.1 rfl⟩ none) .once,
        .text (.plain '/' slash_not_mem_reserved),
        .parameter (.named ⟨"rest".text, by decide, List.all_eq_true.1 rfl⟩ none) .star] := by
    refine ⟨rfl, trivial, ?_, trivial, ?_, trivial⟩
    · rintro c hc
      cases hc
      decide
    · rintro c hc
      cases hc
      decide
  exact hp.compile_eq_ok (by decide) (by decide) (by decide)

/-- A bare host, a key with a blank, an empty pair, a flag, a key that is `id` once it is decoded,
a reference that is not listed, and a fragment. -/
def bareHost : Text := "//h:80?a+b=:id&&flag&%69d=:x?#:rest*:id".text

/-- The parameter `id` is a key already, and only `rest` is put behind the pairs. -/
theorem isSplit_rewrite_bareHost :
    compile "/:id/:rest*".text = .ok idRest ∧ idRest.registry.entries ≠ [] ∧
    ∃ d d', (∀ x, IsSplit bareHost x ↔ x = d) ∧
      (∀ x, IsSplit (rewrite idRest.registry bareHost) x ↔ x = d') ∧
      d.origin = "//h:80".text ∧ d'.origin = d.origin ∧ d.path = [] ∧ d'.path = [scalar '/'] ∧
      (∃ q, d'.query = some q ∧ (pieces '&' q).map (cut '=') =
          [("a+b".text, some "$1".text), ("flag".text, none), ("%69d".text, some ":x?".text),
            ("rest".text, some "$2".text)] ∧
        (pieces '&' q).map key = ["a b".text, "flag".text, "id".text, "rest".text] ∧
        "id".text ∈ (pieces '&' q).map key ∧ ((pieces '&' q).map key).count "rest".text = 1) ∧
      d'.fragment = some "$2$1".text := by
  have hne : idRest.registry.entries ≠ [] := by decide
  obtain ⟨d, d', hd, hd', horigin, hpath, ⟨q, hq, hpairs, hkeys, hmissing⟩, hfragment, -⟩ :=
    isSplit_rewrite compile_idRest hne bareHost
  obtain rfl : parse bareHost = d := (hd _).1 (isSplit_parse bareHost)
  have hcut : (pieces '&' q).map (cut '=') = [("a+b".text, some "$1".text), ("flag".text, none),
      ("%69d".text, some ":x?".text), ("rest".text, some "$2".text)] :=
    hpairs.trans (by decide +kernel)
  have hdecoded : (pieces '&' q).map key =
      ["a b".text, "flag".text, "id".text, "rest".text] := by
    have hkey : (pieces '&' q).map key =
        ((pieces '&' q).map (cut '=')).map fun p => Text.formDecode p.1 := by
      rw [List.map_map]
      rfl
    rw [hkey, hcut]
    decide +kernel
  exact ⟨compile_idRest, hne, _, d', hd, hd', by decide, horigin, by decide,
    hpath.trans (by decide), ⟨q, hq, hcut, hdecoded, hkeys ⟨"id".text, 1, []⟩ (by decide),
      hmissing ⟨"rest".text, 2, [scalar '*']⟩ (by decide +kernel)⟩,
    hfragment.trans (by decide +kernel)⟩

/-! ### Once and for all -/

/-- The templates that a destination consists of: its path, the values of its query and its
fragment. -/
def templates (d : Destination) : List Text :=
  d.path :: ((pairs (d.query.getD [])).filterMap fun p => (cut '=' p).2) ++ d.fragment.toList

/-- The templates of a rewritten destination stay as they are. -/
theorem rewrite_of_mem_templates (hr : registry.IsProper) (hne : registry.entries ≠ [])
    (d : Destination) : ∀ u ∈ (rewriteComponents registry d).templates,
      Template.rewrite registry u = u := by
  intro u hu
  rcases List.mem_cons.1 hu with rfl | hu
  · exact Template.rewrite_rewrite registry d.rootedPath
  rcases List.mem_append.1 hu with hu | hu
  · obtain ⟨p, hp, hvalue⟩ := List.mem_filterMap.1 hu
    rw [query_rewriteComponents hne, Option.getD_some, pairs_join_rewritePairs hr hne] at hp
    exact map_value_of_mem_rewritePairs hr hp u hvalue
  · obtain ⟨v, -, rfl⟩ := Option.map_eq_some_iff.1 (Option.mem_toList.1 hu)
    exact Template.rewrite_rewrite registry v

/-- What stays as it is when it is rewritten refers to nothing that is listed. -/
theorem get?_of_mem_references {u : Text} (hu : Template.rewrite registry u = u)
    {r : Template.Reference} (hr : r ∈ Template.references u) : registry.get? r.name = none := by
  rw [← hu] at hr
  exact Template.get?_of_mem_references_rewrite hr

/-- **Rewriting a second time changes nothing**, neither a template nor a destination: no
reference is left that is listed, no parameter is missing, and the components are those that
were written. -/
theorem rewrite_idempotent {source : Text} {c : Compiled} (h : compile source = .ok c)
    (t : Text) :
    Template.rewrite c.registry (Template.rewrite c.registry t) = Template.rewrite c.registry t ∧
      rewrite c.registry (rewrite c.registry t) = rewrite c.registry t ∧
      (∀ r ∈ Template.references (Template.rewrite c.registry t),
        c.registry.get? r.name = none) ∧
      (∀ u ∈ (parse (rewrite c.registry t)).templates, ∀ r ∈ Template.references u,
        c.registry.get? r.name = none) ∧
      missing c.registry ((parse (rewrite c.registry t)).query.getD []) = [] ∧
      (c.registry.entries ≠ [] →
        parse (rewrite c.registry t) = rewriteComponents c.registry (parse t) ∧
        rewriteComponents c.registry (parse (rewrite c.registry t)) =
          parse (rewrite c.registry t)) := by
  have hr := Compiled.isProper_registry h
  refine ⟨Template.rewrite_rewrite c.registry t, ?_⟩
  by_cases hne : c.registry.entries = []
  · have hlisted : ∀ name, c.registry.get? name = none := by
      intro name
      rw [Registry.get?, hne, List.find?_nil]
    refine ⟨?_, fun r _ => hlisted r.name, fun _ _ r _ => hlisted r.name, ?_,
      fun hsome => absurd hne hsome⟩
    · rw [rewrite, if_pos hne]
    · rw [missing, hne, List.filter_nil]
  · have hparse := parse_rewrite hr hne t
    have hagain := rewriteComponents_rewriteComponents hr hne (isSplit_parse t)
    refine ⟨?_, fun _ => Template.get?_of_mem_references_rewrite, fun u hu _ => ?_, ?_,
      fun _ => ⟨hparse, ?_⟩⟩
    · rw [rewrite_eq_text hne (rewrite c.registry t), hparse, hagain, ← rewrite_eq_text hne]
    · rw [hparse] at hu
      exact get?_of_mem_references (rewrite_of_mem_templates hr hne _ u hu)
    · rw [hparse, query_rewriteComponents hne, Option.getD_some, missing_join_rewritePairs hr hne]
    · rw [hparse, hagain]

/-- Rewritten once more, `bareHost` stays as it has become. -/
theorem rewrite_idempotent_bareHost :
    compile "/:id/:rest*".text = .ok idRest ∧
    rewrite idRest.registry bareHost =
      "//h:80/?a+b=$1&flag&%69d=:x?&rest=$2#$2$1".text ∧
    rewrite idRest.registry "//h:80/?a+b=$1&flag&%69d=:x?&rest=$2#$2$1".text =
      "//h:80/?a+b=$1&flag&%69d=:x?&rest=$2#$2$1".text := by
  have hbare : rewrite idRest.registry bareHost =
      "//h:80/?a+b=$1&flag&%69d=:x?&rest=$2#$2$1".text := by decide +kernel
  have htwice := (rewrite_idempotent compile_idRest bareHost).2.1
  rw [hbare] at htwice
  exact ⟨compile_idRest, hbare, htwice⟩

end Destination
end RouteTable
