/-
# What anchored sources match

Every source in a table starts with `^` and ends in `$` (`Route.anchor`), and an engine
has read it.  That does not make its matches whole: `^a|b$` is such a source, and is found
in `ax`.  `Table.matchesWhole_source_iff` says for every source of every table in which
paths it is found as a whole only: in those in which its branches are anchored.
-/

import RouteTable.Route.Matching
import RouteTable.Route.Table
import RouteTable.Proofs.Regex.Anchoring
import RouteTable.Proofs.Regex.Engines
import RouteTable.Proofs.Route.Entries
import RouteTable.Proofs.Route.Shapes

namespace RouteTable
namespace Route

/-- The source of a route that is no marker. -/
def source? : Route → Option Text
  | redirect src _ _ => some src
  | rewrite src _ _ => some src
  | headers src _ _ => some src
  | handle _ => none

variable {rt : Regex.Runtime} {engine : Regex.Engine} {fs : Fields} {r : Route} {src : Text}

/-- What is anchored starts with `^`. -/
theorem head?_anchor (t : Text) : (anchor t).head? = some (scalar '^') := by
  have hfront : (if t.head? = some (scalar '^') then t else scalar '^' :: t).head? =
      some (scalar '^') := by
    split
    · assumption
    · rfl
  unfold anchor
  dsimp only
  generalize (if t.head? = some (scalar '^') then t else scalar '^' :: t) = src at hfront ⊢
  split
  · exact hfront
  · rw [List.head?_append, hfront]
    rfl

/-- What is anchored ends in `$`. -/
theorem getLast?_anchor (t : Text) : (anchor t).getLast? = some (scalar '$') := by
  unfold anchor
  dsimp only
  generalize (if t.head? = some (scalar '^') then t else scalar '^' :: t) = src
  split
  · assumption
  · rw [List.getLast?_append]
    rfl

/-- **A source that is read** has an anchor at each end, and is an expression. -/
theorem anchored_of_readSource {v : Value} (h : readSource (.backtracking rt) v = .ok src) :
    src.head? = some (scalar '^') ∧ src.getLast? = some (scalar '$') ∧
      ∃ n, Regex.Backtracking.parse rt.edition src = .ok n := by
  unfold readSource at h
  split at h
  · rename_i c t
    dsimp only at h
    split at h
    · rename_i hcheck
      cases h
      exact ⟨head?_anchor _, getLast?_anchor _,
        Regex.Engine.exists_parse_of_backtracking_check hcheck⟩
    · exact absurd h refuse_ne_ok
    · cases h
  · exact absurd h refuse_ne_ok

/-- A marker has no source. -/
theorem source?_of_readHandle {marker : Value} (h : readHandle fs marker = .ok r) :
    r.source? = none := by
  unfold readHandle at h
  split at h
  · cases h
  · split at h
    · cases h
    · split at h
      · split at h
        · cases h
          rfl
        · exact absurd h refuseShowing_ne_ok
      · exact absurd h refuseShowing_ne_ok

/-- The source of a route is the source of its entry, anchored and accepted. -/
theorem Shape.exists_readSource (h : Shape engine fs r) (hr : r.source? = some src) :
    ∃ v, readSource engine v = .ok src := by
  cases h with
  | handle _ h =>
    rw [source?_of_readHandle h] at hr
    cases hr
  | headers _ _ hsrc =>
    cases hr
    exact ⟨_, hsrc⟩
  | rewrite _ _ hsrc =>
    cases hr
    exact ⟨_, hsrc⟩
  | redirect _ _ hsrc =>
    cases hr
    exact ⟨_, hsrc⟩

/-- The source of a route that is read was read as a source. -/
theorem exists_readSource_of_read {entry : Value} (h : read engine entry = .ok r)
    (hr : r.source? = some src) : ∃ v, readSource engine v = .ok src := by
  have wire : ∀ es, ofWire engine es = .ok r → ∃ v, readSource engine v = .ok src := by
    intro es h
    unfold ofWire at h
    split at h
    · cases h
    · split at h
      · cases h
      · exact (shape_of_ofFields h).exists_readSource hr
  unfold read at h
  split at h
  · cases h
  · exact wire _ h
  · split at h
    · exact wire _ h
    · cases h

/-- Paths are matched with the expression of the route's source. -/
theorem expression_toValue {edition : Regex.Backtracking.Edition} (hr : r.source? = some src)
    {n : Regex.Node}
    (hn : Regex.Backtracking.parse edition src = .ok n) :
    Matching.expression edition r.toValue = .ok (src, n) := by
  have htext : Matching.sourceText r.toValue = .ok src := by
    cases r with
    | redirect | rewrite | headers =>
      cases hr
      rfl
    | handle => cases hr
  refine Outcome.bind_eq_ok.2 ⟨src, htext, ?_⟩
  rw [hn]
  rfl

end Route

namespace Table

open Regex.Backtracking (branches isLoose)

variable {rt : Regex.Runtime} {entries : Value} {routes : List Route} {r : Route} {src : Text}

/-- Every route of a table is read from an entry. -/
theorem exists_read_of_mem_readFrom {engine : Regex.Engine} {index : Nat} {marked : List Text}
    {vs : List Value} (h : readFrom engine index marked vs = .ok routes) (hr : r ∈ routes) :
    ∃ entry ∈ vs, Route.read engine entry = .ok r := by
  obtain ⟨hlength, hread⟩ := List.forall₂_iff_get.1 (readFrom_eq_ok_iff_forall₂.1 h).1
  obtain ⟨i, rfl⟩ := List.mem_iff_get.1 hr
  have hi : i.1 < vs.length := by omega
  exact ⟨vs.get ⟨i, hi⟩, List.get_mem vs _, hread i hi i.2⟩

/-- **Where the sources of a table match whole paths only.**  A source of a table that the
backtracking engine accepts is an expression that the engine reads, and all its matches in
a path are whole exactly if its branches are anchored there.  So they are whole in every
path if it has one branch and its `$` is not escaped. -/
theorem matchesWhole_source_iff (h : read (.backtracking rt) entries = .ok routes) (hr : r ∈ routes)
    (hsrc : r.source? = some src) :
    ∃ n, Matching.expression rt.edition r.toValue = .ok (src, n) ∧
      n = .anyOf (branches rt.edition src) ∧
      (∀ path, n.MatchesWhole path ↔
        Regex.AnchoredBranches (branches rt.edition src) (isLoose src) path) ∧
      ((branches rt.edition src).length = 1 → isLoose src = false → ∀ path,
        n.MatchesWhole path) := by
  obtain ⟨v, hv⟩ : ∃ v, Route.readSource (.backtracking rt) v = .ok src := by
    unfold read at h
    split at h
    · split at h
      · obtain ⟨entry, -, hentry⟩ := exists_read_of_mem_readFrom h hr
        exact Route.exists_readSource_of_read hentry hsrc
      · cases h
    · cases h
      cases hr
  obtain ⟨hfirst, hlast, n, hn⟩ := Route.anchored_of_readSource hv
  have hwhole := Regex.Backtracking.matchesWhole_parse_iff hfirst hlast hn
  refine ⟨n, Route.expression_toValue hsrc hn, Regex.Backtracking.eq_anyOf_branches hn, hwhole,
    ?_⟩
  intro hone htight path
  obtain ⟨b, hb⟩ := List.length_eq_one_iff.1 hone
  rw [hwhole, htight, hb]
  exact .single b path

/-- The table of one redirect from `source` to `/`. -/
def redirectTable (source : Text) : Value :=
  .list [.map [(.text "src".text, .text source),
    (.text "headers".text, .map [(.text "Location".text, .text "/".text)]),
    (.text "status".text, .int defaultStatus)]]

/-- The table of one redirect is read, if the engine accepts its source. -/
theorem read_redirectTable {c : CodePoint} {t : Text}
    (h : (Regex.Engine.backtracking rt).check (Route.anchor (c :: t)) = .ok ()) :
    read (.backtracking rt) (redirectTable (c :: t)) = .ok [.redirect (Route.anchor (c :: t))
      [("Location".text, "/".text)] (.int defaultStatus)] := by
  have hothers : ∀ v w : Value, Route.Fields.others [("src".text, v), ("headers".text, w),
      ("status".text, .int defaultStatus)] Route.fieldNames = [] := by
    intro v w
    change List.mergeSort [] _ = []
    rw [List.mergeSort_nil]
  have hsource : Route.readSource (.backtracking rt) (.text (c :: t)) =
      .ok (Route.anchor (c :: t)) := by
    rw [Route.readSource, h]
  have hwire : Route.ofWire (.backtracking rt) [(.text "src".text, .text (c :: t)),
      (.text "headers".text, .map [(.text "Location".text, .text "/".text)]),
      (.text "status".text, .int defaultStatus)] = .ok (.redirect (Route.anchor (c :: t))
        [("Location".text, "/".text)] (.int defaultStatus)) := by
    have hfields : Route.toFields [(.text "src".text, .text (c :: t)),
        (.text "headers".text, .map [(.text "Location".text, .text "/".text)]),
        (.text "status".text, .int defaultStatus)] = .ok [("src".text, .text (c :: t)),
          ("headers".text, .map [(.text "Location".text, .text "/".text)]),
          ("status".text, .int defaultStatus)] := rfl
    rw [Route.ofWire, hfields]
    dsimp only
    rw [hothers]
    refine Outcome.bind_eq_ok.2 ⟨_, hsource, rfl⟩
  have hread : Route.read (.backtracking rt) (.map [(.text "src".text, .text (c :: t)),
      (.text "headers".text, .map [(.text "Location".text, .text "/".text)]),
      (.text "status".text, .int defaultStatus)]) = .ok (.redirect (Route.anchor (c :: t))
        [("Location".text, "/".text)] (.int defaultStatus)) := hwire
  change readFrom (.backtracking rt) 0 [] [_] = _
  rw [readFrom, hread]
  rfl

/-- `^docs$` is a source of a table. -/
theorem matchesWhole_source_iff_docs :
    read (.backtracking .plain) (redirectTable "docs".text) = .ok [.redirect "^docs$".text
      [("Location".text, "/".text)] (.int defaultStatus)] ∧
    ∃ n, Matching.expression .strict (.redirectRoute (.text "^docs$".text)
        (.map [(.text "Location".text, .text "/".text)]) (.int defaultStatus)) =
          .ok ("^docs$".text, n) ∧ n = .anyOf (branches .strict "^docs$".text) ∧
      (∀ path, n.MatchesWhole path ↔
        Regex.AnchoredBranches (branches .strict "^docs$".text) (isLoose "^docs$".text) path) ∧
      ((branches .strict "^docs$".text).length = 1 → isLoose "^docs$".text = false →
        ∀ path, n.MatchesWhole path) :=
  have h := read_redirectTable (c := 'd') (t := "ocs".text)
    (Regex.Engine.backtracking_check_eq_ok rfl rfl)
  ⟨h, matchesWhole_source_iff h (List.mem_singleton_self _) rfl⟩

/-- **An anchored source may match a part of a path:** `^a|b$`, of an entry `a|b`, matches
the `a` of `ax`. -/
theorem not_matchesWhole_of_alternative :
    read (.backtracking .plain) (redirectTable "a|b".text) = .ok [.redirect "^a|b$".text
      [("Location".text, "/".text)] (.int defaultStatus)] ∧
    ∃ n, Matching.expression .strict (.redirectRoute (.text "^a|b$".text)
        (.map [(.text "Location".text, .text "/".text)]) (.int defaultStatus)) =
          .ok ("^a|b$".text, n) ∧ ¬ n.MatchesWhole "ax".text := by
  refine ⟨read_redirectTable (c := 'a') (t := "|b".text)
    (Regex.Engine.backtracking_check_eq_ok rfl rfl),
    .alt (.seq (.anchor (.start false)) (.set ⟨false, [.code 97], false, false⟩))
      (.seq (.set ⟨false, [.code 98], false, false⟩) (.anchor (.stop false))), rfl, ?_⟩
  intro h
  rcases (h.search (m := ⟨0, ⟨[scalar 'a'], [scalar 'x'], []⟩⟩) (by decide)).2 with hend | hend
  · cases hend
  · cases hend

end Table
end RouteTable
