/-
# What anchors at both ends bind

An expression that starts with `^` and ends in `$` may still match a part of a text: a
branch binds neither anchor but the first one's `^` and the last one's `$`, and an escaped
`$` is no anchor.  `Node.matchesWhole_iff` says that nothing else can go wrong: all matches
in a text are whole exactly if the branches are anchored where the two anchors do not bind
them (`AnchoredBranches`).
-/

import RouteTable.Proofs.Regex.Ways

namespace RouteTable
namespace Regex

/-- At the end of the text, or before its last line feed. -/
def Position.AtEnd (p : Position) : Prop := p.after = [] ∨ p.after = [scalar '\n']

/-- Every match in a text, from whatever place of it, starts at its start and ends at its
end, or before its last line feed. -/
def Node.MatchesWhole (n : Node) (path : Text) : Prop :=
  ∀ u v q, path = u ++ v → n.run (Position.between u.reverse v) some = some q →
    u = [] ∧ q.AtEnd

/-- The branches of an expression are anchored in a text where neither anchor binds them:
one that is not the first matches from the start only, and one that is not the last, or is
not anchored itself, matches to the end only, each where no branch before it matches. -/
structure AnchoredBranches (branches : List Node) (loose : Bool) (path : Text) : Prop where
  starts : ∀ front b back, branches = front ++ b :: back → front ≠ [] →
    ∀ u v q, path = u ++ v → (∀ c ∈ front, c.run (Position.between u.reverse v) some = none) →
      b.run (Position.between u.reverse v) some = some q → u = []
  stops : ∀ front b back, branches = front ++ b :: back → (back ≠ [] ∨ loose = true) →
    ∀ u v q, path = u ++ v → (∀ c ∈ front, c.run (Position.between u.reverse v) some = none) →
      b.run (Position.between u.reverse v) some = some q → q.AtEnd

/-- One branch that is anchored itself needs no more. -/
theorem AnchoredBranches.single (b : Node) (path : Text) : AnchoredBranches [b] false path where
  starts := by
    intro front c back h hne
    rcases front with _ | ⟨d, _ | ⟨e, front⟩⟩
    · exact absurd rfl hne
    · cases h
    · cases h
  stops := by
    intro front c back h hl
    rcases front with _ | ⟨d, _ | ⟨e, front⟩⟩
    · cases h
      rcases hl with hl | hl
      · exact absurd rfl hl
      · cases hl
    · cases h
    · cases h

/-- A search finds whole matches only, if all matches are whole. -/
theorem Node.MatchesWhole.search {n : Node} {path : Text} (h : n.MatchesWhole path) {m : Match}
    (hm : n.search path = some m) : m.start = 0 ∧ m.stop.AtEnd := by
  have hfrom : ∀ before after, path = before.reverse ++ after →
      n.searchFrom before after = some m → m.start = 0 ∧ m.stop.AtEnd := by
    intro before after hpath
    fun_induction Node.searchFrom n before after with
    | case1 after before p hp =>
      intro he
      cases he
      obtain ⟨hnil, hend⟩ := h before.reverse after p hpath (by rw [List.reverse_reverse]; exact hp)
      rw [List.reverse_eq_nil_iff] at hnil
      exact ⟨by rw [hnil]; rfl, hend⟩
    | case2 =>
      intro he
      cases he
    | case3 before c rest hp ih =>
      exact ih (by rw [hpath, List.reverse_cons, List.append_assoc]; rfl)
  exact hfrom [] path rfl hm

/-- The first branch that matches is taken. -/
theorem Node.run_anyOf {branches : List Node} (hne : branches ≠ []) (p : Position)
    (k : Continuation) :
    (Node.anyOf branches).run p k = branches.findSome? fun b => b.run p k := by
  induction branches with
  | nil => exact absurd rfl hne
  | cons b bs ih =>
    cases bs with
    | nil =>
      rw [Node.anyOf, List.findSome?_cons]
      cases b.run p k <;> rfl
    | cons c bs =>
      rw [Node.anyOf, Node.run, List.findSome?_cons, ih (List.cons_ne_nil _ _)]
      · cases b.run p k <;> rfl
      · intro h
        cases h

/-- A run ends at one of the ways. -/
theorem Node.mem_ways_of_run {n : Node} {p q : Position} (h : n.run p some = some q) :
    q ∈ n.ways p := by
  rw [n.run_tries_ways, List.findSome?_eq_some_iff] at h
  obtain ⟨l₁, a, l₂, hw, ha, -⟩ := h
  cases ha
  rw [hw]
  simp

/-- Items in a row of which the first is `^`. -/
def Node.StartsAnchored (b : Node) : Prop := ∃ ns, b = .inRow (.anchor (.start false) :: ns)

/-- Items in a row of which the last is `$`. -/
def Node.StopsAnchored (b : Node) : Prop := ∃ ns, b = .inRow (ns ++ [.anchor (.stop false)])

/-- What starts with `^` matches from the start only. -/
theorem Node.StartsAnchored.before_eq_nil {b : Node} (hb : b.StartsAnchored) {before after : Text}
    {q : Position} (h : b.run (Position.between before after) some = some q) : before = [] := by
  obtain ⟨ns, rfl⟩ := hb
  have hq := Node.mem_ways_of_run h
  rw [Node.ways_inRow_cons, List.mem_flatMap] at hq
  obtain ⟨r, hr, -⟩ := hq
  rw [Node.ways] at hr
  split at hr
  · rename_i hs
    simpa [Position.satisfies, Position.between] using hs
  · cases hr

/-- What ends in `$` matches to the end only. -/
theorem Node.StopsAnchored.atEnd {b : Node} (hb : b.StopsAnchored) {p q : Position}
    (h : b.run p some = some q) : q.AtEnd := by
  obtain ⟨ns, rfl⟩ := hb
  have hq := Node.mem_ways_of_run h
  rw [Node.ways_inRow_append, List.mem_flatMap] at hq
  obtain ⟨r, -, hr⟩ := hq
  rw [Node.inRow, Node.ways] at hr
  split at hr
  · rename_i hs
    obtain rfl := List.mem_singleton.1 hr
    simpa [Position.satisfies, Position.AtEnd] using hs
  · cases hr

/-- **All matches are whole exactly if the branches are anchored where `^` and `$` do not
bind them:** these bind the first branch and the last. -/
theorem Node.matchesWhole_iff {branches : List Node} {loose : Bool}
    (hfirst : ∃ b bs, branches = b :: bs ∧ b.StartsAnchored)
    (hlast : loose = false → ∃ bs b, branches = bs ++ [b] ∧ b.StopsAnchored) (path : Text) :
    (Node.anyOf branches).MatchesWhole path ↔ AnchoredBranches branches loose path := by
  obtain ⟨first, others, hbranches, hstart⟩ := hfirst
  have hne : branches ≠ [] := hbranches ▸ List.cons_ne_nil _ _
  have hrun : ∀ p q, (Node.anyOf branches).run p some = some q ↔ ∃ front b back,
      branches = front ++ b :: back ∧ b.run p some = some q ∧
        ∀ c ∈ front, c.run p some = none := by
    intro p q
    rw [Node.run_anyOf hne, List.findSome?_eq_some_iff]
  constructor
  · intro h
    refine ⟨?_, ?_⟩
    · intro front b back hb _ u v q hpath hnone hq
      exact (h u v q hpath ((hrun _ _).2 ⟨front, b, back, hb, hq, hnone⟩)).1
    · intro front b back hb _ u v q hpath hnone hq
      exact (h u v q hpath ((hrun _ _).2 ⟨front, b, back, hb, hq, hnone⟩)).2
  · intro h u v q hpath hq
    obtain ⟨front, b, back, hb, hq, hnone⟩ := (hrun _ _).1 hq
    constructor
    · cases front with
      | nil =>
        -- the first branch: `^` binds it
        rw [List.nil_append, hbranches, List.cons.injEq] at hb
        rw [← hb.1] at hq
        exact List.reverse_eq_nil_iff.1 (hstart.before_eq_nil hq)
      | cons c front =>
        exact h.starts _ b back hb (List.cons_ne_nil _ _) u v q hpath hnone hq
    · by_cases hbound : back ≠ [] ∨ loose = true
      · exact h.stops front b back hb hbound u v q hpath hnone hq
      · -- the last branch: `$` binds it
        rw [not_or, Decidable.not_not, Bool.not_eq_true] at hbound
        obtain ⟨hback, htight⟩ := hbound
        obtain ⟨init, last, hlast, hstop⟩ := hlast htight
        rw [hback] at hb
        have := (List.append_inj' (hb.symm.trans hlast) rfl).2
        rw [List.cons.injEq] at this
        rw [this.1] at hq
        exact hstop.atEnd hq

end Regex
end RouteTable
