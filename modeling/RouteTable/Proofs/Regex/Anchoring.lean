/-
# Where the two anchors stand

In an expression that is read, a `^` at the start stays the first item of the first branch
(`State.Anchored`, which every move keeps), and a `$` at the end is the last item of the
last branch (`State.exists_of_run_dollar`), whatever stands between.  So the branches of
such an expression decide whether its matches are whole (`matchesWhole_parse_iff`).
-/

import RouteTable.Proofs.Regex.Steps
import RouteTable.Proofs.Regex.WholeMatches

namespace RouteTable
namespace Regex
namespace Backtracking

/-- The branches of a level, the last of which is being read. -/
def Level.allBranches (l : Level) : List Node := (l.branch :: l.branches).reverse

/-- A level whose first branch starts with `^`, which no flags make more than that. -/
structure Level.Anchored (l : Level) : Prop where
  flags : l.flags = .none
  start : (l.branches = [] ∧ ∃ is, l.items = is ++ [.anchor (.start false)]) ∨
    ∃ bs b, l.branches = bs ++ [b] ∧ b.StartsAnchored

namespace Level
namespace Anchored

variable {l : Level}

theorem push (h : l.Anchored) (i : Item) : (l.push i).Anchored where
  flags := h.flags
  start := by
    rcases h.start with ⟨hb, is, hi⟩ | hb
    · exact Or.inl ⟨hb, i :: is, congrArg (i :: ·) hi⟩
    · exact Or.inr hb

/-- An anchor cannot be repeated. -/
theorem loop (h : l.Anchored) {n : Node} {items : List Item} (hi : l.items = .other n :: items)
    (greed : Greed) (bounds : Bounds) :
    ({ l with items := .loop greed bounds n :: items } : Level).Anchored where
  flags := h.flags
  start := by
    rcases h.start with ⟨hb, is, his⟩ | hb
    · rw [hi] at his
      cases is with
      | nil => cases his
      | cons i is => exact Or.inl ⟨hb, _ :: is, congrArg (_ :: ·) (List.cons.inj his).2⟩
    · exact Or.inr hb

/-- A branch whose first item is the anchor starts with it. -/
theorem startsAnchored_branch {is : List Item} (hi : l.items = is ++ [.anchor (.start false)]) :
    l.branch.StartsAnchored := by
  refine ⟨is.reverse.map Item.node, ?_⟩
  rw [branch, hi, List.reverse_append, List.reverse_singleton, List.singleton_append,
    List.map_cons]
  rfl

/-- A branch more leaves the first one anchored. -/
theorem nextBranch (h : l.Anchored) : l.nextBranch.Anchored where
  flags := h.flags
  start := by
    rcases h.start with ⟨hb, is, hi⟩ | ⟨bs, b, hb, hstart⟩
    · exact Or.inr ⟨[], l.branch, congrArg (l.branch :: ·) hb, startsAnchored_branch hi⟩
    · exact Or.inr ⟨l.branch :: bs, b, congrArg (l.branch :: ·) hb, hstart⟩

/-- The first of all branches starts with `^`. -/
theorem first (h : l.Anchored) : ∃ b bs, l.allBranches = b :: bs ∧ b.StartsAnchored := by
  rcases h.start with ⟨hb, is, hi⟩ | ⟨bs, b, hb, hstart⟩
  · exact ⟨l.branch, [], by rw [allBranches, hb]; rfl, startsAnchored_branch hi⟩
  · refine ⟨b, bs.reverse ++ [l.branch], ?_, hstart⟩
    rw [allBranches, hb, List.reverse_cons, List.reverse_append]
    rfl

end Anchored

/-- An item `$` that is read last ends the last branch. -/
theorem last_push_stop (l : Level) : ∃ bs b, (l.push (.anchor (.stop false))).allBranches =
    bs ++ [b] ∧ b.StopsAnchored := by
  refine ⟨l.branches.reverse, (l.push (.anchor (.stop false))).branch, List.reverse_cons,
    l.items.reverse.map Item.node, ?_⟩
  rw [branch, push, List.reverse_cons, List.map_append]
  rfl

end Level

namespace State

variable {s s' : State}

/-- The outermost level. -/
def base (s : State) : Level := (s.stack.getLast?.map Frame.outer).getD s.level

/-- The outermost level starts with `^`. -/
def Anchored (s : State) : Prop := s.base.Anchored

theorem base_of_stack_nil (h : s.stack = []) : s.base = s.level := by
  rw [base, h]
  rfl

/-- Inside parentheses the innermost level is not the outermost one. -/
theorem base_of_stack_ne_nil (h : s.stack ≠ []) (l : Level) :
    ({ s with level := l } : State).base = s.base := by
  rw [base, base, List.getLast?_eq_some_getLast h]
  rfl

/-- Behind the first anchor something is read. -/
theorem Anchored.begun (h : s.Anchored) : s.Begun := by
  by_cases hs : s.stack = []
  · rw [Anchored, base_of_stack_nil hs] at h
    rcases h.start with ⟨-, is, hi⟩ | ⟨bs, b, hb, -⟩
    · exact Or.inr (Or.inr (by simp [hi]))
    · exact Or.inr (Or.inl (by simp [hb]))
  · exact Or.inl hs

/-- **No move takes the `^` from its place.** -/
theorem Move.anchored (h : Move s s') (hs : s.Anchored) : s'.Anchored := by
  -- a move that changes the level only
  have level : ∀ l : Level, (s.stack = [] → l.Anchored) →
      ({ s with level := l } : State).Anchored := by
    intro l hl
    rw [Anchored]
    by_cases hstack : s.stack = []
    · rw [base_of_stack_nil (s := { s with level := l }) hstack]
      exact hl hstack
    · rw [base_of_stack_ne_nil hstack]
      exact hs
  have inner : s.stack = [] → s.level.Anchored := by
    intro hstack
    rw [← base_of_stack_nil hstack]
    exact hs
  cases h with
  | stay => exact hs
  | push i => exact level _ fun hstack => (inner hstack).push i
  | loop greed bounds hi => exact level _ fun hstack => (inner hstack).loop hi greed bounds
  | branch => exact level _ fun hstack => (inner hstack).nextBranch
  | enter bracket start flags gs hg =>
    cases hstack : s.stack with
    | nil => exact inner hstack
    | cons f stack =>
      rw [Anchored, base, hstack] at hs
      rw [Anchored, base, List.getLast?_cons_cons]
      exact hs
  | @leave f stack n gs hstack hg =>
    rw [Anchored, base, hstack] at hs
    cases stack with
    | nil => exact Level.Anchored.push hs _
    | cons f' stack =>
      rw [Anchored, base]
      rw [List.getLast?_cons_cons] at hs
      exact hs

/-- The `^` stays where it is to the end. -/
theorem Anchored.run {skip : Nat} {ss : Symbols} (hs : s.Anchored) (h : s.run skip ss = .ok s') :
    s'.Anchored := by
  fun_induction State.run s skip ss with
  | case1 =>
    cases h
    exact hs
  | case2 s skip t rest ih => exact ih hs h
  | case3 => cases h
  | case4 s t rest s₁ after hstep ih => exact ih ((step_outline hs.begun hstep).2.anchored hs) h

/-- **A `$` at the end is read last,** on the outermost level, where all parentheses are
closed. -/
theorem exists_of_run_dollar {ss : Symbols} (hs : s.Anchored)
    (h : s.run 0 (ss ++ [Symbol.plain '$']) = .ok s') (hclosed : s'.stack = []) :
    ∃ s₁ : State, s₁.Anchored ∧ s₁.stack = [] ∧ s' = s₁.push (.anchor (.stop false)) := by
  -- by induction on what is left, as steps read several symbols
  induction hn : ss.length using Nat.strongRecOn generalizing s ss with
  | ind n ih =>
    cases ss with
    | nil =>
      rw [List.nil_append, run] at h
      split at h
      · cases h
      · rename_i s₁ after hstep
        have hdollar : s.step (.plain '$') [] =
            .ok (s.push (.anchor (.stop s.level.flags.multiline)), []) := by
          have hblank : isBlank '$' = false := by decide
          rw [step, hblank, Bool.and_false, if_neg Bool.false_ne_true,
            show (scalar '$' == '#') = false from rfl, Bool.and_false, if_neg Bool.false_ne_true]
          rfl
        cases hstep.symm.trans hdollar
        cases h
        have hstack : s.stack = [] := hclosed
        have hflags : s.level.flags = .none := by
          rw [← base_of_stack_nil hstack]
          exact hs.flags
        refine ⟨s, hs, hstack, ?_⟩
        rw [hflags]
        rfl
    | cons t ss =>
      rw [List.cons_append, run] at h
      split at h
      · cases h
      · rename_i s₁ after hstep
        obtain ⟨hout, hmove⟩ := step_outline hs.begun hstep
        obtain ⟨read, hread⟩ := Outline.suffix_of_step hout
        rw [run_eq_run_drop, ← hread, taken_append, List.drop_left] at h
        rcases List.eq_nil_or_concat after with rfl | ⟨ss₁, u, rfl⟩
        · -- a comment takes the `$`: it stands in parentheses, which nothing closes
          cases h
          obtain ⟨hverbose, hsame⟩ := Outline.verbose_of_step_dollar hout
          have hstack : s.stack = [] := by
            have := congrArg Outline.stack hsame
            rw [outline, hclosed] at this
            exact List.map_eq_nil_iff.1 this.symm
          rw [Anchored, base_of_stack_nil hstack] at hs
          rw [outline, hs.flags] at hverbose
          cases hverbose
        · rw [List.concat_eq_append, ← List.append_assoc] at hread
          obtain ⟨rfl, hu⟩ := List.append_inj' hread rfl
          cases hu
          rw [List.concat_eq_append] at h
          refine ih ss₁.length ?_ (hmove.anchored hs) h rfl
          rw [← hn, List.length_cons, List.length_append]
          omega

end State

/-- An expression that is complete is what its branches are, all parentheses closed. -/
theorem State.stack_eq_nil_of_finish {s : State} {n : Node} (h : s.finish = .ok n) :
    s.stack = [] ∧ n = .anyOf s.level.allBranches := by
  unfold finish at h
  cases hstack : s.stack with
  | nil =>
    rw [hstack] at h
    refine ⟨rfl, ?_⟩
    dsimp only at h
    split at h
    · cases h
    · obtain ⟨_, _, h⟩ := Outcome.bind_eq_ok.1 h
      split at h
      · cases h
      · cases h
        rfl
  | cons f stack =>
    rw [hstack] at h
    obtain ⟨_, hf, -⟩ := Outcome.bind_eq_ok.1 h
    exact absurd hf failAt_ne_ok

/-- The last symbol of a text that ends in `$`. -/
theorem Symbol.exists_of_getLast? {t : Text} (h : t.getLast? = some (scalar '$')) :
    ∃ ss u, ofText t = ss ++ [u] ∧ (u = .plain '$' ∨ u = .escaped '$') := by
  have hwritten := flatMap_written_ofText t
  rcases List.eq_nil_or_concat (ofText t) with hnil | ⟨ss, u, hu⟩
  · rw [hnil] at hwritten
    rw [← hwritten] at h
    cases h
  · rw [List.concat_eq_append] at hu
    rw [hu, List.flatMap_append, List.flatMap_singleton] at hwritten
    rw [← hwritten] at h
    refine ⟨ss, u, hu, ?_⟩
    cases u with
    | plain c | escaped c =>
      rw [written, List.getLast?_append] at h
      obtain rfl : c = '$' := by simpa using h
      simp
    | dangling =>
      rw [written, List.getLast?_append] at h
      cases h

variable {edition : Edition}

/-- The branches of the expression that a text writes. -/
def branches (edition : Edition) (t : Text) : List Node :=
  match (State.start edition).run 0 (Symbol.ofText t) with
  | .ok s => s.level.allBranches
  | .error _ => []

/-- An expression that is read is read to its end, all parentheses closed. -/
theorem exists_of_parse {t : Text} {n : Node} (h : parse edition t = .ok n) :
    ∃ s, (State.start edition).run 0 (Symbol.ofText t) = .ok s ∧ s.stack = [] ∧
      n = .anyOf s.level.allBranches := by
  unfold parse at h
  split at h
  · rename_i n' hn'
    cases h
    obtain ⟨s, hs, hfinish⟩ := Outcome.bind_eq_ok.1 hn'
    exact ⟨s, hs, State.stack_eq_nil_of_finish hfinish⟩
  · cases h

/-- An expression is any one of its branches. -/
theorem eq_anyOf_branches {t : Text} {n : Node} (h : parse edition t = .ok n) :
    n = .anyOf (branches edition t) := by
  obtain ⟨s, hs, -, hn⟩ := exists_of_parse h
  rw [branches, hs]
  exact hn

/-- The `$` at the end of a text is escaped, and no anchor. -/
def isLoose (t : Text) : Bool := (Symbol.ofText t).getLast? == some (.escaped '$')

/-- **An expression between `^` and `$`** matches whole texts only, exactly where its
branches are anchored. -/
theorem matchesWhole_parse_iff {t : Text} {n : Node} (hfirst : t.head? = some (scalar '^'))
    (hlast : t.getLast? = some (scalar '$')) (h : parse edition t = .ok n) (path : Text) :
    n.MatchesWhole path ↔ AnchoredBranches (branches edition t) (isLoose t) path := by
  obtain ⟨u, rfl⟩ : ∃ u, t = scalar '^' :: u := by
    cases t with
    | nil => cases hfirst
    | cons c u => exact ⟨u, by cases hfirst; rfl⟩
  obtain ⟨ss, d, hss, hd⟩ := Symbol.exists_of_getLast? hlast
  have hsymbols : Symbol.ofText (scalar '^' :: u) = .plain '^' :: Symbol.ofText u := by
    rw [Symbol.ofText] <;> simp
  obtain ⟨s, hs, hclosed, hn⟩ := exists_of_parse h
  have hbranches : branches edition (scalar '^' :: u) = s.level.allBranches := by
    rw [branches, hs]
  have hafter : ((State.start edition).push (.anchor (.start false))).run 0 (Symbol.ofText u) =
      .ok s := by
    rw [hsymbols] at hs
    exact (@State.run_cons_of_step _ _ _ [] _ rfl).symm.trans hs
  have hstart : ((State.start edition).push (.anchor (.start false))).Anchored :=
    ⟨rfl, Or.inl ⟨rfl, [], rfl⟩⟩
  have hanchored : s.level.Anchored := by
    rw [← State.base_of_stack_nil hclosed]
    exact hstart.run hafter
  rw [hn, hbranches]
  refine Node.matchesWhole_iff hanchored.first ?_ path
  intro hloose
  rcases hd with rfl | rfl
  · cases ss with
    | nil => cases hsymbols.symm.trans hss
    | cons t ss =>
      have hu := (List.cons.inj (hsymbols.symm.trans hss)).2
      rw [hu] at hafter
      obtain ⟨s₁, -, -, rfl⟩ := State.exists_of_run_dollar hstart hafter hclosed
      exact Level.last_push_stop s₁.level
  · rw [isLoose, hss, List.getLast?_append] at hloose
    cases hloose

end Backtracking
end Regex
end RouteTable
