/-
# Branches outside all parentheses

An expression has another branch for every `|` that is read where no parenthesis is open,
and for nothing else (`State.base_branches_of_step`).  `Outline.Covers` says that some symbols
are read without one, as those are that stand inside a parenthesis.

A text may stand in a parenthesis if the next `)` after it, and no `)` before, closes that
one (`Outline.closesLast`).  It then does so wherever the parenthesis stands
(`Outline.covers_of_closesLast`).
-/

import RouteTable.Proofs.Regex.Anchoring
import RouteTable.Proofs.Regex.Passing

namespace RouteTable
namespace Regex
namespace Backtracking

namespace Outline

/-- `o.Covers ss o' ss'` says that from `o` an outline comes to `o'` by reading of `ss` all
but `ss'`, and reads no `|` where no parenthesis is open. -/
inductive Covers : Outline → Symbols → Outline → Symbols → Prop
  | refl (o : Outline) (ss : Symbols) : Covers o ss o ss
  | step {o o₁ o' : Outline} {t : Symbol} {rest after ss' : Symbols}
    (hbar : o.stack = [] → t ≠ .plain '|') (h : o.step t rest = .ok (o₁, after))
    (hs : Covers o₁ after o' ss') : Covers o (t :: rest) o' ss'

theorem Covers.trans {o o₁ o' : Outline} {ss ss₁ ss' : Symbols} (h : o.Covers ss o₁ ss₁)
    (h' : o₁.Covers ss₁ o' ss') : o.Covers ss o' ss' := by
  induction h with
  | refl => exact h'
  | step hbar hstep _ ih => exact .step hbar hstep (ih h')

/-- Whether what is read inside parentheses closes the outermost of them with its last
symbol, and not before; the first `skip` symbols are read already. -/
def closesLast (o : Outline) : (skip : Nat) → Symbols → Bool
  | _, [] => false
  | skip + 1, _ :: rest => closesLast o skip rest
  | 0, t :: rest =>
    match o.step t rest with
    | .error _ => false
    | .ok (o', after) =>
      if o'.stack = [] then rest.isEmpty else closesLast o' (taken rest after) rest

/-- Symbols that are read already do not count. -/
theorem closesLast_eq_drop (o : Outline) (skip : Nat) (ss : Symbols) :
    closesLast o skip ss = closesLast o 0 (ss.drop skip) := by
  induction ss generalizing skip with
  | nil => cases skip <;> rfl
  | cons t rest ih =>
    cases skip with
    | zero => rfl
    | succ skip => exact ih skip

/-- The first step of what closes parentheses with its last symbol. -/
theorem exists_step_of_closesLast {o : Outline} {t : Symbol} {rest : Symbols}
    (h : o.closesLast 0 (t :: rest) = true) : ∃ o' after, o.step t rest = .ok (o', after) ∧
      ((o'.stack = [] ∧ rest = []) ∨ (o'.stack ≠ [] ∧ o'.closesLast 0 after = true)) := by
  rw [closesLast] at h
  split at h
  · cases h
  · rename_i o' after hstep
    refine ⟨o', after, hstep, ?_⟩
    split at h
    · rename_i hstack
      exact Or.inl ⟨hstack, List.isEmpty_iff.1 h⟩
    · rename_i hstack
      obtain ⟨read, rfl⟩ := suffix_of_step hstep
      rw [closesLast_eq_drop, taken_append, List.drop_left] at h
      exact Or.inr ⟨hstack, h⟩

/-- Inside a parenthesis that was opened where no flags were set, and maybe in more. -/
def Within (b : Bool) (o : Outline) : Prop := ∃ inner, o.stack = inner ++ [(b, Flags.none)]

theorem Within.stack_ne_nil {b : Bool} {o : Outline} (h : o.Within b) : o.stack ≠ [] := by
  obtain ⟨inner, hstack⟩ := h
  simp [hstack]

/-- What does not close the parenthesis stays inside. -/
theorem Move.within {b : Bool} {o o' : Outline} (h : o.Move o') (ho : o.Within b)
    (hne : o'.stack ≠ []) : o'.Within b := by
  obtain ⟨inner, hstack⟩ := ho
  cases h with
  | stay => exact ⟨inner, hstack⟩
  | enter captures flags => exact ⟨(captures, o.flags) :: inner, by rw [hstack]; rfl⟩
  | @leave captures flags stack h =>
    rw [hstack] at h
    cases inner with
    | nil =>
      cases h
      exact absurd rfl hne
    | cons x inner =>
      cases h
      exact ⟨inner, rfl⟩

theorem under_nil (o : Outline) : o.under [] = o := by
  rw [under, List.append_nil]

/-- **What closes a parenthesis with its last symbol does so wherever that stands,** and
reads no `|` outside it. -/
theorem covers_of_closesLast {b : Bool} {o : Outline} {body : Symbols} (ho : o.Within b)
    (h : o.closesLast 0 (body ++ [Symbol.plain ')']) = true) (outer : List (Bool × Flags))
    (r : Symbols) :
    (o.under outer).Covers (body ++ Symbol.plain ')' :: r) ⟨.none, outer⟩ r := by
  -- inside the parenthesis there is one that is open
  have inside : ∀ {o : Outline} {t : Symbol}, o.Within b →
      (o.under outer).stack = [] → t ≠ .plain '|' := by
    intro o t ho hnil
    exact absurd (List.append_eq_nil_iff.1 hnil).1 ho.stack_ne_nil
  -- by induction on what is left, as a step reads several symbols
  induction hn : body.length using Nat.strongRecOn generalizing o body with
  | ind n ih =>
    cases body with
    | nil =>
      obtain ⟨flags, stack⟩ := o
      obtain ⟨inner, rfl⟩ := ho
      obtain ⟨o', after, hstep, hlast⟩ := exists_step_of_closesLast h
      cases inner with
      | nil => exact .step (inside ⟨[], rfl⟩) (step_close flags .none b outer r) (.refl _ _)
      | cons x inner =>
        obtain ⟨captures, outside⟩ := x
        cases hstep.symm.trans
          (step_close flags outside captures (inner ++ [(b, Flags.none)]) [])
        rcases hlast with ⟨hnil, -⟩ | ⟨-, hlast⟩
        · exact absurd (List.append_eq_nil_iff.1 hnil).2 (List.cons_ne_nil _ _)
        · cases hlast
    | cons t body =>
      obtain ⟨o₁, after, hstep, hlast⟩ := exists_step_of_closesLast h
      rcases hlast with ⟨-, hnil⟩ | ⟨hne, hlast⟩
      · exact absurd hnil (List.append_ne_nil_of_right_ne_nil _ (List.cons_ne_nil _ _))
      rcases List.suffix_concat_iff.1 (suffix_of_step hstep) with rfl | ⟨w, rfl, hw⟩
      · cases hlast
      have halone : (o.under []).step t (body ++ Symbol.plain ')' :: []) =
          .ok (o₁, w ++ Symbol.plain ')' :: []) := by
        rw [under_nil]
        exact hstep
      obtain ⟨o₂, rfl, hreplay⟩ := step_before_paren ho.stack_ne_nil halone
      rw [under_nil] at hne hlast hstep
      have hlength : w.length < n := by
        rw [← hn, List.length_cons]
        exact Nat.lt_succ_of_le hw.length_le
      refine .step (inside ho) (hreplay outer r) ?_
      exact ih w.length hlength ((move_of_step hstep).within ho hne) hlast rfl

end Outline

namespace State

variable {s s' : State} {rest after : Symbols}

/-- Inside parentheses nothing changes the branches of the outermost level. -/
theorem Move.base_branches (h : Move s s') (hne : s.stack ≠ []) :
    s'.base.branches = s.base.branches := by
  cases h with
  | stay => rfl
  | push i => exact congrArg Level.branches (base_of_stack_ne_nil hne _)
  | loop greed bounds hi => exact congrArg Level.branches (base_of_stack_ne_nil hne _)
  | branch => exact congrArg Level.branches (base_of_stack_ne_nil hne _)
  | enter bracket start flags gs hg =>
    obtain ⟨f, stack, hstack⟩ := List.exists_cons_of_ne_nil hne
    rw [base, base, hstack, List.getLast?_cons_cons]
    rfl
  | @leave f stack n gs hstack hg =>
    rw [base, base, hstack]
    cases stack with
    | nil => rfl
    | cons f' stack =>
      rw [List.getLast?_cons_cons]
      rfl

/-- A parenthesis that opens outside all others leaves the branches as they are. -/
theorem base_branches_of_enter (hs : s.Begun) (hstack : s.stack = [])
    (h : s.enter rest = .ok (s', after)) : s'.base.branches = s.level.branches := by
  obtain ⟨⟨p, after'⟩, -, h⟩ := Outcome.bind_eq_ok.1 h
  cases p with
  | comment =>
    cases h
    rw [base_of_stack_nil hstack]
  | reference name =>
    obtain ⟨index, -, h⟩ := Outcome.bind_eq_ok.1 h
    cases h
    rw [base_of_stack_nil (s := s.pushReference index) hstack]
    rfl
  | wholeFlags on =>
    obtain ⟨s₁, hset, h⟩ := Outcome.bind_eq_ok.1 h
    have hnot : ¬(s.stack.isEmpty && s.level.branches.isEmpty && s.level.items.isEmpty) = true := by
      simp only [Bool.and_eq_true, List.isEmpty_iff]
      rcases hs with hs | hs | hs <;> simp [hs]
    rw [setFlags, if_neg hnot] at hset
    exact absurd hset failAt_ne_ok
  | opens o =>
    obtain ⟨⟨bracket, gs⟩, -, h⟩ := Outcome.bind_eq_ok.1 h
    cases h
    rw [base, hstack]
    rfl

/-- Outside all parentheses the branches of the expression are those of the level. -/
theorem base_branches_withLevel (hstack : s.stack = []) {l : Level}
    (hl : l.branches = s.level.branches) :
    ({ s with level := l } : State).base.branches = s.level.branches := by
  rw [base_of_stack_nil (s := { s with level := l }) hstack]
  exact hl

theorem base_branches_push (hstack : s.stack = []) (i : Item) :
    (s.push i).base.branches = s.level.branches := base_branches_withLevel hstack rfl

/-- Outside all parentheses only a `|` among the plain characters starts a branch. -/
theorem base_branches_of_char_outside {c : CodePoint} (hs : s.Begun) (hstack : s.stack = [])
    (hbar : c ≠ '|') (h : s.char c rest = .ok (s', after)) :
    s'.base.branches = s.level.branches := by
  unfold char at h
  split at h
  · exact absurd rfl hbar
  · -- there is no parenthesis to be closed
    obtain ⟨s₁, hl, -⟩ := Outcome.map_eq_ok.1 h
    rw [leave, hstack] at hl
    dsimp only at hl
    unfold unbalanced at hl
    split at hl
    · cases hl
    · exact absurd hl fail_ne_ok
  · exact base_branches_of_enter hs hstack h
  · obtain ⟨_, -, he⟩ := Outcome.map_eq_ok.1 h
    cases he
    exact base_branches_push hstack _
  · cases h
    exact base_branches_push hstack _
  · cases h
    exact base_branches_push hstack _
  · cases h
    exact base_branches_push hstack _
  · obtain ⟨q, -, h⟩ := Outcome.bind_eq_ok.1 h
    cases q with
    | none =>
      cases h
      exact base_branches_push hstack _
    | some q =>
      dsimp only at h
      unfold loop at h
      dsimp only at h
      split at h
      · exact absurd h failAt_ne_ok
      split at h
      · exact absurd h failAt_ne_ok
      · cases h
        exact base_branches_withLevel hstack rfl

/-- Outside all parentheses only a `|` starts a branch. -/
theorem base_branches_of_step_outside {t : Symbol} (hs : s.Begun) (hstack : s.stack = [])
    (hbar : t ≠ .plain '|') (h : s.step t rest = .ok (s', after)) :
    s'.base.branches = s.level.branches := by
  have same : s.base.branches = s.level.branches := by rw [base_of_stack_nil hstack]
  cases t with
  | dangling => cases h
  | escaped c =>
    obtain ⟨⟨e, after'⟩, -, h⟩ := Outcome.bind_eq_ok.1 h
    cases e with
    | item i | anchor a =>
      cases h
      exact base_branches_push hstack _
    | reference index length =>
      obtain ⟨-, -, h⟩ := Outcome.bind_eq_ok.1 h
      cases h
      exact base_branches_push hstack _
  | plain c =>
    rw [step] at h
    split at h
    · cases h
      exact same
    · split at h
      · obtain ⟨_, -, he⟩ := Outcome.map_eq_ok.1 h
        cases he
        exact same
      · exact base_branches_of_char_outside hs hstack (fun hc => hbar (congrArg _ hc)) h

/-- **Only a `|` outside all parentheses starts another branch of the expression.** -/
theorem base_branches_of_step {t : Symbol} (hs : s.Anchored)
    (hbar : s.stack = [] → t ≠ .plain '|') (h : s.step t rest = .ok (s', after)) :
    s'.base.branches = s.base.branches := by
  by_cases hstack : s.stack = []
  · rw [base_of_stack_nil hstack]
    exact base_branches_of_step_outside hs.begun hstack (hbar hstack) h
  · exact (step_outline hs.begun h).2.base_branches hstack

/-- What is covered to its end starts no branch. -/
theorem base_branches_of_covers {ss : Symbols} {o' : Outline} (hs : s.Anchored)
    (hcovers : s.outline.Covers ss o' []) (h : s.run 0 ss = .ok s') :
    s'.base.branches = s.base.branches := by
  generalize ho : s.outline = o at hcovers
  generalize hnil : ([] : Symbols) = end' at hcovers
  induction hcovers generalizing s with
  | refl =>
    cases hnil
    cases h
    rfl
  | @step o o₁ o' t rest after ss' hbar hstep _ ih =>
    subst ho
    rw [run] at h
    split at h
    · cases h
    · rename_i s₁ after' hstep'
      obtain ⟨hout, hmove⟩ := step_outline hs.begun hstep'
      cases hout.symm.trans hstep
      obtain ⟨read, rfl⟩ := Outline.suffix_of_step hstep
      rw [run_eq_run_drop, taken_append, List.drop_left] at h
      rw [ih (hmove.anchored hs) h rfl hnil]
      refine base_branches_of_step hs (fun hnil => hbar ?_) hstep'
      rw [outline, hnil, List.map_nil]

end State

/-- **An expression that starts with `^` and reads no `|` outside all parentheses has one
branch.** -/
theorem length_branches_of_covers {edition : Edition} {t : Text} {ss : Symbols} {o' : Outline}
    {n : Node} (ht : Symbol.ofText t = .plain '^' :: ss) (hcovers : Outline.start.Covers ss o' [])
    (h : parse edition t = .ok n) : (branches edition t).length = 1 := by
  obtain ⟨s, hs, hclosed, -⟩ := exists_of_parse h
  have hstart : ((State.start edition).push (.anchor (.start false))).Anchored :=
    ⟨rfl, Or.inl ⟨rfl, [], rfl⟩⟩
  have hafter : ((State.start edition).push (.anchor (.start false))).run 0 ss = .ok s := by
    rw [ht] at hs
    exact (@State.run_cons_of_step _ _ _ [] _ rfl).symm.trans hs
  have hbase := State.base_branches_of_covers hstart hcovers hafter
  rw [State.base_of_stack_nil hclosed] at hbase
  rw [branches, hs]
  dsimp only
  rw [Level.allBranches, hbase]
  rfl

end Backtracking
end Regex
end RouteTable
