/-
# Where groups open and close

The groups of an expression are what the reading machine opens and closes.
`groupMarks` lists the parentheses that do so, each with the number of its group and its
place, which is told by the number of characters that are left there.

An outline leaves the same marks, but for the numbers (`State.exists_marks_outline`), and
these count the opening parentheses.  What an outline does between a parenthesis that
captures and the one that closes it is the same wherever the two stand
(`Outline.Passes.replay`): the machine need not be run again to know how many groups there
are in between.
-/

import RouteTable.Proofs.Regex.Outline

namespace RouteTable
namespace Regex
namespace Backtracking

/-- A parenthesis that opens or closes a group. -/
inductive Mark where
  | opens (group : Nat)
  | closes (group : Nat)
  deriving DecidableEq, Repr

/-- Whether the parenthesis opens a group. -/
def Mark.isOpening : Mark → Bool
  | opens _ => true
  | closes _ => false

section Recording

variable {σ μ : Type} (step : σ → Symbol → Symbols → Except Fault (σ × Symbols))
  (mark? : σ → σ → Option μ)

/-- The marks of reading symbols, of which the first `skip` are read already: what a step
marks, with the number of characters that are left before it. -/
def marksWith (s : σ) : (skip : Nat) → Symbols → Option (List (μ × Nat))
  | _, [] => some []
  | skip + 1, _ :: rest => marksWith s skip rest
  | 0, t :: rest =>
    match step s t rest with
    | .error _ => none
    | .ok (s', after) => (marksWith s' (taken rest after) rest).map
        ((mark? s s').toList.map (·, left (t :: rest)) ++ ·)

/-- Symbols that are read already leave no mark. -/
theorem marksWith_eq_drop (s : σ) (skip : Nat) (ss : Symbols) :
    marksWith step mark? s skip ss = marksWith step mark? s 0 (ss.drop skip) := by
  induction ss generalizing skip with
  | nil => cases skip <;> rfl
  | cons t rest ih =>
    cases skip with
    | zero => rfl
    | succ skip => exact ih skip

end Recording

/-- What a step marks that pushes on a stack, or pops from it. -/
def stackMark? {α μ : Type} (pushed popped : α → Option μ) (stack stack' : List α) : Option μ :=
  if stack.length < stack'.length then stack'.head?.bind pushed
  else if stack'.length < stack.length then stack.head?.bind popped
  else none

section StackMark

variable {α μ : Type} (pushed popped : α → Option μ) (a : α) (stack : List α)

@[simp]
theorem stackMark?_self : stackMark? pushed popped stack stack = none := by
  simp [stackMark?]

@[simp]
theorem stackMark?_push : stackMark? pushed popped stack (a :: stack) = pushed a := by
  simp [stackMark?]

@[simp]
theorem stackMark?_pop : stackMark? pushed popped (a :: stack) stack = popped a := by
  have h : ¬stack.length + 1 < stack.length := by omega
  simp [stackMark?, h]

end StackMark

/-- The group that a step opens or closes. -/
def State.mark? (s s' : State) : Option Mark :=
  stackMark? (fun f => f.bracket.group?.map .opens) (fun f => f.bracket.group?.map .closes)
    s.stack s'.stack

/-- **The groups of an expression:** the parentheses that open and close them, in order,
each with the number of characters that are left before it. -/
def groupMarks (edition : Edition) (t : Text) : Option (List (Mark × Nat)) :=
  marksWith State.step State.mark? (State.start edition) 0 (Symbol.ofText t)

namespace Outline

/-- Whether a step opens a group, if it opens or closes one. -/
def mark? (o o' : Outline) : Option Bool :=
  stackMark? (fun x => if x.1 then some true else none) (fun x => if x.1 then some false else none)
    o.stack o'.stack

/-- Nothing is open, and no flags are set. -/
def start : Outline := ⟨.none, []⟩

/-- The marks of a text by itself, whatever groups it refers to. -/
def marks (t : Text) : Option (List (Bool × Nat)) :=
  marksWith step mark? start 0 (Symbol.ofText t)

end Outline

/-- A text is one group: its first character opens a group, its last one closes that, and
there is no other. -/
def OneGroup (t : Text) : Prop := Outline.marks t = some [(true, t.length), (false, 1)]

instance (t : Text) : Decidable (OneGroup t) :=
  inferInstanceAs (Decidable (Outline.marks t = some [(true, t.length), (false, 1)]))

/-! ### The numbers of groups -/

/-- Numbers marks, after `opened` groups of which some are open, the innermost first. -/
def number : (opened : Nat) → (inner : List Nat) → List (Bool × Nat) → List (Mark × Nat)
  | _, _, [] => []
  | opened, inner, (true, n) :: ms =>
    (.opens (opened + 1), n) :: number (opened + 1) ((opened + 1) :: inner) ms
  | opened, i :: inner, (false, n) :: ms => (.closes i, n) :: number opened inner ms
  | opened, [], (false, _) :: ms => number opened [] ms

namespace State

variable {s s' : State}

/-- The groups that are open, the innermost first. -/
def openGroups (s : State) : List Nat := s.stack.filterMap fun f => f.bracket.group?

/-- **A move marks what its outline marks,** with the number of the group. -/
theorem Move.mark (h : Move s s') (n : Nat) (ms : List (Bool × Nat)) :
    (s.mark? s').map Mark.isOpening = s.outline.mark? s'.outline ∧
      number s.groups.opened s.openGroups
          ((s.outline.mark? s'.outline).toList.map (·, n) ++ ms) =
        (s.mark? s').toList.map (·, n) ++ number s'.groups.opened s'.openGroups ms := by
  cases h with
  | stay | push | loop | branch =>
    simp [mark?, Outline.mark?, outline, openGroups, State.push]
  | enter bracket start flags gs hg =>
    rcases hg with ⟨hgroup, hopened⟩ | ⟨hgroup, hopened⟩
    · simp [mark?, Outline.mark?, outline, openGroups, hgroup, hopened, number, Mark.isOpening]
    · simp [mark?, Outline.mark?, outline, openGroups, hgroup, hopened]
  | @leave f stack node gs hstack hg =>
    cases hgroup : f.bracket.group? with
    | none => simp [mark?, Outline.mark?, outline, openGroups, hstack, hg, hgroup]
    | some i =>
      simp [mark?, Outline.mark?, outline, openGroups, hstack, hg, hgroup, number,
        Mark.isOpening]

/-- **The marks of the machine** are those of its outline, numbered. -/
theorem exists_marks_outline {skip : Nat} {ss : Symbols} (hs : s.Begun)
    (h : s.run skip ss = .ok s') :
    ∃ ms ns, marksWith Outline.step Outline.mark? s.outline skip ss = some ms ∧
      marksWith step mark? s skip ss = some ns ∧
      ns = number s.groups.opened s.openGroups ms ∧
      ns.map (fun m => (m.1.isOpening, m.2)) = ms := by
  fun_induction State.run s skip ss with
  | case1 => exact ⟨[], [], rfl, rfl, rfl, rfl⟩
  | case2 s skip t rest ih => exact ih hs h
  | case3 => cases h
  | case4 s t rest s₁ after hstep ih =>
    obtain ⟨hout, hmove⟩ := step_outline hs hstep
    obtain ⟨ms, ns, hms, hns, hnum, hmap⟩ := ih (hmove.begun hs) h
    obtain ⟨hmark, hnumber⟩ := hmove.mark (left (t :: rest)) ms
    refine ⟨(s.outline.mark? s₁.outline).toList.map (·, left (t :: rest)) ++ ms,
      (s.mark? s₁).toList.map (·, left (t :: rest)) ++ ns, ?_, ?_, ?_, ?_⟩
    · rw [marksWith, hout]
      dsimp only
      rw [hms]
      rfl
    · rw [marksWith, hstep]
      dsimp only
      rw [hns]
      rfl
    · rw [hnumber, hnum]
    · rw [List.map_append, hmap, ← hmark]
      cases s.mark? s₁ <;> rfl

end State

end Backtracking
end Regex
end RouteTable
