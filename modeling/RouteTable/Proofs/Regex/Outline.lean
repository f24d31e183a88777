/-
# Parentheses apart from the rest

Which parentheses open and close, and how far each step reads, does not depend on the
items, branches and groups of the reading machine.  `State.Move` lists what one step can
do to a state, and an `Outline` is what decides the rest: the flags at a place and, for
each open parenthesis, whether it captures and the flags around it.

`State.step_outline` says both of one step: once something is read, a step of the machine
is a step of its outline, with the same symbols left, and one of the moves.
-/

import RouteTable.Proofs.Regex.Openings
import RouteTable.Proofs.Regex.Repetitions
import RouteTable.Proofs.Regex.Sets

namespace RouteTable
namespace Regex
namespace Backtracking

/-- Whether a parenthesis captures. -/
def Opening.isCapture : Opening → Bool
  | capture _ => true
  | _ => false

/-- The flags inside a parenthesis. -/
def Opening.flags (outer : Flags) : Opening → Flags
  | plain on off => outer.change on off
  | _ => outer

/-- The group that a parenthesis captures as. -/
def Bracket.group? : Bracket → Option Nat
  | capture index => some index
  | _ => none

/-- The flags at a place, and the open parentheses around it: for each, whether it
captures and the flags outside. -/
structure Outline where
  flags : Flags
  stack : List (Bool × Flags)
  deriving DecidableEq, Repr

namespace Outline

/-- Goes on after an opening parenthesis. -/
def enter (o : Outline) (rest : Symbols) : Except Fault (Outline × Symbols) :=
  (Parenthesis.read 0 rest).bind fun r =>
    match r.1 with
    | .comment | .reference _ => .ok (o, r.2)
    | .wholeFlags _ => failAt 0 .lateGlobalFlags r.2
    | .opens p => .ok (⟨p.flags o.flags, (p.isCapture, o.flags) :: o.stack⟩, r.2)

/-- Goes on after a closing parenthesis. -/
def leave (o : Outline) (rest : Symbols) : Except Fault (Outline × Symbols) :=
  match o.stack with
  | [] => fail .unbalancedParenthesis rest 1
  | (_, outer) :: stack => .ok (⟨outer, stack⟩, rest)

/-- Goes on after a character that is no blank and no comment. -/
def char (o : Outline) (c : CodePoint) (rest : Symbols) : Except Fault (Outline × Symbols) :=
  match c with
  | '(' => o.enter rest
  | ')' => o.leave rest
  | '[' => (readSet rest).map fun r => (o, r.2)
  | '|' | '.' | '^' | '$' => .ok (o, rest)
  | c => (Bounds.read? c rest).map fun
    | some (_, after) => (o, (readGreed after).2)
    | none => (o, rest)

/-- Goes on after a symbol. -/
def step (o : Outline) (t : Symbol) (rest : Symbols) : Except Fault (Outline × Symbols) :=
  match t with
  | .dangling => failAtBackslash
  | .escaped c => (Escape.read o.flags.ascii c rest).map fun r => (o, r.2)
  | .plain c =>
    if o.flags.verbose && State.isBlank c then .ok (o, rest)
    else if o.flags.verbose && c == '#' then (State.skipLine rest).map (o, ·)
    else o.char c rest

end Outline

namespace State

/-- The outline of a state. -/
def outline (s : State) : Outline :=
  ⟨s.level.flags, s.stack.map fun f => (f.bracket.group?.isSome, f.outer.flags)⟩

/-- Something is read: flags for the whole expression come too late. -/
def Begun (s : State) : Prop :=
  s.stack ≠ [] ∨ s.level.branches ≠ [] ∨ s.level.items ≠ []

/-- What one step can do to a state. -/
inductive Move (s : State) : State → Prop
  | stay : Move s s
  | push (i : Item) : Move s (s.push i)
  | loop {n : Node} {items : List Item} (greed : Greed) (bounds : Bounds)
    (h : s.level.items = .other n :: items) :
    Move s { s with level := { s.level with items := .loop greed bounds n :: items } }
  | branch : Move s { s with level := s.level.nextBranch }
  | enter (bracket : Bracket) (start : Nat) (flags : Flags) (gs : Groups)
    (h : (bracket.group? = some (s.groups.opened + 1) ∧ gs.opened = s.groups.opened + 1) ∨
      (bracket.group? = none ∧ gs.opened = s.groups.opened)) :
    Move s { s with
      level := .start flags, stack := ⟨bracket, start, s.level⟩ :: s.stack, groups := gs }
  | leave {f : Frame} {stack : List Frame} (n : Node) (gs : Groups) (h : s.stack = f :: stack)
    (hg : gs.opened = s.groups.opened) :
    Move s { s with level := f.outer.push (.other n), stack := stack, groups := gs }

/-- After a move something is read, as before. -/
theorem Move.begun {s s' : State} (h : Move s s') (hs : s.Begun) : s'.Begun := by
  cases h with
  | stay => exact hs
  | push i => exact Or.inr (Or.inr (List.cons_ne_nil _ _))
  | loop greed bounds h => exact Or.inr (Or.inr (List.cons_ne_nil _ _))
  | branch => exact Or.inr (Or.inl (List.cons_ne_nil _ _))
  | enter bracket start flags gs h => exact Or.inl (List.cons_ne_nil _ _)
  | leave n gs h hg => exact Or.inr (Or.inr (List.cons_ne_nil _ _))

end State

/-- Where a comment starts matters only where it is refused. -/
theorem Parenthesis.skipComment_congr {start : Nat} (start' : Nat) {ss after : Symbols}
    (h : skipComment start ss = .ok after) : skipComment start' ss = .ok after := by
  induction ss with
  | nil => exact absurd h failAt_ne_ok
  | cons s rest ih =>
    cases s with
    | dangling => cases h
    | plain c | escaped c =>
      rw [skipComment] at h ⊢
      · split at h
        · rename_i hs
          rw [if_pos hs]
          exact h
        · rename_i hs
          rw [if_neg hs]
          exact ih h
      all_goals nofun

/-- Where a parenthesis starts matters only where it is refused. -/
theorem Parenthesis.read_congr {start : Nat} (start' : Nat) {ss : Symbols}
    {r : Parenthesis × Symbols} (h : Parenthesis.read start ss = .ok r) :
    Parenthesis.read start' ss = .ok r := by
  unfold Parenthesis.read at h ⊢
  split at h
  · rename_i rest
    by_cases hcomment : ∃ rest', rest = .plain '#' :: rest'
    · obtain ⟨rest, rfl⟩ := hcomment
      obtain ⟨after, ha, rfl⟩ := Outcome.map_eq_ok.1 h
      exact Outcome.map_eq_ok.2 ⟨after, skipComment_congr start' ha, rfl⟩
    · have heq : readExtension start rest = readExtension start' rest := by
        unfold readExtension
        split
        case h_4 => exact absurd ⟨_, rfl⟩ hcomment
        all_goals rfl
      exact heq.symm.trans h
  · exact h

namespace State

variable {s s' : State} {rest after : Symbols}

/-- A condition opens no group. -/
theorem opened_of_checkCondition {gs gs' : Groups} {t : Text} {index : Nat}
    (h : gs.checkCondition t rest = .ok (index, gs')) : gs'.opened = gs.opened := by
  have done : ∀ {n : Nat} {gs₁ : Groups},
      (gs₁.checkFloor n rest >>= fun _ => pure (n, gs₁)) = .ok (index, gs') → gs₁ = gs' := by
    intro n gs₁ h
    obtain ⟨-, -, h⟩ := Outcome.bind_eq_ok.1 h
    cases h
    rfl
  unfold Groups.checkCondition at h
  dsimp only at h
  split at h
  · obtain ⟨n, -, h⟩ := Outcome.bind_eq_ok.1 h
    rw [← done h]
  · obtain ⟨n, -, h⟩ := Outcome.bind_eq_ok.1 h
    split at h
    · obtain ⟨_, hf, _⟩ := Outcome.bind_eq_ok.1 h
      exact absurd hf fail_ne_ok
    · split at h
      · obtain ⟨_, hf, _⟩ := Outcome.bind_eq_ok.1 h
        exact absurd hf fail_ne_ok
      · split at h <;> rw [← done h]

/-- A parenthesis that captures takes the next group, and no other takes one. -/
theorem opened_of_bracket {o : Opening} {bracket : Bracket} {gs : Groups}
    (h : s.bracket rest o = .ok (bracket, gs)) : o.isCapture = bracket.group?.isSome ∧
      ((bracket.group? = some (s.groups.opened + 1) ∧ gs.opened = s.groups.opened + 1) ∨
        (bracket.group? = none ∧ gs.opened = s.groups.opened)) := by
  cases o with
  | capture name =>
    obtain ⟨⟨index, gs⟩, hi, he⟩ := Outcome.map_eq_ok.1 h
    cases he
    unfold Groups.openGroup at hi
    dsimp only at hi
    split at hi
    · cases hi
      exact ⟨rfl, Or.inl ⟨rfl, rfl⟩⟩
    · split at hi
      · exact absurd hi fail_ne_ok
      · cases hi
        exact ⟨rfl, Or.inl ⟨rfl, rfl⟩⟩
  | plain | atomic | ahead | behind =>
    cases h
    exact ⟨rfl, Or.inr ⟨rfl, rfl⟩⟩
  | ifGroup t =>
    obtain ⟨⟨index, gs⟩, hi, he⟩ := Outcome.map_eq_ok.1 h
    cases he
    exact ⟨rfl, Or.inr ⟨rfl, opened_of_checkCondition hi⟩⟩

/-- **After an opening parenthesis** the machine does what its outline does. -/
theorem enter_outline (hs : s.Begun) (h : s.enter rest = .ok (s', after)) :
    s.outline.enter rest = .ok (s'.outline, after) ∧ Move s s' := by
  obtain ⟨⟨p, after'⟩, hp, h⟩ := Outcome.bind_eq_ok.1 h
  have hread := Parenthesis.read_congr 0 hp
  rw [Outline.enter, hread]
  cases p with
  | comment =>
    cases h
    exact ⟨rfl, .stay⟩
  | reference name =>
    obtain ⟨index, -, h⟩ := Outcome.bind_eq_ok.1 h
    cases h
    exact ⟨rfl, .push _⟩
  | wholeFlags on =>
    obtain ⟨s₁, hset, h⟩ := Outcome.bind_eq_ok.1 h
    have hnot : ¬(s.stack.isEmpty && s.level.branches.isEmpty && s.level.items.isEmpty) = true := by
      simp only [Bool.and_eq_true, List.isEmpty_iff]
      rcases hs with hs | hs | hs <;> simp [hs]
    rw [setFlags, if_neg hnot] at hset
    exact absurd hset failAt_ne_ok
  | opens o =>
    obtain ⟨⟨bracket, gs⟩, hb, h⟩ := Outcome.bind_eq_ok.1 h
    cases h
    obtain ⟨hcapture, hgroups⟩ := opened_of_bracket hb
    refine ⟨?_, .enter bracket _ _ gs hgroups⟩
    have hflags : o.flags s.level.flags = s.innerFlags o := by cases o <;> rfl
    change Except.ok (Outline.mk (o.flags s.level.flags)
        ((o.isCapture, s.level.flags) :: s.outline.stack), after) =
      Except.ok (Outline.mk (s.innerFlags o)
        ((bracket.group?.isSome, s.level.flags) :: s.outline.stack), after)
    rw [hflags, hcapture]

/-- **After a closing parenthesis** the machine does what its outline does. -/
theorem leave_outline (h : s.leave rest = .ok s') :
    s.outline.leave rest = .ok (s'.outline, rest) ∧ Move s s' := by
  unfold leave at h
  split at h
  · unfold unbalanced at h
    split at h
    · cases h
    · exact absurd h fail_ne_ok
  · rename_i f stack hstack
    cases h
    have hopened : (close s.level f.bracket s.groups).2.opened = s.groups.opened := by
      cases f.bracket with
      | capture | plain | atomic | ahead => rfl
      | behind negated outermost =>
        dsimp only [close]
        split <;> rfl
      | ifGroup index =>
        dsimp only [close]
        split <;> rfl
    refine ⟨?_, .leave _ _ hstack hopened⟩
    rw [Outline.leave, outline, hstack]
    rfl

/-- A repetition leaves the outline as it is, and takes its sign of greed. -/
theorem loop_outline {bounds : Bounds} {mid : Symbols}
    (h : s.loop bounds rest mid = .ok (s', after)) :
    s'.outline = s.outline ∧ after = (readGreed mid).2 ∧ Move s s' := by
  unfold loop at h
  dsimp only at h
  split at h
  · exact absurd h failAt_ne_ok
  · rename_i i items hitems
    split at h
    · exact absurd h failAt_ne_ok
    · rename_i i' hi
      cases h
      cases i with
      | anchor a => cases hi
      | loop greed bounds body => cases hi
      | other n =>
        cases hi
        exact ⟨rfl, rfl, .loop _ _ hitems⟩

/-- **After a character** the machine does what its outline does. -/
theorem char_outline {c : CodePoint} (hs : s.Begun) (h : s.char c rest = .ok (s', after)) :
    s.outline.char c rest = .ok (s'.outline, after) ∧ Move s s' := by
  unfold char at h
  split at h
  · -- a branch
    obtain ⟨s₁, hb, he⟩ := Outcome.map_eq_ok.1 h
    cases he
    unfold nextBranch at hb
    split at hb
    · exact absurd hb fail_ne_ok
    · cases hb
      exact ⟨rfl, .branch⟩
  · -- a closing parenthesis
    obtain ⟨s₁, hl, he⟩ := Outcome.map_eq_ok.1 h
    cases he
    exact leave_outline hl
  · exact enter_outline hs h
  · -- a set
    obtain ⟨⟨⟨negated, items⟩, after'⟩, hset, he⟩ := Outcome.map_eq_ok.1 h
    cases he
    refine ⟨?_, .push _⟩
    change (readSet rest).map _ = _
    rw [hset]
    rfl
  · cases h
    exact ⟨rfl, .push _⟩
  · cases h
    exact ⟨rfl, .push _⟩
  · cases h
    exact ⟨rfl, .push _⟩
  · have hchar : s.outline.char c rest = (Bounds.read? c rest).map fun
        | some (_, after) => (s.outline, (readGreed after).2)
        | none => (s.outline, rest) := by
      unfold Outline.char
      split <;> first | rfl | contradiction
    obtain ⟨q, hq, h⟩ := Outcome.bind_eq_ok.1 h
    rw [hchar, hq]
    cases q with
    | none =>
      cases h
      exact ⟨rfl, .push _⟩
    | some q =>
      obtain ⟨bounds, mid⟩ := q
      obtain ⟨hs', rfl, hmove⟩ := loop_outline h
      exact ⟨by rw [hs']; rfl, hmove⟩

/-- **One step of the machine is a step of its outline,** and one of the moves. -/
theorem step_outline {t : Symbol} (hs : s.Begun) (h : s.step t rest = .ok (s', after)) :
    s.outline.step t rest = .ok (s'.outline, after) ∧ Move s s' := by
  cases t with
  | dangling => cases h
  | escaped c =>
    obtain ⟨⟨e, after'⟩, he, h⟩ := Outcome.bind_eq_ok.1 h
    rw [Outline.step]
    have hflags : s.outline.flags = s.level.flags := rfl
    rw [hflags, he]
    cases e with
    | item i | anchor a =>
      cases h
      exact ⟨rfl, .push _⟩
    | reference index length =>
      obtain ⟨-, -, h⟩ := Outcome.bind_eq_ok.1 h
      cases h
      exact ⟨rfl, .push _⟩
  | plain c =>
    rw [step] at h
    rw [Outline.step]
    have hflags : s.outline.flags = s.level.flags := rfl
    rw [hflags]
    split at h
    · rename_i hb
      cases h
      rw [if_pos hb]
      exact ⟨rfl, .stay⟩
    · rename_i hb
      rw [if_neg hb]
      split at h
      · rename_i hc
        rw [if_pos hc]
        obtain ⟨after', ha, he⟩ := Outcome.map_eq_ok.1 h
        cases he
        rw [ha]
        exact ⟨rfl, .stay⟩
      · rename_i hc
        rw [if_neg hc]
        exact char_outline hs h

end State

end Backtracking
end Regex
end RouteTable
