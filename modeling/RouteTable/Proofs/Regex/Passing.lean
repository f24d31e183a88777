/-
# Passing over symbols

`Outline.Passes` is the relation of reading step after step, with the marks that are left.
What an outline does between a parenthesis that captures and the one that closes it is the
same wherever the two stand (`Outline.Passes.replay`): the machine need not be run again to
know how many groups there are in between.
-/

import RouteTable.Proofs.Regex.Marks
import RouteTable.Proofs.Regex.Steps

namespace RouteTable
namespace Regex
namespace Backtracking

/-- The characters that a symbol takes. -/
theorem left_cons (t : Symbol) (ss : Symbols) : left (t :: ss) = t.written.length + left ss := by
  rw [left, left, List.flatMap_cons, List.length_append]

theorem left_append (ss tt : Symbols) : left (ss ++ tt) = left ss + left tt := by
  rw [left, left, left, List.flatMap_append, List.length_append]

/-- A symbol takes a character at least. -/
theorem left_lt_left_cons (t : Symbol) (ss : Symbols) : left ss < left (t :: ss) := by
  rw [left_cons]
  cases t with
  | plain | escaped | dangling =>
    simp only [Symbol.written, List.length_cons]
    omega

/-- Less is left of the end of a row. -/
theorem left_le_of_suffix {ss tt : Symbols} (h : ss <:+ tt) : left ss ≤ left tt := by
  obtain ⟨u, rfl⟩ := h
  rw [left_append]
  omega

/-- An end of two parts that takes as many characters as the second starts in the first. -/
theorem exists_eq_append_of_left_le {ss tt uu : Symbols} (h : ss <:+ tt ++ uu)
    (hle : left uu ≤ left ss) : ∃ w, ss = w ++ uu := by
  rcases List.suffix_or_suffix_of_suffix h (List.suffix_append tt uu) with ⟨v, rfl⟩ | ⟨w, hw⟩
  · cases v with
    | nil => exact ⟨[], rfl⟩
    | cons t v =>
      have hlt := left_lt_left_cons t (v ++ ss)
      rw [left_append] at hlt
      rw [List.cons_append] at hle
      omega
  · exact ⟨w, hw.symm⟩

/-- The symbols of a text take its characters. -/
theorem left_ofText (t : Text) : left (Symbol.ofText t) = t.length := by
  rw [left, Symbol.flatMap_written_ofText]

namespace Outline

variable {o o₁ o' : Outline} {ss ss₁ rest after : Symbols} {ms ms₁ : List (Bool × Nat)}

/-- What one step can do to an outline. -/
inductive Move (o : Outline) : Outline → Prop
  | stay : Move o o
  | enter (b : Bool) (flags : Flags) : Move o ⟨flags, (b, o.flags) :: o.stack⟩
  | leave {b : Bool} {flags : Flags} {stack : List (Bool × Flags)}
    (h : o.stack = (b, flags) :: stack) : Move o ⟨flags, stack⟩

/-- A character is a move of the outline. -/
theorem move_of_char {c : CodePoint} (h : o.char c rest = .ok (o', after)) : o.Move o' := by
  unfold char at h
  split at h
  · obtain ⟨⟨p, mid⟩, hp, h⟩ := Outcome.bind_eq_ok.1 h
    cases p with
    | comment | reference =>
      cases h
      exact .stay
    | wholeFlags => exact absurd h failAt_ne_ok
    | opens p =>
      cases h
      exact .enter _ _
  · unfold leave at h
    split at h
    · exact absurd h fail_ne_ok
    · rename_i hstack
      cases h
      exact .leave hstack
  · obtain ⟨r, hr, he⟩ := Outcome.map_eq_ok.1 h
    cases he
    exact .stay
  · cases h
    exact .stay
  · cases h
    exact .stay
  · cases h
    exact .stay
  · cases h
    exact .stay
  · obtain ⟨q, hq, he⟩ := Outcome.map_eq_ok.1 h
    cases q with
    | none | some =>
      cases he
      exact .stay

/-- A step is a move of the outline. -/
theorem move_of_step {t : Symbol} (h : o.step t rest = .ok (o', after)) : o.Move o' := by
  unfold step at h
  split at h
  · cases h
  · obtain ⟨r, hr, he⟩ := Outcome.map_eq_ok.1 h
    cases he
    exact .stay
  · split at h
    · cases h
      exact .stay
    · split at h
      · obtain ⟨r, hr, he⟩ := Outcome.map_eq_ok.1 h
        cases he
        exact .stay
      · exact move_of_char h

/-- The mark of a step, where `n` characters are left before it. -/
def marked (o o' : Outline) (n : Nat) : List (Bool × Nat) := (o.mark? o').toList.map (·, n)

/-- `o.Passes ss ms o' ss'` says that from `o` an outline comes to `o'` by reading of `ss`
all but `ss'`, and what it marks. -/
inductive Passes : Outline → Symbols → List (Bool × Nat) → Outline → Symbols → Prop
  | refl (o : Outline) (ss : Symbols) : Passes o ss [] o ss
  | step {o o₁ o' : Outline} {t : Symbol} {rest after ss' : Symbols} {ms : List (Bool × Nat)}
    (h : o.step t rest = .ok (o₁, after)) (hs : Passes o₁ after ms o' ss') :
    Passes o (t :: rest) (o.marked o₁ (left (t :: rest)) ++ ms) o' ss'

namespace Passes

theorem trans {ss' : Symbols} {ms' : List (Bool × Nat)} (h : Passes o ss ms o₁ ss₁)
    (h' : Passes o₁ ss₁ ms' o' ss') : Passes o ss (ms ++ ms') o' ss' := by
  induction h with
  | refl => exact h'
  | step hstep _ ih =>
    rw [List.append_assoc]
    exact .step hstep (ih h')

/-- A step that marks nothing. -/
theorem muteStep {t : Symbol} {ss' : Symbols} (h : o.step t rest = .ok (o₁, after))
    (hm : o.mark? o₁ = none) (hs : Passes o₁ after ms o' ss') :
    Passes o (t :: rest) ms o' ss' := by
  have hpass := Passes.step h hs
  rwa [marked, hm] at hpass

/-- A step comes first where a symbol is left to be read. -/
theorem exists_step {t : Symbol} (h : Passes o (t :: rest) ms o' []) :
    ∃ o₁ after ms₁, o.step t rest = .ok (o₁, after) ∧
      ms = o.marked o₁ (left (t :: rest)) ++ ms₁ ∧ Passes o₁ after ms₁ o' [] := by
  cases h with
  | step hstep hs => exact ⟨_, _, _, hstep, rfl, hs⟩

/-- **What is read to the end begins with all that can be read.** -/
theorem cancel (h : Passes o ss ms₁ o₁ ss₁) (h' : Passes o ss ms o' []) :
    ∃ ms₂, ms = ms₁ ++ ms₂ ∧ Passes o₁ ss₁ ms₂ o' [] := by
  induction h generalizing ms with
  | refl => exact ⟨ms, rfl, h'⟩
  | step hstep _ ih =>
    obtain ⟨o₂, after, ms₂, hstep', rfl, hs⟩ := h'.exists_step
    cases hstep.symm.trans hstep'
    obtain ⟨ms₃, rfl, hend⟩ := ih hs
    exact ⟨ms₃, (List.append_assoc ..).symm, hend⟩

/-- No mark stands before what is read. -/
theorem le_left {ss' : Symbols} (h : Passes o ss ms o' ss') {m : Bool × Nat} (hm : m ∈ ms) :
    m.2 ≤ left ss := by
  induction h with
  | refl => cases hm
  | @step o o₁ o' t rest after ss' ms hstep _ ih =>
    rcases List.mem_append.1 hm with hm | hm
    · obtain ⟨b, -, rfl⟩ := List.mem_map.1 hm
      exact Nat.le_refl _
    · have hafter := left_le_of_suffix (suffix_of_step hstep)
      have hrest := left_lt_left_cons t rest
      have := ih hm
      omega

end Passes

/-- The marks that are recorded are those of a pass to the end. -/
theorem marksWith_eq_some_iff :
    marksWith step mark? o 0 ss = some ms ↔ ∃ o', Passes o ss ms o' [] := by
  have hstep : ∀ {o o₁ : Outline} {t : Symbol} {rest after : Symbols},
      o.step t rest = .ok (o₁, after) → marksWith step mark? o 0 (t :: rest) =
        (marksWith step mark? o₁ 0 after).map (o.marked o₁ (left (t :: rest)) ++ ·) := by
    intro o o₁ t rest after h
    obtain ⟨read, rfl⟩ := suffix_of_step h
    rw [marksWith, h]
    dsimp only
    rw [marksWith_eq_drop, taken_append, List.drop_left]
    rfl
  constructor
  · -- by induction on what is left, as steps read several symbols
    intro h
    induction hn : ss.length using Nat.strongRecOn generalizing o ss ms with
    | ind n ih =>
      cases ss with
      | nil =>
        cases h
        exact ⟨o, .refl o []⟩
      | cons t rest =>
        cases hs : o.step t rest with
        | error f =>
          rw [marksWith, hs] at h
          cases h
        | ok r =>
          obtain ⟨o₁, after⟩ := r
          rw [hstep hs, Option.map_eq_some_iff] at h
          obtain ⟨ms₁, hms, rfl⟩ := h
          have hlength := (suffix_of_step hs).length_le
          obtain ⟨o', hpass⟩ := ih after.length (by simp only [List.length_cons] at hn; omega)
            hms rfl
          exact ⟨o', .step hs hpass⟩
  · rintro ⟨o', h⟩
    generalize hnil : ([] : Symbols) = ss' at h
    induction h with
    | refl =>
      cases hnil
      rfl
    | step hs _ ih =>
      rw [hstep hs, ih hnil]
      rfl

/-! ### Inside a group -/

/-- The parentheses around an outline change no mark. -/
theorem mark?_under (o o' : Outline) (outer : List (Bool × Flags)) :
    (o.under outer).mark? (o'.under outer) = o.mark? o' := by
  unfold mark? stackMark? under
  simp only [List.length_append, Nat.add_lt_add_iff_right]
  have hhead : ∀ {stack : List (Bool × Flags)}, 0 < stack.length →
      (stack ++ outer).head? = stack.head? := by
    intro stack h
    cases stack with
    | nil => cases h
    | cons x stack => rfl
  split
  · rw [hhead (by omega)]
  · split
    · rw [hhead (by omega)]
    · rfl

/-- Inside one group, which was opened where no flags were set, and maybe in more
parentheses that do not capture. -/
def Inside (o : Outline) : Prop :=
  ∃ inner, o.stack = inner ++ [(true, Flags.none)] ∧ ∀ x ∈ inner, x.1 = false

theorem Inside.stack_ne_nil (h : o.Inside) : o.stack ≠ [] := by
  obtain ⟨inner, hstack, -⟩ := h
  simp [hstack]

/-- What marks nothing stays inside. -/
theorem Move.inside (h : o.Move o') (ho : o.Inside) (hmark : o.mark? o' = none) : o'.Inside := by
  obtain ⟨inner, hstack, hinner⟩ := ho
  cases h with
  | stay => exact ⟨inner, hstack, hinner⟩
  | enter b flags =>
    obtain rfl : b = false := by simpa [mark?] using hmark
    refine ⟨(false, o.flags) :: inner, by rw [hstack]; rfl, ?_⟩
    simpa using hinner
  | @leave b flags stack h =>
    obtain rfl : b = false := by simpa [mark?, h] using hmark
    cases inner with
    | nil =>
      rw [hstack] at h
      cases h
    | cons x inner =>
      rw [hstack] at h
      cases h
      exact ⟨inner, rfl, fun x hx => hinner x (List.mem_cons_of_mem _ hx)⟩

/-- A closing parenthesis is one in verbose expressions too. -/
theorem step_close (flags outside : Flags) (b : Bool) (stack : List (Bool × Flags))
    (rest : Symbols) :
    step ⟨flags, (b, outside) :: stack⟩ (.plain ')') rest = .ok (⟨outside, stack⟩, rest) := by
  have hblank : State.isBlank ')' = false := by decide
  rw [step, hblank, Bool.and_false, if_neg Bool.false_ne_true,
    show (scalar ')' == '#') = false from rfl, Bool.and_false, if_neg Bool.false_ne_true]
  rfl

/-- A closing parenthesis is marked if it ends a group. -/
theorem marked_close (flags outside : Flags) (b : Bool) (stack : List (Bool × Flags)) (n : Nat) :
    marked ⟨flags, (b, outside) :: stack⟩ ⟨outside, stack⟩ n = if b then [(false, n)] else [] := by
  cases b <;> simp [marked, mark?]

namespace Passes

variable {outer : List (Bool × Flags)} {body r : Symbols}

/-- A step before the next mark has none. -/
theorem mark?_eq_none_of_lt {m : Bool × Nat} {n : Nat} (h : m :: ms = o.marked o₁ n ++ ms₁)
    (hlt : m.2 < n) : o.mark? o₁ = none := by
  cases hm : o.mark? o₁ with
  | none => rfl
  | some b =>
    rw [marked, hm] at h
    have heq : m.2 = n := congrArg Prod.snd (List.cons.inj h).1
    omega

/-- The parenthesis that is marked next closes the group. -/
theorem replay_close (ho : o.Inside)
    (h : Passes (o.under outer) (.plain ')' :: r) ((false, left (.plain ')' :: r)) :: ms) o' []) :
    (∀ outer' r', Passes (o.under outer') (.plain ')' :: r') [(false, left (.plain ')' :: r'))]
      ⟨.none, outer'⟩ r') ∧
    Passes ⟨.none, outer⟩ r ms o' [] := by
  obtain ⟨o₁, after, ms₁, hstep, hms, hpass⟩ := h.exists_step
  obtain ⟨flags, stack⟩ := o
  obtain ⟨inner, rfl, hinner⟩ := ho
  cases inner with
  | nil =>
    cases hstep.symm.trans (step_close flags .none true outer r)
    have hms := hms.trans (congrArg (· ++ ms₁) (marked_close flags .none true outer _))
    refine ⟨fun outer' r' => ?_, (List.cons.inj hms).2 ▸ hpass⟩
    have hpass' := Passes.step (step_close flags .none true outer' r')
      (.refl ⟨.none, outer'⟩ r')
    rw [marked_close] at hpass'
    exact hpass'
  | cons x inner =>
    -- another parenthesis is closed, and what follows has no mark here
    obtain ⟨b, outside⟩ := x
    obtain rfl : b = false := hinner _ List.mem_cons_self
    have hclose := step_close flags outside false (inner ++ [(true, Flags.none)] ++ outer) r
    cases hstep.symm.trans hclose
    have hms := hms.trans (congrArg (· ++ ms₁) (marked_close flags outside false _ _))
    have hle := hpass.le_left ((show _ = ms₁ from hms) ▸ List.mem_cons_self)
    have hlt := left_lt_left_cons (.plain ')') r
    omega

/-- A step before the next mark, that of a parenthesis, stays inside the group, leaves the
parenthesis unread and is the same step wherever the group stands. -/
theorem replay_step {t : Symbol} (ho : o.Inside)
    (h : Passes (o.under outer) (t :: (body ++ Symbol.plain ')' :: r))
      ((false, left (.plain ')' :: r)) :: ms) o' []) :
    ∃ (o₁ : Outline) (w : Symbols), o₁.Inside ∧ w.length ≤ body.length ∧
      (∀ outer' r' ms' o'' ss', Passes (o₁.under outer') (w ++ Symbol.plain ')' :: r') ms' o'' ss' →
        Passes (o.under outer') (t :: (body ++ Symbol.plain ')' :: r')) ms' o'' ss') ∧
      Passes (o₁.under outer) (w ++ Symbol.plain ')' :: r) ((false, left (.plain ')' :: r)) :: ms)
        o' [] := by
  obtain ⟨o₁, after, ms₁, hstep, hms, hpass⟩ := h.exists_step
  have hfar : left (.plain ')' :: r) < left (t :: (body ++ Symbol.plain ')' :: r)) := by
    have hlt := left_lt_left_cons t (body ++ Symbol.plain ')' :: r)
    rw [left_append] at hlt
    omega
  have hquiet : (o.under outer).mark? o₁ = none := mark?_eq_none_of_lt hms hfar
  rw [marked, hquiet] at hms
  -- the mark that comes next is due in what is left
  have hle : left (.plain ')' :: r) ≤ left after :=
    hpass.le_left ((show _ = ms₁ from hms) ▸ List.mem_cons_self)
  obtain ⟨w, rfl⟩ := exists_eq_append_of_left_le (suffix_of_step hstep) hle
  obtain ⟨o₂, rfl, hreplay⟩ := step_before_paren ho.stack_ne_nil hstep
  have hmark : o.mark? o₂ = none := by rwa [mark?_under] at hquiet
  have hmove : o.Move o₂ := by
    have hmove := move_of_step (hreplay [] [])
    simpa only [under, List.append_nil] using hmove
  have hlength : w.length ≤ body.length := by
    have hlength := (suffix_of_step hstep).length_le
    simp only [List.length_append] at hlength
    omega
  refine ⟨o₂, w, hmove.inside ho hmark, hlength, fun outer' r' ms' o'' ss' hs => ?_,
    (show _ = ms₁ from hms) ▸ hpass⟩
  exact muteStep (hreplay outer' r') (by rw [mark?_under, hmark]) hs

/-- **What is passed inside a group is passed alike wherever the group stands,** if the
next mark is that of the parenthesis at its end, which `body` precedes. -/
theorem replay_inside (ho : o.Inside)
    (h : Passes (o.under outer) (body ++ Symbol.plain ')' :: r)
      ((false, left (.plain ')' :: r)) :: ms)
      o' []) :
    (∀ outer' r', Passes (o.under outer') (body ++ Symbol.plain ')' :: r')
      [(false, left (.plain ')' :: r'))] ⟨.none, outer'⟩ r') ∧
    Passes ⟨.none, outer⟩ r ms o' [] := by
  -- by induction on what is left of the group, as a step reads several symbols
  induction hn : body.length using Nat.strongRecOn generalizing o body with
  | ind n ih =>
    cases body with
    | nil => exact replay_close ho h
    | cons t body =>
      rw [List.cons_append] at h
      obtain ⟨o₁, w, ho₁, hlength, hreplay, hpass⟩ := replay_step ho h
      rw [List.length_cons] at hn
      obtain ⟨hin, hout⟩ := ih w.length (by omega) ho₁ hpass rfl
      exact ⟨fun outer' r' => hreplay _ _ _ _ _ (hin outer' r'), hout⟩

/-- **A group is passed alike wherever it stands,** if it ends at the parenthesis that `body`
precedes and has no other group in it. -/
theorem replay {n : Nat} (hbody : body.head? ≠ some (.plain '?'))
    (h : Passes ⟨.none, outer⟩ (.plain '(' :: (body ++ Symbol.plain ')' :: r))
      ((true, n) :: (false, left (.plain ')' :: r)) :: ms) o' []) :
    (∀ outer' r', Passes ⟨.none, outer'⟩ (.plain '(' :: (body ++ Symbol.plain ')' :: r'))
      [(true, left (.plain '(' :: (body ++ Symbol.plain ')' :: r'))),
        (false, left (.plain ')' :: r'))]
      ⟨.none, outer'⟩ r') ∧
    Passes ⟨.none, outer⟩ r ms o' [] := by
  have hopen : ∀ outer r, Outline.step ⟨.none, outer⟩ (.plain '(') (body ++ Symbol.plain ')' :: r) =
      .ok (⟨.none, (true, .none) :: outer⟩, body ++ Symbol.plain ')' :: r) := by
    intro outer r
    have hread : Parenthesis.read 0 (body ++ Symbol.plain ')' :: r) =
        .ok (.opens (.capture none), body ++ Symbol.plain ')' :: r) := by
      unfold Parenthesis.read
      split
      · rename_i hq
        cases body with
        | nil => cases hq
        | cons t body => exact absurd (by rw [(List.cons.inj hq).1]; rfl) hbody
      · rfl
    change (Parenthesis.read 0 (body ++ Symbol.plain ')' :: r)).bind _ = _
    rw [hread]
    rfl
  have hmarked : ∀ outer n,
      marked ⟨.none, outer⟩ ⟨.none, (true, .none) :: outer⟩ n = [(true, n)] := by
    intro outer n
    simp [marked, mark?]
  have hinside : Inside ⟨.none, [(true, .none)]⟩ :=
    ⟨[], rfl, fun _ hx => absurd hx List.not_mem_nil⟩
  obtain ⟨o₁, after, ms₁, hstep, hms, hpass⟩ := h.exists_step
  cases hstep.symm.trans (hopen outer r)
  rw [hmarked, List.singleton_append, List.cons.injEq] at hms
  obtain ⟨hin, hout⟩ := replay_inside hinside (hms.2 ▸ hpass)
  refine ⟨fun outer' r' => ?_, hout⟩
  have hpass' := Passes.step (hopen outer' r') (hin outer' r')
  rw [hmarked] at hpass'
  exact hpass'

end Passes

end Outline

end Backtracking
end Regex
end RouteTable
