/-
# How far a step of an outline reads

A step leaves an end of what was there, and takes a `$` at the end of an expression only
where a verbose one has a comment (`verbose_of_step_dollar`).  A step that leaves a
parenthesis unread does not depend on what follows it, nor on the parentheses around those
that are open (`step_before_paren`).
-/

import RouteTable.Proofs.Regex.Outline

namespace RouteTable
namespace Regex
namespace Backtracking

namespace Outline

variable {o o' : Outline} {rest after : Symbols}

/-- A character without a meaning of its own is read as a repetition or as itself. -/
theorem char_of_not_mem {c : CodePoint}
    (hc : c ∉ [scalar '(', scalar ')', scalar '[', scalar '|', scalar '.', scalar '^', scalar '$'])
    (o : Outline) (rest : Symbols) : o.char c rest = (Bounds.read? c rest).map fun
      | some (_, after) => (o, (readGreed after).2)
      | none => (o, rest) := by
  simp only [List.mem_cons, List.not_mem_nil, or_false, not_or] at hc
  unfold char
  split <;> first | rfl | (exfalso; simp_all)

theorem ends_dollar : Bounds.Ends '$' := ⟨by decide, by decide, by decide⟩

theorem ends_paren : Bounds.Ends ')' := ⟨by decide, by decide, by decide⟩

/-- What is left behind a comment is the end of what it is read from. -/
theorem suffix_of_skipLine {ss : Symbols} (h : State.skipLine ss = .ok after) : after <:+ ss := by
  induction ss with
  | nil =>
    cases h
    exact List.suffix_rfl
  | cons s ss ih =>
    cases s with
    | dangling => cases h
    | plain c | escaped c =>
      rw [State.skipLine] at h
      · split at h
        · cases h
          exact List.suffix_cons _ _
        · exact (ih h).trans (List.suffix_cons _ _)
      all_goals nofun

/-- What a comment takes before a parenthesis does not depend on what follows it. -/
theorem skipLine_before_paren {v w r : Symbols}
    (h : State.skipLine (v ++ .plain ')' :: r) = .ok (w ++ .plain ')' :: r)) (r' : Symbols) :
    State.skipLine (v ++ .plain ')' :: r') = .ok (w ++ .plain ')' :: r') := by
  induction v with
  | nil =>
    have hs := (@suffix_of_skipLine _ r (by simpa [State.skipLine] using h)).length_le
    simp at hs
    omega
  | cons s v ih =>
    cases s with
    | dangling => cases h
    | plain c | escaped c =>
      rw [List.cons_append, State.skipLine] at h ⊢
      · split at h
        · rename_i hs
          rw [if_pos hs]
          have := List.append_cancel_right (Except.ok.inj h)
          rw [this]
        · rename_i hs
          rw [if_neg hs]
          exact ih h
      all_goals nofun

/-- What is left behind an opening parenthesis is the end of what it is read from. -/
theorem suffix_of_enter (h : o.enter rest = .ok (o', after)) : after <:+ rest := by
  obtain ⟨⟨p, mid⟩, hp, h⟩ := Outcome.bind_eq_ok.1 h
  have hs := (Parenthesis.reads_read 0).suffix hp
  cases p with
  | comment | reference | opens =>
    cases h
    exact hs
  | wholeFlags => exact absurd h failAt_ne_ok

/-- What is left behind a character is the end of what it is read from. -/
theorem suffix_of_char {c : CodePoint} (h : o.char c rest = .ok (o', after)) : after <:+ rest := by
  unfold char at h
  split at h
  · exact suffix_of_enter h
  · unfold leave at h
    split at h
    · exact absurd h fail_ne_ok
    · cases h
      exact List.suffix_rfl
  · obtain ⟨r, hr, he⟩ := Outcome.map_eq_ok.1 h
    cases he
    exact terminates_readSet.reads.suffix hr
  · cases h
    exact List.suffix_rfl
  · cases h
    exact List.suffix_rfl
  · cases h
    exact List.suffix_rfl
  · cases h
    exact List.suffix_rfl
  · obtain ⟨q, hq, he⟩ := Outcome.map_eq_ok.1 h
    cases q with
    | none =>
      cases he
      exact List.suffix_rfl
    | some q =>
      obtain ⟨b, mid⟩ := q
      cases he
      exact (reads_readGreed.suffix rfl).trans (Bounds.suffix_of_read? hq)

/-- What one step leaves is an end of what was there. -/
theorem suffix_of_step {t : Symbol} (h : o.step t rest = .ok (o', after)) : after <:+ rest := by
  unfold step at h
  split at h
  · cases h
  · obtain ⟨r, hr, he⟩ := Outcome.map_eq_ok.1 h
    cases he
    exact (Escape.reads_read _ _).suffix hr
  · split at h
    · cases h
      exact List.suffix_rfl
    · split at h
      · obtain ⟨r, hr, he⟩ := Outcome.map_eq_ok.1 h
        cases he
        exact suffix_of_skipLine hr
      · exact suffix_of_char h

/-- A `$` at the end is left by every character. -/
theorem ne_nil_of_char_dollar {c : CodePoint} {ss : Symbols}
    (h : o.char c (ss ++ [Symbol.plain '$']) = .ok (o', after)) : after ≠ [] := by
  unfold char at h
  split at h
  · obtain ⟨⟨p, mid⟩, hp, h⟩ := Outcome.bind_eq_ok.1 h
    have hne := (Parenthesis.reads_read 0).ne_nil_of_dollar hp
    cases p with
    | comment | reference | opens =>
      cases h
      exact hne
    | wholeFlags => exact absurd h failAt_ne_ok
  · unfold leave at h
    split at h
    · exact absurd h fail_ne_ok
    · cases h
      simp
  · obtain ⟨r, hr, he⟩ := Outcome.map_eq_ok.1 h
    cases he
    exact terminates_readSet.reads.ne_nil_of_dollar hr
  · cases h
    simp
  · cases h
    simp
  · cases h
    simp
  · cases h
    simp
  · obtain ⟨q, hq, he⟩ := Outcome.map_eq_ok.1 h
    rcases Bounds.read?_before ends_dollar hq with ⟨rfl, -⟩ | ⟨b, w, rfl, -⟩
    · cases he
      simp
    · cases he
      exact reads_readGreed.ne_nil_of_dollar rfl

/-- **A `$` at the end is a step of its own,** unless a comment takes it. -/
theorem verbose_of_step_dollar {t : Symbol} {ss : Symbols}
    (h : o.step t (ss ++ [Symbol.plain '$']) = .ok (o', [])) : o.flags.verbose = true ∧ o' = o := by
  unfold step at h
  split at h
  · cases h
  · obtain ⟨⟨e, after⟩, hr, he⟩ := Outcome.map_eq_ok.1 h
    cases he
    exact absurd rfl ((Escape.reads_read _ _).ne_nil_of_dollar hr)
  · split at h
    · simp at h
    · split at h
      · rename_i hc
        obtain ⟨r, hr, he⟩ := Outcome.map_eq_ok.1 h
        cases he
        exact ⟨(Bool.and_eq_true_iff.1 hc).1, rfl⟩
      · exact absurd rfl (ne_nil_of_char_dollar h)

/-- The outline inside more parentheses. -/
def under (o : Outline) (outer : List (Bool × Flags)) : Outline := ⟨o.flags, o.stack ++ outer⟩

section BeforeParenthesis

variable {v w r : Symbols} {outer : List (Bool × Flags)}

/-- Before a parenthesis that is read later, an opening one does the same whatever follows. -/
theorem enter_before_paren
    (h : (o.under outer).enter (v ++ .plain ')' :: r) = .ok (o', w ++ .plain ')' :: r)) :
    ∃ o₁ : Outline, o' = o₁.under outer ∧ ∀ outer' r',
      (o.under outer').enter (v ++ .plain ')' :: r') =
        .ok (o₁.under outer', w ++ .plain ')' :: r') := by
  obtain ⟨⟨p, mid⟩, hp, h⟩ := Outcome.bind_eq_ok.1 h
  cases p with
  | wholeFlags => exact absurd h failAt_ne_ok
  | comment | reference =>
    cases h
    refine ⟨o, rfl, fun outer' r' => ?_⟩
    rw [enter, (Parenthesis.reads_read 0).before_paren hp r']
    rfl
  | opens p =>
    cases h
    refine ⟨⟨p.flags o.flags, (p.isCapture, o.flags) :: o.stack⟩, rfl, fun outer' r' => ?_⟩
    rw [enter, (Parenthesis.reads_read 0).before_paren hp r']
    rfl

/-- A step that reads no more than its symbol. -/
theorem stay_before_paren (o : Outline)
    (h : (.ok (o.under outer, v ++ Symbol.plain ')' :: r) : Except Fault (Outline × Symbols)) =
      .ok (o', w ++ Symbol.plain ')' :: r)) :
    ∃ o₁ : Outline, o' = o₁.under outer ∧ ∀ outer' r',
      (.ok (o.under outer', v ++ Symbol.plain ')' :: r') : Except Fault (Outline × Symbols)) =
        .ok (o₁.under outer', w ++ Symbol.plain ')' :: r') := by
  rw [Except.ok.injEq, Prod.mk.injEq] at h
  obtain ⟨ho, hv⟩ := h
  obtain rfl := List.append_cancel_right hv
  exact ⟨o, ho.symm, fun _ _ => rfl⟩

/-- Before a parenthesis that is read later, a closing one does the same whatever follows. -/
theorem leave_before_paren (hne : o.stack ≠ [])
    (h : (o.under outer).leave (v ++ Symbol.plain ')' :: r) =
      .ok (o', w ++ Symbol.plain ')' :: r)) :
    ∃ o₁ : Outline, o' = o₁.under outer ∧ ∀ outer' r',
      (o.under outer').leave (v ++ Symbol.plain ')' :: r') =
        .ok (o₁.under outer', w ++ Symbol.plain ')' :: r') := by
  obtain ⟨flags, _ | ⟨⟨b, inner⟩, stack⟩⟩ := o
  · exact absurd rfl hne
  · exact stay_before_paren ⟨inner, stack⟩ h

/-- Before a parenthesis that is read later, a character does the same whatever follows. -/
theorem char_before_paren {c : CodePoint} (hne : o.stack ≠ [])
    (h : (o.under outer).char c (v ++ Symbol.plain ')' :: r) =
      .ok (o', w ++ Symbol.plain ')' :: r)) :
    ∃ o₁ : Outline, o' = o₁.under outer ∧ ∀ outer' r',
      (o.under outer').char c (v ++ Symbol.plain ')' :: r') =
        .ok (o₁.under outer', w ++ Symbol.plain ')' :: r') := by
  by_cases hc : c ∈
      [scalar '(', scalar ')', scalar '[', scalar '|', scalar '.', scalar '^', scalar '$']
  · simp only [List.mem_cons, List.not_mem_nil, or_false] at hc
    rcases hc with rfl | rfl | rfl | rfl | rfl | rfl | rfl
    · exact enter_before_paren h
    · exact leave_before_paren hne h
    · obtain ⟨⟨x, after⟩, hset, he⟩ := Outcome.map_eq_ok.1 h
      cases he
      refine ⟨o, rfl, fun outer' r' => ?_⟩
      exact Outcome.map_eq_ok.2 ⟨_, terminates_readSet.reads.before_paren hset r', rfl⟩
    all_goals exact stay_before_paren o h
  · rw [char_of_not_mem hc] at h
    simp only [char_of_not_mem hc]
    obtain ⟨q, hq, he⟩ := Outcome.map_eq_ok.1 h
    rcases Bounds.read?_before ends_paren hq with ⟨rfl, hnone⟩ | ⟨b, u, rfl, hsome⟩
    · obtain ⟨o₁, ho, hstay⟩ := stay_before_paren o (congrArg Except.ok he)
      exact ⟨o₁, ho, fun outer' r' =>
        Outcome.map_eq_ok.2 ⟨none, hnone r', Except.ok.inj (hstay outer' r')⟩⟩
    · rw [Prod.mk.injEq] at he
      obtain ⟨rfl, hgreed⟩ := he
      refine ⟨o, rfl, fun outer' r' => Outcome.map_eq_ok.2 ⟨_, hsome r', ?_⟩⟩
      have hread : (.ok (readGreed (u ++ Symbol.plain ')' :: r)) : Except Fault (Greed × Symbols)) =
          .ok ((readGreed (u ++ Symbol.plain ')' :: r)).1, w ++ Symbol.plain ')' :: r) := by
        rw [← hgreed]
      have hread' := Except.ok.inj (reads_readGreed.before_paren hread r')
      dsimp only
      rw [hread']

/-- **What a step does before a parenthesis that it leaves unread** depends neither on
what follows that one, nor on the parentheses around those that are open. -/
theorem step_before_paren {t : Symbol} (hne : o.stack ≠ [])
    (h : (o.under outer).step t (v ++ Symbol.plain ')' :: r) =
      .ok (o', w ++ Symbol.plain ')' :: r)) :
    ∃ o₁ : Outline, o' = o₁.under outer ∧ ∀ outer' r',
      (o.under outer').step t (v ++ Symbol.plain ')' :: r') =
        .ok (o₁.under outer', w ++ Symbol.plain ')' :: r') := by
  cases t with
  | dangling => cases h
  | escaped c =>
    obtain ⟨⟨e, after⟩, hr, he⟩ := Outcome.map_eq_ok.1 h
    cases he
    exact ⟨o, rfl, fun outer' r' =>
      Outcome.map_eq_ok.2 ⟨_, (Escape.reads_read _ _).before_paren hr r', rfl⟩⟩
  | plain c =>
    have hstep : ∀ outer rest, (o.under outer).step (.plain c) rest =
        if o.flags.verbose && State.isBlank c then .ok (o.under outer, rest)
        else if o.flags.verbose && c == '#' then
          (State.skipLine rest).map (o.under outer, ·)
        else (o.under outer).char c rest := fun _ _ => rfl
    rw [hstep] at h
    simp only [hstep]
    split at h
    · rename_i hb
      simp only [if_pos hb]
      exact stay_before_paren o h
    · rename_i hb
      simp only [if_neg hb]
      split at h
      · rename_i hc
        simp only [if_pos hc]
        obtain ⟨mid, hm, he⟩ := Outcome.map_eq_ok.1 h
        cases he
        exact ⟨o, rfl, fun outer' r' =>
          Outcome.map_eq_ok.2 ⟨_, skipLine_before_paren hm r', rfl⟩⟩
      · rename_i hc
        simp only [if_neg hc]
        exact char_before_paren hne h

end BeforeParenthesis

end Outline

end Backtracking
end Regex
end RouteTable
