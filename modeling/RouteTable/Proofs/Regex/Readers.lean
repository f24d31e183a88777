/-
# How far readers look

What an expression writes is told by what is read and by the next symbol, with one
exception: braces are bounds or not by all that they hold.  `Reads F` says it of a reader
`F`: it takes symbols from the front and looks at one more at most.  `Terminates F` says
that it does not even look at that one, since the last symbol that it takes ends what it
reads.  In either case that last symbol is no plain `$`.

So a reader that leaves a parenthesis unread does not depend on what follows it
(`Reads.before_paren`), and none takes a `$` at the end of an expression
(`Reads.ne_nil_of_dollar`).
-/

import RouteTable.Outcome
import RouteTable.Regex.Backtracking.Parser

namespace RouteTable
namespace Regex
namespace Backtracking

variable {α β : Type}

/-- What is read is told by itself and by the next symbol, and ends in no plain `$`. -/
def Reads (F : Symbols → Except Fault (α × Symbols)) : Prop :=
  ∀ ⦃ss x after⦄, F ss = .ok (x, after) → ∃ read, ss = read ++ after ∧
    read.getLast? ≠ some (.plain '$') ∧
    ∀ after', after'.head? = after.head? → F (read ++ after') = .ok (x, after')

/-- `F` reads `x` before `after`, and what it reads tells so and ends in no plain `$`. -/
def Terminated (F : Symbols → Except Fault (α × Symbols)) (ss : Symbols) (x : α)
    (after : Symbols) : Prop :=
  ∃ read s, ss = read ++ s :: after ∧ s ≠ .plain '$' ∧
    ∀ after', F (read ++ s :: after') = .ok (x, after')

/-- What is read is told by itself, and ends in a symbol that is no plain `$`. -/
def Terminates (F : Symbols → Except Fault (α × Symbols)) : Prop :=
  ∀ ⦃ss x after⦄, F ss = .ok (x, after) → Terminated F ss x after

/-- Nothing is read, and the outcome does not depend on what follows. -/
def Settles (F : Symbols → Except Fault (α × Symbols)) : Prop :=
  ∀ ⦃ss x after⦄, F ss = .ok (x, after) → after = ss ∧ ∀ ss', F ss' = .ok (x, ss')

theorem failAt_ne_ok {place : Nat} {cause : Cause} {following : Symbols} {x : α} :
    failAt place cause following ≠ .ok x := by
  unfold failAt failAtBackslash
  split <;> nofun

theorem fail_ne_ok {cause : Cause} {following : Symbols} {back : Nat} {x : α} :
    fail cause following back ≠ .ok x := failAt_ne_ok

/-- What follows a symbol does not change what comes first. -/
theorem head?_append_cons (ss : Symbols) (s : Symbol) (after after' : Symbols) :
    (ss ++ s :: after).head? = (ss ++ s :: after').head? := by
  cases ss <;> rfl

namespace Settles

variable {F G : Symbols → Except Fault (α × Symbols)}

theorem ok (x : α) : Settles fun rest => .ok (x, rest) := by
  intro ss y after h
  cases h
  exact ⟨rfl, fun _ => rfl⟩

theorem fail {cause : Cause} {back : Nat} :
    Settles fun rest => (Backtracking.fail cause rest back : Except Fault (α × Symbols)) :=
  fun _ _ _ h => absurd h fail_ne_ok

theorem ite {p : Prop} [Decidable p] (hF : Settles F) (hG : Settles G) :
    Settles fun rest => if p then F rest else G rest := by
  by_cases h : p
  · simpa only [if_pos h] using hF
  · simpa only [if_neg h] using hG

theorem map {F : Symbols → Except Fault (α × Symbols)} (h : Settles F) (g : α → β) :
    Settles fun rest => (F rest).map fun r => (g r.1, r.2) := by
  intro ss y after hF
  obtain ⟨⟨x, after⟩, hx, he⟩ := Outcome.map_eq_ok.1 hF
  cases he
  obtain ⟨rfl, hrest⟩ := h hx
  exact ⟨rfl, fun ss' => by dsimp only; rw [hrest]; rfl⟩

end Settles

namespace Terminated

variable {F G : Symbols → Except Fault (α × Symbols)} {t : Symbol} {rest after : Symbols} {x : α}

/-- One symbol alone. -/
theorem single (ht : t ≠ .plain '$') (h : ∀ rest, F (t :: rest) = .ok (x, rest)) :
    Terminated F (t :: after) x after :=
  ⟨[], t, rfl, ht, h⟩

/-- One symbol more in front. -/
theorem cons (hG : Terminated G rest x after) (h : ∀ rest, F (t :: rest) = G rest) :
    Terminated F (t :: rest) x after := by
  obtain ⟨read, s, rfl, hs, hrest⟩ := hG
  exact ⟨t :: read, s, rfl, hs, fun after' => (h _).trans (hrest after')⟩

/-- Another reader after the same first symbol. -/
theorem congr (hG : Terminated G (t :: rest) x after) (h : ∀ rest, F (t :: rest) = G (t :: rest)) :
    Terminated F (t :: rest) x after := by
  obtain ⟨read, s, hread, hs, hrest⟩ := hG
  refine ⟨read, s, hread, hs, fun after' => ?_⟩
  cases read with
  | nil =>
    cases hread
    exact (h _).trans (hrest after')
  | cons s' read =>
    cases hread
    exact (h _).trans (hrest after')

end Terminated

namespace Terminates

variable {F : Symbols → Except Fault (α × Symbols)} {G : α → Symbols → Except Fault (β × Symbols)}

/-- What ends at a symbol is read. -/
theorem reads (h : Terminates F) : Reads F := by
  intro ss x after hF
  obtain ⟨read, s, rfl, hs, hrest⟩ := h hF
  refine ⟨read ++ [s], by simp, by simpa using hs, fun after' _ => ?_⟩
  simpa using hrest after'

/-- What settles after a terminated reading changes nothing in how far that reads. -/
theorem bind (hF : Terminates F) (hG : ∀ x, Settles (G x)) :
    Terminates fun ss => (F ss).bind fun r => G r.1 r.2 := by
  intro ss y after h
  obtain ⟨⟨x, mid⟩, hx, hy⟩ := Outcome.bind_eq_ok.1 h
  obtain ⟨rfl, hmid⟩ := hG x hy
  obtain ⟨read, s, rfl, hs, hrest⟩ := hF hx
  refine ⟨read, s, rfl, hs, fun after' => ?_⟩
  dsimp only
  rw [hrest]
  exact hmid after'

theorem map (hF : Terminates F) (g : α → β) :
    Terminates fun ss => (F ss).map fun r => (g r.1, r.2) := by
  intro ss y after h
  obtain ⟨⟨x, mid⟩, hx, he⟩ := Outcome.map_eq_ok.1 h
  cases he
  obtain ⟨read, s, rfl, hs, hrest⟩ := hF hx
  refine ⟨read, s, rfl, hs, fun after' => ?_⟩
  dsimp only
  rw [hrest]
  rfl

end Terminates

namespace Reads

variable {F : Symbols → Except Fault (α × Symbols)} {G : α → Symbols → Except Fault (β × Symbols)}

/-- What settles is read. -/
theorem of_settles (h : Settles F) : Reads F := by
  intro ss x after hF
  obtain ⟨rfl, hrest⟩ := h hF
  exact ⟨[], rfl, by simp, fun after' _ => hrest after'⟩

/-- One reader after another looks at no more than the next symbol. -/
theorem bind (hF : Reads F) (hG : ∀ x, Reads (G x)) :
    Reads fun ss => (F ss).bind fun r => G r.1 r.2 := by
  intro ss y after h
  obtain ⟨⟨x, mid⟩, hx, hy⟩ := Outcome.bind_eq_ok.1 h
  obtain ⟨r₁, rfl, hl₁, h₁⟩ := hF hx
  obtain ⟨r₂, rfl, hl₂, h₂⟩ := hG x hy
  refine ⟨r₁ ++ r₂, by rw [List.append_assoc], ?_, fun after' ha => ?_⟩
  · rw [List.getLast?_append]
    cases hr : r₂.getLast? with
    | none => exact hl₁
    | some s => rwa [hr] at hl₂
  · have hhead : (r₂ ++ after').head? = (r₂ ++ after).head? := by
      rw [List.head?_append, List.head?_append, ha]
    dsimp only
    rw [List.append_assoc, h₁ _ hhead]
    exact h₂ after' ha

theorem map (h : Reads F) (g : α → β) :
    Reads fun ss => (F ss).map fun r => (g r.1, r.2) := by
  have := h.bind fun x => of_settles (Settles.ok (g x))
  refine (congrArg Reads (funext fun ss => ?_)).mp this
  cases F ss <;> rfl

theorem ite {F G : Symbols → Except Fault (α × Symbols)} {p : Prop} [Decidable p]
    (hF : Reads F) (hG : Reads G) : Reads fun rest => if p then F rest else G rest := by
  by_cases h : p
  · simpa only [if_pos h] using hF
  · simpa only [if_neg h] using hG

/-- What is left is an end of what was there. -/
theorem suffix (h : Reads F) {ss after : Symbols} {x : α} (hF : F ss = .ok (x, after)) :
    after <:+ ss := by
  obtain ⟨read, rfl, -⟩ := h hF
  exact List.suffix_append read after

/-- What a reader does before a parenthesis does not depend on what follows it. -/
theorem before_paren (h : Reads F) {v w r : Symbols} {x : α} {c : CodePoint}
    (hF : F (v ++ .plain c :: r) = .ok (x, w ++ .plain c :: r)) (r' : Symbols) :
    F (v ++ .plain c :: r') = .ok (x, w ++ .plain c :: r') := by
  obtain ⟨read, hv, -, hrest⟩ := h hF
  obtain rfl : v = read ++ w := by
    rw [← List.append_assoc] at hv
    exact List.append_cancel_right hv
  rw [List.append_assoc]
  exact hrest _ (head?_append_cons w _ _ _)

/-- No reader takes a `$` at the end. -/
theorem ne_nil_of_dollar (h : Reads F) {ss after : Symbols} {x : α}
    (hF : F (ss ++ [.plain '$']) = .ok (x, after)) : after ≠ [] := by
  rintro rfl
  obtain ⟨read, hss, hl, -⟩ := h hF
  rw [List.append_nil] at hss
  rw [← hss, List.getLast?_concat] at hl
  exact hl rfl

end Reads

/-! ### Runs of characters and names -/

/-- Nothing is read where the first symbol is not of the class. -/
theorem readWhile_stop {p : CodePoint → Bool} {n : Nat} {ss : Symbols}
    (h : ∀ c ∈ ss.head?, ∀ d, c = .plain d → n = 0 ∨ p d = false) :
    readWhile p n ss = ([], ss) := by
  unfold readWhile
  split
  · rename_i n c rest
    rcases h _ rfl c rfl with hn | hc
    · cases hn
    · rw [hc]
      rfl
  · rfl

theorem readWhile_cons {p : CodePoint → Bool} {c : CodePoint} (hc : p c = true) (n : Nat)
    (ss : Symbols) :
    readWhile p (n + 1) (.plain c :: ss) = (c :: (readWhile p n ss).1, (readWhile p n ss).2) := by
  rw [readWhile, if_pos hc]

/-- A run takes characters of its class, and is told by them and by the next symbol. -/
theorem readWhile_spec (p : CodePoint → Bool) (n : Nat) (ss : Symbols) :
    ∃ read, ss = read ++ (readWhile p n ss).2 ∧
      (∀ s ∈ read, ∃ c, s = .plain c ∧ p c = true) ∧
      ∀ after', after'.head? = (readWhile p n ss).2.head? →
        readWhile p n (read ++ after') = ((readWhile p n ss).1, after') := by
  have stop : ∀ {n ss}, (∀ c ∈ ss.head?, ∀ d, c = .plain d → n = 0 ∨ p d = false) →
      ∃ read, ss = read ++ (readWhile p n ss).2 ∧
        (∀ s ∈ read, ∃ c, s = .plain c ∧ p c = true) ∧
        ∀ after', after'.head? = (readWhile p n ss).2.head? →
          readWhile p n (read ++ after') = ((readWhile p n ss).1, after') := by
    intro n ss h
    rw [readWhile_stop h]
    refine ⟨[], rfl, by simp, fun after' ha => readWhile_stop ?_⟩
    rwa [List.nil_append, ha]
  induction n generalizing ss with
  | zero => exact stop fun _ _ _ _ => Or.inl rfl
  | succ n ih =>
    by_cases h : ∃ c rest, ss = .plain c :: rest ∧ p c = true
    · obtain ⟨c, rest, rfl, hc⟩ := h
      obtain ⟨read, hrest, hread, hafter⟩ := ih rest
      rw [readWhile_cons hc]
      refine ⟨.plain c :: read, by rw [List.cons_append, ← hrest], ?_, fun after' ha => ?_⟩
      · rintro s (_ | ⟨_, hs⟩)
        · exact ⟨c, rfl, hc⟩
        · exact hread s hs
      · rw [List.cons_append, readWhile_cons hc, hafter after' ha]
    · refine stop fun s hs d hd => Or.inr (Bool.eq_false_iff.2 fun hp => h ?_)
      obtain ⟨rest, rfl⟩ := List.head?_eq_some_iff.1 hs
      exact ⟨d, rest, by rw [hd], hp⟩

/-- What reads after a run of characters reads with them. -/
theorem Reads.after_readWhile {p : CodePoint → Bool} (hp : p '$' = false) (n : Nat)
    {G : Text → Symbols → Except Fault (β × Symbols)} (hG : ∀ t, Reads (G t)) :
    Reads fun ss => G (readWhile p n ss).1 (readWhile p n ss).2 := by
  have h : Reads fun ss => .ok (readWhile p n ss) := by
    intro ss x after h
    obtain ⟨read, hss, hread, hrest⟩ := readWhile_spec p n ss
    rw [Except.ok.injEq] at h
    rw [h] at hss hrest
    refine ⟨read, hss, ?_, fun after' ha => congrArg Except.ok (hrest after' ha)⟩
    intro hl
    obtain ⟨c, hc, hpc⟩ := hread _ (List.mem_of_getLast? hl)
    cases hc
    rw [hp] at hpc
    cases hpc
  exact h.bind hG

/-- A name goes on up to its terminator. -/
theorem readUntil_go_cons {terminator : CodePoint} {what : String} {name : Text} {s : Symbol}
    (hs : s ≠ .dangling) (rest : Symbols) :
    readUntil.go terminator what name (s :: rest) =
      if s = .plain terminator then
        if name = [] then fail (.missingName what) rest 1 else .ok (name, rest)
      else readUntil.go terminator what (name ++ s.written) rest := by
  cases s with
  | dangling => exact absurd rfl hs
  | plain | escaped => rfl

/-- A name is read the same, whatever follows its terminator. -/
theorem exists_of_readUntil_go {terminator : CodePoint} {what : String} {ss after : Symbols}
    {name x : Text} (h : readUntil.go terminator what name ss = .ok (x, after)) :
    ∃ read, ss = read ++ .plain terminator :: after ∧ ∀ after',
      readUntil.go terminator what name (read ++ .plain terminator :: after') =
        .ok (x, after') := by
  induction ss generalizing name with
  | nil =>
    rw [readUntil.go] at h
    split at h <;> exact absurd h fail_ne_ok
  | cons s rest ih =>
    have hs : s ≠ .dangling := by
      rintro rfl
      cases h
    rw [readUntil_go_cons hs] at h
    split at h
    · rename_i ht
      subst ht
      split at h
      · exact absurd h fail_ne_ok
      · rename_i hn
        cases h
        refine ⟨[], rfl, fun after' => ?_⟩
        rw [List.nil_append, readUntil_go_cons hs, if_pos rfl, if_neg hn]
    · rename_i ht
      obtain ⟨read, rfl, hrest⟩ := ih h
      refine ⟨s :: read, rfl, fun after' => ?_⟩
      rw [List.cons_append, readUntil_go_cons hs, if_neg ht, hrest]

/-- A name ends at its terminator. -/
theorem terminates_readUntil {terminator : CodePoint} (ht : terminator ≠ '$') (what : String) :
    Terminates (readUntil terminator what) := by
  intro ss x after h
  obtain ⟨read, hss, hrest⟩ := exists_of_readUntil_go h
  exact ⟨read, .plain terminator, hss, by simpa using ht, hrest⟩

end Backtracking
end Regex
end RouteTable
