/-
# What opens a parenthesis

What stands after an opening parenthesis ends with the symbol that tells it: a colon, a
sign, the end of a name or a closing parenthesis.  A parenthesis that just captures reads
nothing, and is told by the symbol that follows, which is no `?` (`Parenthesis.reads_read`).
-/

import RouteTable.Proofs.Regex.Readers

namespace RouteTable
namespace Regex
namespace Backtracking

variable {α : Type}

/-! ### Flags -/

/-- What is no flag is refused. -/
theorem noFlag_ne_ok {otherwise : Cause} {rest : Symbols} {s : Symbol} {x : α} :
    noFlag otherwise rest s ≠ .ok x := by
  cases s with
  | plain | escaped => exact fail_ne_ok
  | dangling => nofun

/-- Flags that are turned off end at a colon. -/
theorem terminates_readFlagsOff (on off : List Flag) : Terminates (readFlagsOff on off) := by
  intro ss x after h
  induction ss generalizing off with
  | nil => exact absurd h fail_ne_ok
  | cons s rest ih =>
    rw [readFlagsOff] at h
    split at h
    · rename_i hs
      split at h
      · exact absurd h fail_ne_ok
      · rename_i hl
        split at h
        · exact absurd h fail_ne_ok
        · rename_i ho
          cases h
          refine .single (by rw [hs]; decide) fun rest => ?_
          rw [readFlagsOff, if_pos hs, if_neg hl, if_neg ho]
    · rename_i hs
      cases hf : Flag.ofSymbol? s with
      | none =>
        rw [hf] at h
        exact absurd h noFlag_ne_ok
      | some f =>
        rw [hf] at h
        dsimp only at h
        split at h
        · exact absurd h fail_ne_ok
        · rename_i hc
          refine (ih (f :: off) h).cons fun rest => ?_
          rw [readFlagsOff, if_neg hs, hf]
          dsimp only
          rw [if_neg hc]

/-- The first flag that is turned off ends as the others do. -/
theorem terminates_readFirstFlagOff (on : List Flag) : Terminates (readFirstFlagOff on) := by
  intro ss x after h
  cases ss with
  | nil => exact absurd h fail_ne_ok
  | cons s rest =>
    rw [readFirstFlagOff] at h
    cases hf : Flag.ofSymbol? s with
    | none =>
      rw [hf] at h
      exact absurd h noFlag_ne_ok
    | some f =>
      rw [hf] at h
      dsimp only at h
      refine (terminates_readFlagsOff on [] h).congr fun rest => ?_
      rw [readFirstFlagOff, hf]

/-- Flags end at a colon, or at a parenthesis. -/
theorem terminates_readFlagsOn (on : List Flag) : Terminates (readFlagsOn on) := by
  intro ss x after h
  induction ss generalizing on with
  | nil => exact absurd h fail_ne_ok
  | cons s rest ih =>
    rw [readFlagsOn] at h
    split at h
    · rename_i hs
      cases h
      refine .single (by rw [hs]; decide) fun rest => ?_
      rw [readFlagsOn, if_pos hs]
    rename_i hs
    split at h
    · rename_i hsign
      split at h
      · exact absurd h fail_ne_ok
      rename_i hl
      split at h
      · rename_i hcolon
        cases h
        refine .single (by rw [hcolon]; decide) fun rest => ?_
        rw [readFlagsOn, if_neg hs, if_pos hsign, if_neg hl, if_pos hcolon]
      · rename_i hcolon
        refine (terminates_readFirstFlagOff on h).cons fun rest => ?_
        rw [readFlagsOn, if_neg hs, if_pos hsign, if_neg hl, if_neg hcolon]
    · rename_i hsign
      cases hf : Flag.ofSymbol? s with
      | none =>
        rw [hf] at h
        exact absurd h noFlag_ne_ok
      | some f =>
        rw [hf] at h
        dsimp only at h
        split at h
        · exact absurd h fail_ne_ok
        rename_i hb
        split at h
        · exact absurd h fail_ne_ok
        rename_i ha
        refine (ih (f :: on) h).cons fun rest => ?_
        rw [readFlagsOn, if_neg hs, if_neg hsign, hf]
        dsimp only
        rw [if_neg hb, if_neg ha]

/-! ### Parentheses -/

namespace Parenthesis

/-- An extension that is unknown is refused. -/
theorem unknown_ne_ok {start : Text} {rest : Symbols} {s : Symbol} {x : α} :
    unknown start rest s ≠ .ok x := by
  cases s with
  | plain | escaped => exact fail_ne_ok
  | dangling => nofun

/-- A comment goes on up to a closing parenthesis. -/
theorem skipComment_cons (start : Nat) {s : Symbol} (hs : s ≠ .dangling) (rest : Symbols) :
    skipComment start (s :: rest) =
      if s = .plain ')' then .ok rest else skipComment start rest := by
  cases s with
  | dangling => exact absurd rfl hs
  | plain | escaped => rfl

/-- A comment ends at its parenthesis. -/
theorem terminates_skipComment (start : Nat) :
    Terminates fun ss => (skipComment start ss).map fun after => (Parenthesis.comment, after) := by
  intro ss x after h
  induction ss with
  | nil =>
    obtain ⟨_, hs, -⟩ := Outcome.map_eq_ok.1 h
    exact absurd hs failAt_ne_ok
  | cons s rest ih =>
    have hd : s ≠ .dangling := by
      rintro rfl
      cases h
    dsimp only at h
    rw [skipComment_cons start hd] at h
    split at h
    · rename_i hp
      cases h
      refine .single (by rw [hp]; decide) fun rest => ?_
      rw [skipComment_cons start hd, if_pos hp]
      rfl
    · rename_i hp
      refine (ih h).cons fun rest => ?_
      rw [skipComment_cons start hd, if_neg hp]

/-- The name of a group ends at its terminator. -/
theorem terminates_readName {terminator : CodePoint} (ht : terminator ≠ '$') :
    Terminates (readName terminator) := by
  refine (congrArg Terminates (funext fun rest => ?_)).mp
    ((terminates_readUntil ht "group name").bind
      (G := fun name after =>
        if !Text.isIdentifier name then fail (.badGroupName name) after (name.length + 1)
        else .ok (name, after))
      fun name => Settles.fail.ite (Settles.ok name))
  rw [readName]
  cases readUntil terminator "group name" rest with
  | error f => rfl
  | ok r =>
    dsimp only [Except.bind, bind]
    split
    · unfold fail failAt failAtBackslash
      split <;> rfl
    · rfl

/-- A group with a name, or a reference to it, ends at the sign behind the name. -/
theorem terminates_readNamed : Terminates readNamed := by
  intro ss x after h
  unfold readNamed at h
  have hname : ∀ {terminator : CodePoint} (_ : terminator ≠ '$') (g : Text → Parenthesis),
      Terminates fun rest => (readName terminator rest).map fun r => (g r.1, r.2) :=
    fun ht g => (terminates_readName ht).map g
  split at h
  · exact (hname (by decide) (fun n => .opens (.capture n)) h).cons fun _ => rfl
  · exact (hname (by decide) (fun n => .reference n) h).cons fun _ => rfl
  · exact absurd h fail_ne_ok
  · exact absurd h unknown_ne_ok

/-- What looks behind is told by one sign. -/
theorem terminates_readBehind : Terminates readBehind := by
  intro ss x after h
  unfold readBehind at h
  split at h
  · cases h
    exact .single (by decide) fun _ => rfl
  · cases h
    exact .single (by decide) fun _ => rfl
  · exact absurd h fail_ne_ok
  · exact absurd h unknown_ne_ok

/-- The parenthesis that flags open is told by them. -/
theorem terminates_flags : Terminates fun rest =>
    (readFlagsOn [] rest).map fun r => (FlagGroup.parenthesis r.1, r.2) :=
  (terminates_readFlagsOn []).map FlagGroup.parenthesis

/-- **An extension ends at the symbol that tells it.** -/
theorem terminates_readExtension (start : Nat) : Terminates (readExtension start) := by
  intro ss x after h
  unfold readExtension at h
  split at h
  · exact absurd h fail_ne_ok
  · exact (terminates_readNamed h).cons fun _ => rfl
  · cases h
    exact .single (by decide) fun _ => rfl
  · exact (terminates_skipComment start h).cons fun _ => rfl
  · cases h
    exact .single (by decide) fun _ => rfl
  · cases h
    exact .single (by decide) fun _ => rfl
  · exact (terminates_readBehind h).cons fun _ => rfl
  · have hname := (terminates_readUntil (by decide : scalar ')' ≠ '$') "group name").map
      fun t => Parenthesis.opens (.ifGroup t)
    exact (hname h).cons fun _ => rfl
  · cases h
    exact .single (by decide) fun _ => rfl
  · rename_i s rest h₁ h₂ h₃ h₄ h₅ h₆ h₇ h₈
    split at h
    · rename_i hs
      refine (terminates_flags h).congr fun rest => ?_
      rw [readExtension, if_pos hs]
      all_goals assumption
    · exact absurd h unknown_ne_ok

/-- What starts with a parenthesis is told by itself, and by whether a `?` follows. -/
theorem reads_read (start : Nat) : Reads (Parenthesis.read start) := by
  intro ss x after h
  by_cases hq : ss.head? = some (.plain '?')
  · obtain ⟨rest, rfl⟩ := List.head?_eq_some_iff.1 hq
    obtain ⟨read, s, rfl, hs, hrest⟩ := terminates_readExtension start h
    refine ⟨.plain '?' :: (read ++ [s]), by simp, ?_, fun after' _ => ?_⟩
    · rw [← List.cons_append, List.getLast?_concat]
      simpa using hs
    · rw [List.cons_append, List.append_assoc]
      exact hrest after'
  · have hread : ∀ ss : Symbols, ss.head? ≠ some (.plain '?') →
        Parenthesis.read start ss = .ok (.opens (.capture none), ss) := by
      intro ss hss
      unfold Parenthesis.read
      split
      · exact absurd rfl hss
      · rfl
    rw [hread ss hq] at h
    cases h
    exact ⟨[], rfl, by simp, fun after' ha => hread after' (by rwa [ha])⟩

end Parenthesis

end Backtracking
end Regex
end RouteTable
