/-
# Signs of repetition

What is said of greed is told by itself, or by the next symbol.  Bounds are not: braces
that hold no bounds are characters, and what they hold is read again.  But a character that
is no digit, no comma and no closing brace ends what may be bounds, so what bounds a
repetition is told before such a character (`Bounds.read?_before`).
-/

import RouteTable.Proofs.Regex.Readers

namespace RouteTable
namespace Regex
namespace Backtracking

/-- What is said of greed is told by itself, or by the next symbol. -/
theorem reads_readGreed : Reads fun ss => .ok (readGreed ss) := by
  intro ss x after h
  rw [Except.ok.injEq] at h
  by_cases hu : ss.head? = some (.plain '?') ∨ ss.head? = some (.plain '+')
  · rcases hu with hu | hu
    · obtain ⟨rest, rfl⟩ := List.head?_eq_some_iff.1 hu
      cases h
      exact ⟨[.plain '?'], rfl, by simp, fun after' _ => rfl⟩
    · obtain ⟨rest, rfl⟩ := List.head?_eq_some_iff.1 hu
      cases h
      exact ⟨[.plain '+'], rfl, by simp, fun after' _ => rfl⟩
  · rw [not_or] at hu
    have hread : ∀ ss : Symbols, ss.head? ≠ some (.plain '?') → ss.head? ≠ some (.plain '+') →
        readGreed ss = (.greedy, ss) := by
      intro ss h₁ h₂
      unfold readGreed
      split
      · exact absurd rfl h₁
      · exact absurd rfl h₂
      · rfl
    rw [hread ss hu.1 hu.2] at h
    cases h
    exact ⟨[], rfl, by simp, fun after' ha =>
      congrArg Except.ok (hread after' (by rw [ha]; exact hu.1) (by rw [ha]; exact hu.2))⟩

/-- No more is read than there is. -/
theorem readWhile_of_length_le {p : CodePoint → Bool} {n : Nat} {ss : Symbols} (h : ss.length ≤ n) :
    readWhile p n ss = readWhile p ss.length ss := by
  induction ss generalizing n with
  | nil => cases n <;> rfl
  | cons s ss ih =>
    obtain ⟨n, rfl⟩ : ∃ m, n = m + 1 := ⟨n - 1, by rw [List.length_cons] at h; omega⟩
    cases s with
    | plain c =>
      rw [List.length_cons, readWhile, readWhile]
      rw [ih (by rw [List.length_cons] at h; omega)]
    | escaped | dangling => rfl

/-- A run ends before a character that is not of the class. -/
theorem readWhile_before {p : CodePoint → Bool} {d : CodePoint} (hd : p d = false) (n : Nat)
    (v r : Symbols) : readWhile p n (v ++ .plain d :: r) =
      ((readWhile p n v).1, (readWhile p n v).2 ++ .plain d :: r) := by
  induction n generalizing v with
  | zero => simp [readWhile]
  | succ n ih =>
    cases v with
    | nil => simp [readWhile, hd]
    | cons s v =>
      cases s with
      | plain c =>
        rw [List.cons_append, readWhile, readWhile, ih]
        split <;> rfl
      | escaped | dangling => rfl

namespace Bounds

/-- What is no digit, no comma and no closing brace ends what may be bounds. -/
def Ends (d : CodePoint) : Prop := d.isDigit = false ∧ d ≠ ',' ∧ d ≠ '\x7d'

/-- The end of braces that hold two numerals. -/
def endOf (rest : Symbols) (q : Text × Text) : Symbols → Option ((Text × Text) × Symbols)
  | .plain '\x7d' :: after => if taken rest after = 1 then none else some (q, after)
  | _ => none

/-- The numerals in braces whose first one is read, and what follows them. -/
def numerals (low : Text) : Symbols → (Text × Text) × Symbols
  | .plain ',' :: after =>
    let high := readWhile CodePoint.isDigit after.length after
    ((low, high.1), high.2)
  | after => ((low, low), after)

/-- The numerals in braces are digits, and digits behind a comma. -/
theorem split?_eq (rest : Symbols) :
    split? rest =
      let low := readWhile CodePoint.isDigit rest.length rest
      endOf rest (numerals low.1 low.2).1 (numerals low.1 low.2).2 := by
  rw [split?]
  obtain ⟨⟨low, after⟩, hlow⟩ : ∃ q, readWhile CodePoint.isDigit rest.length rest = q := ⟨_, rfl⟩
  rw [hlow]
  rfl

/-- What is left of a run is the end of what it is read from. -/
theorem suffix_readWhile (p : CodePoint → Bool) (n : Nat) (ss : Symbols) :
    (readWhile p n ss).2 <:+ ss := by
  obtain ⟨read, hss, -⟩ := readWhile_spec p n ss
  exact ⟨read, hss.symm⟩

/-- What is left behind braces is the end of what they are read from. -/
theorem suffix_of_split? {q : Text × Text} {rest after : Symbols}
    (h : split? rest = some (q, after)) : after <:+ rest := by
  have hnumerals : ∀ low w, (numerals low w).2 <:+ w := by
    intro low w
    unfold numerals
    split
    · exact (suffix_readWhile _ _ _).trans (List.suffix_cons _ _)
    · exact List.suffix_rfl
  have hend : ∀ {q' : Text × Text} {w : Symbols}, endOf rest q' w = some (q, after) →
      after <:+ w := by
    intro q' w hw
    unfold endOf at hw
    split at hw
    · split at hw
      · cases hw
      · cases hw
        exact List.suffix_cons _ _
    · cases hw
  rw [split?_eq] at h
  exact ((hend h).trans (hnumerals _ _)).trans (suffix_readWhile _ _ _)

/-- What bounds leave is an end of what was there. -/
theorem suffix_of_read? {c : CodePoint} {rest after : Symbols} {b : Bounds}
    (h : read? c rest = .ok (some (b, after))) : after <:+ rest := by
  unfold read? at h
  split at h
  · cases h
    exact List.suffix_rfl
  · cases h
    exact List.suffix_rfl
  · cases h
    exact List.suffix_rfl
  · unfold readBraces? at h
    split at h
    · cases h
    · rename_i low high after' hs
      have ht := suffix_of_split? hs
      dsimp only at h
      split at h
      · cases h
      · obtain ⟨least, -, h⟩ := Outcome.bind_eq_ok.1 h
        obtain ⟨greatest, -, h⟩ := Outcome.bind_eq_ok.1 h
        split at h
        · obtain ⟨_, hf, _⟩ := Outcome.bind_eq_ok.1 h
          exact absurd hf failAt_ne_ok
        · cases h
          exact ht
  · cases h

/-- Braces end where they do, whatever follows a parenthesis or the end. -/
theorem endOf_before {d : CodePoint} (hd : Ends d) (v w r : Symbols) (q : Text × Text) :
    endOf (v ++ .plain d :: r) q (w ++ .plain d :: r) =
      (endOf v q w).map fun q => (q.1, q.2 ++ .plain d :: r) := by
  have htaken : ∀ w : Symbols, taken (v ++ .plain d :: r) (w ++ .plain d :: r) = taken v w := by
    intro w
    simp only [taken, List.length_append]
    omega
  have hother : ∀ {rest w : Symbols} {s : Symbol}, s ≠ .plain '\x7d' →
      endOf rest q (s :: w) = none := by
    intro rest w s hs
    unfold endOf
    split
    · rename_i he
      cases he
      exact absurd rfl hs
    · rfl
  cases w with
  | nil => exact hother (by simpa using hd.2.2)
  | cons s w =>
    by_cases hs : s = .plain '\x7d'
    · subst hs
      rw [List.cons_append, endOf, endOf, htaken]
      split <;> rfl
    · rw [List.cons_append, hother hs, hother hs]
      rfl

/-- Whether braces hold bounds is told before any character that ends them. -/
theorem split?_before {d : CodePoint} (hd : Ends d) (v r : Symbols) :
    split? (v ++ .plain d :: r) = (split? v).map fun q => (q.1, q.2 ++ .plain d :: r) := by
  have hread : ∀ {v after : Symbols} {t : Text},
      readWhile CodePoint.isDigit v.length v = (t, after) →
      readWhile CodePoint.isDigit (v ++ .plain d :: r).length (v ++ .plain d :: r) =
        (t, after ++ .plain d :: r) := by
    intro v after t h
    rw [readWhile_before hd.1, @readWhile_of_length_le _ (v ++ .plain d :: r).length _ (by simp), h]
  have hnumerals : ∀ (low : Text) (after : Symbols), numerals low (after ++ .plain d :: r) =
      ((numerals low after).1, (numerals low after).2 ++ .plain d :: r) := by
    intro low after
    have hother : ∀ {s : Symbol} {after : Symbols}, s ≠ .plain ',' →
        numerals low (s :: after) = ((low, low), s :: after) := by
      intro s after hs
      unfold numerals
      split
      · rename_i he
        cases he
        exact absurd rfl hs
      · rfl
    cases after with
    | nil => exact hother (by simpa using hd.2.1)
    | cons s after =>
      by_cases hs : s = .plain ','
      · subst hs
        rw [List.cons_append, numerals, numerals, hread rfl]
      · rw [List.cons_append, hother hs, hother hs]
        rfl
  rw [split?_eq, split?_eq, hread rfl]
  dsimp only
  rw [hnumerals]
  exact endOf_before hd v _ r _

/-- The bounds that digits write, where those that are out of order are refused at `place`. -/
def check (place : Nat) (low high : Text) (after : Symbols) :
    Except Fault (Option (Bounds × Symbols)) :=
  (ofDigits low).bind fun least => (ofDigits high).bind fun greatest =>
    if greatest.any (· < least.getD 0) then failAt place .leastOverGreatest after
    else .ok (some (⟨least.getD 0, greatest⟩, after))

section Braces

variable {d : CodePoint} {v w r : Symbols} {low high : Text}

/-- Without numerals braces are no bounds. -/
theorem readBraces?_of_none (hd : Ends d) (hs : split? v = none) :
    readBraces? (v ++ .plain d :: r) = .ok none := by
  rw [readBraces?, split?_before hd, hs]
  rfl

/-- The bounds are checked where they are read, whatever follows. -/
theorem readBraces?_of_some (hd : Ends d) (hs : split? v = some ((low, high), w)) :
    readBraces? (v ++ .plain d :: r) =
      check (left (v ++ .plain d :: r)) low high (w ++ .plain d :: r) := by
  have hne : w ++ .plain d :: r ≠ [.dangling] := by
    intro he
    cases w with
    | nil => cases he
    | cons s w => simp at he
  rw [readBraces?, split?_before hd, hs, check]
  dsimp only [Option.map]
  rw [if_neg hne]
  cases ofDigits low with
  | error f => rfl
  | ok least =>
    cases ofDigits high with
    | error f => rfl
    | ok greatest =>
      simp only [bind, Except.bind, failAt, if_neg hne]
      split <;> rfl

end Braces

/-- What bounds a repetition is told before any character that ends braces. -/
theorem read?_before {d c : CodePoint} (hd : Ends d) {v r : Symbols} {q : Option (Bounds × Symbols)}
    (h : read? c (v ++ Symbol.plain d :: r) = .ok q) :
    (q = none ∧ ∀ r', read? c (v ++ Symbol.plain d :: r') = .ok none) ∨
      ∃ b w, q = some (b, w ++ Symbol.plain d :: r) ∧
        ∀ r', read? c (v ++ Symbol.plain d :: r') = .ok (some (b, w ++ Symbol.plain d :: r')) := by
  unfold read? at h
  split at h
  · cases h
    exact Or.inr ⟨_, v, rfl, fun r' => rfl⟩
  · cases h
    exact Or.inr ⟨_, v, rfl, fun r' => rfl⟩
  · cases h
    exact Or.inr ⟨_, v, rfl, fun r' => rfl⟩
  · cases hs : split? v with
    | none =>
      rw [readBraces?_of_none hd hs] at h
      cases h
      refine Or.inl ⟨rfl, fun r' => ?_⟩
      rw [read?, readBraces?_of_none hd hs]
    | some q =>
      obtain ⟨⟨low, high⟩, w⟩ := q
      rw [readBraces?_of_some hd hs] at h
      obtain ⟨least, hleast, h⟩ := Outcome.bind_eq_ok.1 h
      obtain ⟨greatest, hgreatest, h⟩ := Outcome.bind_eq_ok.1 h
      split at h
      · exact absurd h failAt_ne_ok
      · rename_i hle
        cases h
        refine Or.inr ⟨_, w, rfl, fun r' => ?_⟩
        rw [read?, readBraces?_of_some hd hs, check, hleast, hgreatest]
        dsimp only [Except.bind]
        rw [if_neg hle]
  · cases h
    refine Or.inl ⟨rfl, fun r' => ?_⟩
    unfold read?
    split <;> first | rfl | contradiction

end Bounds

end Backtracking
end Regex
end RouteTable
