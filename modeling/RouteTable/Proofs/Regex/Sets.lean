/-
# Sets end at their bracket

A set is told by what it reads (`terminates_readSet`).  Its members are read one after the
other, and a member looks at the symbol after it, for a `-`: so each way to go on has a
lemma, and `endsMembers_of_readMembers` goes by induction on what is left.
-/

import RouteTable.Proofs.Regex.Escapes

namespace RouteTable
namespace Regex
namespace Backtracking

/-- A member of a set is read as far as it goes. -/
theorem reads_readMember (s : Symbol) : Reads fun rest => readMember rest s := by
  cases s with
  | plain c => exact Reads.of_settles (Settles.ok _)
  | escaped c => exact Escape.reads_readInSet c
  | dangling =>
    intro ss x after h
    cases h

/-- Symbols that are read already do not count. -/
theorem readMembers_eq_drop (start : Nat) (members : List SetItem) (skip : Nat) (ss : Symbols) :
    readMembers start members skip ss = readMembers start members 0 (ss.drop skip) := by
  induction ss generalizing skip with
  | nil => cases skip <;> rfl
  | cons s rest ih =>
    cases skip with
    | zero => rfl
    | succ skip => exact ih skip

/-- Members are read on where the last one ends. -/
theorem readMembers_taken (start : Nat) (members : List SetItem) {rest after : Symbols}
    (h : after <:+ rest) :
    readMembers start members (taken rest after) rest = readMembers start members 0 after := by
  obtain ⟨read, rfl⟩ := h
  rw [readMembers_eq_drop, taken_append, List.drop_left]

section Members

variable {start : Nat} {members : List SetItem} {s : Symbol} {rest mid : Symbols} {first : SetItem}

/-- A member with no `-` after it. -/
theorem readMembers_single (hs : ¬(s = .plain ']' ∧ members ≠ []))
    (hfirst : readMember rest s = .ok (first, mid)) (hmid : ∀ t ∈ mid.head?, t ≠ .plain '-') :
    readMembers start members 0 (s :: rest) = readMembers start (first :: members) 0 mid := by
  rw [← readMembers_taken start _ ((reads_readMember s).suffix hfirst), readMembers, if_neg hs,
    hfirst]
  dsimp only [bind, Except.bind]
  split
  · exact absurd rfl (hmid _ rfl)
  · exact absurd rfl (hmid _ rfl)
  · exact absurd rfl (hmid _ rfl)
  · rfl

/-- A member and a `-` that ends the set. -/
theorem readMembers_dash (hs : ¬(s = .plain ']' ∧ members ≠ [])) {after : Symbols}
    (hfirst : readMember rest s = .ok (first, .plain '-' :: .plain ']' :: after)) :
    readMembers start members 0 (s :: rest) =
      .ok ((.code '-'.toNat :: first :: members).reverse, after) := by
  rw [readMembers, if_neg hs, hfirst]
  rfl

/-- Two members and a `-` between them. -/
theorem readMembers_range (hs : ¬(s = .plain ']' ∧ members ≠ [])) {t : Symbol} {after : Symbols}
    (ht : t ≠ .plain ']') {last r : SetItem} {mid : Symbols}
    (hfirst : readMember rest s = .ok (first, .plain '-' :: t :: mid))
    (hlast : readMember mid t = .ok (last, after)) (hr : range? first last = some r) :
    readMembers start members 0 (s :: rest) = readMembers start (r :: members) 0 after := by
  have hsuffix : after <:+ rest := by
    have h₁ := (reads_readMember s).suffix hfirst
    have h₂ := (reads_readMember t).suffix hlast
    exact (h₂.trans ((List.suffix_cons t mid).trans (List.suffix_cons _ _))).trans h₁
  rw [← readMembers_taken start _ hsuffix, readMembers, if_neg hs, hfirst]
  dsimp only [bind, Except.bind]
  split
  · rename_i he
    cases he
  · rename_i he
    cases he
    exact absurd rfl ht
  · rename_i he
    cases he
    rw [hlast]
    dsimp only
    rw [hr]
  · rename_i hne
    exact absurd rfl (hne t mid)

/-- A range that is accepted has its two members. -/
theorem exists_of_readMembers_range (hs : ¬(s = .plain ']' ∧ members ≠ [])) {t : Symbol}
    (ht : t ≠ .plain ']') {mid after : Symbols} {x : List SetItem}
    (hfirst : readMember rest s = .ok (first, .plain '-' :: t :: mid))
    (h : readMembers start members 0 (s :: rest) = .ok (x, after)) :
    ∃ last after₂ r, readMember mid t = .ok (last, after₂) ∧ range? first last = some r := by
  rw [readMembers, if_neg hs, hfirst] at h
  dsimp only [bind, Except.bind] at h
  split at h
  · rename_i he
    cases he
  · rename_i he
    cases he
    exact absurd rfl ht
  · rename_i he
    cases he
    cases hlast : readMember mid t with
    | error f =>
      rw [hlast] at h
      cases h
    | ok r =>
      obtain ⟨last, after₂⟩ := r
      rw [hlast] at h
      cases hr : range? first last with
      | none =>
        dsimp only at h
        rw [hr] at h
        exact absurd h fail_ne_ok
      | some r => exact ⟨last, after₂, r, rfl, hr⟩
  · rename_i hne
    exact absurd rfl (hne t mid)

end Members

/-- After `members`, those of `ss` up to the bracket before `after` make `x`, whatever
follows the bracket. -/
def EndsMembers (members x : List SetItem) (ss after : Symbols) : Prop :=
  ∃ read, ss = read ++ .plain ']' :: after ∧ ∀ start after',
    readMembers start members 0 (read ++ .plain ']' :: after') = .ok (x, after')

namespace EndsMembers

variable {members x : List SetItem} {s t : Symbol} {rest mid after : Symbols} {first : SetItem}

/-- A closing bracket ends the members. -/
theorem bracket (hm : members ≠ []) :
    EndsMembers members members.reverse (.plain ']' :: after) after := by
  refine ⟨[], rfl, fun start after' => ?_⟩
  rw [List.nil_append, readMembers, if_pos ⟨rfl, hm⟩]

theorem single (hs : ¬(s = .plain ']' ∧ members ≠ []))
    (hfirst : readMember rest s = .ok (first, mid))
    (hmid : ∀ t ∈ mid.head?, t ≠ .plain '-') (h : EndsMembers (first :: members) x mid after) :
    EndsMembers members x (s :: rest) after := by
  obtain ⟨r₁, hrest, -, h₁⟩ := reads_readMember s hfirst
  obtain ⟨r₂, hr₂, h₂⟩ := h
  refine ⟨s :: r₁ ++ r₂, by rw [hrest, hr₂]; simp, fun start after' => ?_⟩
  have hhead : (r₂ ++ .plain ']' :: after').head? = mid.head? := by
    rw [hr₂]
    exact head?_append_cons r₂ _ _ _
  rw [List.append_assoc, List.cons_append, readMembers_single hs (h₁ _ hhead) (by rwa [hhead])]
  exact h₂ start after'

/-- A dash before the closing bracket is a member. -/
theorem dash (hs : ¬(s = .plain ']' ∧ members ≠ []))
    (hfirst : readMember rest s = .ok (first, .plain '-' :: .plain ']' :: after)) :
    EndsMembers members (.code '-'.toNat :: first :: members).reverse (s :: rest) after := by
  obtain ⟨r₁, hrest, -, h₁⟩ := reads_readMember s hfirst
  refine ⟨s :: r₁ ++ [Symbol.plain '-'], by rw [hrest]; simp, fun start after' => ?_⟩
  rw [List.append_assoc, List.cons_append]
  exact readMembers_dash hs (h₁ _ rfl)

/-- Two members with a dash between them are a range. -/
theorem range (hs : ¬(s = .plain ']' ∧ members ≠ [])) (ht : t ≠ .plain ']') {last r : SetItem}
    {mid₂ : Symbols} (hfirst : readMember rest s = .ok (first, .plain '-' :: t :: mid))
    (hlast : readMember mid t = .ok (last, mid₂)) (hr : range? first last = some r)
    (h : EndsMembers (r :: members) x mid₂ after) : EndsMembers members x (s :: rest) after := by
  obtain ⟨r₁, hrest, -, h₁⟩ := reads_readMember s hfirst
  obtain ⟨r₂, hr₂, -, h₂⟩ := reads_readMember t hlast
  obtain ⟨r₃, hr₃, h₃⟩ := h
  refine ⟨s :: r₁ ++ Symbol.plain '-' :: t :: (r₂ ++ r₃), by rw [hrest, hr₂, hr₃]; simp,
    fun start after' => ?_⟩
  have hhead : (r₃ ++ .plain ']' :: after').head? = mid₂.head? := by
    rw [hr₃]
    exact head?_append_cons r₃ _ _ _
  have hfirst' := h₁ (.plain '-' :: t :: (r₂ ++ (r₃ ++ .plain ']' :: after'))) rfl
  rw [List.append_assoc, List.cons_append, List.cons_append, List.cons_append,
    List.append_assoc, readMembers_range hs ht hfirst' (h₂ _ hhead) hr]
  exact h₃ start after'

end EndsMembers

/-- The members of a set end at its bracket. -/
theorem endsMembers_of_readMembers {start : Nat} {members x : List SetItem} {ss after : Symbols}
    (h : readMembers start members 0 ss = .ok (x, after)) : EndsMembers members x ss after := by
  -- by induction on what is left, as a member is several symbols
  induction hn : ss.length using Nat.strongRecOn generalizing ss members with
  | _ n ih =>
  rcases ss with _ | ⟨s, rest⟩
  · exact absurd h failAt_ne_ok
  by_cases hs : s = .plain ']' ∧ members ≠ []
  · rw [readMembers, if_pos hs] at h
    cases h
    rw [hs.1]
    exact .bracket hs.2
  cases hfirst : readMember rest s with
  | error f =>
    rw [readMembers, if_neg hs, hfirst] at h
    cases h
  | ok r =>
    obtain ⟨first, mid⟩ := r
    have hlen : mid.length ≤ rest.length := ((reads_readMember s).suffix hfirst).length_le
    rw [List.length_cons] at hn
    by_cases hmid : ∀ t ∈ mid.head?, t ≠ .plain '-'
    · rw [readMembers_single hs hfirst hmid] at h
      exact .single hs hfirst hmid (ih mid.length (by omega) h rfl)
    obtain ⟨mid, rfl⟩ : ∃ mid', mid = .plain '-' :: mid' := by
      simpa [List.head?_eq_some_iff] using hmid
    rcases mid with _ | ⟨t, mid⟩
    · rw [readMembers, if_neg hs, hfirst] at h
      exact absurd (show failAt start .unterminatedSet [] = .ok (x, after) from h) failAt_ne_ok
    by_cases ht : t = .plain ']'
    · subst ht
      rw [readMembers_dash hs hfirst] at h
      cases h
      exact .dash hs hfirst
    · obtain ⟨last, mid₂, r, hlast, hr⟩ := exists_of_readMembers_range hs ht hfirst h
      rw [readMembers_range hs ht hfirst hlast hr] at h
      have hlen₂ : mid₂.length ≤ mid.length := ((reads_readMember t).suffix hlast).length_le
      simp only [List.length_cons] at hlen
      exact .range hs ht hfirst hlast hr (ih mid₂.length (by omega) h rfl)

/-- A set ends at its bracket, and its place matters only where it is refused. -/
theorem terminates_readSet : Terminates readSet := by
  intro ss x after h
  have body : ∀ {negated : Bool} {start : Nat} {rest : Symbols},
      ((readMembers start [] 0 rest).map fun r => ((negated, r.1), r.2)) = .ok (x, after) →
      ∃ read, rest = read ++ .plain ']' :: after ∧ ∀ start' after',
        ((readMembers start' [] 0 (read ++ .plain ']' :: after')).map
          fun r => ((negated, r.1), r.2)) = .ok (x, after') := by
    intro negated start rest h
    obtain ⟨⟨items, after⟩, hm, he⟩ := Outcome.map_eq_ok.1 h
    cases he
    obtain ⟨read, hrest, hread⟩ := endsMembers_of_readMembers hm
    exact ⟨read, hrest, fun start' after' => by rw [hread]; rfl⟩
  unfold readSet at h
  dsimp only at h
  split at h
  · obtain ⟨read, rfl, hread⟩ := body h
    exact ⟨.plain '^' :: read, .plain ']', rfl, by decide, fun after' => hread _ after'⟩
  · rename_i hne
    obtain ⟨read, rfl, hread⟩ := body h
    refine ⟨read, .plain ']', rfl, by decide, fun after' => ?_⟩
    unfold readSet
    dsimp only
    split
    · rename_i he
      cases read with
      | nil => cases he
      | cons s read =>
        cases he
        exact absurd rfl (hne _)
    · exact hread _ after'

end Backtracking
end Regex
end RouteTable
