/-
# The group of a capture

Text around the groups opens and closes no group (`Mute`), and a group is read alike
wherever it stands.  So a capture leaves the marks of one group in an expression exactly if
its group does so by itself (`Capture.oneGroup_of_ends`, `Capture.exists_ends_of_oneGroup`).
-/

import RouteTable.Proofs.Pattern.Grammar
import RouteTable.Proofs.Pattern.Landings
import RouteTable.Proofs.Regex.Passing

namespace RouteTable
namespace Pattern

open Regex Regex.Backtracking

/-! ### Text around the groups -/

/-- A symbol that stands for a character is read by itself. -/
theorem step_literal (c : CodePoint) (stack : List (Bool × Flags)) (rest : Symbols) :
    Outline.step ⟨.none, stack⟩ (.literal c) rest = .ok (⟨.none, stack⟩, rest) := by
  unfold Symbol.literal
  split
  · rename_i hc
    rw [Outline.step, Escape.read_of_isSpecial hc]
    rfl
  · rename_i hc
    rw [Bool.not_eq_true] at hc
    have hchar : Outline.char ⟨.none, stack⟩ c rest = .ok (⟨.none, stack⟩, rest) := by
      rw [Outline.char_of_not_mem, Bounds.read?_of_not_isSpecial hc]
      · rfl
      · intro hmem
        simp only [List.mem_cons, List.not_mem_nil, or_false] at hmem
        rcases hmem with rfl | rfl | rfl | rfl | rfl | rfl | rfl <;> cases hc
    exact hchar

/-- The opening of a parenthesis that does not capture is read at once. -/
theorem step_opening (stack : List (Bool × Flags)) (rest : Symbols) :
    Outline.step ⟨.none, stack⟩ (.plain '(') (.plain '?' :: .plain ':' :: rest) =
      .ok (⟨.none, (false, .none) :: stack⟩, rest) := rfl

/-- A sign of repetition is read by itself where no other follows. -/
theorem step_sign {c : CodePoint} {b : Bounds} {rest : Symbols}
    (hc : c ∉ [scalar '(', scalar ')', scalar '[', scalar '|', scalar '.', scalar '^', scalar '$'])
    (hb : Bounds.read? c rest = .ok (some (b, rest))) (hr : Unsigned rest)
    (stack : List (Bool × Flags)) :
    Outline.step ⟨.none, stack⟩ (.plain c) rest = .ok (⟨.none, stack⟩, rest) := by
  have hchar : Outline.char ⟨.none, stack⟩ c rest = .ok (⟨.none, stack⟩, rest) := by
    rw [Outline.char_of_not_mem hc, hb]
    simp [Except.map, readGreed_of_unsigned hr]
  exact hchar

/-- A text is read from one outline to another, and opens and closes no group. -/
structure Mute (t : Text) (o o' : Outline) : Prop where
  whole : .dangling ∉ Symbol.ofText t
  passes : ∀ rest, Unsigned rest → o.Passes (Symbol.ofText t ++ rest) [] o' rest

namespace Mute

variable {t u : Text} {o o₁ o' : Outline} {stack : List (Bool × Flags)}

theorem append (ht : Mute t o o₁) (hu : Mute u o₁ o') (hs : Unsigned (Symbol.ofText u)) :
    Mute (t ++ u) o o' where
  whole := by
    rw [Symbol.ofText_append ht.whole, List.mem_append]
    exact fun h => h.elim ht.whole hu.whole
  passes := by
    intro rest hr
    rw [Symbol.ofText_append ht.whole, List.append_assoc]
    exact (ht.passes _ (hs.append hr)).trans (hu.passes rest hr)

theorem nil (o : Outline) : Mute [] o o where
  whole := by simp [Symbol.ofText]
  passes := fun rest _ => .refl o rest

theorem text (t : Text) : Mute (escapeLiteral t) ⟨.none, stack⟩ ⟨.none, stack⟩ where
  whole := (Emits.text t (.empty .strict)).whole
  passes := by
    intro rest _
    rw [Emits.ofText_escapeLiteral]
    induction t with
    | nil => exact .refl _ _
    | cons c t ih => exact .muteStep (step_literal c stack _) (by simp [Outline.mark?]) ih

/-- The opening of a parenthesis that does not capture. -/
theorem opening : Mute "(?:".text ⟨.none, stack⟩ ⟨.none, (false, .none) :: stack⟩ where
  whole := by decide
  passes := by
    intro rest _
    exact .muteStep (step_opening stack rest) (by simp [Outline.mark?]) (.refl _ _)

/-- A modifier is mute. -/
theorem modifier (m : Modifier) : Mute m.text ⟨.none, stack⟩ ⟨.none, stack⟩ where
  whole := by cases m <;> decide
  passes := by
    intro rest hr
    have sign : ∀ {c b},
      c ∉ [scalar '(', scalar ')', scalar '[', scalar '|', scalar '.', scalar '^', scalar '$'] →
        Bounds.read? c rest = .ok (some (b, rest)) →
          Outline.Passes ⟨.none, stack⟩ (.plain c :: rest) [] ⟨.none, stack⟩ rest := by
      intro c b hc hb
      exact .muteStep (step_sign hc hb hr stack) (by simp [Outline.mark?]) (.refl _ _)
    cases m with
    | once => exact .refl _ _
    | optional | star | plus => exact sign (by decide) rfl

/-- The closing of a parenthesis that does not capture, and its modifier. -/
theorem closing (m : Modifier) :
    Mute (scalar ')' :: m.text) ⟨.none, (false, .none) :: stack⟩ ⟨.none, stack⟩ where
  whole := by cases m <;> decide
  passes := by
    intro rest hr
    have hsymbols : Symbol.ofText (scalar ')' :: m.text) = .plain ')' :: Symbol.ofText m.text := rfl
    rw [hsymbols, List.cons_append]
    exact .muteStep (Outline.step_close _ _ _ _ _) (by simp [Outline.mark?])
      ((modifier m).passes rest hr)

end Mute

theorem unsigned_escapeLiteral (t : Text) : Unsigned (Symbol.ofText (escapeLiteral t)) :=
  (Emits.text t (.empty .strict)).unsigned

namespace Capture

variable {c : Capture} {stack : List (Bool × Flags)}

/-- The parentheses around the group of a capture. -/
def outside (c : Capture) : List (Bool × Flags) := if c.isBare then [] else [(false, .none)]

/-- What stands before the group of a capture is mute. -/
theorem mute_front (c : Capture) : Mute c.front Outline.start ⟨.none, c.outside⟩ := by
  unfold front outside
  split
  · exact .nil _
  · exact Mute.opening.append (.text c.lead) (unsigned_escapeLiteral c.lead)

/-- What stands behind the group of a capture is mute. -/
theorem mute_behind (c : Capture) : Mute c.behind ⟨.none, c.outside⟩ Outline.start := by
  have closing : ∀ m : Modifier, Mute (escapeLiteral c.trail ++ scalar ')' :: m.text)
      ⟨.none, [(false, .none)]⟩ Outline.start := by
    intro m
    refine (Mute.text c.trail).append (.closing m) ?_
    have hsymbols : Symbol.ofText (scalar ')' :: m.text) = .plain ')' :: Symbol.ofText m.text := rfl
    rw [hsymbols]
    exact unsigned_of_head (by decide) (by decide) _
  unfold behind outside
  split
  · exact .modifier c.modifier
  · cases c.modifier with
    | once | plus => exact closing .once
    | optional | star => exact closing .optional

end Capture

/-- A text whose parentheses are closed ends in no backslash of its own. -/
theorem Closes.whole {d : Nat} {t : Text} (h : Closes d t) : .dangling ∉ Symbol.ofText t := by
  have plain : ∀ {c : CodePoint} {t : Text}, c ≠ '\\' → .dangling ∉ Symbol.ofText t →
      .dangling ∉ Symbol.ofText (c :: t) := by
    intro c t hc ht
    have hsymbols : Symbol.ofText (c :: t) = .plain c :: Symbol.ofText t := by
      rw [Symbol.ofText]
      · exact fun h => absurd h hc
      · exact fun _ _ h => absurd h hc
    rw [hsymbols]
    simpa using ht
  induction h with
  | nil => simp [Symbol.ofText]
  | escape _ ih =>
    rw [Symbol.ofText]
    simpa using ih
  | opens _ ih => exact plain (by decide) ih
  | closes _ ih => exact plain (by decide) ih
  | other hc _ ih => exact plain (by rintro rfl; exact hc (by simp)) ih

theorem whole_append {t u : Text} (ht : .dangling ∉ Symbol.ofText t)
    (hu : .dangling ∉ Symbol.ofText u) : .dangling ∉ Symbol.ofText (t ++ u) := by
  rw [Symbol.ofText_append ht, List.mem_append]
  exact fun h => h.elim ht hu

theorem whole_parenthesised {t : Text} (ht : .dangling ∉ Symbol.ofText t) :
    .dangling ∉ Symbol.ofText (parenthesised "(?:" t) :=
  whole_append (whole_append (by decide) ht) (by decide)

/-- The first symbol that is plain is the first character. -/
theorem head?_of_ofText {t : Text} {c : CodePoint} (h : (Symbol.ofText t).head? = some (.plain c)) :
    t.head? = some c := by
  obtain ⟨ss, hss⟩ := List.head?_eq_some_iff.1 h
  rw [← Symbol.flatMap_written_ofText t, hss]
  rfl

namespace Capture

variable {c : Capture}

/-- What stands in the group of a capture ends in no backslash. -/
theorem whole_inner (hb : IsBody c.body) : .dangling ∉ Symbol.ofText c.inner := by
  have hbody := hb.closes.whole
  have hrun := whole_parenthesised hbody
  have literal : ∀ t, .dangling ∉ Symbol.ofText (escapeLiteral t) :=
    fun t => (Emits.text t (.empty .strict)).whole
  have hruns : .dangling ∉ Symbol.ofText (parenthesised "(?:" c.body ++
      (parenthesised "(?:" (escapeLiteral c.trail ++ escapeLiteral c.lead ++
        parenthesised "(?:" c.body) ++ [scalar '*'])) :=
    whole_append hrun (whole_append (whole_parenthesised
      (whole_append (whole_append (literal _) (literal _)) hrun)) (by decide))
  unfold inner
  split
  · exact hbody
  · cases c.modifier with
    | once | optional => exact hbody
    | star | plus => exact hruns

/-- What stands in the group of a capture does not say what kind of parenthesis it is. -/
theorem head?_inner (hb : IsBody c.body) :
    (Symbol.ofText c.inner).head? ≠ some (.plain '?') := by
  intro h
  have hinner := head?_of_ofText h
  unfold inner at hinner
  split at hinner
  · exact hb.head_ne hinner
  · cases hm : c.modifier with
    | once | optional =>
      rw [hm] at hinner
      exact hb.head_ne hinner
    | star | plus =>
      rw [hm] at hinner
      cases hinner

/-- The symbols of a group are its parentheses and the symbols inside. -/
theorem ofText_own (hb : IsBody c.body) :
    Symbol.ofText c.own = .plain '(' :: (Symbol.ofText c.inner ++ [Symbol.plain ')']) := by
  have h := Emits.ofText_capture (whole_inner hb) .once
  rwa [Modifier.text, List.append_nil, captureSymbols] at h

/-- What is emitted for a capture starts with a parenthesis. -/
theorem exists_emit_eq_cons (c : Capture) : ∃ t, c.emit = scalar '(' :: t := by
  rw [emit_eq, front]
  split
  · exact ⟨_, rfl⟩
  · exact ⟨_, rfl⟩

/-- The group of a capture ends in no backslash. -/
theorem whole_own (hb : IsBody c.body) : .dangling ∉ Symbol.ofText c.own := by
  rw [ofText_own hb]
  simp [whole_inner hb]

/-- A text is one group if it can be passed as one. -/
theorem oneGroup_iff {t : Text} : OneGroup t ↔ ∃ o', Outline.start.Passes (Symbol.ofText t)
    [(true, left (Symbol.ofText t)), (false, 1)] o' [] := by
  rw [OneGroup, Outline.marks, Outline.marksWith_eq_some_iff, left_ofText]

/-- The symbols of a capture before others. -/
def symbolsBefore (c : Capture) (rest : Symbols) : Symbols :=
  Symbol.ofText c.front ++ (.plain '(' ::
    (Symbol.ofText c.inner ++ .plain ')' :: (Symbol.ofText c.behind ++ rest)))

/-- The symbols of a capture stand before those of what follows. -/
theorem ofText_emit_append (hb : IsBody c.body) (u : Text) :
    Symbol.ofText (c.emit ++ u) = c.symbolsBefore (Symbol.ofText u) := by
  rw [emit_eq, symbolsBefore, List.append_assoc, List.append_assoc,
    Symbol.ofText_append c.mute_front.whole,
    Symbol.ofText_append (whole_own hb), Symbol.ofText_append c.mute_behind.whole, ofText_own hb]
  simp

section Passing

variable {rest : Symbols} {ms ms' : List (Bool × Nat)} {o' : Outline}

/-- The group of a capture comes next once its front is passed. -/
theorem passes_group (h : Outline.start.Passes (c.symbolsBefore rest) ms o' []) :
    Outline.Passes ⟨.none, c.outside⟩ (.plain '(' ::
      (Symbol.ofText c.inner ++ .plain ')' :: (Symbol.ofText c.behind ++ rest))) ms o' [] := by
  obtain ⟨ms₁, rfl, h₁⟩ := (c.mute_front.passes _
    (unsigned_of_head (by decide) (by decide) _)).cancel h
  exact h₁

/-- What follows a capture comes next once its group is passed. -/
theorem passes_rest (hr : Unsigned rest)
    (h : Outline.Passes ⟨.none, c.outside⟩ (Symbol.ofText c.behind ++ rest) ms o' []) :
    Outline.start.Passes rest ms o' [] := by
  obtain ⟨ms₁, rfl, h₁⟩ := (c.mute_behind.passes rest hr).cancel h
  exact h₁

/-- What is left at the parenthesis that closes a group. -/
theorem left_close (rest : Symbols) : left (.plain ')' :: (Symbol.ofText c.behind ++ rest)) =
    c.behind.length + left rest + 1 := by
  rw [left_cons, left_append, left_ofText, Symbol.written, List.length_singleton]
  omega

/-- What is left at the parenthesis that opens a group. -/
theorem left_open (hb : IsBody c.body) (rest : Symbols) :
    left (.plain '(' :: (Symbol.ofText c.inner ++ .plain ')' :: rest)) =
      c.own.length + left rest := by
  have h : .plain '(' :: (Symbol.ofText c.inner ++ .plain ')' :: rest) =
      Symbol.ofText c.own ++ rest := by
    rw [ofText_own hb]
    simp
  rw [h, left_append, left_ofText]

/-- **A capture whose group is marked at its ends is one group.** -/
theorem oneGroup_of_ends (hb : IsBody c.body) (hr : Unsigned rest)
    (h : Outline.start.Passes (c.symbolsBefore rest)
      (c.ends (c.behind.length + left rest) ++ ms) o' []) :
    OneGroup c.own ∧ Outline.start.Passes rest ms o' [] := by
  have hgroup := passes_group h
  rw [ends, ← left_close] at hgroup
  obtain ⟨hall, hout⟩ := hgroup.replay (head?_inner hb)
  refine ⟨oneGroup_iff.2 ⟨Outline.start, ?_⟩, passes_rest hr hout⟩
  rw [ofText_own hb]
  exact hall [] []

/-- **A capture that is one group is marked at its ends,** wherever it stands. -/
theorem exists_ends_of_oneGroup (hb : IsBody c.body) (hr : Unsigned rest) (hone : OneGroup c.own)
    (h : Outline.start.Passes (c.symbolsBefore rest) ms o' []) :
    ∃ ms', ms = c.ends (c.behind.length + left rest) ++ ms' ∧
      Outline.start.Passes rest ms' o' [] := by
  obtain ⟨o₁, halone⟩ := oneGroup_iff.1 hone
  rw [ofText_own hb] at halone
  obtain ⟨hall, -⟩ := Outline.Passes.replay (head?_inner hb) halone
  obtain ⟨ms', rfl, hout⟩ := (hall c.outside (Symbol.ofText c.behind ++ rest)).cancel
    (passes_group h)
  refine ⟨ms', ?_, passes_rest hr hout⟩
  rw [left_open hb, left_close, ends, left_append, left_ofText]

end Passing

end Capture

end Pattern
end RouteTable
