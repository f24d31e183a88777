/-
# Whole matches of compiled patterns

The `^` and the `$` of a compiled pattern bind all of it only if the engine reads no `|`
outside all parentheses.  It reads none in what is emitted around the bodies, and none in a
body that closes its parenthesis where the lexer says (`Enclosed`); but the lexer takes
every parenthesis for one, also in a set, where the engine takes none.

So a pattern whose bodies are enclosed matches whole paths only, and in general one does so
in the paths in which its branches are anchored (`Compiled.matchesWhole_regex_iff`).
-/

import RouteTable.Proofs.Pattern.Numbering
import RouteTable.Proofs.Regex.Branches

namespace RouteTable
namespace Pattern

open Regex Regex.Backtracking

/-- The engine takes the `)` after a text, and none in it, for the end of the parenthesis
that it stands in, whether that captures or not. -/
def Enclosed (t : Text) : Prop :=
  ∀ b, Outline.closesLast ⟨.none, [(b, .none)]⟩ 0 (Symbol.ofText t ++ [.plain ')']) = true

instance (t : Text) : Decidable (Enclosed t) :=
  inferInstanceAs (Decidable (∀ b : Bool,
    Outline.closesLast ⟨.none, [(b, .none)]⟩ 0 (Symbol.ofText t ++ [.plain ')']) = true))

/-- A text is read from one outline to another, whatever follows it, with no `|` outside
all parentheses. -/
structure Covered (t : Text) (o o' : Outline) : Prop where
  whole : .dangling ∉ Symbol.ofText t
  covers : ∀ rest, o.Covers (Symbol.ofText t ++ rest) o' rest

namespace Covered

variable {t u : Text} {o o₁ o' : Outline} {stack : List (Bool × Flags)}

theorem append (ht : Covered t o o₁) (hu : Covered u o₁ o') : Covered (t ++ u) o o' where
  whole := whole_append ht.whole hu.whole
  covers := by
    intro rest
    rw [Symbol.ofText_append ht.whole, List.append_assoc]
    exact (ht.covers _).trans (hu.covers rest)

theorem text (t : Text) : Covered (escapeLiteral t) ⟨.none, stack⟩ ⟨.none, stack⟩ where
  whole := (Mute.text t : Mute _ ⟨.none, stack⟩ ⟨.none, stack⟩).whole
  covers := by
    intro rest
    rw [Emits.ofText_escapeLiteral]
    induction t with
    | nil => exact .refl _ _
    | cons c t ih =>
      refine .step (fun _ hbar => ?_) (step_literal c stack _) ih
      -- a `|` is escaped
      unfold Symbol.literal at hbar
      split at hbar
      · cases hbar
      · rename_i hc
        cases hbar
        exact hc rfl

theorem closing (b : Bool) : Covered [scalar ')'] ⟨.none, (b, .none) :: stack⟩ ⟨.none, stack⟩ where
  whole := by decide
  covers := fun _ => .step (fun _ => by decide) (Outline.step_close _ _ _ _ _) (.refl _ _)

/-- A body that is enclosed, and the end of its parenthesis. -/
theorem body (hw : .dangling ∉ Symbol.ofText t) (ht : Enclosed t) (b : Bool) :
    Covered (t ++ [scalar ')']) ⟨.none, (b, .none) :: stack⟩ ⟨.none, stack⟩ where
  whole := whole_append hw (by decide)
  covers := by
    intro rest
    rw [Symbol.ofText_append hw, List.append_assoc]
    exact Outline.covers_of_closesLast ⟨[], rfl⟩ (ht b) stack rest

/-- A parenthesis that does not capture. -/
theorem grouping (ht : Covered (t ++ [scalar ')']) ⟨.none, (false, .none) :: stack⟩
    ⟨.none, stack⟩) :
    Covered (parenthesised "(?:" t) ⟨.none, stack⟩ ⟨.none, stack⟩ where
  whole := by
    rw [parenthesised, List.append_assoc]
    exact whole_append (by decide) ht.whole
  covers := by
    intro rest
    have hsymbols : Symbol.ofText (parenthesised "(?:" t) =
        .plain '(' :: .plain '?' :: .plain ':' :: Symbol.ofText (t ++ [scalar ')']) := rfl
    rw [hsymbols]
    exact .step (fun _ => by decide) (step_opening stack _) (ht.covers rest)

/-- A parenthesis that captures. -/
theorem capturing (hw : .dangling ∉ Symbol.ofText t)
    (hhead : (Symbol.ofText t).head? ≠ some (.plain '?'))
    (ht : Covered (t ++ [scalar ')']) ⟨.none, (true, .none) :: stack⟩ ⟨.none, stack⟩) :
    Covered (parenthesised "(" t) ⟨.none, stack⟩ ⟨.none, stack⟩ where
  whole := by
    rw [parenthesised, List.append_assoc]
    exact whole_append (by decide) ht.whole
  covers := by
    intro rest
    have hsymbols : Symbol.ofText (parenthesised "(" t) ++ rest =
        .plain '(' :: (Symbol.ofText (t ++ [scalar ')']) ++ rest) := rfl
    have hread : Parenthesis.read 0 (Symbol.ofText (t ++ [scalar ')']) ++ rest) =
        .ok (.opens (.capture none), Symbol.ofText (t ++ [scalar ')']) ++ rest) := by
      rw [Symbol.ofText_append hw]
      unfold Parenthesis.read
      split
      · rename_i hq
        cases hs : Symbol.ofText t with
        | nil =>
          rw [hs] at hq
          cases hq
        | cons s ss =>
          rw [hs] at hq hhead
          cases hq
          exact absurd rfl hhead
      · rfl
    have hstep : Outline.step ⟨.none, stack⟩ (.plain '(')
      (Symbol.ofText (t ++ [scalar ')']) ++ rest) =
        .ok (⟨.none, (true, .none) :: stack⟩, Symbol.ofText (t ++ [scalar ')']) ++ rest) := by
      change (Parenthesis.read 0 (Symbol.ofText (t ++ [scalar ')']) ++ rest)).bind _ = _
      rw [hread]
      rfl
    rw [hsymbols]
    exact .step (fun _ => by decide) hstep (ht.covers rest)

end Covered

/-- A modifier is read by itself where no other follows. -/
theorem covers_modifier (m : Modifier) {rest : Symbols} (hr : Unsigned rest)
    (stack : List (Bool × Flags)) :
    Outline.Covers ⟨.none, stack⟩ (Symbol.ofText m.text ++ rest) ⟨.none, stack⟩ rest := by
  have sign : ∀ {c b},
      c ∉ [scalar '(', scalar ')', scalar '[', scalar '|', scalar '.', scalar '^', scalar '$'] →
      Bounds.read? c rest = .ok (some (b, rest)) →
        Outline.Covers ⟨.none, stack⟩ (.plain c :: rest) ⟨.none, stack⟩ rest := by
    intro c b hc hb
    refine .step (fun _ hbar => ?_) (step_sign hc hb hr stack) (.refl _ _)
    cases hbar
    exact hc (by simp)
  cases m with
  | once => exact .refl _ _
  | optional | star | plus => exact sign (by decide) rfl

/-- A `*` at the end of a parenthesis. -/
theorem Covered.starClosing (b : Bool) (stack : List (Bool × Flags)) :
    Covered ([scalar '*'] ++ [scalar ')']) ⟨.none, (b, .none) :: stack⟩ ⟨.none, stack⟩ where
  whole := by decide
  covers := by
    intro rest
    have hsigns : Unsigned (.plain ')' :: rest) := unsigned_of_head (by decide) (by decide) rest
    have hstar := covers_modifier .star hsigns ((b, .none) :: stack)
    exact hstar.trans ((Covered.closing b).covers rest)

namespace Capture

variable {c : Capture}

/-- What stands in the group of a capture is read to the end of the group. -/
theorem covered_inner (hb : IsBody c.body) (he : Enclosed c.body) (b : Bool)
    (stack : List (Bool × Flags)) :
    Covered (c.inner ++ [scalar ')']) ⟨.none, (b, .none) :: stack⟩ ⟨.none, stack⟩ := by
  have hbody : Covered (c.body ++ [scalar ')']) ⟨.none, (b, .none) :: stack⟩ ⟨.none, stack⟩ :=
    .body hb.closes.whole he b
  have run : ∀ stack, Covered (parenthesised "(?:" c.body) ⟨.none, stack⟩ ⟨.none, stack⟩ :=
    fun stack => .grouping (.body hb.closes.whole he false)
  have more : ∀ stack, Covered (parenthesised "(?:" (escapeLiteral c.trail ++
      escapeLiteral c.lead ++ parenthesised "(?:" c.body)) ⟨.none, stack⟩ ⟨.none, stack⟩ :=
    fun stack => .grouping ((((Covered.text c.trail).append (.text c.lead)).append
      (run _)).append (.closing false))
  have hruns : Covered (parenthesised "(?:" c.body ++ (parenthesised "(?:" (escapeLiteral c.trail ++
      escapeLiteral c.lead ++ parenthesised "(?:" c.body) ++ [scalar '*']) ++ [scalar ')'])
      ⟨.none, (b, .none) :: stack⟩ ⟨.none, stack⟩ := by
    have h := (run ((b, .none) :: stack)).append ((more _).append (.starClosing b stack))
    simpa only [List.append_assoc] using h
  unfold inner
  split
  · exact hbody
  · cases c.modifier with
    | once | optional => exact hbody
    | star | plus => exact hruns

/-- The group of a capture is read as one parenthesis. -/
theorem covered_own (hb : IsBody c.body) (he : Enclosed c.body) (stack : List (Bool × Flags)) :
    Covered c.own ⟨.none, stack⟩ ⟨.none, stack⟩ :=
  .capturing (whole_inner hb) (head?_inner hb) (covered_inner hb he true stack)

end Capture

/-- A segment is emitted as what is covered, whatever follows, and a modifier. -/
theorem Segment.exists_covered {s : Segment}
    (hs : ∀ c, s.capture? = some c → IsBody c.body ∧ Enclosed c.body) :
    ∃ t m, s.emit = t ++ Modifier.text m ∧ Covered t Outline.start Outline.start := by
  cases s with
  | literal t => exact ⟨escapeLiteral t, .once, (List.append_nil _).symm, .text t⟩
  | group t m => exact ⟨_, m, rfl, .grouping ((Covered.text t).append (.closing false))⟩
  | capture c =>
    obtain ⟨hb, he⟩ := hs c rfl
    have hemit : Segment.emit (.capture c) = c.front ++ c.own ++ c.behind := c.emit_eq
    rw [hemit]
    by_cases hbare : c.isBare = true
    · refine ⟨c.own, c.modifier, ?_, c.covered_own hb he []⟩
      rw [Capture.front, Capture.behind, if_pos hbare, if_pos hbare, List.nil_append]
    · have hgroup : Covered (parenthesised "(?:" (escapeLiteral c.lead ++ c.own ++
          escapeLiteral c.trail)) Outline.start Outline.start :=
        .grouping ((((Covered.text c.lead).append (c.covered_own hb he _)).append
          (.text c.trail)).append (.closing false))
      rw [Capture.front, Capture.behind, if_neg hbare, if_neg hbare]
      cases c.modifier with
      | once | plus =>
        refine ⟨_, .once, ?_, hgroup⟩
        simp [parenthesised, Modifier.text]
      | optional | star =>
        refine ⟨_, .optional, ?_, hgroup⟩
        simp [parenthesised, Modifier.text]

/-- **The expression of segments whose bodies are enclosed** has no `|` outside all
parentheses. -/
theorem covers_symbolsOf {segments : List Segment} (hb : HaveBodies segments)
    (he : ∀ c, .capture c ∈ segments → Enclosed c.body) :
    Outline.start.Covers (symbolsOf segments) Outline.start [] := by
  induction segments with
  | nil => exact .step (fun _ => by decide) rfl (.refl _ _)
  | cons s ss ih =>
    obtain ⟨t, m, hemit, ht⟩ := Segment.exists_covered (s := s) (by
      intro c hc
      have hs : s = .capture c := by
        cases s with
        | capture => exact congrArg Segment.capture (Option.some.inj hc)
        | literal | group => cases hc
      subst hs
      exact ⟨hb c List.mem_cons_self, he c List.mem_cons_self⟩)
    have hsymbols : symbolsOf (s :: ss) =
        Symbol.ofText t ++ (Symbol.ofText m.text ++ symbolsOf ss) := by
      rw [symbolsOf, List.flatMap_cons, hemit, List.append_assoc, Symbol.ofText_append ht.whole,
        Symbol.ofText_append (by cases m <;> decide)]
      simp [symbolsOf]
    rw [hsymbols]
    refine (ht.covers _).trans ((covers_modifier m (unsigned_symbolsOf ss) []).trans ?_)
    exact ih (fun c hc => hb c (List.mem_cons_of_mem _ hc))
      fun c hc => he c (List.mem_cons_of_mem _ hc)

namespace Compiled

variable {source : Text} {c : Compiled} {n : Node}

/-- The `$` of a compiled pattern is not escaped. -/
theorem isLoose_regex (hb : HaveBodies c.segments) : isLoose c.regex = false := by
  rw [isLoose, regex, ofText_regexOf hb, symbolsOf, ← List.cons_append, List.getLast?_concat]
  rfl

/-- What compiles has bodies. -/
theorem haveBodies (h : compile source = .ok c) : HaveBodies c.segments := by
  obtain ⟨ss, hs, rfl⟩ := Outcome.map_eq_ok.1 h
  obtain ⟨-, -, ps, -, -, rfl⟩ := segments_eq_ok_iff.1 hs
  exact haveBodies_segmentsOf ps

/-- **Where compiled patterns match whole paths only.**  A pattern that compiles, and whose
expression the engine reads, matches no part of a path exactly in the paths in which the
branches of the expression are anchored.  There is one branch, and every match that a
search finds in any path is whole, if the bodies of the pattern are enclosed. -/
theorem matchesWhole_regex_iff {edition : Backtracking.Edition} (h : compile source = .ok c)
    (hn : Backtracking.parse edition c.regex = .ok n) :
    n = .anyOf (branches edition c.regex) ∧
    (∀ path, n.MatchesWhole path ↔ AnchoredBranches (branches edition c.regex) false path) ∧
    ((∀ k, .capture k ∈ c.segments → Enclosed k.body) →
      (branches edition c.regex).length = 1 ∧ ∀ path m, n.search path = some m →
        m.start = 0 ∧ m.stop.AtEnd) := by
  have hb := haveBodies h
  have hwhole := matchesWhole_parse_iff (t := c.regex) rfl
    (by rw [regex, regexOf, List.getLast?_append]; rfl) hn
  rw [isLoose_regex hb] at hwhole
  refine ⟨eq_anyOf_branches hn, hwhole, fun he => ?_⟩
  have hone : (branches edition c.regex).length = 1 :=
    length_branches_of_covers (ofText_regexOf hb) (covers_symbolsOf hb he) hn
  refine ⟨hone, fun path m hm => Node.MatchesWhole.search ((hwhole path).2 ?_) hm⟩
  obtain ⟨b, hbranches⟩ := List.length_eq_one_iff.1 hone
  rw [hbranches]
  exact .single b path

end Compiled

/-- The bodies that a parameter has by itself are enclosed. -/
theorem enclosed_defaultBody : Enclosed defaultBody := by decide

/-- In `/:a(x+)/:c` the bodies are enclosed, and all matches are whole. -/
theorem compile_plusBody_matchesWhole :
    compile "/:a(x+)/:c".text = .ok ⟨"/:a(x+)/:c".text, twoGroups "x+".text⟩ ∧
    (∀ k, .capture k ∈ twoGroups "x+".text → Enclosed k.body) ∧
    ∃ n, Backtracking.parse .strict (regexOf (twoGroups "x+".text)) = .ok n ∧
      n = .anyOf (branches .strict (regexOf (twoGroups "x+".text))) ∧
      (branches .strict (regexOf (twoGroups "x+".text))).length = 1 ∧
      ∀ path m, n.search path = some m → m.start = 0 ∧ m.stop.AtEnd := by
  have hx : IsBody "x+".text :=
    ⟨by decide, by decide, .other (by decide) (.other (by decide) .nil)⟩
  have hc := compile_twoParameters hx (by decide)
  have he : ∀ k, .capture k ∈ twoGroups "x+".text → Enclosed k.body := by
    intro k hk
    simp only [twoGroups, List.mem_cons, List.not_mem_nil, or_false, Segment.capture.injEq] at hk
    rcases hk with rfl | rfl
    · decide
    · exact enclosed_defaultBody
  obtain ⟨n, hn⟩ : ∃ n, Backtracking.parse .strict (regexOf (twoGroups "x+".text)) = .ok n :=
    ⟨_, rfl⟩
  have h := Compiled.matchesWhole_regex_iff hc hn
  exact ⟨hc, he, n, hn, h.1, h.2.2 he⟩

/-- **A parenthesis in a set may let a pattern match a part of a path.**  In the source
`([(?])|(?:x[)])` the lexer closes the group at its end, and the engine after the first set:
the `|` is outside all parentheses, and a search in `(a` stops after the `(`. -/
theorem compile_parenthesisInSet_search :
    compile "([(?])|(?:x[)])".text = .ok ⟨"([(?])|(?:x[)])".text,
      [.capture ⟨none, [], "[(?])|(?:x[)]".text, [], .once⟩]⟩ ∧
    ∃ n, Backtracking.parse .strict "^([(?])|(?:x[)])$".text = .ok n ∧
      n.search "(a".text = some ⟨0, ⟨[scalar '('], [scalar 'a'], [(1, [scalar '('])]⟩⟩ ∧
      ¬(⟨[scalar '('], [scalar 'a'], [(1, [scalar '('])]⟩ : Position).AtEnd := by
  have hb : IsBody "[(?])|(?:x[)]".text :=
    ⟨by decide, by decide, .other (by decide) (.opens (.other (by decide) (.other (by decide)
      (.closes (.other (by decide) (.opens (.other (by decide) (.other (by decide)
        (.other (by decide) (.other (by decide) (.closes (.other (by decide) .nil))))))))))))⟩
  have hp : IsParse "([(?])|(?:x[)])".text [.parameter (.unnamed ⟨_, hb⟩) .once] :=
    ⟨rfl, trivial, trivial⟩
  refine ⟨hp.compile_eq_ok (by decide) (by decide) List.Pairwise.nil, _, rfl, by decide, ?_⟩
  rintro (h | h) <;> cases h

end Pattern
end RouteTable
