/-
# Compiled patterns in the syntax that engines share

What is emitted for segments with the default body is in the shared syntax
(`isExpression_regexOf`): text as characters that mean nothing else and as escapes, and the rest as
parentheses around such texts, with or without a sign.  A repeated capture has the deepest
parentheses, which are four.

All its other characters stand in the source.  So a source that has bytes, and no surrogate among
its characters, has an expression that has bytes (`Compiled.isEncodable_regex`).  One with a
surrogate in it has not (`surrogateInside`).
-/

import RouteTable.Proofs.Pattern.Emission
import RouteTable.Proofs.Pattern.SourceTexts
import RouteTable.Proofs.Regex.SharedSyntax
import RouteTable.Text.Utf8

namespace RouteTable
namespace Pattern

open Regex (IsExpression IsSingle metacharacters repetitionSigns)

variable {depth : Nat}

/-! ### The syntax -/

/-- A modifier is a sign that engines share. -/
theorem text_mem_repetitionSigns (m : Modifier) : m.text ∈ repetitionSigns := by
  cases m <;> decide

/-- Escaped text is a shared expression. -/
theorem isExpression_escapeLiteral (t : Text) : IsExpression depth (escapeLiteral t) := by
  induction t with
  | nil => exact .nil
  | cons c t ih =>
    rw [escapeLiteral, List.flatMap_cons]
    split
    · rename_i hc
      refine .escaped ?_ ih
      -- every special character is a mark of ASCII
      rw [Regex.Backtracking.isSpecial_iff_mem] at hc
      simp only [List.mem_cons, List.not_mem_nil, or_false] at hc
      rcases hc with rfl | rfl | rfl | rfl | rfl | rfl | rfl | rfl | rfl | rfl | rfl | rfl | rfl |
        rfl | rfl | rfl | rfl | rfl <;> exact ⟨by decide, by decide, by decide⟩
    · rename_i hc
      have hspecial : ∀ d ∈ metacharacters, isSpecial d = true := by decide
      exact .cons (fun hmeta => hc (hspecial c hmeta)) ih

/-- The default body is a shared expression. -/
theorem isExpression_defaultBody : IsExpression depth defaultBody := by
  have hmembers : Regex.IsMembers "\\/#\\?".text :=
    .escaped ⟨by decide, by decide, by decide⟩ (.char (by decide)
      (.escaped ⟨by decide, by decide, by decide⟩ .nil))
  have hset : IsSingle "[^\\/#\\?]".text :=
    .set (o := "[^".text) (by decide) hmembers (by decide)
  exact .of_single (m := "+?".text) hset (by decide)

namespace Capture

variable {c : Capture} {t : Text}

/-- A shared expression between the lead and the trail of a capture. -/
theorem isExpression_around (c : Capture) (m : Modifier) (h : IsExpression depth t) :
    IsExpression (depth + 1)
      (parenthesised "(?:" (escapeLiteral c.lead ++ t ++ escapeLiteral c.trail) ++ m.text) :=
  .parenthesised (by decide) (((isExpression_escapeLiteral c.lead).append h).append
    (isExpression_escapeLiteral c.trail)) (text_mem_repetitionSigns m)

/-- The runs of a repeated capture, in the parentheses of its group. -/
theorem isExpression_several (c : Capture) :
    IsExpression 3 (parenthesised "(" (parenthesised "(?:" defaultBody ++
      (parenthesised "(?:" (escapeLiteral c.trail ++ escapeLiteral c.lead ++
        parenthesised "(?:" defaultBody) ++ [scalar '*']))) := by
  have run : IsExpression 1 (parenthesised "(?:" defaultBody ++ Modifier.once.text) :=
    .parenthesised (by decide) isExpression_defaultBody (text_mem_repetitionSigns .once)
  rw [Modifier.text, List.append_nil] at run
  have more : IsExpression 2 (parenthesised "(?:" (escapeLiteral c.trail ++ escapeLiteral c.lead ++
      parenthesised "(?:" defaultBody) ++ [scalar '*']) :=
    .parenthesised (by decide) (((isExpression_escapeLiteral c.trail).append
      (isExpression_escapeLiteral c.lead)).append run) (text_mem_repetitionSigns .star)
  have h := IsExpression.parenthesised (o := "(") (by decide)
    ((run.mono (by decide)).append more) (text_mem_repetitionSigns .once)
  rwa [Modifier.text, List.append_nil] at h

/-- **A capture with the default body is emitted as a shared expression.** -/
theorem isExpression_emit (hb : c.body = defaultBody) : IsExpression 4 c.emit := by
  have one (m : Modifier) : IsExpression 1 (parenthesised "(" defaultBody ++ m.text) :=
    .parenthesised (by decide) isExpression_defaultBody (text_mem_repetitionSigns m)
  have group := one .once
  rw [Modifier.text, List.append_nil] at group
  have once (m : Modifier) := (c.isExpression_around m group).mono (show 2 ≤ 4 by decide)
  have several (m : Modifier) := c.isExpression_around m c.isExpression_several
  unfold emit
  simp only [emit.once, emit.repeated, hb]
  split
  · exact (one c.modifier).mono (by decide)
  · cases c.modifier with
    | once => simpa only [Modifier.text, List.append_nil] using once .once
    | optional => exact once .optional
    | plus => simpa only [Modifier.text, List.append_nil] using several .once
    | star => exact several .optional

end Capture

/-- **What a segment without a body emits** is in the shared syntax. -/
theorem Segment.isExpression_emit {s : Segment} (hs : HasDefaultBodies [s]) :
    IsExpression 4 s.emit := by
  cases s with
  | literal t => exact isExpression_escapeLiteral t
  | group t m =>
    exact .parenthesised (by decide) (isExpression_escapeLiteral t) (text_mem_repetitionSigns m)
  | capture c => exact Capture.isExpression_emit (hs c (List.mem_singleton_self _))

/-- **The expression of segments with the default body is shared.** -/
theorem isExpression_regexOf {segments : List Segment} (hs : HasDefaultBodies segments) :
    IsExpression 4 (regexOf segments) := by
  have hemitted : IsExpression 4 (segments.flatMap Segment.emit) := by
    induction segments with
    | nil => exact .nil
    | cons s ss ih =>
      have hfirst : HasDefaultBodies [s] := fun c hc =>
        hs c (List.mem_singleton.1 hc ▸ List.mem_cons_self)
      rw [List.flatMap_cons]
      exact (Segment.isExpression_emit hfirst).append
        (ih fun c hc => hs c (List.mem_cons_of_mem _ hc))
  exact .anchor (.inl rfl) (hemitted.append (.anchor (.inr rfl) .nil))

/-! ### Bytes -/

/-- Escaping leaves a text its bytes. -/
theorem isEncodable_escapeLiteral {t : Text} (h : t.IsEncodable) :
    (escapeLiteral t).IsEncodable := by
  intro d hd
  obtain ⟨c, hc, hd⟩ := List.mem_flatMap.1 hd
  split at hd
  · rcases List.mem_cons.1 hd with rfl | hd
    · rfl
    · exact List.mem_singleton.1 hd ▸ h c hc
  · exact List.mem_singleton.1 hd ▸ h c hc

/-- Parentheses leave a text its bytes. -/
theorem isEncodable_parenthesised {o : String} (ho : o ∈ ["(", "(?:"]) {t : Text}
    (h : t.IsEncodable) : (parenthesised o t).IsEncodable := by
  have hopening : o.text.IsEncodable := by
    simp only [List.mem_cons, List.not_mem_nil, or_false] at ho
    rcases ho with rfl | rfl <;> decide
  exact Text.isEncodable_append.2 ⟨Text.isEncodable_append.2 ⟨hopening, h⟩, by decide⟩

/-- A modifier has bytes. -/
theorem isEncodable_modifier (m : Modifier) : m.text.IsEncodable := by
  cases m <;> decide

/-- A capture whose texts have bytes is emitted as a text that has bytes. -/
theorem Capture.isEncodable_emit {c : Capture} (h : c.texts.IsEncodable) :
    c.emit.IsEncodable := by
  obtain ⟨hlead, h⟩ := Text.isEncodable_append.1 h
  obtain ⟨hbody, htrail⟩ := Text.isEncodable_append.1 h
  have lead := isEncodable_escapeLiteral hlead
  have trail := isEncodable_escapeLiteral htrail
  have one := isEncodable_parenthesised (o := "(") (by decide) hbody
  have run := isEncodable_parenthesised (o := "(?:") (by decide) hbody
  have more : (parenthesised "(?:" (escapeLiteral c.trail ++ escapeLiteral c.lead ++
      parenthesised "(?:" c.body)).IsEncodable :=
    isEncodable_parenthesised (by decide)
      (Text.isEncodable_append.2 ⟨Text.isEncodable_append.2 ⟨trail, lead⟩, run⟩)
  have runs := Text.isEncodable_append.2 ⟨run,
    Text.isEncodable_append.2 ⟨more, isEncodable_modifier .star⟩⟩
  have several := isEncodable_parenthesised (o := "(") (by decide) runs
  have around {t : Text} (m : Modifier) (ht : t.IsEncodable) :
      (parenthesised "(?:" (escapeLiteral c.lead ++ t ++ escapeLiteral c.trail) ++
        m.text).IsEncodable :=
    Text.isEncodable_append.2 ⟨isEncodable_parenthesised (by decide)
      (Text.isEncodable_append.2 ⟨Text.isEncodable_append.2 ⟨lead, ht⟩, trail⟩),
      isEncodable_modifier m⟩
  unfold emit
  simp only [emit.once, emit.repeated]
  split
  · exact Text.isEncodable_append.2 ⟨one, isEncodable_modifier c.modifier⟩
  · cases c.modifier with
    | once => simpa only [Modifier.text, List.append_nil] using around .once one
    | optional => exact around .optional one
    | plus => simpa only [Modifier.text, List.append_nil] using around .once several
    | star => exact around .optional several

/-- Segments whose texts have bytes have an expression that has bytes. -/
theorem isEncodable_regexOf {ss : List Segment} (h : Text.IsEncodable (ss.flatMap Segment.texts)) :
    (regexOf ss).IsEncodable := by
  have hemitted : Text.IsEncodable (ss.flatMap Segment.emit) := by
    intro d hd
    obtain ⟨s, hs, hd⟩ := List.mem_flatMap.1 hd
    have htexts : s.texts.IsEncodable := fun c hc => h c (List.mem_flatMap.2 ⟨s, hs, hc⟩)
    cases s with
    | literal t => exact isEncodable_escapeLiteral htexts d hd
    | group t m =>
      exact Text.isEncodable_append.2 ⟨isEncodable_parenthesised (by decide)
        (isEncodable_escapeLiteral htexts), isEncodable_modifier m⟩ d hd
    | capture c => exact Capture.isEncodable_emit htexts d hd
  have hend : Text.IsEncodable (ss.flatMap Segment.emit ++ [scalar '$']) :=
    Text.isEncodable_append.2 ⟨hemitted, by decide⟩
  exact List.forall_mem_cons.2 ⟨rfl, hend⟩

/-- **The expression of a source that has bytes has bytes.** -/
theorem Compiled.isEncodable_regex {source : Text} {c : Compiled} (h : compile source = .ok c)
    (hsource : source.IsEncodable) : c.regex.IsEncodable := by
  have count : ∀ t : Text, t.IsEncodable ↔ t.countP (fun c => !c.isScalar) = 0 := by
    intro t
    simp [Text.IsEncodable]
  obtain ⟨ss, hs, rfl⟩ := Outcome.map_eq_ok.1 h
  obtain ⟨-, -, ps, hp, -, rfl⟩ := segments_eq_ok_iff.1 hs
  refine isEncodable_regexOf ((count _).2 (Nat.eq_zero_of_le_zero ?_))
  rw [← (count _).1 hsource, ← hp.written_eq]
  exact countP_segmentsOf_le rfl (by decide) ps

/-! A source may have a surrogate in it, and then its expression has one as well. -/

/-- The pieces of a source with a surrogate in it. -/
def surrogatePieces : List Piece :=
  [.text (.plain '/' slash_not_mem_reserved), .text (.plain (.surrogate 0) (by decide))]

/-- A source with a surrogate in it, compiled. -/
def surrogateInside : Compiled where
  source := [scalar '/', .surrogate 0]
  segments := [.literal [scalar '/', .surrogate 0]]

theorem isParse_surrogatePieces : IsParse surrogateInside.source surrogatePieces :=
  ⟨rfl, trivial, trivial, trivial⟩

theorem compile_surrogateInside : compile surrogateInside.source = .ok surrogateInside :=
  isParse_surrogatePieces.compile_eq_ok (by decide) (by decide) (by decide)

/-- The source with a surrogate has no body. -/
theorem withoutBodies_surrogateInside : WithoutBodies surrogateInside.source := by
  intro ps hps
  rw [hps.unique isParse_surrogatePieces]
  decide

end Pattern
end RouteTable
