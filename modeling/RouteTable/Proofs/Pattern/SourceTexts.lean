/-
# The texts of segments

Segments hold texts of the source: what stands in a literal, around a capture and in its body.  None
of these is repeated there, and what else a source is written with does not come back.  So of the
characters of a kind, the texts of segments have no more than the source
(`countP_segmentsOf_le`), if the backslash is none of them, and none is in the default body.
-/

import RouteTable.Proofs.Pattern.Recognition

namespace RouteTable
namespace Pattern

/-- The texts of a capture that come from the source, as they stand there. -/
def Capture.texts (c : Capture) : Text := c.lead ++ (c.body ++ c.trail)

/-- The texts of a segment that come from the source, as they stand there. -/
def Segment.texts : Segment → Text
  | literal t | group t _ => t
  | capture c => c.texts

/-! Characters of a kind are counted. -/

variable {kind : CodePoint → Bool}

/-- A character that is escaped counts as it does alone. -/
theorem TextItem.countP_char (hescape : kind '\\' = false) (x : TextItem) :
    [x.char].countP kind = x.written.countP kind := by
  cases x with
  | plain c h => rfl
  | escaped c => exact (List.countP_cons_of_neg (by simp [hescape])).symm

/-- Text items have as many characters of a kind as they are written with. -/
theorem TextItem.countP_map_char (hescape : kind '\\' = false) (xs : List TextItem) :
    (xs.map TextItem.char).countP kind = (xs.flatMap TextItem.written).countP kind := by
  induction xs with
  | nil => rfl
  | cons x xs ih =>
    have hcons : x.char :: xs.map TextItem.char = [x.char] ++ xs.map TextItem.char := rfl
    rw [List.map_cons, hcons, List.countP_append, List.flatMap_cons, List.countP_append, ih,
      x.countP_char hescape]

/-- The body of a parameter is the default one, or stands in what is written. -/
theorem Parameter.countP_body_le (hbody : defaultBody.countP kind = 0) (p : Parameter) :
    p.body.countP kind ≤ p.written.countP kind := by
  have hpart : ∀ {t u : Text}, t <:+: u → t.countP kind ≤ u.countP kind :=
    fun h => h.sublist.countP_le
  rcases p with ⟨n, _ | b⟩ | b
  · rw [body, hbody]
    exact Nat.zero_le _
  · exact hpart ⟨scalar ':' :: n.1 ++ [scalar '('], [scalar ')'], by simp [body, written]⟩
  · exact hpart ⟨[scalar '('], [scalar ')'], rfl⟩

/-- A character in front is one character more of the literal texts. -/
theorem Segment.texts_consChar (c : CodePoint) (ss : List Segment) :
    (consChar c ss).flatMap texts = c :: ss.flatMap texts := by
  unfold consChar
  split <;> rfl

/-- **The texts of segments have no more characters of a kind** than the pieces that they mean. -/
theorem countP_segmentsOf_le (hescape : kind '\\' = false) (hbody : defaultBody.countP kind = 0)
    (ps : List Piece) :
    ((segmentsOf ps).flatMap Segment.texts).countP kind ≤
      (ps.flatMap Piece.written).countP kind := by
  have parameter : ∀ (p : Parameter) lead trail m, (p.segment lead trail m).texts.countP kind ≤
      lead.countP kind + p.written.countP kind + trail.countP kind := by
    intro p lead trail m
    have := p.countP_body_le hbody
    simp only [Parameter.segment, Segment.texts, Capture.texts, List.countP_append]
    omega
  have consChar : ∀ (c : CodePoint) ss,
      ((Segment.consChar c ss).flatMap Segment.texts).countP kind =
      [c].countP kind + (ss.flatMap Segment.texts).countP kind := by
    intro c ss
    rw [Segment.texts_consChar, ← List.countP_append]
    rfl
  have hnil : List.countP kind [] = 0 := rfl
  fun_induction segmentsOf ps with
  | case1 => exact Nat.le_refl _
  | case2 c hc p m ps hs ih =>
    have hsegment := parameter p [c] [] m
    simp only [List.flatMap_cons, List.countP_append, Piece.written, TextItem.written]
    omega
  | case3 c hc p m ps hs ih =>
    have hsegment := parameter p [] [] m
    simp only [List.flatMap_cons, List.countP_append, Piece.written, TextItem.written, consChar]
    omega
  | case4 x ps hx ih =>
    have hchar := x.countP_char hescape
    simp only [List.flatMap_cons, List.countP_append, Piece.written, consChar]
    omega
  | case5 p m ps ih =>
    have hsegment := parameter p [] [] m
    simp only [List.flatMap_cons, List.countP_append, Piece.written]
    omega
  | case6 lead p trail m ps ih =>
    have hsegment := parameter p (lead.map TextItem.char) (trail.map TextItem.char) m
    simp only [List.flatMap_cons, List.countP_append, List.countP_cons, Piece.written,
      TextItem.countP_map_char hescape, List.cons_append] at hsegment ⊢
    omega
  | case7 ts m ps ih =>
    simp only [List.flatMap_cons, List.countP_append, List.countP_cons, Piece.written,
      Segment.texts, TextItem.countP_map_char hescape, List.cons_append]
    omega

end Pattern
end RouteTable
