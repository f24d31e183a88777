/-
# Segments written as a source

`render` writes segments in one form: every character of text is escaped, and everything
but literal text stands in braces, each capture with its body.  `WellFormed` says which
segments can be written so at all.  The two together are exactly what the reader of sources
reads (`segments_render`): it reads well-formed segments only, and any well-formed segments
from what they are written as, if that is not too long.
-/

import Mathlib.Data.List.Chain
import RouteTable.Proofs.Pattern.Recognition

namespace RouteTable
namespace Pattern

/-- A text with a backslash before every character. -/
def escaped (t : Text) : Text := t.flatMap fun c => [scalar '\\', c]

namespace Segment

/-- Whether a segment is literal text. -/
def isLiteral : Segment → Bool
  | literal _ => true
  | _ => false

/-- A segment in the form in which it can stand anywhere. -/
def render : Segment → Text
  | literal t => escaped t
  | group t m => scalar '\x7b' :: escaped t ++ scalar '\x7d' :: m.text
  | capture c =>
    scalar '\x7b' :: escaped c.lead ++
      (c.name.elim [] (scalar ':' :: ·) ++ scalar '(' :: c.body ++ [scalar ')']) ++
      escaped c.trail ++ scalar '\x7d' :: c.modifier.text

end Segment

/-- Segments as a source. -/
def render (ss : List Segment) : Text := ss.flatMap Segment.render

/-- The segments that a source can have. -/
structure WellFormed (ss : List Segment) : Prop where
  ne_nil : ss ≠ []
  literal_ne_nil : ∀ t, .literal t ∈ ss → t ≠ []
  apart : ss.IsChain fun s u => ¬(s.isLiteral = true ∧ u.isLiteral = true)
  isName : ∀ c, .capture c ∈ ss → ∀ n ∈ c.name, IsName n
  nodup : (ss.filterMap Segment.name?).Nodup
  haveBodies : HaveBodies ss

/-! ### What is read is well formed -/

/-- Literals that are not empty, and no two of them side by side. -/
structure Merged (ss : List Segment) : Prop where
  literal_ne_nil : ∀ t, .literal t ∈ ss → t ≠ []
  apart : ss.IsChain fun s u => ¬(s.isLiteral = true ∧ u.isLiteral = true)

namespace Merged

variable {ss : List Segment} {s : Segment}

theorem nil : Merged [] := ⟨nofun, .nil⟩

theorem cons (hs : s.isLiteral = false) (h : Merged ss) : Merged (s :: ss) where
  literal_ne_nil t ht := by
    rcases List.mem_cons.1 ht with rfl | ht
    · cases hs
    · exact h.literal_ne_nil t ht
  apart := List.isChain_cons.2 ⟨fun _ _ hboth => by simp [hs] at hboth, h.apart⟩

theorem consChar (c : CodePoint) (h : Merged ss) : Merged (Segment.consChar c ss) := by
  unfold Segment.consChar
  split
  · rename_i t ss
    refine ⟨fun u hu => ?_, List.isChain_cons.2 (List.isChain_cons.1 h.apart)⟩
    rcases List.mem_cons.1 hu with heq | hu
    · cases heq
      exact List.cons_ne_nil c t
    · exact h.literal_ne_nil u (List.mem_cons_of_mem _ hu)
  · rename_i hss
    refine ⟨fun u hu => ?_, List.isChain_cons.2 ⟨?_, h.apart⟩⟩
    · rcases List.mem_cons.1 hu with heq | hu
      · cases heq
        exact List.cons_ne_nil c []
      · exact h.literal_ne_nil u hu
    · rintro s hs ⟨-, hliteral⟩
      obtain ⟨ss', rfl⟩ := List.head?_eq_some_iff.1 hs
      cases s with
      | literal t => exact hss t ss' rfl
      | group | capture => cases hliteral

end Merged

/-- What pieces mean is merged. -/
theorem merged_segmentsOf (ps : List Piece) : Merged (segmentsOf ps) := by
  fun_induction segmentsOf ps with
  | case1 => exact .nil
  | case2 c hc p m ps hs ih => exact ih.cons rfl
  | case3 c hc p m ps hs ih => exact (ih.cons rfl).consChar c
  | case4 x ps hx ih => exact ih.consChar x.char
  | case5 p m ps ih => exact ih.cons rfl
  | case6 lead p trail m ps ih => exact ih.cons rfl
  | case7 ts m ps ih => exact ih.cons rfl

theorem consChar_ne_nil (c : CodePoint) (ss : List Segment) : Segment.consChar c ss ≠ [] := by
  unfold Segment.consChar
  split <;> exact List.cons_ne_nil _ _

/-- Pieces have segments. -/
theorem segmentsOf_ne_nil {ps : List Piece} (h : ps ≠ []) : segmentsOf ps ≠ [] := by
  fun_cases segmentsOf ps
  case case1 => exact absurd rfl h
  case case3 | case4 => exact consChar_ne_nil _ _
  all_goals exact List.cons_ne_nil _ _

/-- The name of a parameter, if it has one, is a name. -/
theorem Parameter.isName_name? (p : Parameter) : ∀ n ∈ p.name?, IsName n := by
  rintro n hn
  cases p with
  | named name body =>
    cases hn
    exact name.2
  | unnamed body => cases hn

/-- What is read is well formed. -/
theorem wellFormed_of_segments {source : Text} {ss : List Segment}
    (h : segments source = .ok ss) : WellFormed ss := by
  obtain ⟨hpos, -, ps, hp, hnames, rfl⟩ := segments_eq_ok_iff.1 h
  obtain ⟨hliteral, hapart⟩ := merged_segmentsOf ps
  refine ⟨segmentsOf_ne_nil ?_, hliteral, hapart, ?_, ?_, haveBodies_segmentsOf ps⟩
  · rintro rfl
    rw [← hp.written_eq] at hpos
    cases hpos
  · intro c hc
    obtain ⟨-, -, q, -, hname, -⟩ := exists_of_capture_mem hc
    rw [hname]
    exact q.isName_name?
  · rwa [filterMap_name?_segmentsOf]

/-! ### What is well formed is read -/

/-- Text as escaped pieces. -/
def escapedPieces (t : Text) : List Piece := t.map fun c => .text (.escaped c)

/-- Escaped items write the escaped text. -/
theorem flatMap_written_escaped (t : Text) :
    (t.map TextItem.escaped).flatMap TextItem.written = escaped t := by
  rw [List.flatMap_map]
  rfl

/-- Escaped items stand for the text. -/
theorem map_char_escaped (t : Text) : (t.map TextItem.escaped).map TextItem.char = t := by
  rw [List.map_map]
  exact List.map_id t

/-- Escaped text before what is not literal means one literal. -/
theorem segmentsOf_escapedPieces_append {t : Text} (ht : t ≠ []) {ps : List Piece}
    (hps : ∀ s ∈ (segmentsOf ps).head?, s.isLiteral = false) :
    segmentsOf (escapedPieces t ++ ps) = .literal t :: segmentsOf ps := by
  have first : ∀ c, Segment.consChar c (segmentsOf ps) = .literal [c] :: segmentsOf ps := by
    intro c
    cases hss : segmentsOf ps with
    | nil => rfl
    | cons s ss =>
      cases s with
      | literal u => cases hps _ (by rw [hss]; rfl)
      | group | capture => rfl
  induction t with
  | nil => exact absurd rfl ht
  | cons c t ih =>
    have hcons : segmentsOf (escapedPieces (c :: t) ++ ps) =
        Segment.consChar c (segmentsOf (escapedPieces t ++ ps)) := rfl
    rw [hcons]
    cases t with
    | nil => exact first c
    | cons d t =>
      rw [ih (List.cons_ne_nil d t)]
      rfl

/-- Escaped pieces are apart from what follows. -/
theorem apart_escapedPieces_append (t : Text) {ps : List Piece} (h : Apart ps) :
    Apart (escapedPieces t ++ ps) := by
  induction t with
  | nil => exact h
  | cons c t ih => exact ⟨trivial, ih⟩

/-- Escaped pieces write the escaped text. -/
theorem flatMap_written_escapedPieces (t : Text) :
    (escapedPieces t).flatMap Piece.written = escaped t := by
  rw [escapedPieces, List.flatMap_map]
  rfl

/-- A name and a body, or a body alone, are those of a parameter that is written with its
body. -/
theorem exists_parameter {c : Capture} (hname : ∀ n ∈ c.name, IsName n) (hbody : IsBody c.body) :
    ∃ p : Parameter, p.name? = c.name ∧ p.body = c.body ∧
      p.written = c.name.elim [] (scalar ':' :: ·) ++ scalar '(' :: c.body ++ [scalar ')'] ∧
      ∀ rest, p.EndsBefore rest := by
  cases h : c.name with
  | none => exact ⟨.unnamed ⟨c.body, hbody⟩, rfl, rfl, rfl, fun _ => trivial⟩
  | some n =>
    exact ⟨.named ⟨n, hname n h⟩ (some ⟨c.body, hbody⟩), rfl, rfl, rfl, fun _ => trivial⟩

/-- What a segment is written as is read as that segment, before what it can stand before. -/
theorem Segment.exists_pieces {s : Segment} (hliteral : ∀ t, s = .literal t → t ≠ [])
    (hname : ∀ c, s = .capture c → ∀ n ∈ c.name, IsName n)
    (hbody : ∀ c, s = .capture c → IsBody c.body) {ps : List Piece} (hps : Apart ps)
    (hnext : ∀ u ∈ (segmentsOf ps).head?, ¬(s.isLiteral = true ∧ u.isLiteral = true)) :
    ∃ qs, qs.flatMap Piece.written = s.render ∧ Apart (qs ++ ps) ∧
      segmentsOf (qs ++ ps) = s :: segmentsOf ps := by
  cases s with
  | literal t =>
    refine ⟨escapedPieces t, flatMap_written_escapedPieces t, apart_escapedPieces_append t hps,
      segmentsOf_escapedPieces_append (hliteral t rfl) fun u hu => ?_⟩
    simpa [isLiteral] using hnext u hu
  | group t m =>
    refine ⟨[.group (t.map .escaped) m], ?_, ⟨trivial, hps⟩, ?_⟩
    · simp [Piece.written, flatMap_written_escaped, render]
    · rw [List.singleton_append, segmentsOf, map_char_escaped]
  | capture c =>
    obtain ⟨p, hpname, hpbody, hpwritten, hends⟩ := exists_parameter (hname c rfl) (hbody c rfl)
    refine ⟨[.brace (c.lead.map .escaped) p (c.trail.map .escaped) c.modifier], ?_,
      ⟨hends _, hps⟩, ?_⟩
    · simp [Piece.written, flatMap_written_escaped, render, hpwritten]
    · rw [List.singleton_append, segmentsOf, map_char_escaped, map_char_escaped,
        Parameter.segment, hpname, hpbody]

/-- Well-formed segments have a reading of what they are written as. -/
theorem WellFormed.exists_isParse {ss : List Segment} (h : WellFormed ss) :
    ∃ ps, IsParse (render ss) ps ∧ segmentsOf ps = ss := by
  obtain ⟨-, hliteral, hapart, hname, -, hbody⟩ := h
  induction ss with
  | nil => exact ⟨[], ⟨rfl, trivial⟩, rfl⟩
  | cons s ss ih =>
    obtain ⟨hnext, hapart⟩ := List.isChain_cons.1 hapart
    obtain ⟨ps, ⟨hwritten, hps⟩, rfl⟩ := ih
      (fun t ht => hliteral t (List.mem_cons_of_mem _ ht)) hapart
      (fun c hc => hname c (List.mem_cons_of_mem _ hc))
      (fun c hc => hbody c (List.mem_cons_of_mem _ hc))
    obtain ⟨qs, hqs, hqsps, hsegments⟩ := s.exists_pieces
      (fun t ht => hliteral t (ht ▸ List.mem_cons_self))
      (fun c hc => hname c (hc ▸ List.mem_cons_self))
      (fun c hc => hbody c (hc ▸ List.mem_cons_self)) hps hnext
    refine ⟨qs ++ ps, ⟨?_, hqsps⟩, hsegments⟩
    rw [List.flatMap_append, hqs, hwritten]
    rfl

theorem WellFormed.render_ne_nil {ss : List Segment} (h : WellFormed ss) : render ss ≠ [] := by
  obtain ⟨s, ss, rfl⟩ := List.exists_cons_of_ne_nil h.ne_nil
  rw [render, List.flatMap_cons]
  cases s with
  | literal t =>
    obtain ⟨c, t, rfl⟩ := List.exists_cons_of_ne_nil (h.literal_ne_nil t List.mem_cons_self)
    exact List.cons_ne_nil _ _
  | group | capture => exact List.cons_ne_nil _ _

/-- **Writing segments and reading sources undo each other.**  What is read is well formed,
and whatever is well formed is read from what it is written as, if that has no more
characters than a source may have. -/
theorem segments_render :
    (∀ source ss, segments source = .ok ss → WellFormed ss) ∧
    ∀ ss, WellFormed ss → (render ss).length ≤ 4096 → segments (render ss) = .ok ss := by
  refine ⟨fun _ _ => wellFormed_of_segments, fun ss h hlength => ?_⟩
  obtain ⟨ps, hp, rfl⟩ := h.exists_isParse
  refine segments_eq_ok_iff.2
    ⟨List.length_pos_iff.2 h.render_ne_nil, hlength, ps, hp, ?_, rfl⟩
  have hnodup := h.nodup
  rwa [filterMap_name?_segmentsOf] at hnodup

/-- Text, an optional brace, a parameter with a lead, and a body with a trail. -/
def mixedSegments : List Segment :=
  [.literal "/a:".text, .group "?".text .optional,
    .capture ⟨some "id".text, "-".text, "[(?]x)".text, [], .star⟩,
    .capture ⟨none, [], "b".text, ")".text, .once⟩]

/-- Segments with signs of all kinds are rendered, and read back. -/
theorem segments_render_mixedSegments :
    WellFormed mixedSegments ∧
    render mixedSegments =
      "\\/\\a\\:\x7b\\?\x7d?\x7b\\-:id([(?]x))\x7d*\x7b(b)\\)\x7d".text ∧
    segments (render mixedSegments) = .ok mixedSegments := by
  have hset : IsBody "[(?]x)".text :=
    ⟨by decide, by decide, .other (by decide) (.opens (.other (by decide) (.other (by decide)
      (.other (by decide) (.closes .nil)))))⟩
  have hb : IsBody "b".text := ⟨by decide, by decide, .other (by decide) .nil⟩
  have hid : IsName "id".text := ⟨by decide, List.all_eq_true.1 rfl⟩
  have hwell : WellFormed mixedSegments := by
    refine ⟨by decide, ?_, ?_, ?_, by decide, ?_⟩
    · simp [mixedSegments, String.text]
    · simp [mixedSegments, Segment.isLiteral]
    · simpa [mixedSegments] using hid
    · simpa [HaveBodies, mixedSegments] using ⟨hset, hb⟩
  have hread := segments_render.2 mixedSegments hwell (by decide)
  exact ⟨segments_render.1 _ _ hread, by decide, hread⟩

end Pattern
end RouteTable
