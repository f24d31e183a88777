/-
# Sources as templates

A source can be read as a template.  The two readers go about it differently.  A source is cut
into tokens first, then into segments, where text runs together and a `/` or `.` becomes part of
the parameter behind it; a template is scanned once.  But where nothing of a source is escaped,
and it has neither bodies nor braces, its pieces are characters of text and names with their
modifiers, and the scan finds just these (`references_flatMap_written`).

Every capture of such a source has a name, so the parameters take the groups from one on
(`entries_landings`), and the source, rewritten by its own registry, is the source with its
references numbered (`flatMap_rewrite_eq_numbered`).
-/

import RouteTable.Proofs.Pattern.Names
import RouteTable.Proofs.Template.Rewriting

namespace RouteTable
namespace Pattern

open Template (Reference)

/-- A named capture as the reference to it. -/
def Segment.reference? (s : Segment) : Option Reference :=
  s.capture?.bind fun c => c.name.map fun n => ⟨n, c.modifier⟩

/-- A named parameter as the reference to it. -/
def Piece.reference? (p : Piece) : Option Reference :=
  p.repeated?.bind fun q => q.1.name?.map fun n => ⟨n, q.2⟩

/-- The named parameters in segments are those of the pieces. -/
theorem filterMap_reference?_segmentsOf (ps : List Piece) :
    (segmentsOf ps).filterMap Segment.reference? = ps.filterMap Piece.reference? :=
  filterMap_capture_segmentsOf (fun name _ m => name.map (Reference.mk · m)) ps

/-! ### Plain pieces -/

/-- The characters that write more than text and names. -/
def marked : List CodePoint := [scalar '\\', scalar '(', scalar '\x7b', scalar '\x7d']

/-- The piece is a character that is not escaped, or a name without a body. -/
inductive Piece.IsPlain : Piece → Prop
  | char (c : CodePoint) (h : c ∉ reserved) : IsPlain (.text (.plain c h))
  | name (n : Name) (m : Modifier) : IsPlain (.parameter (.named n none) m)

variable {p : Piece} {ps : List Piece} {c : CodePoint}

/-- Every other piece is written with a character of its own. -/
theorem Piece.isPlain_of_written (h : ∀ c ∈ p.written, c ∉ marked) : p.IsPlain := by
  cases p with
  | text x =>
    cases x with
    | plain c hc => exact .char c hc
    | escaped c => exact absurd (by decide) (h '\\' List.mem_cons_self)
  | parameter q m =>
    rcases q with ⟨n, _ | b⟩ | b
    · exact .name n m
    · exact absurd (by decide) (h '(' (by simp [Piece.written, Parameter.written]))
    · exact absurd (by decide) (h '(' (by simp [Piece.written, Parameter.written]))
  | brace | group => exact absurd (by decide) (h '\x7b' List.mem_cons_self)

theorem forall_isPlain (h : ∀ c ∈ ps.flatMap Piece.written, c ∉ marked) : ∀ p ∈ ps, p.IsPlain :=
  fun p hp => Piece.isPlain_of_written fun c hc => h c (List.mem_flatMap.2 ⟨p, hp, hc⟩)

/-- Where a plain piece begins no modifier stands. -/
theorem ofChar?_head?_written (h : ∀ p ∈ ps, p.IsPlain) :
    ∀ c ∈ (ps.flatMap Piece.written).head?, Modifier.ofChar? c = none := by
  cases ps with
  | nil => exact nofun
  | cons p ps =>
    rintro c hc
    cases h p List.mem_cons_self with
    | char d hd =>
      rw [← Option.some.inj hc, Template.ofChar?_eq_none_iff]
      exact mt (List.mem_append_left
        [scalar '\\', scalar '\x7b', scalar '\x7d', scalar ':', scalar '(']) hd
    | name n m =>
      rw [← Option.some.inj hc]
      rfl

/-- Every parameter of plain pieces has a name. -/
theorem exists_name_of_isPlain {k : Capture} (h : ∀ p ∈ ps, p.IsPlain)
    (hk : .capture k ∈ segmentsOf ps) : ∃ n, k.name = some n := by
  obtain ⟨p, hp, q, hq, hname, -⟩ := exists_of_capture_mem hk
  cases h p hp with
  | char c hc => cases hq
  | name n m =>
    rw [hname, ← Option.some.inj hq]
    exact ⟨n.1, rfl⟩

end Pattern

namespace Template

open Pattern

variable {registry : Registry}

/-! ### The scan of a source -/

/-- The scan finds the parameters of plain pieces. -/
theorem references_flatMap_written {ps : List Piece} (hplain : ∀ p ∈ ps, p.IsPlain)
    (hapart : Apart ps) :
    references (ps.flatMap Piece.written) = ps.filterMap Piece.reference? := by
  induction ps with
  | nil => exact references_nil
  | cons p ps ih =>
    have hps := ih (fun q hq => hplain q (List.mem_cons_of_mem p hq)) hapart.2
    cases hplain p List.mem_cons_self with
    | char c hc =>
      have hcolon : c ≠ ':' := by
        rintro rfl
        exact hc (by decide)
      have hnone : Piece.reference? (.text (.plain c hc)) = none := rfl
      have hwritten : Piece.written (.text (.plain c hc)) = [c] := rfl
      rw [List.flatMap_cons, hwritten, List.singleton_append,
        references_cons (readReference?_of_ne hcolon _), hps, List.filterMap_cons_none hnone]
    | name n m =>
      have hends : Reference.EndsBefore ⟨n.1, m⟩ (ps.flatMap Piece.written) := by
        rintro rfl
        exact ⟨fun c hc => (hapart.1 c hc).1,
          ofChar?_head?_written fun q hq => hplain q (List.mem_cons_of_mem _ hq)⟩
      have hread := readReference?_eq_some_iff.2 ⟨rfl, n.2, hends⟩
      have hsome : Piece.reference? (.parameter (.named n none) m) = some ⟨n.1, m⟩ := rfl
      have hwritten : Piece.written (.parameter (.named n none) m) =
        Reference.written ⟨n.1, m⟩ := rfl
      rw [List.flatMap_cons, hwritten, references_of_readReference? hread, hps,
        List.filterMap_cons_some hsome]

/-! ### The registry of a source -/

/-- The entry of a parameter that takes a group. -/
def Reference.entry (r : Reference) (group : Nat) : Entry := ⟨r.name, group, r.modifier.text⟩

/-- If every capture has a name, the parameters take the groups one after the other. -/
theorem entries_landings {ss : List Segment} (h : ∀ k, .capture k ∈ ss → ∃ n, k.name = some n)
    (opened : Nat) :
    (landings opened ss).filterMap Landing.entry? =
      ((ss.filterMap Segment.reference?).zipIdx (opened + 1)).map fun q => q.1.entry q.2 := by
  induction ss generalizing opened with
  | nil => rfl
  | cons s ss ih =>
    have hss := fun k hk => h k (List.mem_cons_of_mem s hk)
    cases s with
    | literal | group => exact ih hss opened
    | capture k =>
      obtain ⟨n, hn⟩ := h k List.mem_cons_self
      have hk : Segment.reference? (.capture k) = some ⟨n, k.modifier⟩ := by
        simp [Segment.reference?, Segment.capture?, hn]
      have hentry : ∀ i b, Landing.entry? ⟨i, k, b⟩ = some (Reference.entry ⟨n, k.modifier⟩ i) := by
        intro i b
        simp [Landing.entry?, hn, Reference.entry]
      rw [landings, List.filterMap_cons_some (hentry _ _), List.filterMap_cons_some hk,
        List.zipIdx_cons, List.map_cons, ih hss]

/-! ### The source rewritten -/

/-- Parts in which the references are replaced by `$` and a number, counted from the first. -/
def numbered (first : Nat) : List Part → Text
  | [] => []
  | .literal u :: ps => u ++ numbered first ps
  | .reference _ :: ps => scalar '$' :: (toString first).text ++ numbered (first + 1) ps

/-- References that are listed in order are numbered in order. -/
theorem flatMap_rewrite_eq_numbered {ps : List Part} {first : Nat}
    (h : ∀ q ∈ (ps.filterMap Part.reference?).zipIdx first,
      registry.get? q.1.name = some (q.1.entry q.2)) :
    ps.flatMap (Part.rewrite registry) = numbered first ps := by
  induction ps generalizing first with
  | nil => rfl
  | cons p ps ih =>
    cases p with
    | literal u => exact congrArg (u ++ ·) (ih h)
    | reference r =>
      have hr : registry.get? r.name = some (r.entry first) := h (r, first) List.mem_cons_self
      have hrewrite : r.rewrite registry = scalar '$' :: (toString first).text := by
        rw [Reference.rewrite, hr]
        exact if_pos rfl
      rw [List.flatMap_cons, Part.rewrite, hrewrite, numbered,
        ih fun q hq => h q (List.mem_cons_of_mem _ hq)]

/-- **A plain source, read as a template.**  Its references are the named segments, in order and
with their modifiers, and its own registry replaces each by `$` and its position among them. -/
theorem source_as_template {source : Text} {ss : List Segment} (h : segments source = .ok ss)
    (hplain : ∀ c ∈ source, c ∉ marked) :
    references source = ss.filterMap Segment.reference? ∧
      ∃ k, compile source = .ok k ∧
        rewrite k.registry source = numbered 1 (scan source) := by
  obtain ⟨-, -, ps, ⟨rfl, hapart⟩, -, rfl⟩ := segments_eq_ok_iff.1 h
  have hpieces := forall_isPlain hplain
  have hreferences : references (ps.flatMap Piece.written) =
      (segmentsOf ps).filterMap Segment.reference? := by
    rw [references_flatMap_written hpieces hapart, filterMap_reference?_segmentsOf]
  have hcompile : compile (ps.flatMap Piece.written) =
      .ok ⟨ps.flatMap Piece.written, segmentsOf ps⟩ := Outcome.map_eq_ok.2 ⟨_, h, rfl⟩
  refine ⟨hreferences, _, hcompile, ?_⟩
  rw [rewrite_eq_flatMap]
  refine flatMap_rewrite_eq_numbered fun q hq => ?_
  have hmem : q.1.entry q.2 ∈ (Registry.ofSegments (segmentsOf ps)).entries := by
    rw [Registry.entries_ofSegments, entries_landings fun k => exists_name_of_isPlain hpieces,
      ← hreferences]
    exact List.mem_map_of_mem hq
  exact Registry.get?_name_of_mem (Compiled.isProper_registry hcompile).nodup hmem

/-- A source with two parameters becomes one with two numbers. -/
theorem source_as_template_idRest :
    (∃ ss, segments "/:id/v:rest*".text = .ok ss ∧
      [⟨"id".text, .once⟩, ⟨"rest".text, .star⟩] = ss.filterMap Segment.reference?) ∧
    ∃ k, compile "/:id/v:rest*".text = .ok k ∧
      rewrite k.registry "/:id/v:rest*".text = "/$1/v$2".text := by
  have hsegments : segments "/:id/v:rest*".text =
      .ok [.capture ⟨some "id".text, [scalar '/'], defaultBody, [], .once⟩, .literal "/v".text,
        .capture ⟨some "rest".text, [], defaultBody, [], .star⟩] := by decide +kernel
  have hplain : ∀ c ∈ "/:id/v:rest*".text, c ∉ marked := by
    have hall : "/:id/v:rest*".text.all (fun c => !marked.contains c) = true := by
      decide +kernel
    simpa using List.all_eq_true.1 hall
  have hreferences : references "/:id/v:rest*".text =
      [⟨"id".text, .once⟩, ⟨"rest".text, .star⟩] := by decide +kernel
  have hnumbered : numbered 1 (scan "/:id/v:rest*".text) = "/$1/v$2".text := by
    decide +kernel
  obtain ⟨hnamed, k, hcompile, hrewrite⟩ := source_as_template hsegments hplain
  exact ⟨⟨_, hsegments, hreferences ▸ hnamed⟩, k, hcompile, hrewrite.trans hnumbered⟩

end Template
end RouteTable
