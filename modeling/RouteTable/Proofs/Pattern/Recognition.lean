/-
# Exactly the sources of the grammar are accepted

A source has at most one reading (`IsParse.unique`).  It is accepted exactly if it has
between 1 and 4096 characters and a reading in which no name stands twice, and the result
is what the reading means (`segments_eq_ok_iff`).
-/

import RouteTable.Pattern.Compiled
import RouteTable.Proofs.Pattern.Parsing

namespace RouteTable
namespace Pattern

/-! ### Names -/

/-- No name is a duplicate exactly if no name stands twice, or was seen before. -/
theorem Segment.duplicate?_eq_none_iff {seen : List Text} {ss : List Segment} :
    duplicate? seen ss = none ↔
      (ss.filterMap name?).Nodup ∧ ∀ n ∈ ss.filterMap name?, n ∉ seen := by
  fun_induction duplicate? seen ss with
  | case1 => simp
  | case2 seen s ss hs ih => rw [ih, List.filterMap_cons_none hs]
  | case3 seen s ss n hs hn =>
    rw [List.filterMap_cons_some hs]
    simp [hn]
  | case4 seen s ss n hs hn ih =>
    rw [ih, List.filterMap_cons_some hs, List.nodup_cons]
    simp only [List.mem_cons, not_or]
    grind

/-- A duplicate is the first name that stands in front of itself, or was seen before. -/
theorem Segment.exists_of_duplicate? {seen : List Text} {ss : List Segment} {n : Text}
    (h : duplicate? seen ss = some n) :
    ∃ before after, ss.filterMap name? = before ++ n :: after ∧ (n ∈ before ∨ n ∈ seen) ∧
      before.Nodup ∧ ∀ m ∈ before, m ∉ seen := by
  fun_induction duplicate? seen ss with
  | case1 => cases h
  | case2 seen s ss hs ih =>
    rw [List.filterMap_cons_none hs]
    exact ih h
  | case3 seen s ss m hs hm =>
    cases h
    exact ⟨[], _, List.filterMap_cons_some hs, .inr hm, .nil, List.forall_mem_nil _⟩
  | case4 seen s ss m hs hm ih =>
    obtain ⟨before, after, hnames, hn, hnodup, hseen⟩ := ih h
    refine ⟨m :: before, after, by rw [List.filterMap_cons_some hs, hnames]; rfl, ?_, ?_, ?_⟩
    · simp only [List.mem_cons] at hn ⊢
      grind
    · exact List.nodup_cons.2 ⟨fun hmem => hseen m hmem List.mem_cons_self, hnodup⟩
    · intro m' hm'
      rcases List.mem_cons.1 hm' with rfl | hm'
      · exact hm
      · exact fun hmem => hseen m' hm' (List.mem_cons_of_mem _ hmem)

/-! ### Captures -/

/-- The parameter in the piece, with its modifier. -/
def Piece.repeated? : Piece → Option (Parameter × Modifier)
  | parameter p m | brace _ p _ m => some (p, m)
  | _ => none

/-- The parameter of a piece, without its modifier. -/
theorem Piece.parameter?_eq (p : Piece) : p.parameter? = p.repeated?.map Prod.fst := by
  cases p <;> rfl

section Captures

variable {α : Type} (f : Option Text → Text → Modifier → Option α)

/-- A character in front adds no capture. -/
theorem filterMap_capture_consChar (c : CodePoint) (ss : List Segment) :
    (Segment.consChar c ss).filterMap
        (fun s => s.capture?.bind fun k => f k.name k.body k.modifier) =
      ss.filterMap fun s => s.capture?.bind fun k => f k.name k.body k.modifier := by
  unfold Segment.consChar
  split <;> simp [Segment.capture?]

/-- The names, bodies and modifiers in segments are those of the parameters in the pieces. -/
theorem filterMap_capture_segmentsOf (ps : List Piece) :
    (segmentsOf ps).filterMap (fun s => s.capture?.bind fun k => f k.name k.body k.modifier) =
      ps.filterMap fun p => p.repeated?.bind fun q => f q.1.name? q.1.body q.2 := by
  have hp : ∀ (p : Parameter) lead trail m,
      (p.segment lead trail m).capture? = some ⟨p.name?, lead, p.body, trail, m⟩ :=
    fun _ _ _ _ => rfl
  have hg : ∀ t m, (Segment.group t m).capture? = none := fun _ _ => rfl
  fun_induction segmentsOf ps with
  | case1 => rfl
  | case2 c hc p m ps hs ih | case3 c hc p m ps hs ih | case4 x ps hx ih | case5 p m ps ih
  | case6 lead p trail m ps ih | case7 ts m ps ih =>
    simp only [filterMap_capture_consChar, List.filterMap_cons, hp, hg, ih, Piece.repeated?,
      Option.bind_some, Option.bind_none]

end Captures

/-- The names in segments are those of the pieces. -/
theorem filterMap_name?_segmentsOf (ps : List Piece) :
    (segmentsOf ps).filterMap Segment.name? = ps.filterMap Piece.name? := by
  have hname : ∀ p : Piece, p.name? = p.repeated?.bind fun q => q.1.name? := by
    intro p
    cases p <;> rfl
  rw [funext hname]
  exact filterMap_capture_segmentsOf (fun name _ _ => name) ps

/-- The name and the body of a capture are those of a parameter. -/
theorem exists_of_capture_mem {ps : List Piece} {c : Capture} (h : .capture c ∈ segmentsOf ps) :
    ∃ p ∈ ps, ∃ q, p.parameter? = some q ∧ c.name = q.name? ∧ c.body = q.body := by
  have hmem : (c.name, c.body) ∈ (segmentsOf ps).filterMap fun s =>
      s.capture?.bind fun k => some (k.name, k.body) := List.mem_filterMap.2 ⟨_, h, rfl⟩
  rw [filterMap_capture_segmentsOf (fun name body _ => some (name, body))] at hmem
  obtain ⟨p, hp, heq⟩ := List.mem_filterMap.1 hmem
  obtain ⟨q, hq, heq⟩ := Option.bind_eq_some_iff.1 heq
  obtain ⟨hname, hbody⟩ := Prod.mk.inj (Option.some.inj heq)
  exact ⟨p, hp, q.1, by rw [p.parameter?_eq, hq]; rfl, hname.symm, hbody.symm⟩

/-- Every body can stand in parentheses. -/
def HaveBodies (segments : List Segment) : Prop := ∀ c, .capture c ∈ segments → IsBody c.body

/-- The default body is a body. -/
theorem isBody_defaultBody : IsBody defaultBody where
  ne_nil := by decide
  head_ne := by decide
  closes := by
    have hd : defaultBody =
      [scalar '[', scalar '^', scalar '\\', scalar '/', scalar '#', scalar '\\', scalar '?',
        scalar ']', scalar '+', scalar '?'] := by decide
    rw [hd]
    exact .other (by decide) (.other (by decide) (.escape (.other (by decide) (.escape
      (.other (by decide) (.other (by decide) (.other (by decide) .nil)))))))

/-- A parameter has a body. -/
theorem Parameter.isBody_body (p : Parameter) : IsBody p.body := by
  rcases p with ⟨n, _ | b⟩ | b
  · exact isBody_defaultBody
  · exact b.2
  · exact b.2

/-- The bodies of captures come from parameters. -/
theorem haveBodies_segmentsOf (ps : List Piece) : HaveBodies (segmentsOf ps) := by
  intro c hc
  obtain ⟨-, -, q, -, -, hbody⟩ := exists_of_capture_mem hc
  rw [hbody]
  exact q.isBody_body

/-! ### Sources -/

/-- A source is read without faults exactly if it has a reading. -/
theorem scan_readItems_eq_ok_iff {source : Text} {items : List Segment.Item} :
    (∃ tokens, Token.scan 0 source = .ok tokens ∧
        Segment.readItems source.length tokens = .ok items) ↔
      ∃ ps, IsParse source ps ∧ items = partsOf ps := by
  constructor
  · rintro ⟨tokens, ht, hi⟩
    obtain ⟨hl, htext⟩ := Token.scan_eq_ok_iff.1 ⟨tokens, ht, rfl⟩
    obtain ⟨ps, hs, hc, rfl⟩ := Segment.exists_of_readItems hl hi
    rw [hs] at hl htext
    exact ⟨ps, ⟨by rw [← text_shapesOf, htext], lexed_shapesOf_iff.1 ⟨hl, hc⟩⟩, rfl⟩
  · rintro ⟨ps, ⟨hw, ha⟩, rfl⟩
    obtain ⟨hl, hc⟩ := lexed_shapesOf_iff.2 ha
    obtain ⟨tokens, ht, hs⟩ := (@Token.scan_eq_ok_iff 0 source _).2 ⟨hl, by rw [text_shapesOf, hw]⟩
    exact ⟨tokens, ht, Segment.readItems_of_shapes hs hc⟩

/-- A source has at most one reading. -/
theorem IsParse.unique {source : Text} {ps qs : List Piece} (hp : IsParse source ps)
    (hq : IsParse source qs) : ps = qs := by
  obtain ⟨hlp, hcp⟩ := lexed_shapesOf_iff.2 hp.apart
  obtain ⟨hlq, hcq⟩ := lexed_shapesOf_iff.2 hq.apart
  obtain ⟨ks, hk, hsp⟩ := (@Token.scan_eq_ok_iff 0 source _).2
    ⟨hlp, by rw [text_shapesOf, hp.written_eq]⟩
  obtain ⟨ks', hk', hsq⟩ := (@Token.scan_eq_ok_iff 0 source _).2
    ⟨hlq, by rw [text_shapesOf, hq.written_eq]⟩
  rw [hk] at hk'
  cases hk'
  exact eq_of_shapesOf_eq (hsp.symm.trans hsq) hcp hcq

/-- The steps of reading a source. -/
theorem segments_eq_ok_iff_steps {source : Text} {ss : List Segment} :
    segments source = .ok ss ↔ source ≠ [] ∧ source.length ≤ maxSourceLength ∧
      ∃ items, (∃ tokens, Token.scan 0 source = .ok tokens ∧
        Segment.readItems source.length tokens = .ok items) ∧
        Segment.duplicate? [] (Segment.ofItems items) = none ∧ Segment.ofItems items = ss := by
  rw [segments, Outcome.mapError_eq_ok, segments.read]
  by_cases hne : source = []
  · simp [hne, throw, throwThe, MonadExceptOf.throw, bind, Except.bind]
  rw [if_neg hne]
  by_cases hl : maxSourceLength < source.length
  · simp only [if_pos hl, throw, throwThe, MonadExceptOf.throw, bind, Except.bind]
    constructor
    · intro h
      cases h
    · rintro ⟨-, hle, -⟩
      omega
  simp only [if_neg hl, Outcome.bind_eq_ok]
  constructor
  · rintro ⟨tokens, ht, items, hi, hd⟩
    split at hd
    · cases hd
    · rename_i hnone
      exact ⟨hne, Nat.le_of_not_lt hl, items, ⟨tokens, ht, hi⟩, hnone, Except.ok.inj hd⟩
  · rintro ⟨-, -, items, ⟨tokens, ht, hi⟩, hnone, rfl⟩
    refine ⟨tokens, ht, items, hi, ?_⟩
    rw [hnone]
    rfl

/-- The segments of a source are those that its reading means. -/
theorem segments_eq_ok_iff {source : Text} {ss : List Segment} :
    segments source = .ok ss ↔ 1 ≤ source.length ∧ source.length ≤ maxSourceLength ∧
      ∃ ps, IsParse source ps ∧ (ps.filterMap Piece.name?).Nodup ∧ ss = segmentsOf ps := by
  rw [segments_eq_ok_iff_steps]
  simp only [scan_readItems_eq_ok_iff, Segment.duplicate?_eq_none_iff]
  constructor
  · rintro ⟨hne, hl, items, ⟨ps, hp, rfl⟩, ⟨hn, -⟩, rfl⟩
    rw [ofItems_partsOf] at hn ⊢
    rw [filterMap_name?_segmentsOf] at hn
    exact ⟨List.length_pos_iff.2 hne, hl, ps, hp, hn, rfl⟩
  · rintro ⟨hpos, hl, ps, hp, hn, rfl⟩
    refine ⟨List.length_pos_iff.1 hpos, hl, partsOf ps, ⟨ps, hp, rfl⟩, ⟨?_, nofun⟩,
      ofItems_partsOf ps⟩
    rwa [ofItems_partsOf, filterMap_name?_segmentsOf]

/-- A source of a reading in which no name stands twice is compiled to its meaning. -/
theorem IsParse.compile_eq_ok {source : Text} {ps : List Piece} (hp : IsParse source ps)
    (hpos : 1 ≤ source.length) (hl : source.length ≤ maxSourceLength)
    (hn : (ps.filterMap Piece.name?).Nodup) : compile source = .ok ⟨source, segmentsOf ps⟩ :=
  Outcome.map_eq_ok.2 ⟨_, segments_eq_ok_iff.2 ⟨hpos, hl, ps, hp, hn, rfl⟩, rfl⟩

/-- **Exactly the sources of the grammar are accepted, and each has one reading,** whose
meaning is the result: a source of 1 to 4096 characters in which no name stands twice. -/
theorem segments_recognise_grammar (source : Text) :
    (∀ ps qs, IsParse source ps → IsParse source qs → ps = qs) ∧
      ∀ ss, segments source = .ok ss ↔ 1 ≤ source.length ∧ source.length ≤ 4096 ∧
        ∃ ps, IsParse source ps ∧ (ps.filterMap Piece.name?).Nodup ∧ ss = segmentsOf ps :=
  ⟨fun _ _ => IsParse.unique, fun _ => segments_eq_ok_iff⟩

end Pattern
end RouteTable
