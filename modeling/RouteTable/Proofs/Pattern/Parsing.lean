/-
# What reads tokens reads pieces

`partsOf` is what the reader of tokens makes of pieces.  Each reader has a lemma in either
direction: it reads the pieces whose shapes it meets (`Segment.readItems_of_shapes`), and
what it reads is a row of pieces (`Segment.exists_of_readItems`).  A piece that takes part
of what follows is told by the shapes after it, so the lemmas are about shapes that stand
before others.
-/

import RouteTable.Proofs.Pattern.Shapes

namespace RouteTable
namespace Pattern

open TokenShape (text Lexed)

/-- The items that pieces are read as. -/
def partsOf : List Piece → List Segment.Item
  | [] => []
  | .text (.plain c _) :: .parameter p m :: ps =>
    if c = '/' ∨ c = '.' then .segment (p.segment [c] [] m) :: partsOf ps
    else .text c :: partsOf (.parameter p m :: ps)
  | .text x :: ps => .text x.char :: partsOf ps
  | .parameter p m :: ps => .segment (p.segment [] [] m) :: partsOf ps
  | .brace lead p trail m :: ps =>
    .segment (p.segment (lead.map TextItem.char) (trail.map TextItem.char) m) :: partsOf ps
  | .group ts m :: ps => .segment (.group (ts.map TextItem.char) m) :: partsOf ps

/-- A text item that leads no parameter is a part of its own. -/
theorem partsOf_text_cons {x : TextItem} {ps : List Piece}
    (h : ∀ c hc p m ps', x = .plain c hc → ps = .parameter p m :: ps' → ¬(c = '/' ∨ c = '.')) :
    partsOf (.text x :: ps) = .text x.char :: partsOf ps := by
  cases x with
  | escaped c => rfl
  | plain c hc =>
    rcases ps with _ | ⟨_ | ⟨p, m⟩ | _ | _, ps⟩
    case cons.parameter => exact if_neg (h c hc p m ps rfl rfl)
    all_goals rfl

theorem partsOf_lead_cons {c : CodePoint} {hc : c ∉ reserved} (hs : c = '/' ∨ c = '.')
    (p : Parameter) (m : Modifier) (ps : List Piece) :
    partsOf (.text (.plain c hc) :: .parameter p m :: ps) =
      .segment (p.segment [c] [] m) :: partsOf ps :=
  if_pos hs

/-- The parts of pieces make up their segments. -/
theorem ofItems_partsOf (ps : List Piece) : Segment.ofItems (partsOf ps) = segmentsOf ps := by
  fun_induction partsOf ps with
  | case1 => rfl
  | case2 c hc p m ps hs ih => rw [Segment.ofItems, ih, segmentsOf, if_pos hs]
  | case3 c hc p m ps hs ih =>
    rw [Segment.ofItems, ih, segmentsOf, segmentsOf, if_neg hs]
  | case4 x ps hx ih =>
    rw [Segment.ofItems, ih, segmentsOf]
    exact hx
  | case5 | case6 | case7 => simp_all [Segment.ofItems, segmentsOf]

namespace Segment

variable {ks rest : List Token} {r : List TokenShape}

/-- A character of text has the shape of a text item. -/
theorem exists_shape_eq_of_textChar? {k : TokenShape} {c : CodePoint} (hv : k.Valid)
    (h : k.textChar? = some c) : ∃ x : TextItem, x.shape = k ∧ x.char = c := by
  cases k with
  | char d =>
    cases h
    exact ⟨.plain c hv, rfl, rfl⟩
  | escaped d =>
    cases h
    exact ⟨.escaped c, rfl, rfl⟩
  | _ => cases h

/-! ### The readers read the pieces whose shapes they meet -/

/-- Text items are read as long as they last. -/
theorem readText_of_shapes {ts : List TextItem}
    (h : ks.map Token.shape = ts.map TextItem.shape ++ r)
    (hr : ∀ k ∈ r.head?, k.textChar? = none) :
    ∃ rest, readText ks = (ts.map TextItem.char, rest) ∧ rest.map Token.shape = r := by
  induction ts generalizing ks with
  | nil =>
    refine ⟨ks, ?_, h⟩
    cases ks with
    | nil => rfl
    | cons k ks =>
      have : k.shape.textChar? = none := by
        rw [List.map_nil, List.nil_append] at h
        exact hr _ (by rw [← h]; rfl)
      rw [readText, this]
      rfl
  | cons x ts ih =>
    cases ks with
    | nil => cases h
    | cons k ks =>
      obtain ⟨hk, hks⟩ := List.cons.inj h
      obtain ⟨rest, hrest, hm⟩ := ih hks
      refine ⟨rest, ?_, hm⟩
      rw [readText, hk, TextItem.textChar?_shape, hrest]
      rfl

/-- A parameter is read from its tokens. -/
theorem readParameter?_of_shapes {p : Parameter} (h : ks.map Token.shape = p.shapes ++ r)
    (hc : p.Complete r) :
    ∃ rest, readParameter? ks = some ((p.name?, p.body), rest) ∧ rest.map Token.shape = r := by
  rcases p with ⟨n, _ | b⟩ | b
  · obtain ⟨⟨o, k⟩, rest, rfl, rfl, hr⟩ := List.map_eq_cons_iff.1 h
    refine ⟨rest, ?_, hr⟩
    cases rest with
    | nil => rfl
    | cons k rest =>
      have hk : ∀ b, k.shape ≠ .body b := by
        refine hc _ ?_
        change k.shape :: rest.map Token.shape = r at hr
        rw [← hr]
        rfl
      rcases k with ⟨o', _ | _ | _ | _ | b | _ | _⟩
      case body => exact absurd rfl (hk b)
      all_goals rfl
  · obtain ⟨⟨o, k⟩, ks₁, rfl, rfl, h₁⟩ := List.map_eq_cons_iff.1 h
    obtain ⟨⟨o', k⟩, rest, rfl, rfl, hr⟩ := List.map_eq_cons_iff.1 h₁
    exact ⟨rest, rfl, hr⟩
  · obtain ⟨⟨o, k⟩, rest, rfl, rfl, hr⟩ := List.map_eq_cons_iff.1 h
    exact ⟨rest, rfl, hr⟩

/-- No parameter is read where neither a name nor a body stands. -/
theorem readParameter?_eq_none (h : ∀ k ∈ ks.head?, ∀ t, k.shape ≠ .name t ∧ k.shape ≠ .body t) :
    readParameter? ks = none := by
  unfold readParameter?
  split
  · exact absurd rfl (h _ rfl _).1
  · exact absurd rfl (h _ rfl _).1
  · exact absurd rfl (h _ rfl _).2
  · rfl

/-- A modifier is read from its tokens. -/
theorem readModifier_of_shapes {m : Modifier} (h : ks.map Token.shape = m.shapes ++ r)
    (hr : ∀ k ∈ r.head?, ∀ m, k ≠ .modifier m) :
    ∃ rest, readModifier ks = (m, rest) ∧ rest.map Token.shape = r := by
  cases m with
  | once =>
    refine ⟨ks, ?_, h⟩
    cases ks with
    | nil => rfl
    | cons k ks =>
      have hk : ∀ m, k.shape ≠ .modifier m := by
        refine hr _ ?_
        change k.shape :: ks.map Token.shape = r at h
        rw [← h]
        rfl
      rcases k with ⟨o, _ | _ | m | _ | _ | _ | _⟩
      case modifier => exact absurd rfl (hk m)
      all_goals rfl
  | optional | star | plus =>
    obtain ⟨⟨o, k⟩, rest, rfl, rfl, hr⟩ := List.map_eq_cons_iff.1 h
    exact ⟨rest, rfl, hr⟩

/-- What `readBrace` reads in a brace with a parameter. -/
theorem readBrace_of_shapes {length : Nat} {lead trail : List TextItem} {p : Parameter}
    {m : Modifier}
    (h : ks.map Token.shape = lead.map TextItem.shape ++ (p.shapes ++
      (trail.map TextItem.shape ++ .closing :: (m.shapes ++ r))))
    (hc : p.Complete (trail.map TextItem.shape ++ [.closing]))
    (hr : ∀ k ∈ r.head?, ∀ m, k ≠ .modifier m) :
    ∃ rest, readBrace length ks =
      .ok (p.segment (lead.map TextItem.char) (trail.map TextItem.char) m, rest) ∧
      rest.map Token.shape = r := by
  obtain ⟨ks₁, h₁, hm₁⟩ := readText_of_shapes h (by
    rcases p with ⟨n, _ | b⟩ | b <;> simp [Parameter.shapes, TokenShape.textChar?])
  obtain ⟨ks₂, h₂, hm₂⟩ := readParameter?_of_shapes hm₁ ((Parameter.complete_congr (by simp)).1 hc)
  obtain ⟨ks₃, h₃, hm₃⟩ := readText_of_shapes hm₂ (by simp [TokenShape.textChar?])
  obtain ⟨⟨o, k⟩, ks₄, rfl, rfl, hm₄⟩ := List.map_eq_cons_iff.1 hm₃
  obtain ⟨ks₅, h₅, hm₅⟩ := readModifier_of_shapes hm₄ hr
  refine ⟨ks₅, ?_, hm₅⟩
  simp only [readBrace, h₁, h₂, h₃, h₅, Parameter.segment]

/-- Braces around text are read as a group. -/
theorem readBrace_of_text {length : Nat} {ts : List TextItem} {m : Modifier}
    (h : ks.map Token.shape = ts.map TextItem.shape ++ .closing :: (m.shapes ++ r))
    (hr : ∀ k ∈ r.head?, ∀ m, k ≠ .modifier m) :
    ∃ rest, readBrace length ks = .ok (.group (ts.map TextItem.char) m, rest) ∧
      rest.map Token.shape = r := by
  obtain ⟨ks₁, h₁, hm₁⟩ := readText_of_shapes h (by simp [TokenShape.textChar?])
  obtain ⟨⟨o, k⟩, ks₂, rfl, rfl, hm₂⟩ := List.map_eq_cons_iff.1 hm₁
  obtain ⟨ks₃, h₃, hm₃⟩ := readModifier_of_shapes hm₂ hr
  refine ⟨ks₃, ?_, hm₃⟩
  simp [readBrace, h₁, readParameter?, readText, TokenShape.textChar?, h₃]

/-- Items are read one after the other. -/
theorem readItems_cons {length : Nat} {k : Token} {ks rest : List Token} {item : Item}
    (h : readItem length k ks = .ok (item, rest)) :
    readItems length (k :: ks) = (readItems length rest).map (item :: ·) := by
  rw [readItems]
  split
  · rename_i f hf
    rw [h] at hf
    cases hf
  · rename_i item' rest' h'
    rw [h] at h'
    cases h'
    rfl

/-- The characters that lead a parameter are the slash and the dot. -/
theorem isSeparator_iff {c : CodePoint} : isSeparator c = true ↔ c = '/' ∨ c = '.' := by
  simp [isSeparator]

/-- A parameter is read behind a slash or a dot only. -/
theorem readLedParameter?_eq_some_iff {c : CodePoint} {q : (Option Text × Text) × List Token} :
    readLedParameter? c ks = some q ↔ isSeparator c = true ∧ readParameter? ks = some q := by
  rw [readLedParameter?, Option.ite_none_right_eq_some]

/-- A capture is read from its parameter and its modifier. -/
theorem readCapture_of_shapes {p : Parameter} {m : Modifier} (lead : Text)
    (h : ks.map Token.shape = m.shapes ++ r) (hr : ∀ k ∈ r.head?, ∀ m, k ≠ .modifier m) :
    ∃ rest, readCapture lead (p.name?, p.body) ks = (.segment (p.segment lead [] m), rest) ∧
      rest.map Token.shape = r := by
  obtain ⟨rest, h₁, hm₁⟩ := readModifier_of_shapes h hr
  exact ⟨rest, by rw [readCapture, h₁]; rfl, hm₁⟩

/-- A parameter is an item. -/
theorem readItem_of_parameter {length : Nat} {k : Token} {p : Parameter} {m : Modifier}
    (h : (k :: ks).map Token.shape = p.shapes ++ (m.shapes ++ r)) (hc : p.Complete (m.shapes ++ r))
    (hr : ∀ k ∈ r.head?, ∀ m, k ≠ .modifier m) :
    ∃ rest, readItem length k ks = .ok (.segment (p.segment [] [] m), rest) ∧
      rest.map Token.shape = r := by
  obtain ⟨ks₁, h₁, hm₁⟩ := readParameter?_of_shapes h hc
  obtain ⟨rest, h₂, hm₂⟩ := readCapture_of_shapes (p := p) [] hm₁ hr
  refine ⟨rest, ?_, hm₂⟩
  have hk : (∃ t, k.shape = .name t) ∨ ∃ t, k.shape = .body t := by
    rcases p with ⟨n, _ | b⟩ | b <;> simp_all [Parameter.shapes]
  rcases hk with ⟨t, hk⟩ | ⟨t, hk⟩ <;>
    simp only [readItem, readUnledParameter, hk, h₁, h₂]

/-- A separator and a parameter are one item. -/
theorem readItem_of_lead {length : Nat} {k : Token} {c : CodePoint} {p : Parameter} {m : Modifier}
    (hk : k.shape = .char c) (hs : c = '/' ∨ c = '.')
    (h : ks.map Token.shape = p.shapes ++ (m.shapes ++ r)) (hc : p.Complete (m.shapes ++ r))
    (hr : ∀ k ∈ r.head?, ∀ m, k ≠ .modifier m) :
    ∃ rest, readItem length k ks = .ok (.segment (p.segment [c] [] m), rest) ∧
      rest.map Token.shape = r := by
  obtain ⟨ks₁, h₁, hm₁⟩ := readParameter?_of_shapes h hc
  obtain ⟨rest, h₂, hm₂⟩ := readCapture_of_shapes (p := p) [c] hm₁ hr
  refine ⟨rest, ?_, hm₂⟩
  simp only [readItem, hk, readLedParameter?, isSeparator_iff.2 hs, if_true, h₁, h₂]

/-- A character of text that no parameter takes as its lead is an item. -/
theorem readItem_of_text {length : Nat} {k : Token} {x : TextItem} (hk : k.shape = x.shape)
    (h : ∀ c hc, x = .plain c hc → c = '/' ∨ c = '.' → readParameter? ks = none) :
    readItem length k ks = .ok (.text x.char, ks) := by
  cases x with
  | plain c hc =>
    have hn : readLedParameter? c ks = none := by
      unfold readLedParameter?
      split
      · rename_i hs
        exact h c hc rfl (isSeparator_iff.1 hs)
      · rfl
    rw [TextItem.shape] at hk
    simp only [readItem, hk, hn, TextItem.char]
  | escaped c =>
    rw [TextItem.shape] at hk
    simp only [readItem, hk, TextItem.char]

/-- Where no parameter comes next, none is read. -/
theorem readParameter?_eq_none_of_shapes {ps : List Piece} (h : ks.map Token.shape = shapesOf ps)
    (hp : ∀ p m ps', ps ≠ .parameter p m :: ps') : readParameter? ks = none := by
  refine readParameter?_eq_none fun k hk t => ?_
  cases ks with
  | nil => cases hk
  | cons k' ks =>
    cases hk
    rcases ps with _ | ⟨p, ps⟩
    · cases h
    cases p with
    | text x => cases x <;> simp_all [shapesOf, Piece.shapes, TextItem.shape]
    | parameter p m => exact absurd rfl (hp p m ps)
    | brace | group => simp_all [shapesOf, Piece.shapes]

/-- **Complete pieces are read from their shapes.** -/
theorem readItems_of_shapes {length : Nat} {ps : List Piece} (h : ks.map Token.shape = shapesOf ps)
    (hc : Complete ps) : readItems length ks = .ok (partsOf ps) := by
  -- the first item, and the rest by induction
  have step : ∀ {k : Token} {ks : List Token} {ps' : List Piece} {item : Item},
      (∀ {ks : List Token}, ks.map Token.shape = shapesOf ps' → Complete ps' →
        readItems length ks = .ok (partsOf ps')) → Complete ps' →
      (∃ rest, readItem length k ks = .ok (item, rest) ∧ rest.map Token.shape = shapesOf ps') →
      readItems length (k :: ks) = .ok (item :: partsOf ps') := by
    rintro k ks ps' item ih hc ⟨rest, hr, hm⟩
    rw [readItems_cons hr, ih hm hc]
    rfl
  fun_induction partsOf ps generalizing ks with
  | case1 =>
    obtain rfl := List.map_eq_nil_iff.1 h
    rw [readItems]
  | case2 c hx p m ps hs ih =>
    obtain ⟨-, hp, hc⟩ := hc
    rw [shapesOf_cons, shapesOf_parameter_cons] at h
    obtain ⟨k, ks₁, rfl, hk, h₁⟩ := List.map_eq_cons_iff.1 h
    exact step ih hc (readItem_of_lead hk hs h₁ hp fun _ => ne_modifier_of_mem_head?)
  | case3 c hx p m ps hs ih =>
    obtain ⟨-, hc⟩ := hc
    obtain ⟨k, ks₁, rfl, hk, h₁⟩ := List.map_eq_cons_iff.1 h
    refine step ih hc ⟨ks₁, readItem_of_text (x := .plain c hx) hk ?_, h₁⟩
    rintro _ _ ⟨⟩ hs'
    exact absurd hs' hs
  | case4 x ps hx ih =>
    obtain ⟨-, hc⟩ := hc
    obtain ⟨k, ks₁, rfl, hk, h₁⟩ := List.map_eq_cons_iff.1 h
    refine step ih hc ⟨ks₁, readItem_of_text hk ?_, h₁⟩
    rintro c hc rfl -
    exact readParameter?_eq_none_of_shapes h₁ fun p m ps' hps => hx c hc p m ps' hps rfl
  | case5 p m ps ih =>
    obtain ⟨hp, hc⟩ := hc
    rw [shapesOf_parameter_cons] at h
    cases ks with
    | nil => rcases p with ⟨n, _ | b⟩ | b <;> cases h
    | cons k ks =>
      exact step ih hc (readItem_of_parameter h hp fun _ => ne_modifier_of_mem_head?)
  | case6 lead p trail m ps ih =>
    obtain ⟨hp, hc⟩ := hc
    rw [shapesOf_cons, Piece.brace_shapes_append] at h
    obtain ⟨k, ks₁, rfl, hk, h₁⟩ := List.map_eq_cons_iff.1 h
    obtain ⟨rest, h₂, hm₂⟩ :=
      @readBrace_of_shapes _ _ length _ _ _ _ h₁ hp fun _ => ne_modifier_of_mem_head?
    refine step ih hc ⟨rest, ?_, hm₂⟩
    rw [readItem, hk]
    simp only [h₂, Except.map]
  | case7 ts m ps ih =>
    obtain ⟨-, hc⟩ := hc
    rw [shapesOf_cons, Piece.group_shapes_append] at h
    obtain ⟨k, ks₁, rfl, hk, h₁⟩ := List.map_eq_cons_iff.1 h
    obtain ⟨rest, h₂, hm₂⟩ :=
      @readBrace_of_text _ _ length _ _ h₁ fun _ => ne_modifier_of_mem_head?
    refine step ih hc ⟨rest, ?_, hm₂⟩
    rw [readItem, hk]
    simp only [h₂, Except.map]

/-! ### What the readers read are pieces -/

/-- What is read as text was written by text items. -/
theorem exists_of_readText (hl : Lexed (ks.map Token.shape)) :
    ∃ (ts : List TextItem) (rest : List Token), readText ks = (ts.map TextItem.char, rest) ∧
      ks.map Token.shape = ts.map TextItem.shape ++ rest.map Token.shape := by
  induction ks with
  | nil => exact ⟨[], [], rfl, rfl⟩
  | cons k ks ih =>
    obtain ⟨hv, -, hks⟩ := hl
    rw [readText]
    split
    · rename_i c hc
      obtain ⟨x, hx, rfl⟩ := exists_shape_eq_of_textChar? hv hc
      obtain ⟨ts, rest, hr, hts⟩ := ih hks
      exact ⟨x :: ts, rest, by rw [hr]; rfl, by rw [List.map_cons, hts, ← hx]; rfl⟩
    · exact ⟨[], k :: ks, rfl, rfl⟩

/-- What is read as a parameter was written by one. -/
theorem exists_of_readParameter? {q : Option Text × Text} (hl : Lexed (ks.map Token.shape))
    (h : readParameter? ks = some (q, rest)) :
    ∃ p : Parameter, ks.map Token.shape = p.shapes ++ rest.map Token.shape ∧
      q = (p.name?, p.body) ∧ p.Complete (rest.map Token.shape) := by
  unfold readParameter? at h
  split at h
  · cases h
    exact ⟨.named ⟨_, hl.1⟩ (some ⟨_, hl.2.2.1⟩), rfl, rfl, trivial⟩
  · rename_i o n rest' hne
    cases h
    refine ⟨.named ⟨_, hl.1⟩ none, rfl, rfl, ?_⟩
    intro k hk b hb
    cases rest with
    | nil => cases hk
    | cons k' rest =>
      cases hk
      exact hne k'.offset b rest (by rw [← hb])
  · cases h
    exact ⟨.unnamed ⟨_, hl.1⟩, rfl, rfl, trivial⟩
  · cases h

/-- What is read as a modifier was written by one. -/
theorem exists_of_readModifier (hl : Lexed (ks.map Token.shape)) :
    ∃ (m : Modifier) (rest : List Token), readModifier ks = (m, rest) ∧
      ks.map Token.shape = m.shapes ++ rest.map Token.shape := by
  unfold readModifier
  split
  · rename_i o m rest
    cases m with
    | once => exact absurd rfl hl.1
    | optional | star | plus => exact ⟨_, rest, rfl, rfl⟩
  · exact ⟨.once, ks, rfl, rfl⟩

/-- A brace that is read is a piece. -/
theorem exists_of_readBrace {length : Nat} {s : Segment} (hl : Lexed (ks.map Token.shape))
    (h : readBrace length ks = .ok (s, rest)) :
    ∃ p : Piece, .opening :: ks.map Token.shape = p.shapes ++ rest.map Token.shape ∧
      p.Complete (rest.map Token.shape) ∧ ∀ ps, partsOf (p :: ps) = .segment s :: partsOf ps := by
  obtain ⟨lead, ks₁, h₁, hm₁⟩ := exists_of_readText hl
  rw [hm₁] at hl ⊢
  have hl₁ := Lexed.of_append hl
  simp only [readBrace, h₁] at h
  cases hp : readParameter? ks₁ with
  | none =>
    rw [hp] at h
    obtain ⟨trail, ks₂, h₂, hm₂⟩ := exists_of_readText hl₁
    rw [hm₂] at hl₁ ⊢
    have hl₂ := Lexed.of_append hl₁
    simp only [h₂] at h
    split at h
    · rename_i o ks₃
      obtain ⟨m, ks₄, h₄, hm₄⟩ := exists_of_readModifier hl₂.2.2
      simp only [h₄] at h
      cases h
      refine ⟨.group (lead ++ trail) m, ?_, trivial, fun ps => ?_⟩
      · simp [Piece.shapes, hm₄]
      · rw [partsOf, List.map_append]
    · cases h
  | some r =>
    obtain ⟨q, ks₂⟩ := r
    obtain ⟨p, hm₂, rfl, hc⟩ := exists_of_readParameter? hl₁ hp
    rw [hp] at h
    rw [hm₂] at hl₁ ⊢
    have hl₂ := Lexed.of_append hl₁
    obtain ⟨trail, ks₃, h₃, hm₃⟩ := exists_of_readText hl₂
    rw [hm₃] at hl₂ hc ⊢
    have hl₃ := Lexed.of_append hl₂
    simp only [h₃] at h
    split at h
    · rename_i o ks₄
      obtain ⟨m, ks₅, h₅, hm₅⟩ := exists_of_readModifier hl₃.2.2
      simp only [h₅] at h
      cases h
      refine ⟨.brace lead p trail m, ?_, (Parameter.complete_congr (by simp)).1 hc, fun ps => rfl⟩
      simp [Piece.shapes, hm₅]
    · cases h

/-- What is read as a capture was written by its modifier. -/
theorem exists_of_readCapture {lead : Text} {p : Parameter} {item : Item}
    (hl : Lexed (ks.map Token.shape))
    (h : readCapture lead (p.name?, p.body) ks = (item, rest)) :
    ∃ m : Modifier, ks.map Token.shape = m.shapes ++ rest.map Token.shape ∧
      item = .segment (p.segment lead [] m) := by
  obtain ⟨m, rest', hr, hm⟩ := exists_of_readModifier hl
  simp only [readCapture, hr] at h
  cases h
  exact ⟨m, hm, rfl⟩

/-- What is read without a prefix is a parameter. -/
theorem exists_of_readUnledParameter {length : Nat} {item : Item} (hl : Lexed (ks.map Token.shape))
    (h : readUnledParameter length ks = .ok (item, rest)) :
    ∃ p m, ks.map Token.shape = shapesOf [.parameter p m] ++ rest.map Token.shape ∧
      item = .segment (p.segment [] [] m) ∧
      ∀ ps, shapesOf ps = rest.map Token.shape → Complete ps → Complete (.parameter p m :: ps) := by
  unfold readUnledParameter at h
  split at h
  · rename_i q ks₁ hq
    obtain ⟨p, hm₁, rfl, hc⟩ := exists_of_readParameter? hl hq
    rw [hm₁] at hl
    obtain ⟨m, hm, rfl⟩ := exists_of_readCapture (Lexed.of_append hl) (Except.ok.inj h)
    rw [hm] at hc
    refine ⟨p, m, ?_, rfl, fun ps hps hcs => ⟨?_, hcs⟩⟩
    · rw [hm₁, hm, shapesOf_parameter_cons]
      simp
    · rwa [← hps] at hc
  · cases h

/-- An item that is read is a piece, or a separator and a parameter. -/
theorem exists_of_readItem {length : Nat} {k : Token} {item : Item}
    (hl : Lexed ((k :: ks).map Token.shape)) (h : readItem length k ks = .ok (item, rest)) :
    ∃ front : List Piece, (k :: ks).map Token.shape = shapesOf front ++ rest.map Token.shape ∧
      ∀ ps, shapesOf ps = rest.map Token.shape → Complete ps →
        Complete (front ++ ps) ∧ partsOf (front ++ ps) = item :: partsOf ps := by
  have hks : Lexed (ks.map Token.shape) := hl.2.2
  have unled : readUnledParameter length (k :: ks) = .ok (item, rest) →
      ∃ front : List Piece, (k :: ks).map Token.shape = shapesOf front ++ rest.map Token.shape ∧
        ∀ ps, shapesOf ps = rest.map Token.shape → Complete ps →
          Complete (front ++ ps) ∧ partsOf (front ++ ps) = item :: partsOf ps := by
    intro h
    obtain ⟨p, m, hm, rfl, hc⟩ := exists_of_readUnledParameter hl h
    exact ⟨[.parameter p m], hm, fun ps hps hcs => ⟨hc ps hps hcs, rfl⟩⟩
  rcases k with ⟨o, c | c | m | n | b | _ | _⟩ <;> simp only [readItem] at h
  · have hv : c ∉ reserved := hl.1
    split at h
    · rename_i q ks₁ hq
      obtain ⟨hs, hq⟩ := readLedParameter?_eq_some_iff.1 hq
      obtain ⟨p, hm₁, rfl, hc⟩ := exists_of_readParameter? hks hq
      rw [hm₁] at hks
      obtain ⟨m, hm, rfl⟩ := exists_of_readCapture (Lexed.of_append hks) (Except.ok.inj h)
      rw [hm] at hc
      refine ⟨[.text (.plain c hv), .parameter p m], ?_, fun ps hps hcs =>
        ⟨⟨trivial, by rwa [← hps] at hc, hcs⟩,
          partsOf_lead_cons (isSeparator_iff.1 hs) p m ps⟩⟩
      rw [List.map_cons, hm₁, hm, shapesOf_cons, shapesOf_parameter_cons]
      simp [Piece.shapes, TextItem.shape]
    · rename_i hq
      cases h
      refine ⟨[.text (.plain c hv)], rfl, fun ps hps hcs =>
        ⟨⟨trivial, hcs⟩, partsOf_text_cons ?_⟩⟩
      rintro _ _ p m ps' ⟨⟩ rfl hs
      -- a separator would have been taken by the parameter after it
      rw [shapesOf_parameter_cons] at hps
      obtain ⟨ks₁, h₁, -⟩ := readParameter?_of_shapes hps.symm hcs.1
      rw [readLedParameter?, if_pos (isSeparator_iff.2 hs), h₁] at hq
      cases hq
  · cases h
    exact ⟨[.text (.escaped c)], rfl, fun ps _ hcs => ⟨⟨trivial, hcs⟩, rfl⟩⟩
  · exact unled h
  · exact unled h
  · exact unled h
  · obtain ⟨⟨s, r⟩, hb, he⟩ := Outcome.map_eq_ok.1 h
    cases he
    obtain ⟨p, hm, hc, hp⟩ := exists_of_readBrace hks hb
    refine ⟨[p], ?_, fun ps hps hcs => ⟨⟨?_, hcs⟩, hp ps⟩⟩
    · simpa using hm
    · rwa [← hps] at hc
  · exact unled h

/-- **Items that are read are complete pieces.** -/
theorem exists_of_readItems {length : Nat} {items : List Item} (hl : Lexed (ks.map Token.shape))
    (h : readItems length ks = .ok items) :
    ∃ ps, ks.map Token.shape = shapesOf ps ∧ Complete ps ∧ items = partsOf ps := by
  fun_induction readItems length ks generalizing items with
  | case1 =>
    cases h
    exact ⟨[], rfl, trivial, rfl⟩
  | case2 => cases h
  | case3 k ks item rest hr ih =>
    obtain ⟨items', hi, rfl⟩ := Outcome.map_eq_ok.1 h
    obtain ⟨front, hf, hps⟩ := exists_of_readItem hl hr
    rw [hf] at hl
    obtain ⟨ps, hm, hc, rfl⟩ := ih (Lexed.of_append hl) hi
    obtain ⟨hc', hp⟩ := hps ps hm.symm hc
    refine ⟨front ++ ps, ?_, hc', hp.symm⟩
    rw [hf, hm]
    exact List.flatMap_append.symm

end Segment
end Pattern
end RouteTable
