/-
# The token shapes of pieces

A piece has its row of token shapes, which are written as the piece.  Two facts lead
from the text of pieces to their shapes and back.

* Pieces stand apart in the text exactly if their shapes are lexed and no body follows a
  parameter that would take it as its own (`lexed_shapesOf_iff`).
* Complete pieces are determined by their shapes (`eq_of_shapesOf_eq`).
-/

import RouteTable.Proofs.Pattern.Lexing

namespace RouteTable
namespace Pattern

/-! ### Shapes -/

/-- The shape of a character of text. -/
def TextItem.shape : TextItem → TokenShape
  | plain c _ => .char c
  | escaped c => .escaped c

/-- The shapes of a modifier. -/
def Modifier.shapes : Modifier → List TokenShape
  | once => []
  | m => [.modifier m]

/-- The shapes of a parameter. -/
def Parameter.shapes : Parameter → List TokenShape
  | named n (some b) => [.name n.1, .body b.1]
  | named n none => [.name n.1]
  | unnamed b => [.body b.1]

/-- The shapes of a piece. -/
def Piece.shapes : Piece → List TokenShape
  | text x => [x.shape]
  | parameter p m => p.shapes ++ m.shapes
  | brace lead p trail m =>
    .opening :: (lead.map TextItem.shape ++ p.shapes ++ trail.map TextItem.shape ++
      .closing :: m.shapes)
  | group ts m => .opening :: (ts.map TextItem.shape ++ .closing :: m.shapes)

/-- The shapes of pieces. -/
abbrev shapesOf (ps : List Piece) : List TokenShape := ps.flatMap Piece.shapes

theorem Piece.brace_shapes_append (lead : List TextItem) (p : Parameter) (trail : List TextItem)
    (m : Modifier) (r : List TokenShape) :
    (brace lead p trail m).shapes ++ r = .opening :: (lead.map TextItem.shape ++
      (p.shapes ++ (trail.map TextItem.shape ++ TokenShape.closing :: (m.shapes ++ r)))) := by
  simp [shapes]

theorem Piece.group_shapes_append (ts : List TextItem) (m : Modifier) (r : List TokenShape) :
    (group ts m).shapes ++ r =
      .opening :: (ts.map TextItem.shape ++ .closing :: (m.shapes ++ r)) := by
  simp [shapes]

theorem shapesOf_cons (p : Piece) (ps : List Piece) :
    shapesOf (p :: ps) = p.shapes ++ shapesOf ps :=
  rfl

theorem shapesOf_parameter_cons (p : Parameter) (m : Modifier) (ps : List Piece) :
    shapesOf (.parameter p m :: ps) = p.shapes ++ (m.shapes ++ shapesOf ps) :=
  List.append_assoc ..

open TokenShape (text Lexed)

/-- The token of a text item is written as the item is. -/
theorem TextItem.written_shape (x : TextItem) : x.shape.written = x.written := by
  cases x <;> rfl

/-- The token of a text item stands for its character. -/
theorem TextItem.textChar?_shape (x : TextItem) : x.shape.textChar? = some x.char := by
  cases x <;> rfl

/-- The tokens of text items write the items. -/
theorem text_textShapes (ts : List TextItem) :
    text (ts.map TextItem.shape) = ts.flatMap TextItem.written := by
  simp only [text, List.flatMap_map, TextItem.written_shape]

/-- The tokens of a modifier write the modifier. -/
theorem Modifier.text_shapes (m : Modifier) : TokenShape.text m.shapes = m.text := by
  cases m <;> rfl

/-- The tokens of a parameter write the parameter. -/
theorem Parameter.text_shapes (p : Parameter) : text p.shapes = p.written := by
  rcases p with ⟨n, _ | b⟩ | b <;> simp [shapes, written, text, TokenShape.written]

/-- The tokens of a piece write the piece. -/
theorem Piece.text_shapes (p : Piece) : TokenShape.text p.shapes = p.written := by
  cases p with
  | text x => simp [shapes, written, TextItem.written_shape]
  | parameter p m => simp [shapes, written, ← p.text_shapes, ← m.text_shapes]
  | brace lead p trail m =>
    simp [shapes, written, ← p.text_shapes, ← m.text_shapes, ← text_textShapes,
      TokenShape.written]
  | group ts m => simp [shapes, written, ← m.text_shapes, ← text_textShapes, TokenShape.written]

/-- The tokens of pieces write the pieces. -/
theorem text_shapesOf (ps : List Piece) : text (shapesOf ps) = ps.flatMap Piece.written := by
  simp only [shapesOf, List.flatMap_assoc, Piece.text_shapes]

/-! ### Pieces that stand apart -/

/-- No body follows a parameter that would take it as its own. -/
def Parameter.Complete (rest : List TokenShape) : Parameter → Prop
  | named _ none => ∀ k ∈ rest.head?, ∀ b, k ≠ .body b
  | _ => True

/-- The parameter in a piece is complete. -/
def Piece.Complete (rest : List TokenShape) : Piece → Prop
  | parameter p m => p.Complete (m.shapes ++ rest)
  | brace _ p trail _ => p.Complete (trail.map TextItem.shape ++ [.closing])
  | _ => True

/-- The parameters in pieces are complete. -/
def Complete : List Piece → Prop
  | [] => True
  | p :: ps => p.Complete (shapesOf ps) ∧ Complete ps

/-- Text items are told from any token that follows. -/
theorem lexed_text_iff {ts : List TextItem} {r : List TokenShape} :
    Lexed (ts.map TextItem.shape ++ r) ↔ Lexed r := by
  induction ts with
  | nil => rfl
  | cons x ts ih =>
    cases x with
    | plain c h =>
      simpa [Lexed, TextItem.shape, TokenShape.Valid, TokenShape.EndsBefore, h] using ih
    | escaped c => simpa [Lexed, TextItem.shape, TokenShape.Valid, TokenShape.EndsBefore] using ih

/-- A modifier is told from any token that follows. -/
theorem lexed_modifier_iff {m : Modifier} {r : List TokenShape} :
    Lexed (m.shapes ++ r) ↔ Lexed r := by
  cases m <;> simp [Modifier.shapes, Lexed, TokenShape.Valid, TokenShape.EndsBefore]

/-- A valid shape opens a parenthesis exactly if it is a body. -/
theorem head_ne_paren_iff {r : List TokenShape} (h : Lexed r) :
    (∀ c ∈ (text r).head?, c ≠ '(') ↔ ∀ k ∈ r.head?, ∀ b, k ≠ .body b := by
  cases r with
  | nil => simp [text]
  | cons k r =>
    obtain ⟨hv, -, -⟩ := h
    cases k with
    | char c =>
      have : c ≠ '(' := by
        rintro rfl
        exact hv (by decide)
      simpa [text, TokenShape.written] using this
    | modifier m => cases m <;> simp_all [TokenShape.Valid, text, TokenShape.written, Modifier.text]
    | _ => simp [text, TokenShape.written]

/-- A parameter is told from tokens that do not continue it. -/
theorem Parameter.lexed_iff {p : Parameter} {r : List TokenShape} :
    Lexed (p.shapes ++ r) ∧ p.Complete r ↔ p.EndsBefore (text r) ∧ Lexed r := by
  rcases p with ⟨n, _ | b⟩ | b
  · constructor
    · rintro ⟨⟨-, he, hr⟩, hc⟩
      have hp := (head_ne_paren_iff hr).2 hc
      exact ⟨fun c hc => ⟨he c hc, hp c hc⟩, hr⟩
    · rintro ⟨he, hr⟩
      exact ⟨⟨n.2, fun c hc => (he c hc).1, hr⟩,
        (head_ne_paren_iff hr).1 fun c hc => (he c hc).2⟩
  · have hparen : isNameChar '(' = false := by decide
    simp [shapes, Lexed, TokenShape.Valid, TokenShape.EndsBefore, Complete, EndsBefore, n.2, b.2,
      TokenShape.written, hparen]
  · simp [shapes, Lexed, TokenShape.Valid, TokenShape.EndsBefore, Complete, EndsBefore, b.2]

/-- What a parameter ends before is told by the first character. -/
theorem Parameter.endsBefore_congr {p : Parameter} {t u : Text} (h : t.head? = u.head?) :
    p.EndsBefore t ↔ p.EndsBefore u := by
  rcases p with ⟨n, _ | b⟩ | b <;> simp [EndsBefore, h]

/-- Whether a parameter is complete is told by the first shape. -/
theorem Parameter.complete_congr {p : Parameter} {r s : List TokenShape} (h : r.head? = s.head?) :
    p.Complete r ↔ p.Complete s := by
  rcases p with ⟨n, _ | b⟩ | b <;> simp [Complete, h]

/-- A piece is told from tokens that do not continue it. -/
theorem Piece.lexed_iff {p : Piece} {r : List TokenShape} :
    Lexed (p.shapes ++ r) ∧ p.Complete r ↔ p.EndsBefore (TokenShape.text r) ∧ Lexed r := by
  have closing : ∀ {m : Modifier}, Lexed (.closing :: (m.shapes ++ r)) ↔ Lexed r := by
    intro m
    simp [Lexed, TokenShape.Valid, TokenShape.EndsBefore, lexed_modifier_iff]
  cases p with
  | text x =>
    have := @lexed_text_iff [x] r
    simpa [shapes, Complete, EndsBefore] using this
  | parameter p m =>
    have := p.lexed_iff (r := m.shapes ++ r)
    rw [lexed_modifier_iff] at this
    simpa [shapes, Complete, EndsBefore, TokenShape.text, ← m.text_shapes] using this
  | brace lead p trail m =>
    have hp := p.lexed_iff (r := trail.map TextItem.shape ++ TokenShape.closing :: (m.shapes ++ r))
    have hc : p.Complete (trail.map TextItem.shape ++ TokenShape.closing :: (m.shapes ++ r)) ↔
        p.Complete (trail.map TextItem.shape ++ [TokenShape.closing]) :=
      Parameter.complete_congr (by simp)
    have he : p.EndsBefore (TokenShape.text (trail.map TextItem.shape ++
          TokenShape.closing :: (m.shapes ++ r))) ↔
        p.EndsBefore (trail.flatMap TextItem.written ++ [scalar '\x7d']) :=
      Parameter.endsBefore_congr (by
        rw [TokenShape.text, List.flatMap_append, ← text_textShapes]
        simp [TokenShape.written])
    rw [hc, he, lexed_text_iff, closing] at hp
    simpa [shapes, Complete, EndsBefore, Lexed, TokenShape.Valid, TokenShape.EndsBefore,
      lexed_text_iff] using hp
  | group ts m =>
    have : Lexed (ts.map TextItem.shape ++ TokenShape.closing :: (m.shapes ++ r)) ↔ Lexed r := by
      rw [lexed_text_iff, closing]
    simpa [shapes, Complete, EndsBefore, Lexed, TokenShape.Valid, TokenShape.EndsBefore] using this

/-- **The tokens of pieces are read back** exactly if the pieces are apart. -/
theorem lexed_shapesOf_iff {ps : List Piece} :
    Lexed (shapesOf ps) ∧ Complete ps ↔ Apart ps := by
  induction ps with
  | nil => simp [shapesOf, Lexed, Complete, Apart]
  | cons p ps ih =>
    have h := p.lexed_iff (r := shapesOf ps)
    rw [shapesOf, List.flatMap_cons, Complete, Apart, ← ih, ← text_shapesOf, ← and_assoc, h,
      and_assoc]

/-- What is read back from tokens is read back from their end. -/
theorem Lexed.of_append {r s : List TokenShape} (h : Lexed (r ++ s)) : Lexed s := by
  induction r with
  | nil => exact h
  | cons k r ih => exact ih h.2.2

/-- A piece starts with a shape, which is no modifier. -/
theorem Piece.exists_shapes_eq_cons (p : Piece) :
    ∃ k r, p.shapes = k :: r ∧ ∀ m, k ≠ .modifier m := by
  cases p with
  | text x => cases x <;> exact ⟨_, [], rfl, nofun⟩
  | parameter p m => rcases p with ⟨n, _ | b⟩ | b <;> exact ⟨_, _, rfl, nofun⟩
  | brace | group => exact ⟨_, _, rfl, nofun⟩

/-- No piece starts with a modifier. -/
theorem ne_modifier_of_mem_head? {ps : List Piece} {k : TokenShape}
    (h : k ∈ (shapesOf ps).head?) (m : Modifier) : k ≠ .modifier m := by
  cases ps with
  | nil => cases h
  | cons p ps =>
    obtain ⟨k', r, hk, hm⟩ := p.exists_shapes_eq_cons
    rw [shapesOf, List.flatMap_cons, hk] at h
    cases h
    exact hm m

/-! ### Shapes determine pieces -/

section Unique

variable {r s : List TokenShape}

/-- A text item is told by its token. -/
theorem TextItem.shape_injective {x y : TextItem} (h : x.shape = y.shape) : x = y := by
  cases x <;> cases y <;> cases h <;> rfl

/-- Text items are told by their tokens, up to a token that is no text. -/
theorem text_unique {ts us : List TextItem}
    (h : ts.map TextItem.shape ++ r = us.map TextItem.shape ++ s)
    (hr : ∀ k ∈ r.head?, k.textChar? = none) (hs : ∀ k ∈ s.head?, k.textChar? = none) :
    ts = us ∧ r = s := by
  induction ts generalizing us with
  | nil =>
    cases us with
    | nil => exact ⟨rfl, h⟩
    | cons y us =>
      obtain rfl : r = _ := h
      have := hr _ rfl
      rw [TextItem.textChar?_shape] at this
      cases this
  | cons x ts ih =>
    cases us with
    | nil =>
      obtain rfl : _ = s := h
      have := hs _ rfl
      rw [TextItem.textChar?_shape] at this
      cases this
    | cons y us =>
      obtain ⟨hxy, h⟩ := List.cons.inj h
      obtain ⟨rfl, rfl⟩ := ih h
      exact ⟨by rw [TextItem.shape_injective hxy], rfl⟩

/-- A modifier is told by its tokens. -/
theorem Modifier.unique {m n : Modifier} (h : m.shapes ++ r = n.shapes ++ s)
    (hr : ∀ k ∈ r.head?, ∀ m, k ≠ .modifier m) (hs : ∀ k ∈ s.head?, ∀ m, k ≠ .modifier m) :
    m = n ∧ r = s := by
  cases m with
  | once =>
    cases n with
    | once => exact ⟨rfl, h⟩
    | optional | star | plus =>
      obtain rfl : r = _ := h
      exact absurd rfl (hr _ rfl _)
  | optional | star | plus =>
    cases n with
    | once =>
      obtain rfl : _ = s := h
      exact absurd rfl (hs _ rfl _)
    | optional | star | plus => cases h <;> exact ⟨rfl, rfl⟩

/-- A parameter is told by its tokens. -/
theorem Parameter.unique {p q : Parameter} (h : p.shapes ++ r = q.shapes ++ s)
    (hp : p.Complete r) (hq : q.Complete s) : p = q ∧ r = s := by
  rcases p with ⟨⟨n, hn⟩, _ | ⟨b, hb⟩⟩ | ⟨b, hb⟩ <;>
    rcases q with ⟨⟨n', hn'⟩, _ | ⟨b', hb'⟩⟩ | ⟨b', hb'⟩
  case named.none.named.some =>
    obtain rfl : r = _ := (List.cons.inj h).2
    exact absurd rfl (hp _ rfl b')
  case named.some.named.none =>
    obtain rfl : _ = s := (List.cons.inj h).2
    exact absurd rfl (hq _ rfl b)
  all_goals cases h <;> exact ⟨rfl, rfl⟩

/-- A parameter does not start with text. -/
theorem Parameter.textChar?_head_shapes (p : Parameter) :
    ∀ k ∈ (p.shapes ++ r).head?, k.textChar? = none := by
  rcases p with ⟨n, _ | b⟩ | b <;> simp [shapes, TokenShape.textChar?]

/-- A piece is told by its tokens. -/
theorem Piece.unique {p q : Piece} (h : p.shapes ++ r = q.shapes ++ s)
    (hp : p.Complete r) (hq : q.Complete s) (hr : ∀ k ∈ r.head?, ∀ m, k ≠ .modifier m)
    (hs : ∀ k ∈ s.head?, ∀ m, k ≠ .modifier m) : p = q ∧ r = s := by
  have closing : ∀ {r : List TokenShape}, ∀ k ∈ (TokenShape.closing :: r).head?,
      k.textChar? = none := by
    rintro r _ ⟨⟩
    rfl
  -- a brace that holds a parameter is no group
  have mixed : ∀ {lead ts : List TextItem} {p : Parameter} {r s : List TokenShape},
      lead.map TextItem.shape ++ (p.shapes ++ r) ≠ ts.map TextItem.shape ++ .closing :: s := by
    intro lead ts p r s h
    obtain ⟨-, h⟩ := text_unique h p.textChar?_head_shapes closing
    rcases p with ⟨n, _ | b⟩ | b <;> cases h
  cases p with
  | text x =>
    cases q with
    | text y =>
      obtain ⟨hxy, rfl⟩ := List.cons.inj h
      exact ⟨by rw [TextItem.shape_injective hxy], rfl⟩
    | parameter q n =>
      rcases x with ⟨c, hc⟩ | c <;> rcases q with ⟨n, _ | b⟩ | b <;> cases h
    | brace | group => cases x <;> cases h
  | parameter p m =>
    cases q with
    | text y =>
      rcases y with ⟨c, hc⟩ | c <;> rcases p with ⟨n, _ | b⟩ | b <;> cases h
    | parameter q n =>
      rw [shapes, shapes, List.append_assoc, List.append_assoc] at h
      obtain ⟨rfl, hm⟩ := Parameter.unique h hp hq
      obtain ⟨rfl, rfl⟩ := Modifier.unique hm hr hs
      exact ⟨rfl, rfl⟩
    | brace | group => rcases p with ⟨n, _ | b⟩ | b <;> cases h
  | brace lead p trail m =>
    cases q with
    | text y => cases y <;> cases h
    | parameter q n => rcases q with ⟨n, _ | b⟩ | b <;> cases h
    | brace lead' q trail' n =>
      rw [brace_shapes_append, brace_shapes_append] at h
      obtain ⟨rfl, h₁⟩ := text_unique (List.cons.inj h).2 p.textChar?_head_shapes
        q.textChar?_head_shapes
      obtain ⟨rfl, h₂⟩ := Parameter.unique h₁ ((Parameter.complete_congr (by simp)).1 hp)
        ((Parameter.complete_congr (by simp)).1 hq)
      obtain ⟨rfl, h₃⟩ := text_unique h₂ closing closing
      obtain ⟨rfl, rfl⟩ := Modifier.unique (List.cons.inj h₃).2 hr hs
      exact ⟨rfl, rfl⟩
    | group us n =>
      rw [brace_shapes_append, group_shapes_append] at h
      exact absurd (List.cons.inj h).2 mixed
  | group ts m =>
    cases q with
    | text y => cases y <;> cases h
    | parameter q n => rcases q with ⟨n, _ | b⟩ | b <;> cases h
    | brace lead q trail n =>
      rw [brace_shapes_append, group_shapes_append] at h
      exact absurd (List.cons.inj h).2.symm mixed
    | group us n =>
      rw [group_shapes_append, group_shapes_append] at h
      obtain ⟨rfl, h₁⟩ := text_unique (List.cons.inj h).2 closing closing
      obtain ⟨rfl, rfl⟩ := Modifier.unique (List.cons.inj h₁).2 hr hs
      exact ⟨rfl, rfl⟩

/-- **Complete pieces are determined by their shapes.** -/
theorem eq_of_shapesOf_eq {ps qs : List Piece} (h : shapesOf ps = shapesOf qs) (hp : Complete ps)
    (hq : Complete qs) : ps = qs := by
  induction ps generalizing qs with
  | nil =>
    cases qs with
    | nil => rfl
    | cons q qs =>
      obtain ⟨k, r, hk, -⟩ := q.exists_shapes_eq_cons
      rw [shapesOf, shapesOf, List.flatMap_cons, hk] at h
      cases h
  | cons p ps ih =>
    cases qs with
    | nil =>
      obtain ⟨k, r, hk, -⟩ := p.exists_shapes_eq_cons
      rw [shapesOf, shapesOf, List.flatMap_cons, hk] at h
      cases h
    | cons q qs =>
      rw [shapesOf, shapesOf, List.flatMap_cons, List.flatMap_cons] at h
      obtain ⟨rfl, hps⟩ := Piece.unique h hp.1 hq.1 (fun _ => ne_modifier_of_mem_head?)
        fun _ => ne_modifier_of_mem_head?
      rw [ih hps hp.2 hq.2]

end Unique

end Pattern
end RouteTable
