/-
# What symbols write

The reading machine goes symbol by symbol.  Where no flags are set, some symbols
always write the same items, whatever is read before them and whatever follows:
`Writes ss gs items gs'` says that reading `ss` adds `items` to the level and
takes the groups from `gs` to `gs'`.  What follows may not start with a sign that
changes the greed of a repetition; nothing else of it matters.

Symbols in a row write their items in a row (`Writes.append`), and a parenthesis
around symbols writes one item, repeated as the modifier after it says
(`Writes.plain`, `Writes.capture`).
-/

import RouteTable.Pattern.Compiled
import RouteTable.Regex.Backtracking.Parser

namespace RouteTable
namespace Regex
namespace Backtracking

open Pattern (Modifier)

/-- A text whose last backslash has a character after it is read apart from what
follows. -/
theorem Symbol.ofText_append {t : Text} (h : .dangling ∉ Symbol.ofText t) (u : Text) :
    Symbol.ofText (t ++ u) = Symbol.ofText t ++ Symbol.ofText u := by
  fun_induction Symbol.ofText t with
  | case1 => rfl
  | case2 => exact absurd (List.mem_singleton_self _) h
  | case3 c t ih =>
    rw [List.cons_append, List.cons_append, Symbol.ofText,
      ih fun hm => h (List.mem_cons_of_mem _ hm)]
    rfl
  | case4 c t h₁ h₂ ih =>
    have hc : c ≠ '\\' := by
      rintro rfl
      cases t with
      | nil => exact h₁ rfl rfl
      | cons d t => exact h₂ d t rfl rfl
    rw [List.cons_append, Symbol.ofText, ih fun hm => h (List.mem_cons_of_mem _ hm)]
    · rfl
    · exact fun hc' => absurd hc' hc
    · exact fun _ _ hc' => absurd hc' hc

/-- Symbols that do not start with a sign of greed. -/
def Unsigned (ss : Symbols) : Prop := ss.head? ≠ some (.plain '?') ∧ ss.head? ≠ some (.plain '+')

/-- Without a sign a repetition is greedy. -/
theorem readGreed_of_unsigned {ss : Symbols} (h : Unsigned ss) : readGreed ss = (.greedy, ss) := by
  unfold readGreed
  split
  · exact absurd rfl h.1
  · exact absurd rfl h.2
  · rfl

theorem Unsigned.append {ss tt : Symbols} (hs : Unsigned ss) (ht : Unsigned tt) :
    Unsigned (ss ++ tt) := by
  cases ss with
  | nil => exact ht
  | cons s ss => exact hs

/-- A character as a symbol that stands for it. -/
def Symbol.literal (c : CodePoint) : Symbol := if Pattern.isSpecial c then .escaped c else .plain c

/-- The item that matches one character. -/
def Item.literal (c : CodePoint) : Item :=
  .other (.set ⟨false, [.code c.toNat], false, false⟩)

/-- The item of an expression that is repeated as a modifier says. -/
def Item.modified (n : Node) : Modifier → Item
  | .once => .other n
  | .optional => .loop .greedy ⟨0, some 1⟩ n
  | .star => .loop .greedy ⟨0, none⟩ n
  | .plus => .loop .greedy ⟨1, none⟩ n

/-- The state with more items, and with other groups. -/
def State.written (s : State) (items : List Item) (gs : Groups) : State :=
  { s with level := { s.level with items := items.reverse ++ s.level.items }, groups := gs }

/-- What is written in a row is written together. -/
theorem State.written_written (s : State) (is js : List Item) (gs gs' : Groups) :
    (s.written is gs).written js gs' = s.written (is ++ js) gs' := by
  simp [State.written]

/-- A step that reads one symbol. -/
theorem State.run_cons {s s' : State} {t : Symbol} {rest : Symbols}
    (h : s.step t rest = .ok (s', rest)) : s.run 0 (t :: rest) = s'.run 0 rest :=
  @State.run_cons_of_step _ _ _ [] _ h

/-- Symbols write items: reading them adds the items to any level without flags,
and takes the groups from `gs` to `gs'`. -/
def Writes (ss : Symbols) (gs : Groups) (items : List Item) (gs' : Groups) : Prop :=
  ∀ s : State, s.level.flags = .none → s.groups = gs → ∀ rest, Unsigned rest →
    s.run 0 (ss ++ rest) = (s.written items gs').run 0 rest

namespace Writes

variable {ss tt : Symbols} {gs gs' gs'' : Groups} {is js : List Item}

theorem nil (gs : Groups) : Writes [] gs [] gs := by
  rintro s _ rfl rest _
  rfl

/-- **Symbols in a row write their items in a row.** -/
theorem append (hs : Writes ss gs is gs') (ht : Writes tt gs' js gs'') (hu : Unsigned tt) :
    Writes (ss ++ tt) gs (is ++ js) gs'' := by
  intro s hf hg rest hr
  rw [List.append_assoc, hs s hf hg _ (hu.append hr), ht (s.written is gs') hf rfl rest hr,
    State.written_written]

/-- One symbol that is read alone writes what its step pushes. -/
theorem of_step {t : Symbol} {i : Item}
    (h : ∀ s : State, s.level.flags = .none → ∀ rest, s.step t rest = .ok (s.push i, rest)) :
    Writes [t] gs [i] gs := by
  rintro s hf rfl rest _
  exact State.run_cons (h s hf rest)

end Writes

/-- The characters that are escaped. -/
theorem isSpecial_iff_mem {c : CodePoint} : Pattern.isSpecial c = true ↔
    c ∈ (['.', '+', '*', '?', '=', '^', '!', ':', '$', '\x7b', '\x7d', '(', ')', '[', ']', '|', '/',
      '\\'] : Text) := by
  simp [Pattern.isSpecial, String.text]

/-- An escape of a special character stands for the character. -/
theorem Escape.read_of_isSpecial {c : CodePoint} (h : Pattern.isSpecial c = true) (ascii : Bool)
    (rest : Symbols) : Escape.read ascii c rest = .ok (.item (.code c.toNat), rest) := by
  rw [isSpecial_iff_mem] at h
  simp only [List.mem_cons, List.not_mem_nil, or_false] at h
  rcases h with rfl | rfl | rfl | rfl | rfl | rfl | rfl | rfl | rfl | rfl | rfl | rfl | rfl | rfl |
    rfl | rfl | rfl | rfl <;> rfl

/-- A character that is not special starts no repetition. -/
theorem Bounds.read?_of_not_isSpecial {c : CodePoint} (h : Pattern.isSpecial c = false)
    (rest : Symbols) : Bounds.read? c rest = .ok none := by
  rw [Bounds.read?]
  all_goals (rintro rfl; cases h)

/-- A character that is not special stands for itself. -/
theorem State.char_of_not_isSpecial {c : CodePoint} (h : Pattern.isSpecial c = false) (s : State)
    (rest : Symbols) : s.char c rest = .ok (s.push (s.level.set false [.code c.toNat]), rest) := by
  rw [State.char]
  · rw [Bounds.read?_of_not_isSpecial h]
    rfl
  all_goals (rintro rfl; cases h)

/-- Without flags a plain symbol is read as its character. -/
theorem State.step_plain {s : State} (hf : s.level.flags = .none) (c : CodePoint) (rest : Symbols) :
    s.step (.plain c) rest = s.char c rest := by
  simp only [State.step, hf, Flags.none, Bool.false_and, Bool.false_eq_true, if_false]

/-- Without flags a set is as it is written. -/
theorem Level.set_of_flags {l : Level} (hf : l.flags = .none) (negated : Bool)
    (items : List SetItem) :
    l.set negated items = .other (.set ⟨negated, items, false, false⟩) := by
  rw [Level.set, hf]
  rfl

/-- A character as a literal symbol writes the item that matches it. -/
theorem State.step_literal {s : State} (hf : s.level.flags = .none) (c : CodePoint)
    (rest : Symbols) : s.step (.literal c) rest = .ok (s.push (.literal c), rest) := by
  unfold Symbol.literal
  split
  · rename_i hc
    rw [State.step, State.escape, Escape.read_of_isSpecial hc]
    exact congrArg (fun i => Except.ok (s.push i, rest)) (Level.set_of_flags hf ..)
  · rename_i hc
    rw [State.step_plain hf, State.char_of_not_isSpecial (Bool.eq_false_iff.2 hc),
      Level.set_of_flags hf]
    rfl

/-- A literal character is no sign of greed. -/
theorem unsigned_literal (c : CodePoint) (rest : Symbols) : Unsigned (.literal c :: rest) := by
  unfold Symbol.literal
  split
  · exact ⟨by simp, by simp⟩
  · rename_i hc
    constructor <;> (rintro ⟨⟩; exact hc rfl)

theorem unsigned_of_head {c : CodePoint} (h₁ : c ≠ '?') (h₂ : c ≠ '+') (rest : Symbols) :
    Unsigned (.plain c :: rest) :=
  ⟨by simpa using h₁, by simpa using h₂⟩

/-- Literal symbols write the items that match their characters. -/
theorem Writes.text (t : Text) (gs : Groups) :
    Writes (t.map .literal) gs (t.map .literal) gs := by
  induction t with
  | nil => exact .nil gs
  | cons c t ih =>
    refine (Writes.of_step fun s hf rest => State.step_literal hf c rest).append ih ?_
    cases t with
    | nil => exact ⟨by simp, by simp⟩
    | cons d t => exact unsigned_literal d _

/-- The state inside a parenthesis that is opened at `start`. -/
def State.inside (s : State) (bracket : Bracket) (start : Nat) (gs : Groups) : State :=
  { s with level := .start .none, stack := ⟨bracket, start, s.level⟩ :: s.stack, groups := gs }

/-- A modifier repeats the item before it. -/
theorem State.run_modifier {s : State} (hf : s.level.flags = .none) (n : Node) (gs : Groups)
    (m : Modifier) {rest : Symbols} (hr : Unsigned rest) :
    (s.written [.other n] gs).run 0 (m.text.map .plain ++ rest) =
      (s.written [.modified n m] gs).run 0 rest := by
  have sign : ∀ (c : CodePoint) (b : Bounds),
      (s.written [.other n] gs).char c rest = (s.written [.other n] gs).loop b rest rest →
      (s.written [.other n] gs).run 0 (.plain c :: rest) =
        (s.written [.loop .greedy b n] gs).run 0 rest := by
    intro c b hc
    refine State.run_cons ?_
    rw [State.step_plain (s := s.written [.other n] gs) hf, hc, State.loop]
    simp only [State.written, List.reverse_singleton, List.singleton_append, Item.repeated,
      readGreed_of_unsigned hr]
  cases m with
  | once => rfl
  | optional => exact sign '?' ⟨0, some 1⟩ rfl
  | star => exact sign '*' ⟨0, none⟩ rfl
  | plus => exact sign '+' ⟨1, none⟩ rfl

/-- Closing a parenthesis adds what it stands for to the level around it. -/
theorem State.step_close (s : State) (bracket : Bracket) (start : Nat) (gs gs' : Groups)
    (items : List Item) (rest : Symbols) :
    ((s.inside bracket start gs).written items gs').step (.plain ')') rest =
      .ok (s.written [.other (close ⟨.none, [], items.reverse⟩ bracket gs').1]
        (close ⟨.none, [], items.reverse⟩ bracket gs').2, rest) := by
  rw [State.step_plain rfl]
  simp [State.char, State.leave, State.written, State.inside, Level.push, Level.start, Except.map]

/-- The symbols of a parenthesis that captures nothing, and its modifier. -/
def plainSymbols (ss : Symbols) (m : Modifier) : Symbols :=
  .plain '(' :: .plain '?' :: .plain ':' :: (ss ++ .plain ')' :: m.text.map .plain)

/-- The symbols of a parenthesis that captures, and its modifier. -/
def captureSymbols (ss : Symbols) (m : Modifier) : Symbols :=
  .plain '(' :: (ss ++ .plain ')' :: m.text.map .plain)

/-- The node of a level has its items in the order in which they are read. -/
theorem Level.node_of_items (items : List Item) :
    (⟨.none, [], items.reverse⟩ : Level).node = .inRow (items.map Item.node) := by
  simp [Level.node, Level.branch, Node.anyOf]

namespace Writes

variable {ss : Symbols} {gs gs' : Groups} {is : List Item}

/-- What symbols write inside a parenthesis stands in it, whatever it is. -/
theorem run_inside (h : Writes ss gs is gs') {s : State} (hf : s.level.flags = .none)
    (bracket : Bracket) (start : Nat) (m : Modifier) {rest : Symbols} (hr : Unsigned rest) :
    (s.inside bracket start gs).run 0 (ss ++ Symbol.plain ')' :: (m.text.map .plain ++ rest)) =
      (s.written [.modified (State.close ⟨.none, [], is.reverse⟩ bracket gs').1 m]
        (State.close ⟨.none, [], is.reverse⟩ bracket gs').2).run 0 rest := by
  rw [h (s.inside bracket start gs) rfl rfl _ (unsigned_of_head (by decide) (by decide) _),
    State.run_cons (State.step_close s bracket start gs gs' is _),
    State.run_modifier hf _ _ m hr]

/-- **A parenthesis that captures nothing** writes what is in it, as one item. -/
theorem plain (h : Writes ss gs is gs') (m : Modifier) :
    Writes (plainSymbols ss m) gs [.modified (.inRow (is.map Item.node)) m] gs' := by
  rintro s hf rfl rest hr
  have hopen : s.step (.plain '(') (.plain '?' :: .plain ':' ::
      (ss ++ Symbol.plain ')' :: (m.text.map Symbol.plain ++ rest))) = .ok (s.inside .plain
        (left (.plain '?' :: .plain ':' ::
          (ss ++ Symbol.plain ')' :: (m.text.map Symbol.plain ++ rest))) + 1)
        s.groups, ss ++ Symbol.plain ')' :: (m.text.map Symbol.plain ++ rest)) := by
    rw [State.step_plain hf]
    simp [State.char, State.enter, Parenthesis.read, Parenthesis.readExtension, State.bracket,
      State.innerFlags, State.inside, Flags.change, hf, bind, Except.bind, pure, Except.pure]
  rw [plainSymbols, List.cons_append, List.cons_append, List.cons_append, List.append_assoc,
    List.cons_append]
  refine (@State.run_cons_of_step _ _ _ [.plain '?', .plain ':'] _ hopen).trans ?_
  refine (h.run_inside hf _ _ m hr).trans ?_
  rw [State.close, Level.node_of_items]

/-- **A parenthesis that captures** takes the next group, and writes what is in it
as that group. -/
theorem capture (h : Writes ss { gs with opened := gs.opened + 1 } is gs')
    (hq : ss.head? ≠ some (.plain '?')) (m : Modifier) :
    Writes (captureSymbols ss m) gs
      [.modified (.group (gs.opened + 1) (.inRow (is.map Item.node))) m]
      (gs'.close (gs.opened + 1) (Node.width gs'.widths (.inRow (is.map Item.node)))) := by
  rintro s hf rfl rest hr
  have hread : ∀ start rest, Parenthesis.read start (ss ++ Symbol.plain ')' :: rest) =
      .ok (.opens (.capture none), ss ++ Symbol.plain ')' :: rest) := by
    intro start rest
    unfold Parenthesis.read
    split
    · rename_i hs
      cases ss with
      | nil => cases hs
      | cons t ss => exact absurd (by rw [(List.cons.inj hs).1]; rfl) hq
    · rfl
  have hopen : s.step (.plain '(') (ss ++ Symbol.plain ')' :: (m.text.map Symbol.plain ++ rest)) =
      .ok (s.inside (.capture (s.groups.opened + 1))
        (left (ss ++ Symbol.plain ')' :: (m.text.map Symbol.plain ++ rest)) + 1)
        { s.groups with opened := s.groups.opened + 1 },
        ss ++ Symbol.plain ')' :: (m.text.map Symbol.plain ++ rest)) := by
    rw [State.step_plain hf]
    simp [State.char, State.enter, hread, State.bracket, Groups.openGroup, Except.map,
      State.innerFlags, State.inside, hf, bind, Except.bind, pure, Except.pure]
  rw [captureSymbols, List.cons_append, List.append_assoc, List.cons_append]
  rw [State.run_cons hopen]
  refine (h.run_inside hf _ _ m hr).trans ?_
  rw [State.close, Level.node_of_items]

end Writes

end Backtracking
end Regex
end RouteTable
