/-
# What compiled patterns write

The expression of a source without bodies of its own, as the reading machine takes
it: each segment writes one item or, if it is text, one for each character
(`Segment.items`), whatever stands around it, and a capture takes the next group.

So the expression of any such segments is accepted, and its tree is their items in
a row between two anchors (`parse_regexOf`).
-/

import RouteTable.Proofs.Regex.Reading

namespace RouteTable
namespace Pattern

open Regex Regex.Backtracking

/-- A text writes items, and stands for itself where a text that writes others is
put before or after it. -/
structure Emits (t : Text) (gs : Groups) (items : List Item) (gs' : Groups) : Prop where
  whole : .dangling ∉ Symbol.ofText t
  unsigned : Unsigned (Symbol.ofText t)
  writes : Writes (Symbol.ofText t) gs items gs'

namespace Emits

variable {t u : Text} {gs gs' gs'' : Groups} {is js : List Item}

theorem nil (gs : Groups) : Emits [] gs [] gs where
  whole := by simp [Symbol.ofText]
  unsigned := ⟨by simp [Symbol.ofText], by simp [Symbol.ofText]⟩
  writes := .nil gs

theorem append (ht : Emits t gs is gs') (hu : Emits u gs' js gs'') :
    Emits (t ++ u) gs (is ++ js) gs'' where
  whole := by
    rw [Symbol.ofText_append ht.whole, List.mem_append]
    exact fun h => h.elim ht.whole hu.whole
  unsigned := by
    rw [Symbol.ofText_append ht.whole]
    exact ht.unsigned.append hu.unsigned
  writes := by
    rw [Symbol.ofText_append ht.whole]
    exact ht.writes.append hu.writes hu.unsigned

/-- A text that is escaped has one symbol for each character. -/
theorem ofText_escapeLiteral (t : Text) : Symbol.ofText (escapeLiteral t) = t.map .literal := by
  induction t with
  | nil => rfl
  | cons c t ih =>
    rw [escapeLiteral, List.flatMap_cons, List.map_cons, Symbol.literal]
    split
    · rw [List.cons_append, List.cons_append, List.nil_append, Symbol.ofText]
      exact congrArg _ ih
    · rename_i hc
      have hb : c ≠ '\\' := by
        rintro rfl
        exact hc rfl
      rw [List.cons_append, List.nil_append, Symbol.ofText]
      · exact congrArg _ ih
      · exact fun h => absurd h hb
      · exact fun _ _ h => absurd h hb

/-- Escaped text writes its characters. -/
theorem text (t : Text) (gs : Groups) : Emits (escapeLiteral t) gs (t.map .literal) gs where
  whole := by
    rw [ofText_escapeLiteral, List.mem_map]
    rintro ⟨c, -, hc⟩
    unfold Symbol.literal at hc
    split at hc <;> cases hc
  unsigned := by
    rw [ofText_escapeLiteral]
    cases t with
    | nil => exact ⟨by simp, by simp⟩
    | cons c t => exact unsigned_literal c _
  writes := by
    rw [ofText_escapeLiteral]
    exact .text t gs

/-- A modifier has one symbol for its sign. -/
theorem ofText_text (m : Modifier) : Symbol.ofText m.text = m.text.map .plain := by
  cases m <;> rfl

/-- Parentheses without a group have their signs around the symbols inside. -/
theorem ofText_plain (ht : .dangling ∉ Symbol.ofText t) (m : Modifier) :
    Symbol.ofText (parenthesised "(?:" t ++ m.text) = plainSymbols (Symbol.ofText t) m := by
  have hopen : ∀ u, Symbol.ofText ("(?:".text ++ u) =
      .plain '(' :: .plain '?' :: .plain ':' :: Symbol.ofText u := fun u => rfl
  have hclose : ∀ u, Symbol.ofText (scalar ')' :: u) = .plain ')' :: Symbol.ofText u := fun u => rfl
  rw [parenthesised, List.append_assoc, List.append_assoc, hopen, Symbol.ofText_append ht,
    List.singleton_append, hclose, ofText_text, plainSymbols]

/-- Parentheses with a group have their signs around the symbols inside. -/
theorem ofText_capture (ht : .dangling ∉ Symbol.ofText t) (m : Modifier) :
    Symbol.ofText (parenthesised "(" t ++ m.text) = captureSymbols (Symbol.ofText t) m := by
  have hopen : ∀ u, Symbol.ofText ("(".text ++ u) = .plain '(' :: Symbol.ofText u := fun u => rfl
  have hclose : ∀ u, Symbol.ofText (scalar ')' :: u) = .plain ')' :: Symbol.ofText u := fun u => rfl
  rw [parenthesised, List.append_assoc, List.append_assoc, hopen, Symbol.ofText_append ht,
    List.singleton_append, hclose, ofText_text, captureSymbols]

/-- A modifier ends in no backslash. -/
theorem dangling_not_mem_text (m : Modifier) : .dangling ∉ m.text.map Symbol.plain := by
  cases m <;> simp [Modifier.text]

/-- A parenthesis that captures nothing writes what is in it as one item. -/
theorem plain (h : Emits t gs is gs') (m : Modifier) :
    Emits (parenthesised "(?:" t ++ m.text) gs [.modified (.inRow (is.map Item.node)) m] gs' where
  whole := by
    rw [ofText_plain h.whole, plainSymbols]
    have := dangling_not_mem_text m
    simp [h.whole, this]
  unsigned := by
    rw [ofText_plain h.whole]
    exact unsigned_of_head (by decide) (by decide) _
  writes := by
    rw [ofText_plain h.whole]
    exact h.writes.plain m

/-- A parenthesis that captures writes what is in it as the next group. -/
theorem capture (h : Emits t { gs with opened := gs.opened + 1 } is gs') (m : Modifier) :
    Emits (parenthesised "(" t ++ m.text) gs
      [.modified (.group (gs.opened + 1) (.inRow (is.map Item.node))) m]
      (gs'.close (gs.opened + 1) (Node.width gs'.widths (.inRow (is.map Item.node)))) where
  whole := by
    rw [ofText_capture h.whole, captureSymbols]
    have := dangling_not_mem_text m
    simp [h.whole, this]
  unsigned := by
    rw [ofText_capture h.whole]
    exact unsigned_of_head (by decide) (by decide) _
  writes := by
    rw [ofText_capture h.whole]
    exact h.writes.capture h.unsigned.1 m

end Emits

/-- The characters of a run: all but the three delimiters. -/
def runSet : CharSet :=
  ⟨true, [.code '/'.toNat, .code '#'.toNat, .code '?'.toNat], false, false⟩

/-- The item that the default body writes: one character of a run or more, as few
as lead on. -/
def runItem : Item := .loop .lazy ⟨1, none⟩ (.set runSet)

/-- The symbols of the default body. -/
theorem ofText_defaultBody : Symbol.ofText defaultBody =
    [.plain '[', .plain '^', .escaped '/', .plain '#', .escaped '?', .plain ']', .plain '+',
      .plain '?'] := by
  rfl

/-- The set of the default body is read up to its bracket. -/
theorem readSet_run (rest : Symbols) :
    readSet (.plain '^' :: .escaped '/' :: .plain '#' :: .escaped '?' :: .plain ']' :: rest) =
      .ok ((true, runSet.items), rest) := by
  have slash : ∀ r, readMember r (.escaped '/') = .ok (.code '/'.toNat, r) := fun _ => rfl
  have hash : ∀ r, readMember r (.plain '#') = .ok (.code '#'.toNat, r) := fun _ => rfl
  have mark : ∀ r, readMember r (.escaped '?') = .ok (.code '?'.toNat, r) := fun _ => rfl
  simp [readSet, readMembers, slash, hash, mark, taken, bind, Except.bind, Except.map, runSet]

/-- The default body writes a run. -/
theorem Emits.run (gs : Groups) : Emits defaultBody gs [runItem] gs where
  whole := by simp [ofText_defaultBody]
  unsigned := by
    rw [ofText_defaultBody]
    exact unsigned_of_head (by decide) (by decide) _
  writes := by
    rintro s hf rfl rest -
    have hset : s.step (.plain '[') ([Symbol.plain '^', .escaped '/', .plain '#', .escaped '?',
        .plain ']'] ++ (Symbol.plain '+' :: .plain '?' :: rest)) =
          .ok (s.push (.other (.set runSet)), .plain '+' :: .plain '?' :: rest) := by
      rw [State.step_plain hf]
      simp only [State.char, List.cons_append, List.nil_append, readSet_run, Except.map,
        Level.set_of_flags hf]
      rfl
    have hplus : (s.push (.other (.set runSet))).step (.plain '+') ([Symbol.plain '?'] ++ rest) =
        .ok (s.push runItem, rest) := by
      rw [State.step_plain (s := s.push (.other (.set runSet))) hf]
      rfl
    rw [ofText_defaultBody]
    exact (State.run_cons_of_step hset).trans (State.run_cons_of_step hplus)

/-- Items in a row, as one expression. -/
def row (items : List Item) : Node := .inRow (items.map Item.node)

/-- The runs of a repeated capture: the first, and more, with its trail and its lead
between them. -/
def runsItems (c : Capture) : List Item :=
  [.other runItem.node,
    .modified (row ((c.trail ++ c.lead).map .literal ++ [.other runItem.node])) .star]

/-- Items between the lead and the trail of a capture. -/
def Capture.around (c : Capture) (items : List Item) : List Item :=
  c.lead.map .literal ++ items ++ c.trail.map .literal

/-- The item of a capture, whose group has a number. -/
def Capture.item (c : Capture) (index : Nat) : Item :=
  let one : Node := .group index (row [runItem])
  let several : Node := .group index (row (runsItems c))
  if c.lead = [] ∧ c.trail = [] then .modified one c.modifier
  else match c.modifier with
    | .once => .modified (row (c.around [.other one])) .once
    | .optional => .modified (row (c.around [.other one])) .optional
    | .plus => .modified (row (c.around [.other several])) .once
    | .star => .modified (row (c.around [.other several])) .optional

/-- The items of a segment, after `opened` groups. -/
def Segment.items (opened : Nat) : Segment → List Backtracking.Item
  | literal t => t.map .literal
  | group t m => [.modified (row (t.map .literal)) m]
  | capture c => [c.item (opened + 1)]

/-- How many groups a segment takes. -/
def Segment.groupCount (s : Segment) : Nat := if s.capture?.isSome then 1 else 0

/-- The items of segments, after `opened` groups. -/
def itemsOf (opened : Nat) : List Segment → List Item
  | [] => []
  | s :: ss => s.items opened ++ itemsOf (opened + s.groupCount) ss

/-- The tree of the expression of segments. -/
def treeOf (segments : List Segment) : Node :=
  row (.anchor (.start false) :: itemsOf 0 segments ++ [.anchor (.stop false)])

namespace Capture

variable {c : Capture} {gs : Groups}

/-- Escaping leaves nothing out. -/
theorem escapeLiteral_eq_nil {t : Text} : escapeLiteral t = [] ↔ t = [] := by
  cases t with
  | nil => simp [escapeLiteral]
  | cons d t =>
    rw [escapeLiteral, List.flatMap_cons]
    split <;> simp

/-- The group of a capture that stands once. -/
theorem emits_one (gs : Groups) (m : Modifier) :
    ∃ gs', Emits (parenthesised "(" defaultBody ++ m.text) gs
        [.modified (.group (gs.opened + 1) (row [runItem])) m] gs' ∧
      gs'.opened = gs.opened + 1 ∧ gs'.conditions = gs.conditions :=
  ⟨_, (Emits.run _).capture m, rfl, rfl⟩

/-- The group of a capture that is repeated. -/
theorem emits_several (gs : Groups) :
    ∃ gs', Emits (parenthesised "(" (parenthesised "(?:" defaultBody ++
          (parenthesised "(?:" (escapeLiteral c.trail ++ escapeLiteral c.lead ++
            parenthesised "(?:" defaultBody) ++ [scalar '*'])) ++ Modifier.once.text) gs
        [.modified (.group (gs.opened + 1) (row (runsItems c))) .once] gs' ∧
      gs'.opened = gs.opened + 1 ∧ gs'.conditions = gs.conditions := by
  have run : ∀ gs, Emits (parenthesised "(?:" defaultBody) gs [.other runItem.node] gs := by
    intro gs
    have := (Emits.run gs).plain .once
    rwa [Modifier.text, List.append_nil] at this
  have more : ∀ gs, Emits (parenthesised "(?:" (escapeLiteral c.trail ++ escapeLiteral c.lead ++
      parenthesised "(?:" defaultBody) ++ [scalar '*']) gs
        [.modified (row ((c.trail ++ c.lead).map .literal ++ [Item.other runItem.node])) .star]
          gs := by
    intro gs
    have := (((Emits.text c.trail gs).append (.text c.lead gs)).append (run gs)).plain .star
    rwa [← List.map_append] at this
  exact ⟨_, ((run _).append (more _)).capture .once, rfl, rfl⟩

/-- What stands between the lead and the trail of a capture, with both of them. -/
theorem emits_around {t : Text} {gs' : Groups} {n : Node} (m : Modifier)
    (h : Emits (t ++ Modifier.once.text) gs [.modified n .once] gs') :
    Emits (parenthesised "(?:" (escapeLiteral c.lead ++ t ++ escapeLiteral c.trail) ++ m.text) gs
      [.modified (row (c.around [.other n])) m] gs' := by
  rw [Modifier.text, List.append_nil] at h
  exact (((Emits.text c.lead gs).append h).append (.text c.trail gs')).plain m

/-- **A capture with the default body writes one item,** with the next group in
it. -/
theorem exists_emits (hb : c.body = defaultBody) (gs : Groups) :
    ∃ gs', Emits c.emit gs [c.item (gs.opened + 1)] gs' ∧ gs'.opened = gs.opened + 1 ∧
      gs'.conditions = gs.conditions := by
  unfold emit item
  simp only [escapeLiteral_eq_nil, emit.once, emit.repeated, hb]
  split
  · exact emits_one gs c.modifier
  · obtain ⟨gs₁, h₁, hg₁⟩ := emits_one gs .once
    obtain ⟨gs₂, h₂, hg₂⟩ := emits_several (c := c) gs
    cases c.modifier with
    | once =>
      refine ⟨gs₁, ?_, hg₁⟩
      simpa only [Modifier.text, List.append_nil] using emits_around .once h₁
    | optional => exact ⟨gs₁, emits_around .optional h₁, hg₁⟩
    | plus =>
      refine ⟨gs₂, ?_, hg₂⟩
      simpa only [Modifier.text, List.append_nil] using emits_around .once h₂
    | star => exact ⟨gs₂, emits_around .optional h₂, hg₂⟩

end Capture

/-- All captures of some segments have the default body. -/
def HasDefaultBodies (segments : List Segment) : Prop :=
  ∀ c, .capture c ∈ segments → c.body = defaultBody

/-- A segment writes its items, and takes a group if it captures. -/
theorem Segment.exists_emits {s : Segment} (hs : HasDefaultBodies [s]) (gs : Groups) :
    ∃ gs', Emits s.emit gs (s.items gs.opened) gs' ∧
      gs'.opened = gs.opened + s.groupCount ∧ gs'.conditions = gs.conditions := by
  cases s with
  | literal t => exact ⟨gs, .text t gs, rfl, rfl⟩
  | group t m => exact ⟨gs, (Emits.text t gs).plain m, rfl, rfl⟩
  | capture c => exact c.exists_emits (hs c (List.mem_singleton_self _)) gs

/-- Segments write their items one after the other. -/
theorem exists_emits_flatMap {segments : List Segment} (hs : HasDefaultBodies segments)
    (gs : Groups) :
    ∃ gs', Emits (segments.flatMap Segment.emit) gs (itemsOf gs.opened segments) gs' ∧
      gs'.conditions = gs.conditions := by
  induction segments generalizing gs with
  | nil => exact ⟨gs, .nil gs, rfl⟩
  | cons s ss ih =>
    obtain ⟨gs₁, h₁, ho₁, hc₁⟩ := s.exists_emits
      (fun c hc => hs c (List.mem_singleton.1 hc ▸ List.mem_cons_self ..)) gs
    obtain ⟨gs₂, h₂, hc₂⟩ := ih (fun c hc => hs c (List.mem_cons_of_mem _ hc)) gs₁
    rw [ho₁] at h₂
    exact ⟨gs₂, h₁.append h₂, hc₂.trans hc₁⟩

/-! ### What is checked when everything is read -/

/-- Every item can be matched: nothing in it looks behind. -/
def Supported (items : List Item) : Prop := ∀ i ∈ items, unsupported? false i.node = none

theorem Supported.append {is js : List Item} (hi : Supported is) (hj : Supported js) :
    Supported (is ++ js) :=
  fun i h => (List.mem_append.1 h).elim (hi i) (hj i)

theorem Supported.text (t : Text) : Supported (t.map .literal) := by
  intro i hi
  obtain ⟨c, -, rfl⟩ := List.mem_map.1 hi
  rfl

/-- A row can be matched if each item can. -/
theorem Supported.unsupported?_row {items : List Item} (h : Supported items) :
    unsupported? false (row items) = none := by
  induction items with
  | nil => rfl
  | cons i is ih =>
    have hi := h i (List.mem_cons_self ..)
    cases is with
    | nil => exact hi
    | cons j is =>
      have hrow : row (i :: j :: is) = .seq i.node (row (j :: is)) := rfl
      rw [hrow, unsupported?, hi, ih fun k hk => h k (List.mem_cons_of_mem _ hk)]
      rfl

/-- A modifier leaves an item matchable. -/
theorem unsupported?_modified {n : Node} (h : unsupported? false n = none) (m : Modifier) :
    unsupported? false (Item.modified n m).node = none := by
  cases m <;> exact h

theorem Supported.singleton {i : Item} (h : unsupported? false i.node = none) : Supported [i] :=
  fun _ hj => List.mem_singleton.1 hj ▸ h

theorem Capture.supported_around {c : Capture} {n : Node} (h : unsupported? false n = none) :
    unsupported? false (row (c.around [.other n])) = none :=
  (((Supported.text _).append (.singleton (i := .other n) h)).append (.text _)).unsupported?_row

/-- The item of a capture can be matched. -/
theorem Capture.supported_item (c : Capture) (index : Nat) :
    unsupported? false (c.item index).node = none := by
  have one : unsupported? false (.group index (row [runItem])) = none := rfl
  have several : unsupported? false (.group index (row (runsItems c))) = none := by
    have more : unsupported? false (row ((c.trail ++ c.lead).map .literal ++
        [Item.other runItem.node])) = none :=
      ((Supported.text _).append (.singleton rfl)).unsupported?_row
    exact Supported.unsupported?_row
      (Supported.append (.singleton rfl) (.singleton (unsupported?_modified more .star)))
  unfold item
  dsimp only
  split
  · exact unsupported?_modified one _
  · cases c.modifier with
    | once => exact unsupported?_modified (supported_around one) _
    | optional => exact unsupported?_modified (supported_around one) _
    | plus => exact unsupported?_modified (supported_around several) _
    | star => exact unsupported?_modified (supported_around several) _

/-- The items of segments can be matched. -/
theorem supported_itemsOf (opened : Nat) (segments : List Segment) :
    Supported (itemsOf opened segments) := by
  induction segments generalizing opened with
  | nil => exact fun _ h => absurd h List.not_mem_nil
  | cons s ss ih =>
    refine Supported.append ?_ (ih _)
    cases s with
    | literal t => exact .text t
    | group t m => exact .singleton (unsupported?_modified (Supported.text t).unsupported?_row m)
    | capture c => exact .singleton (c.supported_item _)

/-- **The expression of segments with the default body is accepted,** and its tree
is what the segments write, between two anchors. -/
theorem parse_regexOf {edition : Edition} {segments : List Segment}
    (hs : HasDefaultBodies segments) :
    Backtracking.parse edition (regexOf segments) = .ok (treeOf segments) := by
  obtain ⟨gs, h, hc⟩ := exists_emits_flatMap hs (.empty edition)
  have hsymbols : Symbol.ofText (regexOf segments) =
      .plain '^' :: (Symbol.ofText (segments.flatMap Segment.emit) ++ [Symbol.plain '$']) := by
    have htop : ∀ u, Symbol.ofText (scalar '^' :: u) = .plain '^' :: Symbol.ofText u := fun _ => rfl
    rw [regexOf, List.cons_append, htop, Symbol.ofText_append h.whole]
    rfl
  have hfirst : ∀ rest, (State.start edition).step (.plain '^') rest =
      .ok ((State.start edition).push (.anchor (.start false)), rest) := fun _ => rfl
  have hlast : ∀ s : State, s.level.flags = .none →
      s.run 0 [.plain '$'] = .ok (s.push (.anchor (.stop false))) := by
    intro s hf
    refine State.run_cons ?_
    rw [State.step_plain hf, State.char, hf]
    rfl
  have hrun : (State.start edition).run 0 (Symbol.ofText (regexOf segments)) =
      .ok ((((State.start edition).push (.anchor (.start false))).written
        (itemsOf 0 segments) gs).push (.anchor (.stop false))) := by
    rw [hsymbols, State.run_cons (hfirst _),
      h.writes ((State.start edition).push (.anchor (.start false))) rfl rfl _
        (unsigned_of_head (by decide) (by decide) _)]
    exact hlast _ rfl
  have hsupported : Supported (.anchor (.start false) :: itemsOf 0 segments ++
      [Item.anchor (.stop false)]) :=
    Supported.append (Supported.append (.singleton rfl) (supported_itemsOf 0 segments))
      (.singleton rfl)
  have hnode : Level.node ⟨.none, [], .anchor (.stop false) :: ((itemsOf 0 segments).reverse ++
      [Item.anchor (.start false)])⟩ = treeOf segments := by
    rw [treeOf, row, ← Level.node_of_items]
    simp
  have hfinish : ((((State.start edition).push (.anchor (.start false))).written
      (itemsOf 0 segments) gs).push (.anchor (.stop false))).finish = .ok (treeOf segments) := by
    simp [State.finish, State.push, State.written, State.start, Level.push, Level.start, hnode, hc,
      Groups.checkConditions, Groups.empty, bind, Except.bind, pure, Except.pure,
      show unsupported? false (treeOf segments) = none from hsupported.unsupported?_row]
  rw [parse, hrun]
  simp only [Except.bind, hfinish]

end Pattern
end RouteTable
