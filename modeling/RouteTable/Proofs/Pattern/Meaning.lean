/-
# What a source pattern stands for

A segment stands for a language, without any regular expression:

| segment | stands for |
| --- | --- |
| literal | its text |
| group | its text, as often as its modifier says |
| capture, `once` | its lead, a run, its trail |
| capture, `plus` | runs, at least one, with trail and lead between them, and around them |
| capture, `optional` or `star` | the same, or nothing |

and a source for what its segments stand for, one after the other.  A run is a text
that is not empty and has no path, hash or query delimiter.

`Compiled.isFoundIn_regex_iff` says that the compiled expression finds exactly the
paths of that language, and those with one line feed more.
-/

import RouteTable.Proofs.Pattern.Emission
import RouteTable.Proofs.Pattern.Recognition
import RouteTable.Proofs.Regex.Language

namespace RouteTable
namespace Pattern

open Regex Regex.Backtracking Computability

/-- The texts that are not empty and have no delimiter. -/
def runs : Language CodePoint := {t | t ≠ [] ∧ ∀ c ∈ t, c ≠ '/' ∧ c ≠ '#' ∧ c ≠ '?'}

/-- A language as often as a modifier says. -/
def Modifier.language (L : Language CodePoint) : Modifier → Language CodePoint
  | once => L
  | optional => 1 + L
  | star => L∗
  | plus => L * L∗

/-- What a capture with the default body stands for. -/
def Capture.language (c : Capture) : Language CodePoint :=
  let lead : Language CodePoint := {c.lead}
  let trail : Language CodePoint := {c.trail}
  let several := lead * (runs * (trail * lead * runs)∗) * trail
  match c.modifier with
  | .once => lead * runs * trail
  | .optional => 1 + lead * runs * trail
  | .plus => several
  | .star => 1 + several

/-- What a segment stands for, if its body is the default one where it captures. -/
def Segment.language : Segment → Language CodePoint
  | literal t => {t}
  | group t m => m.language {t}
  | capture c => c.language

/-- What segments stand for. -/
def spelled (segments : List Segment) : Language CodePoint := (segments.map Segment.language).prod

/-! ### Repetitions as a modifier says -/

/-- Any number of repetitions. -/
theorem repetitions_star (L : Language CodePoint) : repetitions L 0 none = L∗ := by
  ext t
  constructor
  · rintro ⟨ws, rfl, hws, -, -⟩
    exact ⟨ws, rfl, hws⟩
  · rintro ⟨ws, rfl, hws⟩
    exact ⟨ws, rfl, hws, Nat.zero_le _, by simp⟩

/-- One repetition at least. -/
theorem repetitions_plus (L : Language CodePoint) : repetitions L 1 none = L * L∗ := by
  ext t
  rw [Language.mem_mul]
  constructor
  · rintro ⟨ws, rfl, hws, hl, -⟩
    cases ws with
    | nil => simp at hl
    | cons u ws =>
      exact ⟨u, hws u (List.mem_cons_self ..), ws.flatten,
        ⟨ws, rfl, fun v hv => hws v (List.mem_cons_of_mem _ hv)⟩, rfl⟩
  · rintro ⟨u, hu, -, ⟨ws, rfl, hws⟩, rfl⟩
    refine ⟨u :: ws, rfl, ?_, by simp, by simp⟩
    rintro v (_ | ⟨_, hv⟩)
    exacts [hu, hws v hv]

/-- One repetition or none. -/
theorem repetitions_optional (L : Language CodePoint) : repetitions L 0 (some 1) = 1 + L := by
  ext t
  rw [Language.mem_add, Language.mem_one]
  constructor
  · rintro ⟨ws, rfl, hws, -, hl⟩
    have := hl 1 rfl
    match ws, this with
    | [], _ => exact Or.inl rfl
    | [u], _ => exact Or.inr (by simpa using hws u (List.mem_singleton_self u))
  · rintro (rfl | ht)
    · exact ⟨[], rfl, by simp, Nat.zero_le _, by simp⟩
    · exact ⟨[t], by simp, by simpa using ht, Nat.zero_le _, by simp⟩

/-- Two words in a row are one word. -/
theorem singleton_mul_singleton (t u : Text) : ({t} : Language CodePoint) * {u} = {t ++ u} := by
  ext v
  rw [Language.mem_mul]
  constructor
  · rintro ⟨_, rfl, _, rfl, rfl⟩
    rfl
  · rintro rfl
    exact ⟨t, rfl, u, rfl, rfl⟩

/-- An item that is repeated as a modifier says spells a language that often. -/
theorem spell_modified {n : Node} {L : Language CodePoint} (h : Ways.Spell n.ways L)
    (m : Modifier) : Ways.Spell (Item.modified n m).node.ways (m.language L) := by
  have loop : ∀ least greatest, (∀ k ∈ greatest, least ≤ k) →
      Ways.Spell (Node.loop .greedy least greatest n).ways (repetitions L least greatest) :=
    fun _ _ hb => h.loop Greed.noConfusion hb
  cases m with
  | once => exact h
  | optional => exact (loop 0 (some 1) (by simp)).congr (repetitions_optional L)
  | star => exact (loop 0 none (by simp)).congr (repetitions_star L)
  | plus => exact (loop 1 none (by simp)).congr (repetitions_plus L)

/-! ### What items spell -/

/-- Items in a row go the ways of some of them, and then those of the others. -/
theorem ways_row_append (is js : List Item) :
    (row (is ++ js)).ways = fun p => ((row is).ways p).flatMap (row js).ways := by
  funext p
  rw [row, List.map_append, Node.ways_inRow_append]
  rfl

/-- Items in a row spell a language. -/
def SpellRow (items : List Item) (L : Language CodePoint) : Prop := Ways.Spell (row items).ways L

namespace SpellRow

variable {is js : List Item} {L M : Language CodePoint}

theorem nil : SpellRow [] 1 := Ways.Spell.nothing

theorem singleton {i : Item} (h : Ways.Spell i.node.ways L) : SpellRow [i] L := h

theorem append (hi : SpellRow is L) (hj : SpellRow js M) : SpellRow (is ++ js) (L * M) := by
  rw [SpellRow, ways_row_append]
  exact Ways.Spell.andThen hi hj

theorem congr (h : SpellRow is L) (hLM : L = M) : SpellRow is M := hLM ▸ h

/-- A literal character stands for the character. -/
theorem language_literal (c : CodePoint) :
    CharSet.language ⟨false, [.code c.toNat], false, false⟩ = {[c]} := by
  ext t
  constructor
  · rintro ⟨d, hd, rfl⟩
    have : d.toNat = c.toNat := by
      have : c.toNat ≤ d.toNat ∧ d.toNat ≤ c.toNat := by
        simpa [CharSet.contains, SetItem.contains, SetItem.code] using hd
      omega
    exact congrArg (fun e => [e]) (CodePoint.toNat_inj.1 this)
  · rintro rfl
    exact ⟨c, by simp [CharSet.contains, SetItem.contains, SetItem.code], rfl⟩

/-- Literal items spell their text. -/
theorem text (t : Text) : SpellRow (t.map .literal) {t} := by
  induction t with
  | nil => exact nil
  | cons c t ih =>
    have hc : SpellRow [.literal c] {[c]} :=
      singleton ((Ways.Spell.set _).congr (language_literal c))
    exact (hc.append ih).congr (singleton_mul_singleton [c] t)

end SpellRow

/-- The default body has any character but `/`, `#` and `?`. -/
theorem contains_runSet {c : CodePoint} :
    runSet.contains c = true ↔ c ≠ '/' ∧ c ≠ '#' ∧ c ≠ '?' := by
  simp only [ne_eq, ← CodePoint.toNat_inj]
  simp [runSet, CharSet.contains, SetItem.contains, SetItem.code]

/-- The default body spells runs. -/
theorem spell_run : Ways.Spell runItem.node.ways runs := by
  have loop : Ways.Spell runItem.node.ways (repetitions runSet.language 1 none) :=
    (Ways.Spell.set runSet).loop Greed.noConfusion (by simp)
  refine loop.congr ?_
  ext t
  rw [mem_repetitions_language_iff]
  exact and_congr_right fun _ => forall₂_congr fun _ _ => contains_runSet

namespace Capture

/-- Without lead and trail, a capture stands for its runs as often as its modifier
says. -/
theorem language_of_bare {c : Capture} (hl : c.lead = []) (ht : c.trail = []) :
    c.language = c.modifier.language runs := by
  have one : ({[]} : Language CodePoint) = 1 := rfl
  unfold language
  rw [hl, ht, one]
  cases c.modifier with
  | once => simp only [Modifier.language, one_mul, mul_one]
  | optional => simp only [Modifier.language, one_mul, mul_one]
  | plus => simp only [Modifier.language, one_mul, mul_one]
  | star =>
    simp only [Modifier.language, one_mul, mul_one, Language.one_add_self_mul_kstar_eq_kstar]

theorem spell_around (c : Capture) {n : Node} {L : Language CodePoint} (h : Ways.Spell n.ways L) :
    Ways.Spell (row (c.around [.other n])).ways ({c.lead} * L * {c.trail}) :=
  ((SpellRow.text c.lead).append (.singleton (i := .other n) h)).append (.text c.trail)

theorem spell_one (index : Nat) : Ways.Spell (Node.group index (row [runItem])).ways runs :=
  Ways.Spell.group index (SpellRow.singleton spell_run)

/-- A group of several runs spells runs with the literal texts between them. -/
theorem spell_several (c : Capture) (index : Nat) :
    Ways.Spell (Node.group index (row (runsItems c))).ways
      (runs * ({c.trail} * {c.lead} * runs)∗) := by
  have first : SpellRow [Item.other runItem.node] runs := .singleton spell_run
  have next : SpellRow ((c.trail ++ c.lead).map Item.literal ++ [Item.other runItem.node])
      ({c.trail} * {c.lead} * runs) := by
    rw [singleton_mul_singleton]
    exact (SpellRow.text _).append first
  have more := SpellRow.singleton (spell_modified next .star)
  exact Ways.Spell.group index (first.append more)

/-- The item of a capture spells what the capture stands for. -/
theorem spell_item (c : Capture) (index : Nat) :
    Ways.Spell (c.item index).node.ways c.language := by
  have one := spell_one index
  have several := c.spell_several index
  unfold item
  dsimp only
  split
  · rename_i h
    rw [language_of_bare h.1 h.2]
    exact spell_modified one c.modifier
  · unfold language
    cases c.modifier with
    | once => exact spell_modified (c.spell_around one) .once
    | optional => exact spell_modified (c.spell_around one) .optional
    | plus => exact spell_modified (c.spell_around several) .once
    | star => exact spell_modified (c.spell_around several) .optional

end Capture

/-- The items of a segment spell what the segment stands for. -/
theorem Segment.spellRow_items (opened : Nat) (s : Segment) :
    SpellRow (s.items opened) s.language := by
  cases s with
  | literal t => exact .text t
  | group t m => exact .singleton (spell_modified (SpellRow.text t) m)
  | capture c => exact .singleton (c.spell_item _)

/-- The items of segments spell what the segments stand for. -/
theorem spellRow_itemsOf (opened : Nat) (segments : List Segment) :
    SpellRow (itemsOf opened segments) (spelled segments) := by
  induction segments generalizing opened with
  | nil => exact .nil
  | cons s ss ih => exact ((s.spellRow_items opened).append (ih _)).congr List.prod_cons.symm

/-! ### Searching between two anchors -/

/-- Items between two anchors. -/
def anchored (items : List Item) : Node :=
  row (.anchor (.start false) :: items ++ [.anchor (.stop false)])

/-- Between two anchors go the ways from the beginning that end at the end of the text, or
before a last line feed. -/
theorem ways_anchored (items : List Item) (p : Position) :
    (anchored items).ways p =
      if p.before = [] then
        ((row items).ways p).filter fun q => q.after = [] ∨ q.after = [scalar '\n']
      else [] := by
  have hstop : (row [.anchor (.stop false)]).ways = fun q =>
      if q.after = [] ∨ q.after = [scalar '\n'] then [q] else [] := by
    funext q
    simp [row, Item.node, Node.inRow, Node.ways, Position.satisfies]
  have hstart : (row [.anchor (.start false)]).ways p = if p.before = [] then [p] else [] := by
    simp [row, Item.node, Node.inRow, Node.ways, Position.satisfies]
  rw [anchored, List.cons_append, ← List.singleton_append, ways_row_append, ways_row_append]
  dsimp only
  rw [hstart, hstop]
  split
  · rw [List.flatMap_singleton]
    conv_rhs => rw [← List.flatMap_singleton' ((row items).ways p), List.filter_flatMap]
    refine List.flatMap_congr fun q _ => ?_
    rw [List.filter_singleton, Bool.cond_decide]
  · rfl

/-- Between two anchors a row is found in the texts that it spells, and in those
with one line feed more. -/
theorem SpellRow.isFoundIn_iff {items : List Item} {L : Language CodePoint} (h : SpellRow items L)
    (path : Text) :
    (anchored items).isFoundIn path = true ↔
      path ∈ L ∨ ∃ t ∈ L, path = t ++ [scalar '\n'] := by
  have hways : ∀ p q, q ∈ (anchored items).ways p ↔
      p.before = [] ∧ q ∈ (row items).ways p ∧ (q.after = [] ∨ q.after = [scalar '\n']) := by
    intro p q
    rw [ways_anchored]
    split <;> simp [*]
  rw [Node.isFoundIn_iff]
  constructor
  · rintro ⟨u, v, rfl, q, hq⟩
    obtain ⟨hb, hq, ha⟩ := (hways _ _).1 hq
    obtain rfl : u = [] := by simpa [Position.between] using hb
    obtain ⟨t, ht, hpq⟩ := h.sound hq
    have hv : v = t ++ q.after := hpq.1
    rcases ha with ha | ha
    · left
      rwa [List.nil_append, hv, ha, List.append_nil]
    · exact Or.inr ⟨t, ht, by rw [List.nil_append, hv, ha]⟩
  · intro hpath
    obtain ⟨t, rest, rfl, ht, hrest⟩ : ∃ t rest, path = t ++ rest ∧ t ∈ L ∧
        (rest = [] ∨ rest = [scalar '\n']) := by
      rcases hpath with hp | ⟨t, ht, rfl⟩
      · exact ⟨path, [], (List.append_nil _).symm, hp, Or.inl rfl⟩
      · exact ⟨t, [scalar '\n'], rfl, ht, Or.inr rfl⟩
    obtain ⟨q, hq, -, hqa⟩ :=
        Ways.Spell.exists_after_eq h (p := Position.between [] (t ++ rest)) ht rfl
    exact ⟨[], t ++ rest, rfl, q, (hways _ _).2 ⟨rfl, hq, by rwa [hqa]⟩⟩

/-- **The expression of segments with the default body finds what the segments stand
for,** and the same before a last line feed. -/
theorem isFoundIn_treeOf_iff (segments : List Segment) (path : Text) :
    (treeOf segments).isFoundIn path = true ↔
      path ∈ spelled segments ∨ ∃ t ∈ spelled segments, path = t ++ [scalar '\n'] :=
  (spellRow_itemsOf 0 segments).isFoundIn_iff path

/-! ### Compiled sources -/

/-- Pieces without bodies mean segments with the default one. -/
theorem hasDefaultBodies_segmentsOf {ps : List Piece} (h : ∀ p ∈ ps, p.body? = none) :
    HasDefaultBodies (segmentsOf ps) := by
  intro c hc
  obtain ⟨p, hp, q, hq, -, hbody⟩ := exists_of_capture_mem hc
  have hnone : q.body? = none := by
    have := h p hp
    cases p with
    | parameter | brace =>
      cases hq
      exact this
    | text | group => cases hq
  rw [hbody]
  rcases q with ⟨n, _ | b⟩ | b
  · rfl
  · cases hnone
  · cases hnone

/-- **A source without bodies keeps its meaning when it is compiled:** the compiled
expression is one of the engine's, and it finds exactly the paths that the segments stand
for, and those with one line feed more. -/
theorem Compiled.isFoundIn_regex_iff (edition : Backtracking.Edition) {source : Text} {c : Compiled}
    (h : compile source = .ok c) (hb : WithoutBodies source) :
    ∃ n, Backtracking.parse edition c.regex = .ok n ∧ ∀ path : Text, n.isFoundIn path = true ↔
      path ∈ spelled c.segments ∨ ∃ t ∈ spelled c.segments, path = t ++ [scalar '\n'] := by
  obtain ⟨ss, hs, rfl⟩ := Outcome.map_eq_ok.1 h
  obtain ⟨-, -, ps, hp, -, rfl⟩ := segments_eq_ok_iff.1 hs
  exact ⟨treeOf (segmentsOf ps), parse_regexOf (hasDefaultBodies_segmentsOf (hb ps hp)),
    isFoundIn_treeOf_iff _⟩

/-- The pieces of `/:id`. -/
def idPieces : List Piece :=
  [.text (.plain '/' slash_not_mem_reserved),
    .parameter (.named ⟨[scalar 'i', scalar 'd'], by decide, List.all_eq_true.1 rfl⟩ none) .once]

theorem isParse_idPieces : IsParse "/:id".text idPieces :=
  ⟨rfl, trivial, fun _ => nofun, trivial⟩

/-- `/:id` is a source without bodies, and keeps its meaning. -/
theorem compile_id_isFoundIn_regex_iff :
    compile "/:id".text = .ok ⟨"/:id".text, segmentsOf idPieces⟩ ∧
      ∃ n, Backtracking.parse .strict (regexOf (segmentsOf idPieces)) = .ok n ∧
        ∀ path : Text, n.isFoundIn path = true ↔ path ∈ spelled (segmentsOf idPieces) ∨
          ∃ t ∈ spelled (segmentsOf idPieces), path = t ++ [scalar '\n'] := by
  have hc : compile "/:id".text = .ok ⟨"/:id".text, segmentsOf idPieces⟩ :=
    isParse_idPieces.compile_eq_ok (by decide) (by decide) (by decide)
  have hb : WithoutBodies "/:id".text := by
    intro ps hps
    rw [hps.unique isParse_idPieces]
    decide
  exact ⟨hc, Compiled.isFoundIn_regex_iff .strict hc hb⟩

end Pattern
end RouteTable
