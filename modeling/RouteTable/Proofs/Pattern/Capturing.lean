/-
# What captures give back

A path that a compiled pattern matches is put together again from the pattern: a literal
gives its text, and a capture what its group holds between its lead and its trail
(`Segment.restored`).

A match leaves one text to each segment, and the group of a capture holds the text between
lead and trail, unless the group itself is repeated.  A bare catch-all, one without lead and
trail, repeats it: its group holds the last character of its text and no more.
`Compiled.flatMap_restored_search` says so of every source whose segments are literals and
named captures with the default body.
-/

import RouteTable.Proofs.Pattern.Meaning
import RouteTable.Proofs.Pattern.Names
import RouteTable.Proofs.Regex.Captures

namespace RouteTable
namespace Pattern

open Regex Regex.Backtracking

/-! ### The segments' texts, put together again -/

namespace Capture

/-- What the group of a capture holds, by the number that the registry has for its name. -/
def held? (r : Registry) (q : Position) (c : Capture) : Option Text :=
  (c.name.bind r.get?).bind fun e => q.captured? e.index.toNat

/-- A capture that may stand more than once, with nothing between one run and the next. -/
def isBareCatchAll (c : Capture) : Bool :=
  c.isBare && (c.modifier == .star || c.modifier == .plus)

/-- A capture is a bare catch-all if it is repeated and has nothing around it. -/
theorem isBareCatchAll_iff {c : Capture} : c.isBareCatchAll = true ↔
    (c.lead = [] ∧ c.trail = []) ∧ (c.modifier = .star ∨ c.modifier = .plus) := by
  simp [isBareCatchAll, isBare]

end Capture

namespace Segment

/-- The text that a segment has at the end of a match: its own, or what its group holds
between its lead and its trail, if that has matched. -/
def restored (r : Registry) (q : Position) : Segment → Text
  | literal t | group t _ => t
  | capture c => ((c.held? r q).map fun t => c.lead ++ t ++ c.trail).getD []

/-- A literal, or a named capture with the default body. -/
def IsPlain : Segment → Prop
  | literal _ => True
  | group _ _ => False
  | capture c => c.name.isSome = true ∧ c.body = defaultBody

/-- Whether a segment is a bare catch-all. -/
def isBareCatchAll (s : Segment) : Bool := s.capture?.any Capture.isBareCatchAll

/-- A segment stands for a text and gets it back; a bare catch-all, its last character. -/
def Recovers (r : Registry) (q : Position) (s : Segment) (t : Text) : Prop :=
  t ∈ s.language ∧ s.restored r q = if s.isBareCatchAll then t.getLast?.toList else t

/-- What a segment captures in the group of a number on its way through a text. -/
def Captures (index : Nat) (t : Text) (cs : List (Nat × Text)) : Segment → Prop
  | literal _ | group _ _ => cs = []
  | capture c =>
    if c.isBareCatchAll then cs = heldOneByOne index t
    else (t = [] ∧ cs = []) ∨ ∃ u, t = c.lead ++ u ++ c.trail ∧ cs = [(index, u)]

end Segment

/-! ### What items capture -/

/-- A modifier repeats, and captures nothing itself. -/
theorem keep_modified {n : Node} (h : Ways.Keep n.ways) (m : Modifier) :
    Ways.Keep (Item.modified n m).node.ways := by
  cases m with
  | once => exact h
  | optional | star | plus => exact h.loop Greed.noConfusion _ _

/-- A row captures nothing if none of its items does. -/
theorem keep_row {items : List Item} (h : ∀ i ∈ items, Ways.Keep i.node.ways) :
    Ways.Keep (row items).ways := by
  induction items with
  | nil => exact .nothing
  | cons i is ih =>
    rw [← List.singleton_append, ways_row_append]
    exact (h i List.mem_cons_self).andThen (ih fun j hj => h j (List.mem_cons_of_mem _ hj))

/-- A literal text captures nothing. -/
theorem keep_text (t : Text) : Ways.Keep (row (t.map .literal)).ways := by
  refine keep_row fun i hi => ?_
  obtain ⟨c, -, rfl⟩ := List.mem_map.1 hi
  exact .set _

theorem keep_run : Ways.Keep runItem.node.ways := (Ways.Keep.set runSet).loop Greed.noConfusion _ _

/-- Runs with literal texts between them capture nothing. -/
theorem keep_runsItems (c : Capture) : Ways.Keep (row (runsItems c)).ways := by
  refine keep_row fun i hi => ?_
  rcases List.mem_cons.1 hi with rfl | hi
  · exact keep_run
  · obtain rfl := List.mem_singleton.1 hi
    refine keep_modified (keep_row fun j hj => ?_) .star
    rcases List.mem_append.1 hj with hj | hj
    · obtain ⟨d, -, rfl⟩ := List.mem_map.1 hj
      exact .set _
    · obtain rfl := List.mem_singleton.1 hj
      exact keep_run

namespace Capture

variable {n : Node}

/-- What stands around a capture captures nothing. -/
theorem leaves_around (c : Capture) {R : Text → List (Nat × Text) → Prop}
    (h : Ways.Leaves n.ways R) :
    Ways.Leaves (row (c.around [.other n])).ways fun t cs =>
      ∃ u, t = c.lead ++ u ++ c.trail ∧ R u cs := by
  have text : ∀ t : Text, Ways.Leaves (row (t.map .literal)).ways fun u cs =>
      u ∈ ({t} : Language CodePoint) ∧ cs = [] :=
    fun t => .of_keep (keep_text t) (SpellRow.text t)
  rw [around, ways_row_append, ways_row_append]
  refine (((text c.lead).andThen h).andThen (text c.trail)).mono ?_
  rintro t cs ⟨front, trail, inner, outer, rfl, rfl, hfront, htrail, rfl⟩
  obtain ⟨lead, u, before, held, rfl, rfl, ⟨hlead, rfl⟩, hR⟩ := hfront
  obtain rfl := Set.mem_singleton_iff.1 hlead
  obtain rfl := Set.mem_singleton_iff.1 htrail
  exact ⟨u, rfl, by simpa using hR⟩

/-- The group of a bare catch-all is repeated, a character at a time. -/
theorem exists_heldOneByOne {c : Capture} {index : Nat} {p q : Position}
    (hc : c.isBareCatchAll = true) (h : FirstTo ((c.item index).node.ways p) q) :
    ∃ t, p.Passes t q ∧ q.captures = heldOneByOne index t ++ p.captures := by
  obtain ⟨hbare, hm⟩ := isBareCatchAll_iff.1 hc
  rw [item, if_pos hbare] at h
  rcases hm with hm | hm
  · rw [hm] at h
    exact FirstTo.exists_of_loop (s := runSet) (Nat.zero_le 1) h
  · rw [hm] at h
    exact FirstTo.exists_of_loop (s := runSet) (Nat.le_refl 1) h

/-- What the group of a capture leaves, if the group is not repeated. -/
theorem leaves_item (c : Capture) (index : Nat) (hc : c.isBareCatchAll = false) :
    Ways.Leaves (c.item index).node.ways fun t cs =>
      (t = [] ∧ cs = []) ∨ ∃ u, t = c.lead ++ u ++ c.trail ∧ cs = [(index, u)] := by
  have one : Ways.Leaves (Node.group index (row [runItem])).ways fun t cs => cs = [(index, t)] :=
    .group keep_run (spell_one index)
  have several : Ways.Leaves (Node.group index (row (runsItems c))).ways
      fun t cs => cs = [(index, t)] :=
    .group (keep_runsItems c) (c.spell_several index)
  unfold item
  dsimp only
  split
  · rename_i hbare
    rw [hbare.1, hbare.2]
    have alone : ∀ {t : Text} {cs : List (Nat × Text)}, cs = [(index, t)] →
        ∃ u, t = [] ++ u ++ [] ∧ cs = [(index, u)] :=
      fun {t _} h => ⟨t, (List.append_nil t).symm, h⟩
    cases hm : c.modifier with
    | once => exact one.mono fun t cs h => Or.inr (alone h)
    | optional => exact one.optional.mono fun t cs h => h.symm.imp_right alone
    | star => exact absurd (isBareCatchAll_iff.2 ⟨hbare, Or.inl hm⟩) (by simp [hc])
    | plus => exact absurd (isBareCatchAll_iff.2 ⟨hbare, Or.inr hm⟩) (by simp [hc])
  · cases c.modifier with
    | once => exact (c.leaves_around one).mono fun t cs h => Or.inr h
    | plus => exact (c.leaves_around several).mono fun t cs h => Or.inr h
    | optional => exact (c.leaves_around one).optional.mono fun t cs h => h.symm
    | star => exact (c.leaves_around several).optional.mono fun t cs h => h.symm

end Capture

/-- **On the first way to a place,** a segment passes a text of its language and captures what
it should. -/
theorem Segment.exists_captures {opened : Nat} {s : Segment} {p q : Position}
    (h : FirstTo ((row (s.items opened)).ways p) q) :
    ∃ t ∈ s.language, ∃ cs, p.Passes t q ∧ q.captures = cs ++ p.captures ∧
      s.Captures (opened + 1) t cs := by
  obtain ⟨t, ht, hpq⟩ := Ways.Spell.sound (s.spellRow_items opened) h.mem
  refine ⟨t, ht, ?_⟩
  cases s with
  | literal u =>
    exact ⟨[], hpq, (keep_text u).captures_eq h.mem, rfl⟩
  | group u m =>
    exact ⟨[], hpq, (keep_modified (keep_text u) m).captures_eq h.mem, rfl⟩
  | capture c =>
    by_cases hc : c.isBareCatchAll = true
    · obtain ⟨u, hpu, hcs⟩ := Capture.exists_heldOneByOne hc h
      refine ⟨_, hpq, hcs, ?_⟩
      rw [Captures, if_pos hc, hpq.unique hpu]
    · obtain ⟨u, cs, hpu, hcs, hR⟩ := (c.leaves_item _ (by simpa using hc)).exists_of_mem h.mem
      refine ⟨cs, hpq, hcs, ?_⟩
      rw [Captures, if_neg hc, hpq.unique hpu]
      exact hR

/-- What segments capture on their way through texts, after `opened` groups. -/
inductive Capturing : Nat → List Segment → List Text → List (Nat × Text) → Prop
  | nil (opened : Nat) : Capturing opened [] [] []
  | cons {opened s ss t ts cs ds} (ht : t ∈ s.language) (hs : s.Captures (opened + 1) t cs)
      (hss : Capturing (opened + s.groupCount) ss ts ds) :
      Capturing opened (s :: ss) (t :: ts) (ds ++ cs)

/-- The first way to a place goes segment by segment. -/
theorem exists_capturing {opened : Nat} {ss : List Segment} {p q : Position}
    (h : FirstTo ((row (itemsOf opened ss)).ways p) q) :
    ∃ ts cs, Capturing opened ss ts cs ∧ p.Passes ts.flatten q ∧
      q.captures = cs ++ p.captures := by
  induction ss generalizing opened p with
  | nil =>
    obtain rfl : q = p := List.mem_singleton.1 h.mem
    exact ⟨[], [], .nil opened, .refl q, rfl⟩
  | cons s ss ih =>
    rw [itemsOf, ways_row_append] at h
    obtain ⟨r, hr, h⟩ := h.andThen (spellRow_itemsOf _ ss)
    obtain ⟨t, ht, cs, hpr, hcs, hs⟩ := Segment.exists_captures hr
    obtain ⟨ts, ds, hss, hrq, hds⟩ := ih h
    exact ⟨t :: ts, ds ++ cs, .cons ht hs hss, hpr.trans hrq, by
      rw [hds, hcs, List.append_assoc]⟩

/-! ### What is looked up -/

/-- A group that is repeated for each character holds the last one. -/
theorem lookup_heldOneByOne (index : Nat) (t : Text) :
    (heldOneByOne index t).lookup index = t.getLast?.map fun c => [c] := by
  rw [heldOneByOne, ← List.head?_reverse]
  cases t.reverse with
  | nil => rfl
  | cons c u => simp

namespace Segment

variable {s : Segment} {index opened : Nat} {t : Text} {cs : List (Nat × Text)}

/-- A segment captures in its own group. -/
theorem Captures.index_eq (h : s.Captures index t cs) {e : Nat × Text} (he : e ∈ cs) :
    e.1 = index ∧ s.groupCount = 1 := by
  cases s with
  | literal | group =>
    rw [show cs = [] from h] at he
    cases he
  | capture c =>
    refine ⟨?_, rfl⟩
    rw [Captures] at h
    split at h
    · rw [h, heldOneByOne] at he
      obtain ⟨c, -, rfl⟩ := List.mem_map.1 he
      rfl
    · rcases h with ⟨-, rfl⟩ | ⟨u, -, rfl⟩
      · cases he
      · rw [List.mem_singleton.1 he]

/-- **A segment is put together again** from what is looked up of what it has captured. -/
theorem Captures.recovers {r : Registry} {q : Position} (h : s.Captures index t cs)
    (ht : t ∈ s.language) (hplain : s.IsPlain)
    (hheld : ∀ c, s = .capture c → c.held? r q = cs.lookup index) : s.Recovers r q t := by
  refine ⟨ht, ?_⟩
  cases s with
  | literal u => exact (show t = u from ht).symm
  | group => exact hplain.elim
  | capture c =>
    have hlossy : (Segment.capture c).isBareCatchAll = c.isBareCatchAll := rfl
    rw [restored, hheld c rfl, hlossy]
    rw [Captures] at h
    split at h
    · rename_i hc
      obtain ⟨⟨hl, ht⟩, -⟩ := Capture.isBareCatchAll_iff.1 hc
      rw [if_pos hc, h, lookup_heldOneByOne, hl, ht]
      cases t.getLast? <;> rfl
    · rename_i hc
      rw [if_neg hc]
      rcases h with ⟨rfl, rfl⟩ | ⟨u, rfl, rfl⟩
      · rfl
      · simp

end Segment

namespace Capturing

variable {opened : Nat} {ss : List Segment} {ts : List Text} {cs : List (Nat × Text)}

/-- The groups of later segments have higher numbers. -/
theorem lt_of_mem (h : Capturing opened ss ts cs) {e : Nat × Text} (he : e ∈ cs) :
    opened < e.1 := by
  induction h with
  | nil => cases he
  | cons ht hs hss ih =>
    rcases List.mem_append.1 he with he | he
    · exact Nat.lt_of_le_of_lt (Nat.le_add_right _ _) (ih he)
    · rw [(hs.index_eq he).1]
      exact Nat.lt_succ_self _

/-- **Every segment is put together again,** if the registry has the numbers of the groups. -/
theorem recovers {r : Registry} {q : Position} (h : Capturing opened ss ts cs)
    (hplain : ∀ s ∈ ss, s.IsPlain)
    (hr : ∀ l ∈ landings opened ss, ∀ e, l.entry? = some e → r.get? e.name = some e)
    (hq : ∀ k, opened < k → q.captured? k = cs.lookup k) :
    List.Forall₂ (Segment.Recovers r q) ss ts := by
  induction h with
  | nil => exact .nil
  | @cons opened s ss t ts cs ds ht hs hss ih =>
    refine .cons (hs.recovers ht (hplain s List.mem_cons_self) ?_) (ih ?_ ?_ ?_)
    · rintro c rfl
      obtain ⟨name, hname⟩ := Option.isSome_iff_exists.1 (hplain _ List.mem_cons_self).1
      have hentry := hr ⟨opened + 1, c, _⟩ List.mem_cons_self
        ⟨name, (opened + 1 : Nat), c.modifier.text⟩ (by rw [Landing.entry?, hname]; rfl)
      have hlater : ds.lookup (opened + 1) = none := by
        refine List.lookup_eq_none_iff.2 fun e he => bne_iff_ne.2 ?_
        exact (Nat.ne_of_lt (hss.lt_of_mem he))
      rw [Capture.held?, hname, Option.bind_some, hentry, Option.bind_some, Int.toNat_natCast,
        hq _ (Nat.lt_succ_self _), List.lookup_append, hlater, Option.none_or]
    · exact fun s hs => hplain s (List.mem_cons_of_mem _ hs)
    · intro l hl
      refine hr l ?_
      cases s with
      | literal | group => exact hl
      | capture c => exact List.mem_cons_of_mem _ hl
    · intro k hk
      have hearlier : cs.lookup k = none := by
        refine List.lookup_eq_none_iff.2 fun e he => bne_iff_ne.2 ?_
        obtain ⟨he, hcount⟩ := hs.index_eq he
        omega
      rw [hq k (Nat.lt_of_le_of_lt (Nat.le_add_right _ _) hk), List.lookup_append, hearlier,
        Option.or_none]

end Capturing

/-- The first match between two anchors is the first way from the beginning to where it ends. -/
theorem firstTo_of_search {items : List Item} {path : Text} {m : Match}
    (h : (anchored items).search path = some m) :
    FirstTo ((row items).ways (Position.between [] path)) m.stop ∧
      (m.stop.after = [] ∨ m.stop.after = [scalar '\n']) := by
  obtain ⟨u, v, rfl, -, hhead⟩ := Node.exists_of_searchFrom h
  rw [ways_anchored] at hhead
  split at hhead
  · rename_i hu
    obtain rfl : u = [] := by simpa [Position.between] using hu
    rw [List.head?_filter, List.find?_eq_some_iff_append] at hhead
    obtain ⟨hstop, as, bs, hsplit, hbefore⟩ := hhead
    refine ⟨⟨as, bs, hsplit, fun r hr hmeets => ?_⟩, by simpa using hstop⟩
    have := hbefore r hr
    rw [hmeets.2, hstop] at this
    cases this
  · cases hhead

/-- Without bare catch-alls, what is put together again are the texts. -/
theorem flatMap_restored_eq_flatten {r : Registry} {q : Position} {ss : List Segment}
    {ts : List Text} (h : List.Forall₂ (Segment.Recovers r q) ss ts)
    (hss : ∀ s ∈ ss, s.isBareCatchAll = false) :
    ss.flatMap (Segment.restored r q) = ts.flatten := by
  induction h with
  | nil => rfl
  | @cons s t ss ts hs _ ih =>
    have hs := hs.2
    rw [hss s List.mem_cons_self, if_neg Bool.false_ne_true] at hs
    rw [List.flatMap_cons, List.flatten_cons, hs, ih fun r hr => hss r (List.mem_cons_of_mem _ hr)]

namespace Compiled

variable {source : Text} {c : Compiled}

/-- **Captures give back what is matched,** except what a bare catch-all has passed before
its last character.  A source whose segments are literals and named captures with the default
body compiles to an expression of the engine's.  If that matches a path, the path consists of
one text to each segment, and maybe a last line feed; each segment is put together again to
its text, and a bare catch-all to the last character of it.  So without those, all segments
put together again are the path. -/
theorem flatMap_restored_search (edition : Backtracking.Edition) (h : compile source = .ok c)
    (hplain : ∀ s ∈ c.segments, s.IsPlain) :
    ∃ n, Backtracking.parse edition c.regex = .ok n ∧ ∀ path m, n.search path = some m →
      (∃ ts, List.Forall₂ (Segment.Recovers c.registry m.stop) c.segments ts ∧
        (path = ts.flatten ∨ path = ts.flatten ++ [scalar '\n'])) ∧
      ((∀ s ∈ c.segments, s.isBareCatchAll = false) →
        path = c.segments.flatMap (Segment.restored c.registry m.stop) ∨
        path = c.segments.flatMap (Segment.restored c.registry m.stop) ++ [scalar '\n']) := by
  obtain ⟨ss, hs, rfl⟩ := Outcome.map_eq_ok.1 h
  obtain ⟨-, -, ps, -, hnames, rfl⟩ := segments_eq_ok_iff.1 hs
  have hbodies : HasDefaultBodies (segmentsOf ps) := fun c hc => (hplain _ hc).2
  refine ⟨anchored (itemsOf 0 (segmentsOf ps)), parse_regexOf hbodies, fun path m hm => ?_⟩
  obtain ⟨hfirst, hstop⟩ := firstTo_of_search hm
  obtain ⟨ts, cs, hcapturing, hpassed, hcs⟩ := exists_capturing hfirst
  have hpath : path = ts.flatten ∨ path = ts.flatten ++ [scalar '\n'] := by
    have : path = ts.flatten ++ m.stop.after := hpassed.1
    rcases hstop with hstop | hstop
    · exact Or.inl (by rw [this, hstop, List.append_nil])
    · exact Or.inr (by rw [this, hstop])
  have hrecovers : List.Forall₂ (Segment.Recovers (Registry.ofSegments (segmentsOf ps)) m.stop)
      (segmentsOf ps) ts := by
    refine hcapturing.recovers hplain (fun l hl e he => ?_) fun k _ => ?_
    · refine Registry.get?_name_of_mem ?_ ?_
      · rwa [Registry.names_ofSegments, filterMap_name?_segmentsOf]
      · rw [Registry.entries_ofSegments]
        exact List.mem_filterMap.2 ⟨l, hl, he⟩
    · rw [Position.captured?, hcs]
      simp [Position.between]
  refine ⟨⟨ts, hrecovers, hpath⟩, fun hlossless => ?_⟩
  rw [← flatMap_restored_eq_flatten hrecovers hlossless] at hpath
  exact hpath

end Compiled

/-- The capture of `/:path*`. -/
def pathCapture : Capture := ⟨some "path".text, [scalar '/'], defaultBody, [], .star⟩

/-- In `/:path*` nothing is lost: the path is put together again. -/
theorem compile_path_flatMap_restored :
    compile "/:path*".text = .ok ⟨"/:path*".text, [.capture pathCapture]⟩ ∧
    (∀ s ∈ [Segment.capture pathCapture], s.IsPlain ∧ s.isBareCatchAll = false) ∧
    ∃ n, Backtracking.parse .strict (regexOf [.capture pathCapture]) = .ok n ∧
      (n.search "/a/b".text).isSome = true ∧ ∀ path m, n.search path = some m →
        let whole := [Segment.capture pathCapture].flatMap
          (Segment.restored (Registry.ofSegments [.capture pathCapture]) m.stop)
        path = whole ∨ path = whole ++ [scalar '\n'] := by
  have hp : IsParse "/:path*".text [.text (.plain '/' slash_not_mem_reserved),
      .parameter (.named ⟨"path".text, by decide, List.all_eq_true.1 rfl⟩ none) .star] :=
    ⟨rfl, trivial, fun | _, rfl => by decide, trivial⟩
  have hc : compile "/:path*".text = .ok ⟨"/:path*".text, [.capture pathCapture]⟩ :=
    hp.compile_eq_ok (by decide) (by decide) (by decide)
  have hs : ∀ s ∈ [Segment.capture pathCapture], s.IsPlain ∧ s.isBareCatchAll = false := by
    intro s hs
    obtain rfl := List.mem_singleton.1 hs
    exact ⟨⟨rfl, rfl⟩, rfl⟩
  obtain ⟨n, hn, h⟩ := Compiled.flatMap_restored_search .strict hc fun s hm => (hs s hm).1
  refine ⟨hc, hs, n, hn, ?_, fun path m hm => (h path m hm).2 fun s hm => (hs s hm).2⟩
  obtain rfl : treeOf [.capture pathCapture] = n := by
    have hread : Backtracking.parse .strict (regexOf [.capture pathCapture]) =
        .ok (treeOf [.capture pathCapture]) := parse_regexOf fun c hc => (hs _ hc).1.2
    exact Except.ok.inj (hread.symm.trans hn)
  decide

/-- The capture of `:a+`. -/
def bareCapture : Capture := ⟨some [scalar 'a'], [], defaultBody, [], .plus⟩

/-- **A bare catch-all loses all but the last character:** in `:a+` the group is repeated, and
of the path `ab` it holds `b`. -/
theorem compile_bareCatchAll_restored :
    compile ":a+".text = .ok ⟨":a+".text, [.capture bareCapture]⟩ ∧
    (∀ s ∈ [Segment.capture bareCapture], s.IsPlain) ∧
    ∃ n m, Backtracking.parse .strict (regexOf [.capture bareCapture]) = .ok n ∧
      n.search "ab".text = some m ∧
      let whole := [Segment.capture bareCapture].flatMap
        (Segment.restored (Registry.ofSegments [.capture bareCapture]) m.stop)
      whole = [scalar 'b'] ∧ ¬("ab".text = whole ∨ "ab".text = whole ++ [scalar '\n']) := by
  have hp : IsParse ":a+".text
      [.parameter (.named ⟨[scalar 'a'], by decide, List.all_eq_true.1 rfl⟩ none) .plus] :=
    ⟨rfl, fun | _, rfl => by decide, trivial⟩
  refine ⟨hp.compile_eq_ok (by decide) (by decide) (by decide), ?_, _, _, rfl, rfl, by decide⟩
  intro s hs
  obtain rfl := List.mem_singleton.1 hs
  exact ⟨rfl, rfl⟩

end Pattern
end RouteTable
