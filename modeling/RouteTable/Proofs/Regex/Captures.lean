/-
# What groups hold

The matcher takes the first way that its continuation accepts.  Where that looks at nothing
but the place that is reached, it takes the first way to that place (`FirstTo`), and so does
every part of a sequence whose later parts are blind to what is captured
(`FirstTo.andThen`).

Most expressions leave the same captures on every way (`Ways.Leaves`): a group holds the text
that it has passed.  A group that is repeated does not: it holds what its last repetition
has passed, and if one repetition is a run that is as short as can be, that is one
character (`FirstTo.exists_of_loop`).
-/

import RouteTable.Proofs.Regex.Language

namespace RouteTable
namespace Regex

/-- Two positions are at one place of a text, whatever is captured at either. -/
def Position.Meets (p q : Position) : Prop := p.before = q.before ∧ p.after = q.after

namespace Position

variable {p p' q q' : Position} {t : Text}

theorem Meets.refl (p : Position) : p.Meets p := ⟨rfl, rfl⟩

/-- One text leads from one place to one place. -/
theorem Passes.meets (h : p.Passes t q) (h' : p'.Passes t q') (hp : p.Meets p') : q.Meets q' := by
  refine ⟨?_, ?_⟩
  · rw [h.2, h'.2, hp.1]
  · refine List.append_cancel_left (h.1.symm.trans ?_)
    rw [hp.2, h'.1]

/-- One text leads from one position to another. -/
theorem Passes.unique {u : Text} (h : p.Passes t q) (h' : p.Passes u q) : t = u :=
  List.append_cancel_right (h.1.symm.trans h'.1)

end Position

/-- A position is in a list, and none before it is at its place. -/
def FirstTo (l : List Position) (q : Position) : Prop :=
  ∃ l₁ l₂, l = l₁ ++ q :: l₂ ∧ ∀ r ∈ l₁, ¬r.Meets q

namespace FirstTo

variable {l : List Position} {q : Position}

/-- The first position of its kind is one of them. -/
theorem mem (h : FirstTo l q) : q ∈ l := by
  obtain ⟨l₁, l₂, rfl, -⟩ := h
  simp

/-- The first position of two lists is the first of the one, or of the other. -/
theorem of_append {x y : List Position} (h : FirstTo (x ++ y) q) :
    FirstTo x q ∨ (FirstTo y q ∧ ∀ r ∈ x, ¬r.Meets q) := by
  obtain ⟨l₁, l₂, hsplit, hl₁⟩ := h
  rcases List.append_eq_append_iff.1 hsplit with ⟨m, rfl, rfl⟩ | ⟨m, rfl, hm⟩
  · exact Or.inr ⟨⟨m, l₂, rfl, fun r hr => hl₁ r (List.mem_append_right _ hr)⟩,
      fun r hr => hl₁ r (List.mem_append_left _ hr)⟩
  · cases m with
    | nil =>
      rw [List.append_nil]
      exact Or.inr ⟨⟨[], l₂, hm.symm, List.forall_mem_nil _⟩, hl₁⟩
    | cons r m =>
      cases hm
      exact Or.inl ⟨l₁, m, rfl, hl₁⟩

/-- Of lists one after the other, the one that a position is first in comes after lists
without its place. -/
theorem of_flatMap {α : Type} {as : List α} {f : α → List Position}
    (h : FirstTo (as.flatMap f) q) : ∃ as₁ a as₂, as = as₁ ++ a :: as₂ ∧ FirstTo (f a) q ∧
      ∀ b ∈ as₁, ∀ r ∈ f b, ¬r.Meets q := by
  induction as with
  | nil => exact absurd h.mem List.not_mem_nil
  | cons a as ih =>
    rw [List.flatMap_cons] at h
    rcases h.of_append with h | ⟨h, hnone⟩
    · exact ⟨[], a, as, rfl, h, List.forall_mem_nil _⟩
    · obtain ⟨as₁, b, as₂, rfl, hb, hbefore⟩ := ih h
      exact ⟨a :: as₁, b, as₂, rfl, hb, List.forall_mem_cons.2 ⟨hnone, hbefore⟩⟩

/-- **The first way of a sequence to a place** goes the first way to where its second part
begins, and from there the first way on, if that part is blind. -/
theorem andThen {v : Ways} {L : Language CodePoint} (hv : v.Spell L) (h : FirstTo (l.flatMap v) q) :
    ∃ r, FirstTo l r ∧ FirstTo (v r) q := by
  obtain ⟨l₁, r, l₂, rfl, hr, hbefore⟩ := h.of_flatMap
  refine ⟨r, ⟨l₁, l₂, rfl, fun s hs hmeets => ?_⟩, hr⟩
  obtain ⟨t, ht, hrq⟩ := hv.sound hr.mem
  obtain ⟨q', hq', hsq⟩ := hv.complete ht (hmeets.2.trans hrq.1)
  exact hbefore s hs q' hq' (hsq.meets hrq hmeets)

end FirstTo

/-! ### Captures that do not depend on the way -/

/-- The ways capture nothing. -/
structure Ways.Keep (w : Ways) : Prop where
  captures_eq : ∀ {p q}, q ∈ w p → q.captures = p.captures

namespace Ways
namespace Keep

variable {v w : Ways}

theorem nothing : Ways.Keep fun p => [p] where
  captures_eq h := by rw [List.mem_singleton.1 h]

theorem set (s : CharSet) : Ways.Keep (Node.set s).ways where
  captures_eq {p q} hq := by
    rw [Node.ways] at hq
    split at hq
    · cases hq
    · split at hq
      · rw [List.mem_singleton.1 hq]
        rfl
      · cases hq

theorem andThen (hw : w.Keep) (hv : v.Keep) : Ways.Keep fun p => (w p).flatMap v where
  captures_eq {p r} hr := by
    obtain ⟨q, hq, hr⟩ := List.mem_flatMap.1 hr
    exact (hv.captures_eq hr).trans (hw.captures_eq hq)

theorem times (h : w.Keep) (n : Nat) : Ways.Keep (w.times n) := by
  induction n with
  | zero => exact nothing
  | succ n ih => exact h.andThen ih

theorem greedy (h : w.Keep) (fuel : Nat) (limit : Option Nat) :
    Ways.Keep (w.greedy fuel limit) := by
  induction fuel generalizing limit with
  | zero =>
    refine ⟨fun {p q} hq => ?_⟩
    rcases limit with _ | _ | n <;> rw [List.mem_singleton.1 hq]
  | succ fuel ih =>
    refine ⟨fun {p q} hq => ?_⟩
    by_cases hl : limit = some 0
    · subst hl
      rw [List.mem_singleton.1 hq]
    · rw [Ways.greedy, List.mem_append, List.mem_flatMap] at hq
      · rcases hq with ⟨r, hr, hq⟩ | hq
        · refine Eq.trans ?_ (h.captures_eq hr)
          split at hq
          · rw [List.mem_singleton.1 hq]
          · exact (ih _).captures_eq hq
        · rw [List.mem_singleton.1 hq]
      all_goals simpa using hl

theorem lazy (h : w.Keep) (fuel : Nat) (limit : Option Nat) (idle : Bool) :
    Ways.Keep (w.lazy fuel limit idle) := by
  induction fuel generalizing limit idle with
  | zero => exact ⟨fun hq => by rw [List.mem_singleton.1 hq]⟩
  | succ fuel ih =>
    refine ⟨fun {p q} hq => ?_⟩
    rw [Ways.lazy, List.mem_cons] at hq
    rcases hq with rfl | hq
    · rfl
    · split at hq
      · cases hq
      · obtain ⟨r, hr, hq⟩ := List.mem_flatMap.1 hq
        exact ((ih _ _).captures_eq hq).trans (h.captures_eq hr)

theorem loop {n : Node} (h : Ways.Keep n.ways) {greed : Greed} (hg : greed ≠ .possessive)
    (least : Nat) (greatest : Option Nat) :
    Ways.Keep (Node.loop greed least greatest n).ways where
  captures_eq {p q} hq := by
    rw [Node.ways] at hq
    cases greed with
    | greedy =>
      obtain ⟨r, hr, hq⟩ := List.mem_flatMap.1 hq
      exact ((h.greedy _ _).captures_eq hq).trans ((h.times least).captures_eq hr)
    | lazy =>
      obtain ⟨r, hr, hq⟩ := List.mem_flatMap.1 hq
      exact ((h.lazy _ _ _).captures_eq hq).trans ((h.times least).captures_eq hr)
    | possessive => exact absurd rfl hg

end Keep
end Ways

/-- Every way passes a text and captures something, as a relation says; what is captured
last stands first. -/
structure Ways.Leaves (w : Ways) (R : Text → List (Nat × Text) → Prop) : Prop where
  exists_of_mem : ∀ {p q}, q ∈ w p →
    ∃ t cs, p.Passes t q ∧ q.captures = cs ++ p.captures ∧ R t cs

namespace Ways
namespace Leaves

variable {v w : Ways} {L : Language CodePoint} {R S : Text → List (Nat × Text) → Prop}

theorem mono (h : w.Leaves R) (hRS : ∀ t cs, R t cs → S t cs) : w.Leaves S where
  exists_of_mem hq := by
    obtain ⟨t, cs, hpq, hcs, hR⟩ := h.exists_of_mem hq
    exact ⟨t, cs, hpq, hcs, hRS t cs hR⟩

/-- What captures nothing leaves nothing but the texts that it spells. -/
theorem of_keep (hw : w.Keep) (hs : w.Spell L) : w.Leaves fun t cs => t ∈ L ∧ cs = [] where
  exists_of_mem hq := by
    obtain ⟨t, ht, hpq⟩ := hs.sound hq
    exact ⟨t, [], hpq, hw.captures_eq hq, ht, rfl⟩

/-- A group leaves the text that it has passed, if nothing is captured in it. -/
theorem group {n : Node} {index : Nat} (hw : Ways.Keep n.ways)
    (hs : Ways.Spell (Node.group index n).ways L) :
    Ways.Leaves (Node.group index n).ways fun t cs => cs = [(index, t)] where
  exists_of_mem {p q} hq := by
    obtain ⟨t, -, hpr⟩ := hs.sound hq
    rw [Node.ways] at hq
    obtain ⟨r, hr, rfl⟩ := List.mem_map.1 hq
    have htext : p.textUpTo r = t := by
      rw [Position.textUpTo, hpr.1, List.length_append, Nat.add_sub_cancel, List.take_left]
    refine ⟨t, [(index, t)], hpr, ?_, rfl⟩
    dsimp only
    rw [htext, hw.captures_eq hr]
    rfl

/-- One thing after another leaves what both leave. -/
theorem andThen (hw : w.Leaves R) (hv : v.Leaves S) :
    Ways.Leaves (fun p => (w p).flatMap v) fun t cs =>
      ∃ a b as bs, t = a ++ b ∧ cs = bs ++ as ∧ R a as ∧ S b bs where
  exists_of_mem hr := by
    obtain ⟨q, hq, hqr⟩ := List.mem_flatMap.1 hr
    obtain ⟨a, as, hpq, has, hR⟩ := hw.exists_of_mem hq
    obtain ⟨b, bs, hqr, hbs, hS⟩ := hv.exists_of_mem hqr
    refine ⟨a ++ b, bs ++ as, hpq.trans hqr, ?_, a, b, as, bs, rfl, rfl, hR, hS⟩
    rw [hbs, has, List.append_assoc]

/-- At most one repetition leaves what that leaves, or nothing at all. -/
theorem optional {n : Node} (h : Ways.Leaves n.ways R) :
    Ways.Leaves (Node.loop .greedy 0 (some 1) n).ways fun t cs =>
      R t cs ∨ (t = [] ∧ cs = []) where
  exists_of_mem {p q} hq := by
    have hways : (Node.loop .greedy 0 (some 1) n).ways p =
        ((n.ways p).flatMap fun q => [q]) ++ [p] := by
      rw [Node.ways]
      change [p].flatMap (fun q => n.ways.greedy (q.after.length + 1) (some 1) q) = _
      rw [List.flatMap_singleton, Ways.greedy]
      · congr 1
        refine List.flatMap_congr fun q _ => ?_
        have hend : n.ways.greedy p.after.length (some 0) q = [q] := by
          cases p.after.length <;> rfl
        change (if _ then [q] else n.ways.greedy p.after.length (some 0) q) = [q]
        rw [hend, ite_self]
      · simp
    rw [hways, List.flatMap_singleton', List.mem_append, List.mem_singleton] at hq
    rcases hq with hq | rfl
    · obtain ⟨t, cs, hpq, hcs, hR⟩ := h.exists_of_mem hq
      exact ⟨t, cs, hpq, hcs, Or.inl hR⟩
    · exact ⟨[], [], .refl q, rfl, Or.inr ⟨rfl, rfl⟩⟩

end Leaves
end Ways

/-! ### Groups that are repeated -/

/-- A group of one or more characters of a set, as few as lead on. -/
def shortGroup (index : Nat) (s : CharSet) : Node := .group index (.loop .lazy 1 none (.set s))

/-- A position one character on, at which a group holds that character. -/
def Position.past (p : Position) (index : Nat) (c : CodePoint) (rest : Text) : Position :=
  ⟨c :: p.before, rest, (index, [c]) :: p.captures⟩

section Repeated

variable {index : Nat} {s : CharSet} {p q : Position} {c : CodePoint} {rest : Text}

theorem Position.passes_past (hp : p.after = c :: rest) : p.Passes [c] (p.past index c rest) :=
  ⟨hp, rfl⟩

theorem spell_shortGroup (index : Nat) (s : CharSet) :
    Ways.Spell (shortGroup index s).ways (repetitions s.language 1 none) :=
  .group index ((Ways.Spell.set s).loop Greed.noConfusion (by simp))

/-- Its first way is one character long. -/
theorem head?_ways_shortGroup (index : Nat) (hp : p.after = c :: rest) (hc : s.contains c = true) :
    ((shortGroup index s).ways p).head? = some (p.past index c rest) := by
  have hset : (Node.set s).ways p = [p.advance c rest] := by
    rw [Node.ways]
    simp [hp, hc]
  have hloop : ((Node.loop .lazy 1 none (.set s)).ways p).head? = some (p.advance c rest) := by
    rw [Node.ways]
    change (((((Node.set s).ways p).flatMap fun q => [q]).flatMap _)).head? = _
    rw [hset]
    rfl
  have htext : p.textUpTo (p.advance c rest) = [c] := by
    simp [Position.textUpTo, Position.advance, hp]
  rw [shortGroup, Node.ways, List.head?_map, hloop, Option.map_some, htext]
  rfl

/-- **Of repetitions, the first one is one character long.**  For any place that they reach
with a longer one, they reach with that one too, and it is tried before. -/
theorem FirstTo.exists_past (fuel : Position → Nat)
    (hf : ∀ r, r.after.length < p.after.length → r.after.length ≤ fuel r)
    (h : FirstTo (((shortGroup index s).ways p).flatMap fun r =>
      (shortGroup index s).ways.greedy (fuel r) none r) q) :
    ∃ c rest, p.after = c :: rest ∧ s.contains c = true ∧
      FirstTo ((shortGroup index s).ways.greedy (fuel (p.past index c rest)) none
        (p.past index c rest)) q := by
  have hspell := spell_shortGroup index s
  obtain ⟨as, a, bs, hsplit, ha, hbefore⟩ := h.of_flatMap
  obtain ⟨t, ht, hpa⟩ := hspell.sound
    (show a ∈ (shortGroup index s).ways p by rw [hsplit]; simp)
  obtain ⟨hne, hchars⟩ := mem_repetitions_language_iff.1 ht
  obtain ⟨c, t, rfl⟩ := List.exists_cons_of_ne_nil hne
  have hp : p.after = c :: (t ++ a.after) := hpa.1
  have hc : s.contains c = true := hchars c List.mem_cons_self
  have hhead := head?_ways_shortGroup index hp hc
  rw [hsplit] at hhead
  refine ⟨c, t ++ a.after, hp, hc, ?_⟩
  cases as with
  | nil => exact Option.some.inj hhead ▸ ha
  | cons b as =>
    -- the first way leads to the place too: what is left of a longer one is one more
    obtain ⟨ws, hws, -, haq⟩ := hspell.exists_of_mem_greedy ha.mem
    have hpq : p.Passes (c :: (t ++ ws.flatten)) q := hpa.trans haq
    have hall : ∀ u ∈ t :: ws, u ∈ ({u | ∀ c ∈ u, s.contains c = true} : Language CodePoint) :=
      List.forall_mem_cons.2 ⟨fun d hd => hchars d (List.mem_cons_of_mem _ hd),
        fun u hu => (mem_repetitions_language_iff.1 (hws u hu)).2⟩
    obtain ⟨vs, hvs, -, hflat⟩ := Ways.Spell.exists_ne_nil_flatten_eq hall
    rw [List.flatten_cons] at hflat
    have hafter : (p.past index c (t ++ a.after)).after = vs.flatten ++ q.after := by
      rw [hflat, List.append_assoc, ← haq.1]
      rfl
    have hlength : vs.length ≤ fuel (p.past index c (t ++ a.after)) := by
      have hfuel := hf (p.past index c (t ++ a.after)) (by rw [hp]; exact Nat.lt_succ_self _)
      have := Ways.Spell.length_le_of_ne_nil hvs
      rw [hafter, List.length_append] at hfuel
      omega
    have hruns : ∀ u ∈ vs, u ∈ repetitions s.language 1 none ∧ u ≠ [] := fun u hu =>
      ⟨mem_repetitions_language_iff.2 ⟨(hvs u hu).2, (hvs u hu).1⟩, (hvs u hu).2⟩
    have hlimit : ∀ n ∈ (none : Option Nat), vs.length ≤ n := by simp
    obtain ⟨r, hr, hpr⟩ := hspell.exists_mem_greedy hruns hlength hlimit hafter
    have hmeets : r.Meets q := by
      refine Position.Passes.meets (t := c :: (t ++ ws.flatten)) ?_ hpq (.refl p)
      rw [← hflat]
      exact (Position.passes_past hp).trans hpr
    rw [← Option.some.inj hhead] at hr
    exact absurd hmeets (hbefore b List.mem_cons_self r hr)

/-- What a group captures that passes a text one character at a time. -/
def heldOneByOne (index : Nat) (t : Text) : List (Nat × Text) :=
  t.reverse.map fun c => (index, [c])

theorem heldOneByOne_cons (index : Nat) (c : CodePoint) (t : Text) (cs : List (Nat × Text)) :
    heldOneByOne index (c :: t) ++ cs = heldOneByOne index t ++ (index, [c]) :: cs := by
  simp [heldOneByOne]

/-- **A repeated group holds character after character** of what it passes. -/
theorem FirstTo.exists_of_greedy {fuel : Nat} (hf : p.after.length < fuel)
    (h : FirstTo ((shortGroup index s).ways.greedy fuel none p) q) :
    ∃ t, p.Passes t q ∧ q.captures = heldOneByOne index t ++ p.captures := by
  induction fuel generalizing p with
  | zero => exact absurd hf (Nat.not_lt_zero _)
  | succ fuel ih =>
    rw [Ways.greedy] at h
    · rcases h.of_append with h | ⟨h, -⟩
      · have hgoes : ((shortGroup index s).ways p).flatMap (fun r =>
            if r.after.length = p.after.length then [r]
            else (shortGroup index s).ways.greedy fuel none r) =
            ((shortGroup index s).ways p).flatMap fun r =>
              (shortGroup index s).ways.greedy fuel none r := by
          refine List.flatMap_congr fun r hr => if_neg ?_
          obtain ⟨t, ht, hpr⟩ := (spell_shortGroup index s).sound hr
          have := hpr.length_after
          have := List.length_pos_iff.2 (mem_repetitions_language_iff.1 ht).1
          omega
        obtain ⟨c, rest, hp, -, h⟩ := FirstTo.exists_past (fun _ => fuel)
          (fun r hr => by omega) (hgoes ▸ h)
        obtain ⟨t, hpq, hcaptures⟩ := ih (p := p.past index c rest)
          (by rw [hp, List.length_cons] at hf; exact Nat.lt_of_succ_lt_succ hf) h
        refine ⟨c :: t, (Position.passes_past hp).trans hpq, ?_⟩
        rw [hcaptures, heldOneByOne_cons]
        rfl
      · obtain rfl := List.mem_singleton.1 h.mem
        exact ⟨[], .refl q, rfl⟩
    · simp

/-- **A group of a shortest run that is repeated as often as can be holds single
characters,** one for each character that is passed. -/
theorem FirstTo.exists_of_loop {least : Nat} (hl : least ≤ 1)
    (h : FirstTo ((Node.loop .greedy least none (shortGroup index s)).ways p) q) :
    ∃ t, p.Passes t q ∧ q.captures = heldOneByOne index t ++ p.captures := by
  rw [Node.ways, Ways.loop] at h
  obtain rfl | rfl : least = 0 ∨ least = 1 := by omega
  · refine FirstTo.exists_of_greedy (s := s) (Nat.lt_succ_self p.after.length) ?_
    simpa [Ways.times] using h
  · have htimes : (shortGroup index s).ways.times 1 p = (shortGroup index s).ways p :=
      List.flatMap_singleton' _
    simp only [htimes] at h
    obtain ⟨c, rest, hp, -, h⟩ := FirstTo.exists_past
      (fun r => r.after.length + 1) (fun r _ => Nat.le_succ _) h
    obtain ⟨t, hpq, hcaptures⟩ := h.exists_of_greedy (Nat.lt_succ_self _)
    refine ⟨c :: t, (Position.passes_past hp).trans hpq, ?_⟩
    rw [hcaptures, heldOneByOne_cons]
    rfl

end Repeated

end Regex
end RouteTable
