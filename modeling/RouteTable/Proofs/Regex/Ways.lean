/-
# The ways of a match

Backtracking tries the ways of an expression one after the other.  `Node.ways`
lists the positions that an expression reaches from a position, in the order in
which they are tried, and knows nothing of what follows the expression.

`Node.run_tries_ways` says that the matcher takes the first of them with
which its continuation succeeds.  So what an expression can match, and what it
matches first, are both facts about one list.  A search is the first way from the
first position that has one, `Node.isFoundIn_iff`.
-/

import RouteTable.Regex.Matcher

namespace RouteTable
namespace Regex

/-- The positions that something reaches from a position, in the order in which
they are tried. -/
abbrev Ways := Position → List Position

namespace Ways

/-- The ways of `n` repetitions. -/
def times (w : Ways) : Nat → Ways
  | 0, p => [p]
  | n + 1, p => (w p).flatMap (times w n)

/-- The ways of at most `limit` repetitions, the most first. -/
def greedy (w : Ways) : Nat → Option Nat → Ways
  | _, some 0, p => [p]
  | 0, _, p => [p]
  | fuel + 1, limit, p =>
    ((w p).flatMap fun q =>
      if q.after.length = p.after.length then [q] else greedy w fuel (limit.map (· - 1)) q) ++ [p]

/-- The ways of at most `limit` repetitions, the fewest first. -/
def lazy (w : Ways) : Nat → Option Nat → Bool → Ways
  | 0, _, _, p => [p]
  | fuel + 1, limit, idle, p =>
    p :: if limit = some 0 ∨ idle then [] else (w p).flatMap fun q =>
      lazy w fuel (limit.map (· - 1)) (q.after.length = p.after.length) q

/-- The only way of `n` repetitions that are each tried once. -/
def onceTimes (w : Ways) : Nat → Position → Option Position
  | 0, p => some p
  | n + 1, p => (w p).head?.bind (onceTimes w n)

/-- Where repetitions end that are each tried once. -/
def possessive (w : Ways) : Nat → Option Nat → Position → Position
  | _, some 0, p => p
  | 0, _, p => p
  | fuel + 1, limit, p =>
    match (w p).head? with
    | none => p
    | some q =>
      if q.after.length = p.after.length then q
      else possessive w fuel (limit.map (· - 1)) q

/-- The ways of a loop. -/
def loop (w : Ways) (greed : Greed) (least : Nat) (greatest : Option Nat) : Ways :=
  let limit := greatest.map (· - least)
  fun p =>
    match greed with
    | .greedy => (times w least p).flatMap fun q => greedy w (q.after.length + 1) limit q
    | .lazy => (times w least p).flatMap fun q => lazy w (q.after.length + 2) limit false q
    | .possessive =>
      ((onceTimes w least p).map fun q => possessive w (q.after.length + 1) limit q).toList

end Ways

/-- The ways of an expression. -/
def Node.ways : Node → Ways
  | empty, p => [p]
  | set s, p =>
    match p.after with
    | [] => []
    | c :: rest => if s.contains c then [p.advance c rest] else []
  | seq a b, p => (a.ways p).flatMap b.ways
  | alt a b, p => a.ways p ++ b.ways p
  | loop greed least greatest body, p => Ways.loop body.ways greed least greatest p
  | group index body, p =>
    (body.ways p).map fun q => { q with captures := (index, p.textUpTo q) :: q.captures }
  | reference index ignoreCase ascii, p =>
    ((p.captured? index).bind fun t => p.past? ignoreCase ascii t).toList
  | anchor a, p => if p.satisfies a then [p] else []
  | ahead negated body, p =>
    match (body.ways p).head? with
    | some q => if negated then [] else [{ p with captures := q.captures }]
    | none => if negated then [p] else []
  | behind negated width body, p =>
    match (p.back? width.least).bind fun q => (body.ways q).head? with
    | some q => if negated then [] else [{ p with captures := q.captures }]
    | none => if negated then [p] else []
  | atomic body, p => (body.ways p).head?.toList
  | ifGroup index yes no, p => if (p.captured? index).isSome then yes.ways p else no.ways p

/-- A run tries some ways in their order: it takes the first with which the
continuation succeeds. -/
def Run.Tries (r : Run) (w : Ways) : Prop := ∀ p k, r p k = (w p).findSome? k

/-- A search in several lists is a search in each. -/
theorem findSome?_flatMap_eq {α β γ : Type} (l : List α) (f : α → List β) (k : β → Option γ) :
    (l.flatMap f).findSome? k = l.findSome? fun a => (f a).findSome? k := by
  induction l with
  | nil => rfl
  | cons a l ih =>
    rw [List.flatMap_cons, List.findSome?_append, ih, List.findSome?_cons]
    cases (f a).findSome? k <;> rfl

namespace Run
namespace Tries

variable {body : Run} {w : Ways}

/-- One thing after another tries their ways one after the other. -/
theorem andThen (h : body.Tries w) {next : Run} {v : Ways} (hv : next.Tries v) (p : Position)
    (k : Continuation) :
    (body p fun q => next q k) = ((w p).flatMap v).findSome? k := by
  rw [findSome?_flatMap_eq, h]
  exact congrArg (List.findSome? · (w p)) (funext fun q => hv q k)

theorem times (h : body.Tries w) (n : Nat) : (Run.times body n).Tries (w.times n) := by
  induction n with
  | zero => exact fun p k => (List.findSome?_singleton ..).symm
  | succ n ih => exact fun p k => h.andThen ih p k

theorem greedy (h : body.Tries w) (fuel : Nat) (limit : Option Nat) :
    (Run.greedy body fuel limit).Tries (w.greedy fuel limit) := by
  induction fuel generalizing limit with
  | zero =>
    intro p k
    rcases limit with _ | _ | n <;> exact (List.findSome?_singleton ..).symm
  | succ fuel ih =>
    intro p k
    -- a repetition that matches nothing is the last one
    have further : ∀ l, Run.Tries
        (fun q k => if q.after.length = p.after.length then k q else Run.greedy body fuel l q k)
        (fun q => if q.after.length = p.after.length then [q] else w.greedy fuel l q) := by
      intro l q k
      dsimp only
      split
      · exact (List.findSome?_singleton ..).symm
      · exact ih l q k
    by_cases hl : limit = some 0
    · subst hl
      exact (List.findSome?_singleton ..).symm
    · rw [Run.greedy, Ways.greedy, List.findSome?_append, List.findSome?_singleton]
      · rw [← h.andThen (further _) p k]
        cases body p _ <;> rfl
      all_goals simpa using hl

theorem lazy (h : body.Tries w) (fuel : Nat) (limit : Option Nat) (idle : Bool) :
    (Run.lazy body fuel limit idle).Tries (w.lazy fuel limit idle) := by
  induction fuel generalizing limit idle with
  | zero => exact fun p k => (List.findSome?_singleton ..).symm
  | succ fuel ih =>
    intro p k
    rw [Run.lazy, Ways.lazy, List.findSome?_cons]
    cases k p with
    | some r => rfl
    | none =>
      dsimp only
      split
      · rfl
      · have further : Run.Tries
            (fun q => Run.lazy body fuel (limit.map (· - 1)) (q.after.length = p.after.length) q)
            (fun q => w.lazy fuel (limit.map (· - 1)) (q.after.length = p.after.length) q) :=
          fun q k => ih _ _ q k
        exact h.andThen further p k

theorem once (h : body.Tries w) (p : Position) : body.once p = (w p).head? := by
  rw [Run.once, h]
  cases w p <;> rfl

/-- Repetitions without a second try take the first way each time. -/
theorem onceTimes (h : body.Tries w) (n : Nat) (p : Position) :
    Run.onceTimes body n p = w.onceTimes n p := by
  induction n generalizing p with
  | zero => rfl
  | succ n ih =>
    rw [Run.onceTimes, Ways.onceTimes, h.once]
    exact congrArg _ (funext ih)

/-- Repetitions that give nothing back take the first way each time. -/
theorem possessive (h : body.Tries w) (fuel : Nat) (limit : Option Nat) (p : Position) :
    Run.possessive body fuel limit p = w.possessive fuel limit p := by
  induction fuel generalizing limit p with
  | zero => rcases limit with _ | _ | n <;> rfl
  | succ fuel ih =>
    by_cases hl : limit = some 0
    · subst hl
      rfl
    · rw [Run.possessive, Ways.possessive, h.once]
      · cases (w p).head? with
        | none => rfl
        | some q => simp only [ih]
      all_goals simpa using hl

/-- **A loop is tried in the order of its ways.** -/
theorem loop (h : body.Tries w) (greed : Greed) (least : Nat) (greatest : Option Nat) :
    (Run.loop body greed least greatest).Tries (w.loop greed least greatest) := by
  intro p k
  cases greed with
  | greedy =>
    have further : Run.Tries
        (fun q => Run.greedy body (q.after.length + 1) (greatest.map (· - least)) q)
        (fun q => w.greedy (q.after.length + 1) (greatest.map (· - least)) q) :=
      fun q k => h.greedy _ _ q k
    exact (h.times least).andThen further p k
  | lazy =>
    have further : Run.Tries
        (fun q => Run.lazy body (q.after.length + 2) (greatest.map (· - least)) false q)
        (fun q => w.lazy (q.after.length + 2) (greatest.map (· - least)) false q) :=
      fun q k => h.lazy _ _ _ q k
    exact (h.times least).andThen further p k
  | possessive =>
    simp only [Run.loop, Ways.loop, h.onceTimes, h.possessive]
    cases w.onceTimes least p <;> simp

end Tries
end Run

/-- **The matcher tries the ways of an expression in their order** and takes the
first with which its continuation succeeds. -/
theorem Node.run_tries_ways (n : Node) : n.run.Tries n.ways := by
  induction n with
  | empty => exact fun p k => (List.findSome?_singleton ..).symm
  | set s =>
    intro p k
    rw [Node.run, Node.ways]
    rcases p.after with _ | ⟨c, rest⟩
    · rfl
    · dsimp only
      split <;> simp
  | seq a b iha ihb => exact fun p k => iha.andThen ihb p k
  | alt a b iha ihb =>
    intro p k
    rw [Node.run, Node.ways, List.findSome?_append, iha, ihb]
    cases (a.ways p).findSome? k <;> rfl
  | loop greed least greatest body ih => exact fun p k => ih.loop greed least greatest p k
  | group index body ih =>
    intro p k
    rw [Node.run, Node.ways, List.findSome?_map, ih]
    rfl
  | reference index ignoreCase ascii =>
    intro p k
    rw [Node.run, Node.ways]
    rcases p.captured? index with _ | t
    · rfl
    · dsimp only [Option.bind]
      cases p.past? ignoreCase ascii t <;> simp
  | anchor a =>
    intro p k
    rw [Node.run, Node.ways]
    split <;> simp
  | ahead negated body ih =>
    intro p k
    rw [Node.run, Node.ways, show body.run p some = _ from ih.once p]
    rcases (body.ways p).head? with _ | q <;> cases negated <;> simp
  | behind negated width body ih =>
    intro p k
    rw [Node.run, Node.ways, show (fun q => body.run q some) = _ from funext ih.once]
    rcases (p.back? width.least).bind fun q => (body.ways q).head? with _ | q <;>
      cases negated <;> simp
  | atomic body ih =>
    intro p k
    rw [Node.run, Node.ways, show body.run p some = _ from ih.once p]
    cases (body.ways p).head? <;> simp
  | ifGroup index yes no ihy ihn =>
    intro p k
    rw [Node.run, Node.ways]
    split
    · exact ihy p k
    · exact ihn p k

/-- Expressions in a row are tried one after the other. -/
theorem Node.ways_inRow_cons (n : Node) (ns : List Node) (p : Position) :
    (Node.inRow (n :: ns)).ways p = (n.ways p).flatMap (Node.inRow ns).ways := by
  cases ns with
  | nil => exact (List.flatMap_singleton' _).symm
  | cons m ns => rfl

/-- The ways of two rows are those of one through those of the other. -/
theorem Node.ways_inRow_append (ms ns : List Node) (p : Position) :
    (Node.inRow (ms ++ ns)).ways p = ((Node.inRow ms).ways p).flatMap (Node.inRow ns).ways := by
  induction ms generalizing p with
  | nil => exact (List.flatMap_singleton ..).symm
  | cons m ms ih =>
    rw [List.cons_append, Node.ways_inRow_cons, Node.ways_inRow_cons, List.flatMap_assoc]
    exact congrArg (List.flatMap · (m.ways p)) (funext ih)

/-- A position in a text at which nothing is captured yet, with what is before it
read backwards. -/
def Position.between (before after : Text) : Position := ⟨before, after, []⟩

/-- An expression matches from a position exactly when it has a way. -/
theorem Node.isSome_run_iff {n : Node} {p : Position} :
    (n.run p some).isSome = true ↔ ∃ q, q ∈ n.ways p := by
  rw [n.run_tries_ways p some, List.findSome?_isSome_iff]
  simp

/-- What a search finds is the first way from a position of the text. -/
theorem Node.exists_of_searchFrom {n : Node} {before after : Text} {m : Match}
    (h : n.searchFrom before after = some m) :
    ∃ u v, after = u ++ v ∧ m.start = before.length + u.length ∧
      (n.ways (Position.between (u.reverse ++ before) v)).head? = some m.stop := by
  fun_induction Node.searchFrom n before after with
  | case1 after before p hp =>
    obtain rfl := Option.some.inj h
    rw [n.run_tries_ways] at hp
    refine ⟨[], after, rfl, rfl, ?_⟩
    rw [List.reverse_nil, List.nil_append, ← hp, Position.between]
    cases n.ways ⟨before, after, []⟩ <;> rfl
  | case2 => cases h
  | case3 before c rest hp ih =>
    obtain ⟨u, v, rfl, hs, hm⟩ := ih h
    refine ⟨c :: u, v, rfl, ?_, by simpa using hm⟩
    rw [hs, List.length_cons, List.length_cons]
    omega

/-- A search finds a match exactly if there is a way from some place. -/
theorem Node.isSome_searchFrom_iff {n : Node} {before after : Text} :
    (n.searchFrom before after).isSome = true ↔
      ∃ u v, after = u ++ v ∧ ∃ q, q ∈ n.ways (Position.between (u.reverse ++ before) v) := by
  constructor
  · intro h
    obtain ⟨m, hm⟩ := Option.isSome_iff_exists.1 h
    obtain ⟨u, v, hu, -, hq⟩ := n.exists_of_searchFrom hm
    exact ⟨u, v, hu, _, List.mem_of_mem_head? hq⟩
  · rintro ⟨u, v, rfl, hq⟩
    induction u generalizing before with
    | nil =>
      have hr := n.isSome_run_iff.2 hq
      obtain ⟨p, hp⟩ := Option.isSome_iff_exists.1 hr
      simp only [Position.between, List.reverse_nil, List.nil_append] at hp
      rw [List.nil_append, Node.searchFrom.eq_def, hp]
      rfl
    | cons c u ih =>
      rw [List.cons_append, Node.searchFrom.eq_def]
      split
      · rfl
      · exact ih (by simpa using hq)

/-- **A text has a match exactly when the expression has a way from one of its
positions.** -/
theorem Node.isFoundIn_iff {n : Node} {t : Text} :
    n.isFoundIn t = true ↔ ∃ u v, t = u ++ v ∧ ∃ q, q ∈ n.ways (Position.between u.reverse v) := by
  rw [Node.isFoundIn, Node.search, Node.isSome_searchFrom_iff]
  simp only [List.append_nil]

end Regex
end RouteTable
