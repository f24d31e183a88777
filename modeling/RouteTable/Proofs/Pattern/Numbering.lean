/-
# The groups of compiled patterns

A registry counts capturing segments; the engine counts the parentheses that it reads in
the expression as groups.  The two agree exactly if the engine reads the group that each
capture emits as one group (`OneGroup`), which a body can prevent: with a group of its own
that is named, with a parenthesis that a set hides, or with one that is a comment's.
`Compiled.groupMarks_regex_iff` says so of every source.
-/

import RouteTable.Proofs.Pattern.Groups
import RouteTable.Proofs.Pattern.Recognition
import RouteTable.Proofs.Regex.Anchoring

namespace RouteTable
namespace Pattern

open Regex Regex.Backtracking

/-- The symbols of segments and of the anchor after them. -/
def symbolsOf (segments : List Segment) : Symbols :=
  Symbol.ofText (segments.flatMap Segment.emit) ++ [.plain '$']

/-- The symbols of segments are as long as what is emitted, and the `$`. -/
theorem left_symbolsOf (segments : List Segment) :
    left (symbolsOf segments) = (segments.flatMap Segment.emit).length + 1 := by
  rw [symbolsOf, left_append, left_ofText]
  rfl

/-- A segment that captures nothing is mute. -/
theorem Segment.mute_emit {s : Segment} (hs : s.capture? = none) :
    Mute s.emit Outline.start Outline.start := by
  cases s with
  | capture c => cases hs
  | literal t => exact .text t
  | group t m =>
    have hemit : Segment.emit (.group t m) = "(?:".text ++ escapeLiteral t ++
      scalar ')' :: m.text := by
      simp [Segment.emit, parenthesised]
    rw [hemit]
    refine (Mute.opening.append (.text t) (unsigned_escapeLiteral t)).append (.closing m) ?_
    exact unsigned_of_head (by decide) (by decide) (Symbol.ofText m.text)

/-- A segment that captures nothing has the symbols of its text. -/
theorem symbolsOf_cons {s : Segment} (hs : s.capture? = none) (ss : List Segment) :
    symbolsOf (s :: ss) = Symbol.ofText s.emit ++ symbolsOf ss := by
  rw [symbolsOf, List.flatMap_cons, Symbol.ofText_append (Segment.mute_emit hs).whole,
    List.append_assoc]
  rfl

/-- A segment that captures has its symbols before those that follow. -/
theorem symbolsOf_capture_cons {c : Capture} (hb : IsBody c.body) (ss : List Segment) :
    symbolsOf (.capture c :: ss) = c.symbolsBefore (symbolsOf ss) := by
  have hemit : Segment.emit (.capture c) = c.emit := rfl
  rw [symbolsOf, List.flatMap_cons, hemit, c.ofText_emit_append hb, Capture.symbolsBefore,
    Capture.symbolsBefore, symbolsOf]
  simp

/-- The symbols of segments start with no sign of a repetition. -/
theorem unsigned_symbolsOf (segments : List Segment) : Unsigned (symbolsOf segments) := by
  have paren : ∀ t u, Unsigned (Symbol.ofText (scalar '(' :: t) ++ u) :=
    fun t u => unsigned_of_head (by decide) (by decide) (Symbol.ofText t ++ u)
  induction segments with
  | nil => exact unsigned_of_head (by decide) (by decide) []
  | cons s ss ih =>
    cases s with
    | literal t =>
      rw [symbolsOf_cons rfl]
      exact (unsigned_escapeLiteral t).append ih
    | group t m => exact paren _ _
    | capture c =>
      obtain ⟨t, ht⟩ := c.exists_emit_eq_cons
      have hemit : Segment.emit (.capture c) = c.emit := rfl
      rw [symbolsOf, List.flatMap_cons, hemit, ht, List.cons_append]
      exact paren _ _

/-- **The ends of the groups of all captures are marked, and nothing else,** exactly if each
is one group. -/
theorem marks_eq_ends_iff {segments : List Segment} (hb : HaveBodies segments) (opened : Nat)
    {ms : List (Bool × Nat)} {o' : Outline}
    (h : Outline.start.Passes (symbolsOf segments) ms o' []) :
    ms = (landings opened segments).flatMap Landing.ends ↔
      ∀ c, .capture c ∈ segments → OneGroup c.own := by
  induction segments generalizing opened ms with
  | nil =>
    have hdollar : Outline.start.Passes (symbolsOf []) [] Outline.start [] :=
      .muteStep rfl (by simp [Outline.mark?]) (.refl _ _)
    obtain ⟨ms', rfl, h'⟩ := hdollar.cancel h
    cases h'
    simp [landings]
  | cons s ss ih =>
    have hbodies : HaveBodies ss := fun c hc => hb c (List.mem_cons_of_mem _ hc)
    have mute : s.capture? = none → Outline.start.Passes (symbolsOf ss) ms o' [] := by
      intro hs
      rw [symbolsOf_cons hs] at h
      obtain ⟨ms', rfl, h'⟩ := ((Segment.mute_emit hs).passes _ (unsigned_symbolsOf ss)).cancel h
      exact h'
    cases s with
    | literal t =>
      rw [landings, ih hbodies opened (mute rfl)]
      simp
    | group t m =>
      rw [landings, ih hbodies opened (mute rfl)]
      simp
    | capture c =>
      have hbody := hb c List.mem_cons_self
      have hsigns := unsigned_symbolsOf ss
      rw [symbolsOf_capture_cons hbody] at h
      have hends : (landings opened (.capture c :: ss)).flatMap Landing.ends =
          c.ends (c.behind.length + left (symbolsOf ss)) ++
            (landings (opened + 1) ss).flatMap Landing.ends := by
        rw [left_symbolsOf, landings, List.flatMap_cons]
        rfl
      rw [hends]
      constructor
      · rintro rfl
        obtain ⟨hone, hrest⟩ := Capture.oneGroup_of_ends hbody hsigns h
        intro k hk
        rcases List.mem_cons.1 hk with hk | hk
        · cases hk
          exact hone
        · exact (ih hbodies (opened + 1) hrest).1 rfl k hk
      · intro hall
        obtain ⟨ms', rfl, hrest⟩ := Capture.exists_ends_of_oneGroup hbody hsigns
          (hall c List.mem_cons_self) h
        rw [(ih hbodies (opened + 1) hrest).2 fun k hk => hall k (List.mem_cons_of_mem _ hk)]

/-- What is emitted ends in no backslash. -/
theorem whole_flatMap_emit {segments : List Segment} (hb : HaveBodies segments) :
    .dangling ∉ Symbol.ofText (segments.flatMap Segment.emit) := by
  induction segments with
  | nil => simp [Symbol.ofText]
  | cons s ss ih =>
    rw [List.flatMap_cons]
    refine whole_append ?_ (ih fun c hc => hb c (List.mem_cons_of_mem _ hc))
    cases s with
    | literal t => exact (Segment.mute_emit (s := .literal t) rfl).whole
    | group t m => exact (Segment.mute_emit (s := .group t m) rfl).whole
    | capture c =>
      have hemit : Segment.emit (.capture c) = c.front ++ c.own ++ c.behind := c.emit_eq
      rw [hemit]
      exact whole_append (whole_append c.mute_front.whole
        (Capture.whole_own (hb c List.mem_cons_self))) c.mute_behind.whole

/-- The expression of segments starts with `^`, and their symbols follow. -/
theorem ofText_regexOf {segments : List Segment} (hb : HaveBodies segments) :
    Symbol.ofText (regexOf segments) = .plain '^' :: symbolsOf segments := by
  have hfirst : ∀ u, Symbol.ofText (scalar '^' :: u) = .plain '^' :: Symbol.ofText u := fun _ => rfl
  rw [regexOf, List.cons_append, hfirst, Symbol.ofText_append (whole_flatMap_emit hb)]
  rfl

/-- The group of a capture stands where it is said to land. -/
theorem exists_of_mem_landings {segments : List Segment} {opened : Nat} {l : Landing}
    (hl : l ∈ landings opened segments) :
    ∃ u v, segments.flatMap Segment.emit ++ [scalar '$'] = u ++ l.capture.own ++ v ∧
      v.length = l.behind := by
  induction segments generalizing opened with
  | nil => cases hl
  | cons s ss ih =>
    have later : l ∈ landings (opened + s.groupCount) ss → ∃ u v,
        (s :: ss).flatMap Segment.emit ++ [scalar '$'] = u ++ l.capture.own ++ v ∧
          v.length = l.behind := by
      intro hl
      obtain ⟨u, v, huv, hv⟩ := ih hl
      refine ⟨s.emit ++ u, v, ?_, hv⟩
      rw [List.flatMap_cons, List.append_assoc, huv]
      simp
    cases s with
    | literal t => exact later hl
    | group t m => exact later hl
    | capture c =>
      rcases List.mem_cons.1 hl with rfl | hl
      · refine ⟨c.front, c.behind ++ (ss.flatMap Segment.emit ++ [scalar '$']), ?_, ?_⟩
        · have hemit : Segment.emit (.capture c) = c.front ++ c.own ++ c.behind := c.emit_eq
          rw [List.flatMap_cons, hemit]
          simp
        · simp
      · exact later hl

/-- The marks of the expression of segments, if the engine accepts it, are those that an
outline leaves on the way through them, numbered. -/
theorem exists_groupMarks_regexOf {edition : Backtracking.Edition} {segments : List Segment}
    (hb : HaveBodies segments) {n : Node}
    (hn : Backtracking.parse edition (regexOf segments) = .ok n) :
    ∃ ms o', Outline.start.Passes (symbolsOf segments) ms o' [] ∧
      groupMarks edition (regexOf segments) = some (number 0 [] ms) ∧
      (number 0 [] ms).map (fun m => (m.1.isOpening, m.2)) = ms := by
  obtain ⟨s, hs, -, -⟩ := exists_of_parse hn
  rw [ofText_regexOf hb] at hs
  have hfirst : (State.start edition).step (.plain '^') (symbolsOf segments) =
      .ok ((State.start edition).push (.anchor (.start false)), symbolsOf segments) := rfl
  have hrun : ((State.start edition).push (.anchor (.start false))).run 0 (symbolsOf segments) =
      .ok s :=
    (State.run_cons hfirst).symm.trans hs
  have hbegun : ((State.start edition).push (.anchor (.start false))).Begun :=
    Or.inr (Or.inr (List.cons_ne_nil _ _))
  obtain ⟨ms, ns, hms, hns, rfl, hmap⟩ := State.exists_marks_outline hbegun hrun
  obtain ⟨o', hpass⟩ := Outline.marksWith_eq_some_iff.1 hms
  refine ⟨ms, o', hpass, ?_, hmap⟩
  rw [groupMarks, ofText_regexOf hb, marksWith, hfirst]
  dsimp only
  rw [taken, Nat.sub_self, hns]
  rfl

/-- **The registry has the numbers of the groups that the engine counts,** for exactly the
sources of which each capture emits one group.  `landings` says which group each capture
emits, where it stands and which number it has in the registry. -/
theorem Compiled.groupMarks_regex_iff {edition : Backtracking.Edition} {source : Text}
    {c : Compiled} {n : Node}
    (h : compile source = .ok c) (hn : Backtracking.parse edition c.regex = .ok n) :
    c.registry.entries = (landings 0 c.segments).filterMap Landing.entry? ∧
    (∀ l ∈ landings 0 c.segments, ∃ u v, c.regex = u ++ l.capture.own ++ v ∧
      v.length = l.behind) ∧
    (groupMarks edition c.regex = some ((landings 0 c.segments).flatMap Landing.marks) ↔
      ∀ k, .capture k ∈ c.segments → OneGroup k.own) := by
  obtain ⟨ss, hs, rfl⟩ := Outcome.map_eq_ok.1 h
  obtain ⟨-, -, ps, -, -, rfl⟩ := segments_eq_ok_iff.1 hs
  have hb := haveBodies_segmentsOf ps
  refine ⟨Registry.entries_ofSegments _, ?_, ?_⟩
  · intro l hl
    obtain ⟨u, v, huv, hv⟩ := exists_of_mem_landings hl
    exact ⟨scalar '^' :: u, v, congrArg (scalar '^' :: ·) huv, hv⟩
  obtain ⟨ms, o', hpass, hmarks, hmap⟩ := exists_groupMarks_regexOf hb hn
  rw [← marks_eq_ends_iff hb 0 hpass, Compiled.regex, hmarks, Option.some_inj]
  constructor
  · intro hnumber
    rw [hnumber, map_isOpening_landings] at hmap
    exact hmap.symm
  · rintro rfl
    exact number_landings 0 _

/-- The segments of `/:a(body)/:c`. -/
def twoGroups (body : Text) : List Segment :=
  [.capture ⟨some [scalar 'a'], [scalar '/'], body, [], .once⟩,
    .capture ⟨some [scalar 'c'], [scalar '/'], defaultBody, [], .once⟩]

/-- The pieces of `/:a(body)/:c`. -/
def twoParameters (b : Body) : List Piece :=
  [.text (.plain '/' slash_not_mem_reserved),
    .parameter (.named ⟨[scalar 'a'], by decide, List.all_eq_true.1 rfl⟩ (some b)) .once,
    .text (.plain '/' slash_not_mem_reserved),
    .parameter (.named ⟨[scalar 'c'], by decide, List.all_eq_true.1 rfl⟩ none) .once]

/-- A source with a body and a parameter behind it compiles to both captures. -/
theorem compile_twoParameters {body : Text} (hb : IsBody body)
    (hl : body.length + 8 ≤ maxSourceLength) :
    compile ("/:a(".text ++ body ++ ")/:c".text) =
      .ok ⟨"/:a(".text ++ body ++ ")/:c".text, twoGroups body⟩ := by
  have hp : IsParse ("/:a(".text ++ body ++ ")/:c".text) (twoParameters ⟨body, hb⟩) := by
    refine ⟨?_, trivial, trivial, trivial, ?_, trivial⟩
    · simp [twoParameters, Piece.written, TextItem.written, Parameter.written, Modifier.text,
        String.text]
    · intro c hc
      cases hc
  have hnames : ((twoParameters ⟨body, hb⟩).filterMap Piece.name?).Nodup := by
    change [[scalar 'a'], [scalar 'c']].Nodup
    decide
  refine hp.compile_eq_ok ?_ ?_ hnames
  · simp [String.text]
  · simp [String.text]
    omega

/-- In `/:a(x+)/:c` the condition is met. -/
theorem compile_twoGroups_groupMarks_iff :
    compile "/:a(x+)/:c".text = .ok ⟨"/:a(x+)/:c".text, twoGroups "x+".text⟩ ∧
    ∃ n, Backtracking.parse .strict (regexOf (twoGroups "x+".text)) = .ok n ∧
      (Registry.ofSegments (twoGroups "x+".text)).entries =
        (landings 0 (twoGroups "x+".text)).filterMap Landing.entry? ∧
      (∀ l ∈ landings 0 (twoGroups "x+".text), ∃ u v,
        regexOf (twoGroups "x+".text) = u ++ l.capture.own ++ v ∧ v.length = l.behind) ∧
      (groupMarks .strict (regexOf (twoGroups "x+".text)) =
          some ((landings 0 (twoGroups "x+".text)).flatMap Landing.marks) ↔
        ∀ k, .capture k ∈ twoGroups "x+".text → OneGroup k.own) := by
  have hx : IsBody "x+".text :=
    ⟨by decide, by decide, .other (by decide) (.other (by decide) .nil)⟩
  have hc := compile_twoParameters hx (by decide)
  exact ⟨hc, _, rfl, Compiled.groupMarks_regex_iff hc rfl⟩

/-- **A body may have a named group of its own,** and the registry's numbers are off from
there on: in `/:a((?P<x>b))/:c` it says 2 for `c`, which lands in group 3. -/
theorem compile_groupInGroup_groupMarks_ne :
    compile "/:a((?P<x>b))/:c".text =
      .ok ⟨"/:a((?P<x>b))/:c".text, twoGroups "(?P<x>b)".text⟩ ∧
    (∃ n, Backtracking.parse .strict (regexOf (twoGroups "(?P<x>b)".text)) = .ok n) ∧
    (Registry.ofSegments (twoGroups "(?P<x>b)".text)).get? [scalar 'c'] =
      some ⟨[scalar 'c'], 2, []⟩ ∧
    groupMarks .strict (regexOf (twoGroups "(?P<x>b)".text)) = some [(.opens 1, 30), (.opens 2, 29),
      (.closes 2, 22), (.closes 1, 21), (.opens 3, 14), (.closes 3, 3)] ∧
    groupMarks .strict (regexOf (twoGroups "(?P<x>b)".text)) ≠
      some ((landings 0 (twoGroups "(?P<x>b)".text)).flatMap Landing.marks) := by
  have hx : IsBody "(?P<x>b)".text :=
    ⟨by decide, by decide, .opens (.other (by decide) (.other (by decide) (.other (by decide)
      (.other (by decide) (.other (by decide) (.other (by decide) (.closes .nil)))))))⟩
  exact ⟨compile_twoParameters hx (by decide), ⟨_, rfl⟩, by decide, by decide, by decide⟩

end Pattern
end RouteTable
