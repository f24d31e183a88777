/-
# Registries list captures by their ordinals

A builder is called to capture or to build, in any order.  Its state after some calls is told by
the captures among them (`Tracks`), which each call keeps (`Tracks.step`): the number of the
groups is that of the captures, and the entries are those with a name, each with its ordinal
(`listed`).  So a run answers each call by the calls before it alone (`answer_run`).

The registry of a source comes from a builder that captures for each capturing segment.  Said of
the segments, the number of an entry is one more than there are capturing segments before its own
(`Registry.entries_eq_entriesOf`).  `registry_lists_captures` says both, and that a name finds the
one entry that has it.
-/

import RouteTable.Proofs.Pattern.Names

namespace RouteTable
namespace Pattern

namespace Registry
namespace Builder

/-- A call of a builder. -/
inductive Call where
  | capture (name : Option Text) (modifier : Text)
  | build
  deriving DecidableEq

/-- What a call returns: the number of a group, or a registry. -/
inductive Answer where
  | group (number : Nat)
  | registry (registry : Registry)
  deriving DecidableEq

/-- The builder after a call, and the answer. -/
def step (b : Builder) : Call → Builder × Answer
  | .capture name modifier => (b.capture name modifier, .group (b.capture name modifier).groups)
  | .build => (b, .registry b.build)

/-- The answers to calls one after the other. -/
def run (b : Builder) : List Call → List Answer
  | [] => []
  | call :: calls => (b.step call).2 :: (b.step call).1.run calls

/-- The name and the modifier of a capture. -/
def Call.capture? : Call → Option (Option Text × Text)
  | capture name modifier => some (name, modifier)
  | build => none

/-- The captures among calls. -/
def captured (calls : List Call) : List (Option Text × Text) := calls.filterMap Call.capture?

/-- The captures that have a name, each with its ordinal among all of them. -/
def listed (captures : List (Option Text × Text)) : List Entry :=
  captures.zipIdx.filterMap fun ((name, modifier), i) => name.map (⟨·, i + 1, modifier⟩)

/-- What a call is answered after others. -/
def Call.answer (before : List Call) : Call → Answer
  | capture .. => .group ((captured before).length + 1)
  | build => .registry ⟨listed (captured before)⟩

/-- The state of a builder after captures. -/
structure Tracks (b : Builder) (captures : List (Option Text × Text)) : Prop where
  groups : b.groups = captures.length
  entries : b.entries = listed captures

variable {b : Builder} {captures : List (Option Text × Text)} {before : List Call}

theorem tracks_empty : Tracks empty [] := ⟨rfl, rfl⟩

/-- One capture more is one entry more, if it has a name. -/
theorem listed_concat (captures : List (Option Text × Text)) (name : Option Text)
    (modifier : Text) : listed (captures ++ [(name, modifier)]) =
      listed captures ++ (name.map (⟨·, captures.length + 1, modifier⟩)).toList := by
  rw [listed, List.zipIdx_append, List.filterMap_append]
  cases name <;> simp [listed]

/-- **A capture takes the next number,** and is listed if it has a name. -/
theorem Tracks.capture (h : b.Tracks captures) (name : Option Text) (modifier : Text) :
    (b.capture name modifier).Tracks (captures ++ [(name, modifier)]) where
  groups := by simp [Builder.capture, h.groups]
  entries := by
    rw [listed_concat, ← h.entries, ← h.groups]
    cases name <;> simp [Builder.capture]

/-- A call is answered by what the builder tracks, and leaves it tracking one call more. -/
theorem Tracks.step (h : b.Tracks (captured before)) (call : Call) :
    (b.step call).1.Tracks (captured (before ++ [call])) ∧
      (b.step call).2 = call.answer before := by
  rw [captured, List.filterMap_append]
  cases call with
  | capture name modifier =>
    have hnext := h.capture name modifier
    refine ⟨hnext, ?_⟩
    rw [Builder.step, Call.answer, hnext.groups, List.length_append]
    rfl
  | build =>
    refine ⟨by rwa [List.filterMap_cons_none rfl, List.filterMap_nil, List.append_nil], ?_⟩
    rw [Builder.step, Call.answer, build, h.entries]

/-- **A run answers each call by the calls before it.** -/
theorem answer_run (h : b.Tracks (captured before)) (calls : List Call) (i : Nat) :
    (b.run calls)[i]? = calls[i]?.map (Call.answer (before ++ calls.take i)) := by
  induction calls generalizing b before i with
  | nil => rfl
  | cons call calls ih =>
    obtain ⟨hnext, hanswer⟩ := h.step call
    rw [run]
    cases i with
    | zero => simp [hanswer]
    | succ i => simpa using ih hnext i

end Builder
end Registry

/-- The segment captures. -/
def Segment.isCapturing (s : Segment) : Bool := s.capture?.isSome

/-- The entry of a named segment with so many capturing segments before it. -/
def Segment.entryBehind? (opened : Nat) (s : Segment) : Option Entry :=
  s.capture?.bind fun c => c.name.map (⟨·, 1 + opened, c.modifier.text⟩)

/-- The entries of segments: one for each that is named. -/
def entriesOf (segments : List Segment) : List Entry :=
  segments.zipIdx.filterMap fun (s, i) =>
    s.entryBehind? ((segments.take i).countP Segment.isCapturing)

/-- The entries of a registry are those of its segments. -/
theorem Registry.entries_eq_entriesOf (segments : List Segment) :
    (Registry.ofSegments segments).entries = entriesOf segments := by
  -- the segments that stand before grow as the list is walked
  have hrest : ∀ (segments before : List Segment),
      (landings (before.countP Segment.isCapturing) segments).filterMap Landing.entry? =
        (segments.zipIdx before.length).filterMap fun (s, i) =>
          s.entryBehind? (((before ++ segments).take i).countP Segment.isCapturing) := by
    intro segments
    induction segments with
    | nil => exact fun _ => rfl
    | cons s ss ih =>
      intro before
      have htail := ih (before ++ [s])
      simp only [List.append_assoc, List.singleton_append, List.length_append,
        List.length_singleton, List.countP_append, List.countP_singleton] at htail
      rw [List.zipIdx_cons, List.filterMap_cons]
      simp only [List.take_left, ← htail]
      cases s with
      | literal | group => rfl
      | capture c =>
        have hnumber : ((before.countP Segment.isCapturing + 1 : Nat) : Int) =
            1 + (before.countP Segment.isCapturing : Nat) := by omega
        rw [landings, List.filterMap_cons, Landing.entry?, hnumber]
        rfl
  rw [entries_ofSegments]
  exact hrest segments []

/-- Where names are distinct, a name is looked up exactly to its entry. -/
theorem Registry.get?_eq_some_iff {r : Registry} (hn : r.names.Nodup) {name : Text} {e : Entry} :
    r.get? name = some e ↔ e ∈ r.entries ∧ e.name = name := by
  constructor
  · intro h
    exact ⟨List.mem_of_find?_eq_some h, by simpa using List.find?_some h⟩
  · rintro ⟨he, rfl⟩
    exact get?_name_of_mem hn he

open Registry.Builder in
/-- **Registries list the named captures, with their ordinals.**  The registry of an accepted
source has an entry for each named segment, in order, so that numbers go up from one on, no name
stands twice, and a name finds the one entry that has it.  A builder answers each call by the
captures so far: a capture by its ordinal, and a build by those that have a name; and what comes
later changes no answer. -/
theorem registry_lists_captures :
    (∀ source c, compile source = .ok c →
      c.registry.entries = entriesOf c.segments ∧
      c.registry.entries.Pairwise (·.index < ·.index) ∧ (∀ e ∈ c.registry.entries, 1 ≤ e.index) ∧
      c.registry.names.Nodup ∧
      (∀ name e, c.registry.get? name = some e ↔ e ∈ c.registry.entries ∧ e.name = name) ∧
      ∀ name, c.registry.contains name = (c.registry.get? name).isSome) ∧
    ∀ calls,
      (∀ i, (empty.run calls)[i]? = calls[i]?.map (Call.answer (calls.take i))) ∧
      ∀ later, (empty.run (calls ++ later)).take calls.length = empty.run calls := by
  refine ⟨fun source c h => ?_, fun calls => ?_⟩
  · have hproper := Compiled.isProper_registry h
    exact ⟨Registry.entries_eq_entriesOf c.segments, Registry.pairwise_index c.segments,
      fun _ => Registry.index_pos, hproper.nodup,
      fun _ _ => Registry.get?_eq_some_iff hproper.nodup,
      fun _ => Registry.isSome_get?_iff_contains.symm⟩
  · have htracks : empty.Tracks (captured []) := tracks_empty
    have hanswer : ∀ calls (i : Nat), (empty.run calls)[i]? =
        calls[i]?.map (Call.answer (calls.take i)) := answer_run htracks
    refine ⟨hanswer calls, fun later => List.ext_getElem? fun i => ?_⟩
    rw [List.getElem?_take, hanswer, hanswer]
    split
    · rename_i hi
      rw [List.getElem?_append_left hi, List.take_append_of_le_length hi.le]
    · rename_i hi
      rw [List.getElem?_eq_none (Nat.le_of_not_lt hi), Option.map_none]

/-- A capture without a name takes a number, and has no entry. -/
theorem registry_lists_captures_gap :
    ∃ c, compile "/:a?/(x)/:b*".text = .ok c ∧
      c.registry.entries =
        [⟨"a".text, 1, "?".text⟩, ⟨"b".text, 3, "*".text⟩] ∧
      c.registry.get? "b".text = some ⟨"b".text, 3, "*".text⟩ := by
  have hc : compile "/:a?/(x)/:b*".text = .ok ⟨"/:a?/(x)/:b*".text,
      [.capture ⟨some "a".text, "/".text, defaultBody, [], .optional⟩,
        .capture ⟨none, "/".text, "x".text, [], .once⟩,
        .capture ⟨some "b".text, "/".text, defaultBody, [], .star⟩]⟩ := by decide +kernel
  obtain ⟨hentries, -, -, -, hget, -⟩ := registry_lists_captures.1 _ _ hc
  have hlisted := hentries.trans (show _ = [(⟨"a".text, 1, "?".text⟩ : Entry),
    ⟨"b".text, 3, "*".text⟩] by decide +kernel)
  refine ⟨_, hc, hlisted, (hget _ _).2 ⟨?_, rfl⟩⟩
  rw [hlisted]
  exact List.mem_cons_of_mem _ List.mem_cons_self

end Pattern
end RouteTable
