/-
# The names in a registry

The registry of segments has the names of the segments (`Registry.names_ofSegments`).  The
registry of an accepted source is proper (`Compiled.isProper_registry`): its entries have
names, and each is found by its own.
-/

import RouteTable.Proofs.Pattern.Landings
import RouteTable.Proofs.Pattern.Rendering

namespace RouteTable
namespace Pattern

namespace Registry

/-- An entry is found by its name if no name stands twice. -/
theorem get?_name_of_mem {r : Registry} (hn : r.names.Nodup) {e : Entry} (he : e ∈ r.entries) :
    r.get? e.name = some e := by
  obtain ⟨es⟩ := r
  change es.find? (·.name == e.name) = some e
  induction es with
  | nil => cases he
  | cons f es ih =>
    obtain ⟨hf, hn⟩ := List.nodup_cons.1 (show (f.name :: es.map Entry.name).Nodup from hn)
    rcases List.mem_cons.1 he with rfl | he
    · simp
    · have hne : (f.name == e.name) = false := by
        refine beq_eq_false_iff_ne.2 fun hname => hf ?_
        rw [hname]
        exact List.mem_map_of_mem he
      rw [List.find?_cons, hne]
      exact ih hn he

/-- The names of a registry are those of the segments. -/
theorem names_ofSegments (segments : List Segment) :
    (Registry.ofSegments segments).names = segments.filterMap Segment.name? := by
  have hnames : ∀ opened, ((landings opened segments).filterMap Landing.entry?).map Entry.name =
      segments.filterMap Segment.name? := by
    induction segments with
    | nil => exact fun _ => rfl
    | cons s ss ih =>
      intro opened
      cases s with
      | literal | group => exact ih opened
      | capture c =>
        have hname : Segment.name? (.capture c) = c.name := rfl
        rw [landings, List.filterMap_cons, List.filterMap_cons, hname, Landing.entry?]
        cases c.name with
        | none => exact ih (opened + 1)
        | some name => exact congrArg (name :: ·) (ih (opened + 1))
  rw [names, entries_ofSegments, hnames]

/-- Every entry has a name, and no two the same. -/
structure IsProper (r : Registry) : Prop where
  isName : ∀ e ∈ r.entries, IsName e.name
  nodup : r.names.Nodup

end Registry

/-- The registry of well-formed segments is proper. -/
theorem WellFormed.isProper_ofSegments {ss : List Segment} (h : WellFormed ss) :
    (Registry.ofSegments ss).IsProper where
  isName e he := by
    have hname : e.name ∈ ss.filterMap Segment.name? := by
      rw [← Registry.names_ofSegments]
      exact List.mem_map_of_mem he
    obtain ⟨s, hs, hsome⟩ := List.mem_filterMap.1 hname
    cases s with
    | literal | group => cases hsome
    | capture c => exact h.isName c hs e.name hsome
  nodup := by
    rw [Registry.names_ofSegments]
    exact h.nodup

/-- **The registry of an accepted source is proper.** -/
theorem Compiled.isProper_registry {source : Text} {c : Compiled} (h : compile source = .ok c) :
    c.registry.IsProper := by
  obtain ⟨ss, hs, rfl⟩ := Outcome.map_eq_ok.1 h
  exact (wellFormed_of_segments hs).isProper_ofSegments

end Pattern
end RouteTable
