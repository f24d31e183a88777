/-
# Routes over the wire

A route that is read is settled (`Settled`): its source has its anchors and was accepted, and
everything else is as the reader wants it.  Two facts about settled routes are all that the
round trip needs.

* Whatever is read is settled, and its wire form has the fields of the map that it was read
  from, with the anchors that the source lacked and without a `check` that does not hold
  (`Shape.settled`, `Shape.wire_perm`).
* The wire form of a settled route describes that route (`Settled.describes`), and so is read
  as it.

So a table that is read is read again, from its wire forms or from its routes, as the same
table (`Table.read_wire`).
-/

import RouteTable.Proofs.Route.Acceptance

namespace RouteTable
namespace Route

variable {engine : Regex.Engine} {fs : Fields} {r : Route} {src : Text}

/-! ### Settled routes -/

/-- A source that is read as it is. -/
structure IsSettledSource (engine : Regex.Engine) (src : Text) : Prop extends IsAnchored src where
  check : engine.check src = .ok ()

/-- The routes that are read as they are. -/
inductive Settled (engine : Regex.Engine) : Route → Prop
  | redirect {src : Text} {hs : Headers} {n : Int} (hsrc : IsSettledSource engine src)
    (hlocation : hs.any (fun h => isLocation h.1) = true) (hn : n ∈ redirectStatuses) :
    Settled engine (.redirect src hs (.int n))
  | rewrite {src : Text} (dest : Text) (check : Bool) (hsrc : IsSettledSource engine src) :
    Settled engine (.rewrite src dest check)
  | headers {src : Text} (hs : Headers) (goOn : Bool) (hsrc : IsSettledSource engine src) :
    Settled engine (.headers src hs goOn)
  | handle : Settled engine (.handle filesystemPhase)

/-- A source that is read is settled. -/
theorem isSettledSource_of_readSource {v : Value} (h : readSource engine v = .ok src) :
    IsSettledSource engine src := by
  obtain ⟨t, -, -, rfl, hcheck⟩ := readSource_eq_ok_iff.1 h
  exact ⟨isAnchored_anchor t, hcheck⟩

/-- A source between anchors gets no more of them. -/
theorem IsAnchored.withAnchors_eq (h : IsAnchored src) : withAnchors src = src := by
  rw [withAnchors, if_pos h.head, if_pos h.last, List.append_nil, List.nil_append]

/-- A settled source is usable. -/
theorem IsSettledSource.isUsable (h : IsSettledSource engine src) : IsUsable engine src := by
  constructor
  · rintro rfl
    cases h.head
  · rw [h.toIsAnchored.withAnchors_eq]
    exact h.check

/-- What is read is settled. -/
theorem Shape.settled (h : Shape engine fs r) : r.Settled engine := by
  cases h with
  | handle _ hr =>
    obtain ⟨-, -, rfl⟩ := exists_of_readHandle hr
    exact .handle
  | headers _ _ hsrc => exact .headers _ _ (isSettledSource_of_readSource hsrc)
  | rewrite _ _ hsrc => exact .rewrite _ _ (isSettledSource_of_readSource hsrc)
  | redirect _ _ hsrc _ _ _ _ _ hlocation hn =>
    exact .redirect (isSettledSource_of_readSource hsrc) hlocation (exists_of_readStatus hn).2

/-- The wire form of a settled route describes it. -/
theorem Settled.describes (h : r.Settled engine) : Describes engine r.wire r := by
  cases h with
  | @redirect src hs n hsrc hlocation hn =>
    have h : Describes engine (wire (.redirect src hs (.int n)))
        (.redirect (withAnchors src) hs (.int n)) :=
      .redirect (List.Perm.refl _) hsrc.isUsable (any_isLocation_iff.1 hlocation) hn
    rwa [hsrc.toIsAnchored.withAnchors_eq] at h
  | @rewrite src dest check hsrc =>
    have h : Describes engine (wire (.rewrite src dest check))
        (.rewrite (withAnchors src) dest check) := by
      cases check with
      | false => exact .rewrite (List.Perm.refl _) hsrc.isUsable
      | true => exact .checkedRewrite (List.Perm.refl _) hsrc.isUsable
    rwa [hsrc.toIsAnchored.withAnchors_eq] at h
  | @headers src hs goOn hsrc =>
    have h : Describes engine (wire (.headers src hs goOn))
        (.headers (withAnchors src) hs goOn) := .headers (List.Perm.refl _) hsrc.isUsable
    rwa [hsrc.toIsAnchored.withAnchors_eq] at h
  | handle => exact .handle (List.Perm.refl _)

/-- **The wire form of a settled route is read as the route.** -/
theorem Settled.ofWire_wire (h : r.Settled engine) : ofWire engine r.wire = .ok r :=
  h.describes.ofWire_eq

/-! ### The fields of the wire form -/

/-- What becomes of an entry of a map that is read as a route: the source gets its anchors,
and a `check` that does not hold is left out. -/
def settledEntry? : Value × Value → Option (Value × Value)
  | (.text name, .text t) =>
    some (.text name, .text (if name = "src".text then withAnchors t else t))
  | (.text name, .bool b) =>
    if name = "check".text ∧ b = false then none else some (.text name, .bool b)
  | e => some e

/-- The fields of a described route make up its wire form. -/
theorem Describes.wire_perm {es : List (Value × Value)} (h : Describes engine es r) :
    r.wire.Perm (es.filterMap settledEntry?) := by
  cases h with
  | handle h | headers h | redirect h | rewrite h => exact (h.filterMap settledEntry?).symm
  | @checkedRewrite _ _ check h =>
    cases check <;> exact (h.filterMap settledEntry?).symm

/-- The fields that are read make up the wire form. -/
theorem Shape.wire_perm (h : Shape engine fs r) (hn : (fs.map (·.1)).Nodup)
    (hknown : ∀ f ∈ fs, f.1 ∈ fieldNames.map String.text) :
    r.wire.Perm ((fs.map Fields.entry).filterMap settledEntry?) :=
  (h.describes hn hknown).wire_perm

/-- Whatever an entry is, what is read from it is settled. -/
theorem settled_of_read {entry : Value} (h : read engine entry = .ok r) : r.Settled engine := by
  obtain ⟨fs, -, -, hshape⟩ := read_eq_ok_iff.1 h
  exact hshape.settled

theorem Settled.read_map_wire (h : r.Settled engine) : read engine (.map r.wire) = .ok r :=
  h.ofWire_wire

/-- A settled route is read back from its value. -/
theorem Settled.read_toValue (h : r.Settled engine) : read engine r.toValue = .ok r := by
  unfold read
  rw [routeWire?_toValue]
  exact h.ofWire_wire

end Route

/-! ### Tables -/

namespace Table

open Route (Settled)

variable {engine : Regex.Engine} {index : Nat} {marked : List Text} {rs : List Route}

/-- Entries that are read as routes that mark no phase twice are read as those routes. -/
theorem readFrom_map {entry : Route → Value} (hread : ∀ r ∈ rs, Route.read engine (entry r) = .ok r)
    (honce : MarkOnce marked rs) : readFrom engine index marked (rs.map entry) = .ok rs := by
  refine readFrom_eq_ok_iff_forall₂.2 ⟨?_, honce⟩
  rw [List.forall₂_map_left_iff, List.forall₂_same]
  exact hread

/-- The routes of a table are settled, and mark no phase twice. -/
theorem settled_of_read {entries : Value} (h : read engine entries = .ok rs) :
    (∀ r ∈ rs, r.Settled engine) ∧ MarkOnce [] rs := by
  unfold read at h
  split at h
  · split at h
    · refine ⟨fun r hr => ?_, (readFrom_eq_ok_iff_forall₂.1 h).2⟩
      obtain ⟨entry, -, hentry⟩ := exists_read_of_mem_readFrom h hr
      exact Route.settled_of_read hentry
    · cases h
  · cases h
    exact ⟨nofun, List.nodup_nil, nofun⟩

/-- Entries in a row are read as the routes that each of them is read as. -/
theorem read_of_items {entries : Value} {vs : List Value} (hitems : entries.items = .ok vs)
    (htrue : entries.isTrue = !vs.isEmpty) (h : readFrom engine 0 [] vs = .ok rs) :
    read engine entries = .ok rs :=
  (read_eq_readFrom hitems htrue).trans h

/-- **What is read, written and read again is the same.**  The wire form of a route that is
read from a map has the fields and values of the map, but for the anchors that the source
lacked and a `check` that does not hold; and it is read as the route.  A table, its wire
forms or the routes themselves, is read as the table. -/
theorem read_wire (engine : Regex.Engine) :
    (∀ es r, Value.IsMapping es → readAlone engine (.map es) = .ok r →
      r.wire.Perm (es.filterMap Route.settledEntry?) ∧ readAlone engine (.map r.wire) = .ok r) ∧
    ∀ entries rs, read engine entries = .ok rs →
      read engine (.list (rs.map fun r => .map r.wire)) = .ok rs ∧
      read engine (.tuple (rs.map Route.toValue)) = .ok rs := by
  constructor
  · intro es r hmapping h
    obtain ⟨fs, rfl, hknown, hshape⟩ := Route.ofWire_eq_ok_iff.1 (Outcome.mapError_eq_ok.1 h)
    exact ⟨hshape.wire_perm (Route.Fields.isMapping_iff.1 hmapping) hknown,
      Outcome.mapError_eq_ok.2 hshape.settled.read_map_wire⟩
  · intro entries rs h
    obtain ⟨hsettled, honce⟩ := settled_of_read h
    exact ⟨read_of_items rfl rfl (readFrom_map (fun r hr => (hsettled r hr).read_map_wire) honce),
      read_of_items rfl rfl (readFrom_map (fun r hr => (hsettled r hr).read_toValue) honce)⟩

/-- The fields of a rewrite of `a` to `/b`, without a look whether something is there. -/
def uncheckedRewrite : Route.Fields :=
  [("dest".text, .text "/b".text), ("check".text, .bool false),
    ("src".text, .text "a".text)]

/-- The wire form of a rewrite leaves a false check out. -/
theorem read_wire_uncheckedRewrite :
    let es := uncheckedRewrite.map Route.Fields.entry
    let r := Route.rewrite "^a$".text "/b".text false
    (Value.IsMapping es ∧ readAlone (.backtracking .plain) (.map es) = .ok r ∧
      r.wire.Perm (es.filterMap Route.settledEntry?)) ∧
    read (.backtracking .plain) (.list [.map es]) = .ok [r] ∧
    read (.backtracking .plain) (.list [.map r.wire]) = .ok [r] := by
  intro es r
  have hmapping : Value.IsMapping es := Route.Fields.isMapping_iff.2 (by decide)
  have hread : Route.read (.backtracking .plain) (.map es) = .ok r := by
    refine Route.ofWire_eq_ok_iff.2 ⟨uncheckedRewrite, rfl, by decide, ?_⟩
    exact .rewrite rfl rfl (Route.readSource_eq_ok_iff.2 ⟨"a".text, rfl, by decide, rfl, rfl⟩)
      rfl rfl rfl rfl
  have halone : readAlone (.backtracking .plain) (.map es) = .ok r := Outcome.mapError_eq_ok.2 hread
  have htable : read (.backtracking .plain) (.list [.map es]) = .ok [r] := by
    refine read_of_items rfl rfl ?_
    rw [readFrom, hread]
    rfl
  exact ⟨⟨hmapping, halone, ((read_wire (.backtracking .plain)).1 es r hmapping halone).1⟩, htable,
    ((read_wire (.backtracking .plain)).2 _ [r] htable).1⟩

end Table
end RouteTable
