/-
# Batches

An entry of a table is read as it is read alone, in its wire form, and a failure only gets the
position of the entry (`Failure.atIndex`).  So a table has one route for each entry, the one
that the entry is alone.  Entries that are no table fail at one of them: those before it are a
table, however many one leaves out at their end, and those after it are not looked at.

The engine has a say in whether a source is accepted, and none in what becomes of it, so two
engines that accept an entry read the same route (`Route.read_unique`).

`Table.read_list_cases` puts this together.
-/

import RouteTable.Proofs.Route.Acceptance

namespace RouteTable

/-! ### Two engines -/

namespace Route

variable {engine engine' : Regex.Engine} {fs : Fields} {r r' : Route} {v : Value}

/-- The engine is only asked about the source of what is no marker. -/
theorem ofFields_congr (h : fs.get? "handle" = none → ∀ v, fs.get? "src" = some v →
    readSource engine v = readSource engine' v) : ofFields engine fs = ofFields engine' fs := by
  unfold ofFields
  cases hhandle : fs.get? "handle" with
  | some marker => rfl
  | none =>
    cases hv : fs.get? "src" with
    | none => rfl
    | some v => simp only [h hhandle v hv]

/-- A route without a marker has a source that is read. -/
theorem Shape.exists_source (h : Shape engine fs r) (hhandle : fs.get? "handle" = none) :
    ∃ v src, fs.get? "src" = some v ∧ readSource engine v = .ok src := by
  cases h with
  | handle hmarker => cases hhandle.symm.trans hmarker
  | headers _ hv hsrc | rewrite _ hv hsrc | redirect _ hv hsrc => exact ⟨_, _, hv, hsrc⟩

/-- Two engines that accept a source read the same. -/
theorem readSource_unique {src src' : Text} (h : readSource engine v = .ok src)
    (h' : readSource engine' v = .ok src') : src = src' := by
  obtain ⟨t, rfl, -, rfl, -⟩ := readSource_eq_ok_iff.1 h
  obtain ⟨_, ht, -, rfl, -⟩ := readSource_eq_ok_iff.1 h'
  cases ht
  rfl

/-- Fields make one route, whichever engine reads their source. -/
theorem Shape.unique (h : Shape engine fs r) (h' : Shape engine' fs r') : r = r' := by
  have hsame : ofFields engine fs = ofFields engine' fs := by
    refine ofFields_congr fun hhandle v hv => ?_
    obtain ⟨w, src, hw, hsrc⟩ := h.exists_source hhandle
    obtain ⟨w', src', hw', hsrc'⟩ := h'.exists_source hhandle
    cases hv.symm.trans hw
    cases hv.symm.trans hw'
    rw [hsrc, hsrc', readSource_unique hsrc hsrc']
  rw [← ofFields_eq_ok_iff, hsame] at h
  exact Except.ok.inj (h.symm.trans (ofFields_eq_ok_iff.2 h'))

/-- **Two engines that accept an entry read the same route.** -/
theorem read_unique (h : read engine v = .ok r) (h' : read engine' v = .ok r') : r = r' := by
  obtain ⟨fs, hfs, -, hshape⟩ := read_eq_ok_iff.1 h
  obtain ⟨fs', hfs', -, hshape'⟩ := read_eq_ok_iff.1 h'
  rw [hfs, Value.map.injEq] at hfs'
  cases List.map_injective_iff.2 Fields.entry_injective hfs'
  exact hshape.unique hshape'

end Route

/-! ### Entries alone -/

/-- The failure at a position of a table. -/
def Failure.atIndex (index : Nat) : Failure → Failure
  | route e => route { e with index := some index }
  | f => f

/-- A failure of an entry is told with the index of the entry. -/
theorem Failure.atIndex_ofEntry (index : Nat) (e : Route.Failure) :
    (ofEntry none e).atIndex index = ofEntry (some index) e := by
  cases e <;> rfl

namespace Table

open Route (phase?)

variable {engine : Regex.Engine} {index : Nat} {marked : List Text} {v : Value} {vs : List Value}
  {r : Route} {rs : List Route} {f : Failure}

/-- An entry is read alone exactly if it is read in a batch. -/
theorem readAlone_wireForm_eq_ok_iff :
    readAlone engine v.wireForm = .ok r ↔ Route.read engine v = .ok r := by
  rw [readAlone, Route.read_wireForm, Outcome.mapError_eq_ok]

/-- The step of an entry fails as the entry does alone, or because it marks a phase again. -/
theorem readEntry_eq_error_iff_alone : readEntry engine index marked v = .error f ↔
    (∃ e, readAlone engine v.wireForm = .error e ∧ f = e.atIndex index) ∨
      ∃ phase, readAlone engine v.wireForm = .ok (.handle phase) ∧ phase ∈ marked ∧
        f = .route ⟨.repeatedPhase phase, some index, some "handle".text⟩ := by
  simp only [readEntry_eq_error_iff, readAlone_wireForm_eq_ok_iff]
  refine or_congr_left ?_
  simp only [readAlone, Route.read_wireForm, Outcome.mapError_eq_error]
  constructor
  · rintro ⟨e, he, rfl⟩
    exact ⟨_, ⟨e, he, rfl⟩, (Failure.atIndex_ofEntry index e).symm⟩
  · rintro ⟨_, ⟨e, he, rfl⟩, rfl⟩
    exact ⟨e, he, Failure.atIndex_ofEntry index e⟩

/-- The phases of routes are those of their markers. -/
theorem mem_filterMap_phase? {phase : Text} :
    phase ∈ rs.filterMap phase? ↔ Route.handle phase ∈ rs := by
  rw [List.mem_filterMap]
  constructor
  · rintro ⟨r, hr, hphase⟩
    cases r with
    | handle => exact Option.some.inj hphase ▸ hr
    | redirect | rewrite | headers => cases hphase
  · intro h
    exact ⟨_, h, rfl⟩

/-! ### The whole table -/

/-- **A batch, entry by entry.**  It is read exactly if each entry is read alone and no phase is
marked twice, and then gives what the entries give.  A failure is that of one entry, at its
position, or of the entry that marks a phase again; all entries before it are read, and no
entry after it has any influence.  Two engines that accept a batch read the same table. -/
theorem read_list_cases (engine : Regex.Engine) (vs : List Value) :
    (∀ rs, read engine (.list vs) = .ok rs ↔
      List.Forall₂ (fun v r => readAlone engine v.wireForm = .ok r) vs rs ∧
        (rs.filterMap phase?).Nodup) ∧
    (∀ f, read engine (.list vs) = .error f → ∃ front v back, vs = front ++ v :: back ∧
      (∀ n ≤ front.length, ∃ rs, read engine (.list (vs.take n)) = .ok rs) ∧
      (∀ back', read engine (.list (front ++ v :: back')) = .error f) ∧
      ((∃ e, readAlone engine v.wireForm = .error e ∧ f = e.atIndex front.length) ∨
        ∃ phase rs, readAlone engine v.wireForm = .ok (.handle phase) ∧
          read engine (.list front) = .ok rs ∧ .handle phase ∈ rs ∧
          f = .route ⟨.repeatedPhase phase, some front.length, some "handle".text⟩)) ∧
    (∀ engine' rs rs', read engine (.list vs) = .ok rs → read engine' (.list vs) = .ok rs' →
      rs = rs') := by
  simp only [read_list, readAlone_wireForm_eq_ok_iff]
  refine ⟨fun rs => ?_, fun f h => ?_, fun engine' rs rs' h h' => ?_⟩
  · rw [readFrom_eq_ok_iff_forall₂]
    refine and_congr_right fun _ => ⟨MarkOnce.nodup, fun hnodup => ⟨hnodup, ?_⟩⟩
    exact fun _ _ => List.not_mem_nil
  · obtain ⟨front, v, back, rs, rfl, hfront, hv⟩ := readFrom_eq_error_iff_exists.1 h
    refine ⟨front, v, back, rfl, fun n hn => ?_, fun back' => ?_, ?_⟩
    · rw [List.take_append_of_le_length hn]
      exact ⟨_, readFrom_take hfront n⟩
    · exact readFrom_eq_error_iff_exists.2 ⟨front, v, back', rs, rfl, hfront, hv⟩
    · rw [List.append_nil, Nat.zero_add] at hv
      rcases readEntry_eq_error_iff_alone.1 hv with hv | ⟨phase, hread, hmem, hf⟩
      · exact Or.inl hv
      · exact Or.inr ⟨phase, rs, readAlone_wireForm_eq_ok_iff.1 hread, hfront,
          mem_filterMap_phase?.1 hmem, hf⟩
  · have hunique : Relator.RightUnique fun v r => ∃ engine, Route.read engine v = .ok r := by
      rintro v r r' ⟨_, h⟩ ⟨_, h'⟩
      exact Route.read_unique h h'
    exact List.right_unique_forall₂' hunique
      ((readFrom_eq_ok_iff_forall₂.1 h).1.imp fun _ _ h => ⟨engine, h⟩)
      ((readFrom_eq_ok_iff_forall₂.1 h').1.imp fun _ _ h => ⟨engine', h⟩)

/-- A marker of a phase as a map, and the same as a route. -/
def repeatedMarker : List Value :=
  [.map [(.text "handle".text, .text "filesystem".text)],
    .handleRoute (.text "filesystem".text)]

/-- A second marker of a phase is refused, after an entry that is read. -/
theorem read_list_cases_repeatedMarker :
    let f := Failure.route ⟨.repeatedPhase "filesystem".text, some 1, some "handle".text⟩
    read (.linear .plain) (.list repeatedMarker) = .error f ∧
      ∃ front v back, repeatedMarker = front ++ v :: back ∧
        ∀ back', read (.linear .plain) (.list (front ++ v :: back')) = .error f := by
  intro f
  have hmarker : Route.ofWire (.linear .plain) [(.text "handle".text, .text "filesystem".text)] =
      .ok (.handle "filesystem".text) := (Route.Describes.handle (List.Perm.refl _)).ofWire_eq
  have hfront : readFrom (.linear .plain) 0 [] (repeatedMarker.take 1) =
      .ok [.handle "filesystem".text] :=
    readFrom_eq_ok_iff_forall₂.2 ⟨.cons hmarker .nil, List.nodup_singleton _,
      fun _ _ => List.not_mem_nil⟩
  have hread : read (.linear .plain) (.list repeatedMarker) = .error f := by
    rw [read_list]
    refine readFrom_eq_error_iff_exists.2 ⟨_, _, [], _, rfl, hfront, readEntry_eq_error_iff.2 ?_⟩
    exact Or.inr ⟨_, hmarker, List.mem_singleton_self _, rfl⟩
  obtain ⟨front, v, back, hsplit, -, hback, -⟩ :=
    (read_list_cases (.linear .plain) repeatedMarker).2.1 f hread
  exact ⟨hread, front, v, back, hsplit, hback⟩

end Table
end RouteTable
