/-
# Tables, entry by entry

One step of the reader of tables takes one entry (`Table.readEntry`): it reads a route, and
refuses a phase that is marked already.  A run is read by its steps, and what a step does
depends on the steps before it only through the phases that they have marked.  So a row of
entries is a table exactly if each entry is a route and no phase is marked twice
(`Table.readFrom_eq_ok_iff_forall₂`), and otherwise fails at the first entry whose step does
(`Table.readFrom_eq_error_iff_exists`).
-/

import Mathlib.Data.List.Forall2
import RouteTable.Route.Table

namespace RouteTable

/-- The phase that a route marks. -/
def Route.phase? : Route → Option Text
  | handle phase => some phase
  | _ => none

namespace Table

open Route (phase?)

/-- No phase that routes mark is marked before, and none twice. -/
structure MarkOnce (marked : List Text) (rs : List Route) : Prop where
  nodup : (rs.filterMap phase?).Nodup
  fresh : ∀ phase ∈ rs.filterMap phase?, phase ∉ marked

/-- The route of an entry at a position, after routes that mark `marked`. -/
def readEntry (engine : Regex.Engine) (index : Nat) (marked : List Text) (entry : Value) :
    Except Failure Route := do
  let route ← (Route.read engine entry).mapError (Failure.ofEntry (some index))
  match route.phase? with
  | some phase =>
    if marked.contains phase then
      throw (.route ⟨.repeatedPhase phase, some index, some "handle".text⟩)
    return route
  | none => return route

variable {engine : Regex.Engine} {index : Nat} {marked marked' : List Text} {entry : Value}
  {vs ws : List Value} {r : Route} {rs : List Route} {f : Failure}

/-! ### Phases -/

/-- Phases are marked once in two rows, if the second knows those of the first. -/
theorem markOnce_append_iff {front back : List Route} : MarkOnce marked (front ++ back) ↔
    MarkOnce marked front ∧ MarkOnce (front.filterMap phase? ++ marked) back := by
  constructor
  · rintro ⟨hnodup, hfresh⟩
    rw [List.filterMap_append] at hnodup hfresh
    obtain ⟨hfront, hback, hapart⟩ := List.nodup_append.1 hnodup
    rw [List.forall_mem_append] at hfresh
    refine ⟨⟨hfront, hfresh.1⟩, hback, fun phase hphase hmem => ?_⟩
    rcases List.mem_append.1 hmem with hmem | hmem
    · exact hapart phase hmem phase hphase rfl
    · exact hfresh.2 phase hphase hmem
  · rintro ⟨⟨hfront, hnew⟩, hback, hfresh⟩
    simp only [List.mem_append, not_or] at hfresh
    constructor
    · rw [List.filterMap_append, List.nodup_append]
      refine ⟨hfront, hback, fun p hp q hq heq => ?_⟩
      exact (hfresh q hq).1 (heq ▸ hp)
    · rw [List.filterMap_append, List.forall_mem_append]
      exact ⟨hnew, fun phase hphase => (hfresh phase hphase).2⟩

/-- Phases are marked once from the first route on. -/
theorem markOnce_cons_iff : MarkOnce marked (r :: rs) ↔
    (∀ phase, r.phase? = some phase → phase ∉ marked) ∧
      MarkOnce (r.phase?.toList ++ marked) rs := by
  have hphases : [r].filterMap phase? = r.phase?.toList := by
    cases hr : r.phase? <;> simp [hr]
  have honce : MarkOnce marked [r] ↔ ∀ phase, r.phase? = some phase → phase ∉ marked := by
    constructor
    · rintro ⟨-, hfresh⟩ phase hphase
      exact hfresh phase (by rw [hphases, hphase]; exact List.mem_singleton_self phase)
    · intro hnew
      refine ⟨?_, fun phase hphase => ?_⟩
      · cases hr : r.phase? <;> simp [hphases, hr]
      · rw [hphases, Option.mem_toList] at hphase
        exact hnew phase hphase
  rw [← List.singleton_append, markOnce_append_iff, honce, hphases]

/-! ### One step -/

/-- An entry is accepted if it is read, and no marker of a phase that is marked. -/
theorem readEntry_eq_ok_iff : readEntry engine index marked entry = .ok r ↔
    Route.read engine entry = .ok r ∧ ∀ phase, r.phase? = some phase → phase ∉ marked := by
  constructor
  · intro h
    obtain ⟨route, hroute, h⟩ := Outcome.bind_eq_ok.1 h
    have hread := Outcome.mapError_eq_ok.1 hroute
    dsimp only at h
    split at h
    · rename_i phase hphase
      split at h
      · cases h
      · rename_i hnew
        cases h
        refine ⟨hread, fun p hp hmem => hnew ?_⟩
        rw [hphase] at hp
        rw [List.contains_iff_mem, Option.some.inj hp]
        exact hmem
    · rename_i hphase
      cases h
      refine ⟨hread, fun p hp => ?_⟩
      cases hphase.symm.trans hp
  · rintro ⟨hread, hnew⟩
    refine Outcome.bind_eq_ok.2 ⟨r, Outcome.mapError_eq_ok.2 hread, ?_⟩
    dsimp only
    cases hphase : r.phase? with
    | none => rfl
    | some phase =>
      have hcontains : marked.contains phase = false := by
        rw [← Bool.not_eq_true, List.contains_iff_mem]
        exact hnew phase hphase
      dsimp only
      rw [hcontains]
      rfl

/-- An entry fails as it is read, or marks a phase again. -/
theorem readEntry_eq_error_iff : readEntry engine index marked entry = .error f ↔
    (∃ e, Route.read engine entry = .error e ∧ f = Failure.ofEntry (some index) e) ∨
      ∃ phase, Route.read engine entry = .ok (.handle phase) ∧ phase ∈ marked ∧
        f = .route ⟨.repeatedPhase phase, some index, some "handle".text⟩ := by
  constructor
  · intro h
    rcases Outcome.bind_eq_error.1 h with h | ⟨route, hroute, h⟩
    · obtain ⟨e, he, hf⟩ := Outcome.mapError_eq_error.1 h
      exact Or.inl ⟨e, he, hf.symm⟩
    · cases route with
      | handle phase =>
        have hread := Outcome.mapError_eq_ok.1 hroute
        rw [Route.phase?] at h
        dsimp only at h
        split at h
        · rename_i hmem
          cases h
          exact Or.inr ⟨phase, hread, List.contains_iff_mem.1 hmem, rfl⟩
        · cases h
      | redirect | rewrite | headers => cases h
  · rintro (⟨e, he, rfl⟩ | ⟨phase, hread, hmem, rfl⟩)
    · exact Outcome.bind_eq_error.2 (Or.inl (Outcome.mapError_eq_error.2 ⟨e, he, rfl⟩))
    · refine Outcome.bind_eq_error.2 (Or.inr ⟨_, Outcome.mapError_eq_ok.2 hread, ?_⟩)
      rw [Route.phase?]
      dsimp only
      rw [List.contains_iff_mem.2 hmem]
      rfl

/-- Of the phases that are marked it only matters which they are. -/
theorem readEntry_congr (h : ∀ phase, phase ∈ marked ↔ phase ∈ marked') :
    readEntry engine index marked entry = readEntry engine index marked' entry := by
  have hcontains : ∀ phase, marked.contains phase = marked'.contains phase := by
    intro phase
    rw [Bool.eq_iff_iff, List.contains_iff_mem, List.contains_iff_mem]
    exact h phase
  simp only [readEntry, hcontains]

/-- **A row of entries is read step by step.** -/
theorem readFrom_cons_eq : readFrom engine index marked (entry :: vs) =
    (readEntry engine index marked entry).bind fun r =>
      (readFrom engine (index + 1) (r.phase?.toList ++ marked) vs).map (r :: ·) := by
  rw [readFrom, readEntry]
  cases Route.read engine entry with
  | error e => rfl
  | ok r =>
    cases r with
    | redirect | rewrite | headers => rfl
    | handle phase =>
      change (if marked.contains phase then _ else _) =
        Except.bind (if marked.contains phase then _ else _) _
      split <;> rfl

/-! ### A run -/

/-- **Entries are a table** if each is a route, and no phase is marked twice. -/
theorem readFrom_eq_ok_iff_forall₂ : readFrom engine index marked vs = .ok rs ↔
    List.Forall₂ (fun v r => Route.read engine v = .ok r) vs rs ∧ MarkOnce marked rs := by
  induction vs generalizing index marked rs with
  | nil =>
    rw [readFrom, List.forall₂_nil_left_iff]
    constructor
    · intro h
      cases h
      exact ⟨rfl, List.nodup_nil, nofun⟩
    · rintro ⟨rfl, -⟩
      rfl
  | cons entry vs ih =>
    rw [readFrom_cons_eq, List.forall₂_cons_left_iff]
    constructor
    · intro h
      obtain ⟨r, hr, h⟩ := Outcome.bind_eq_ok.1 h
      obtain ⟨rs', hrs', rfl⟩ := Outcome.map_eq_ok.1 h
      obtain ⟨hread, hnew⟩ := readEntry_eq_ok_iff.1 hr
      obtain ⟨hall, honce⟩ := ih.1 hrs'
      exact ⟨⟨r, rs', hread, hall, rfl⟩, markOnce_cons_iff.2 ⟨hnew, honce⟩⟩
    · rintro ⟨⟨r, rs', hread, hall, rfl⟩, honce⟩
      obtain ⟨hnew, honce⟩ := markOnce_cons_iff.1 honce
      exact Outcome.bind_eq_ok.2 ⟨r, readEntry_eq_ok_iff.2 ⟨hread, hnew⟩,
        Outcome.map_eq_ok.2 ⟨rs', ih.2 ⟨hall, honce⟩, rfl⟩⟩

/-- Entries are a table as far as one looks. -/
theorem readFrom_take (h : readFrom engine index marked vs = .ok rs) (n : Nat) :
    readFrom engine index marked (vs.take n) = .ok (rs.take n) := by
  obtain ⟨hall, honce⟩ := readFrom_eq_ok_iff_forall₂.1 h
  rw [← List.take_append_drop n rs] at honce
  exact readFrom_eq_ok_iff_forall₂.2 ⟨List.forall₂_take n hall, (markOnce_append_iff.1 honce).1⟩

/-- **Entries that are no table fail at one of them:** those before it are a table, and its step
fails after them. -/
theorem readFrom_eq_error_iff_exists : readFrom engine index marked vs = .error f ↔
    ∃ front entry back rs, vs = front ++ entry :: back ∧
      readFrom engine index marked front = .ok rs ∧
      readEntry engine (index + front.length) (rs.filterMap phase? ++ marked) entry =
        .error f := by
  -- The phases of `r :: rs` are marked in the order of the steps.
  have hmarks : ∀ {i : Nat} {marked : List Text} {entry : Value} (r : Route) (rs : List Route),
      readEntry engine i ((r :: rs).filterMap phase? ++ marked) entry =
        readEntry engine i (rs.filterMap phase? ++ (r.phase?.toList ++ marked)) entry := by
    intro i marked entry r rs
    refine readEntry_congr fun phase => ?_
    cases hr : r.phase? with
    | none => rw [List.filterMap_cons_none hr, Option.toList_none, List.nil_append]
    | some p =>
      rw [List.filterMap_cons_some hr]
      simp only [Option.toList_some, List.mem_append, List.mem_cons, List.not_mem_nil, or_false]
      tauto
  induction vs generalizing index marked with
  | nil => simp [readFrom]
  | cons entry vs ih =>
    rw [readFrom_cons_eq]
    constructor
    · intro h
      rcases Outcome.bind_eq_error.1 h with h | ⟨r, hr, h⟩
      · exact ⟨[], entry, vs, [], rfl, rfl, h⟩
      · obtain ⟨front, v, back, rs, rfl, hfront, hv⟩ := ih.1 (Outcome.map_eq_error.1 h)
        refine ⟨entry :: front, v, back, r :: rs, rfl, ?_, ?_⟩
        · rw [readFrom_cons_eq]
          exact Outcome.bind_eq_ok.2 ⟨r, hr, Outcome.map_eq_ok.2 ⟨rs, hfront, rfl⟩⟩
        · rw [hmarks, List.length_cons, ← hv]
          congr 1
          omega
    · rintro ⟨front, v, back, rs, hsplit, hfront, hv⟩
      cases front with
      | nil =>
        cases hsplit
        cases hfront
        exact Outcome.bind_eq_error.2 (Or.inl hv)
      | cons w front =>
        rw [List.cons_append, List.cons.injEq] at hsplit
        obtain ⟨rfl, rfl⟩ := hsplit
        rw [readFrom_cons_eq] at hfront
        obtain ⟨r, hr, hfront⟩ := Outcome.bind_eq_ok.1 hfront
        obtain ⟨rs', hrest, rfl⟩ := Outcome.map_eq_ok.1 hfront
        refine Outcome.bind_eq_error.2 (Or.inr ⟨r, hr, Outcome.map_eq_error.2 (ih.2 ?_)⟩)
        refine ⟨front, v, back, rs', rfl, hrest, ?_⟩
        rw [hmarks, List.length_cons] at hv
        rw [← hv]
        congr 1
        omega

/-! ### A table -/

/-- What has items in a row is read from the first of them on. -/
theorem read_eq_readFrom {entries : Value} (hitems : entries.items = .ok vs)
    (htrue : entries.isTrue = !vs.isEmpty) : read engine entries = readFrom engine 0 [] vs := by
  unfold read
  cases vs with
  | nil =>
    rw [htrue]
    rfl
  | cons v vs =>
    rw [htrue, hitems]
    rfl

theorem read_list : read engine (.list vs) = readFrom engine 0 [] vs :=
  read_eq_readFrom rfl rfl

end Table
end RouteTable
