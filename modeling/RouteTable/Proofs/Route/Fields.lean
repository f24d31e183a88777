/-
# The fields of an entry

A map is read as fields, and the reader of routes looks them up by their names.  No two entries
of a map have the same key (`Value.IsMapping`), so what is looked up is what the map holds
(`Fields.get?_eq_some_iff`), and fields with known names are those of the names that are set,
in the order of the names (`Fields.perm_inOrder`).  What each reader of a field accepts is
stated as an `iff`, and so are the readers of a wire form in a row (`ofWire_eq_ok_iff`).  Any
entry is read from its wire form (`Value.wireForm`), so that iff is about all entries
(`read_eq_ok_iff`).
-/

import Mathlib.Data.List.Nodup
import RouteTable.Proofs.Route.Emitted

namespace RouteTable

/-- The entries of a map: no two have the same key. -/
def Value.IsMapping (es : List (Value × Value)) : Prop :=
  es.Pairwise fun e f => sameKey e.1 f.1 = false

/-- A value as it goes over the wire: a route as its wire form, any other value as it is. -/
def Value.wireForm (v : Value) : Value :=
  match v.routeWire? with
  | some (.ok es) => .map es
  | _ => v

namespace Route

variable {engine : Regex.Engine} {fs : Fields} {r : Route} {src : Text}

/-! ### Fields -/

/-- A field as the entry of a map. -/
def Fields.entry (f : Text × Value) : Value × Value := (.text f.1, f.2)

/-- A field is told by its entry. -/
theorem Fields.entry_injective : Function.Injective entry := by
  rintro ⟨t, v⟩ ⟨u, w⟩ h
  cases h
  rfl

/-- Entries are fields exactly if their keys are texts. -/
theorem toFields_eq_ok_iff {es : List (Value × Value)} :
    toFields es = .ok fs ↔ es = fs.map Fields.entry := by
  constructor
  · intro h
    induction es generalizing fs with
    | nil =>
      cases h
      rfl
    | cons e es ih =>
      unfold toFields at h
      split at h
      · rename_i heq
        cases heq
      · rename_i heq
        cases heq
        obtain ⟨fs', hfs', rfl⟩ := Outcome.map_eq_ok.1 h
        rw [ih hfs']
        rfl
      · exact absurd h refuseShowing_ne_ok
  · rintro rfl
    induction fs with
    | nil => rfl
    | cons f fs ih =>
      rw [List.map_cons, Fields.entry, toFields, ih]
      rfl

/-- Fields make a mapping exactly if their names are distinct. -/
theorem Fields.isMapping_iff : Value.IsMapping (fs.map entry) ↔ (fs.map (·.1)).Nodup := by
  have hkeys : ∀ t u : Text, Value.sameKey (.text t) (.text u) = (t == u) := by
    intro t u
    rw [Value.sameKey]
  rw [Value.IsMapping, List.pairwise_map, List.Nodup, List.pairwise_map]
  refine List.Pairwise.iff fun {f g} => ?_
  rw [entry, entry, hkeys, beq_eq_false_iff_ne]

/-- There are no other fields exactly if all are named. -/
theorem Fields.others_eq_nil_iff {names : List String} :
    fs.others names = [] ↔ ∀ f ∈ fs, f.1 ∈ names.map String.text := by
  have hsorted : ∀ ts : List Text, ts.mergeSort Text.isAtMost = [] ↔ ts = [] := by
    intro ts
    rw [← List.length_eq_zero_iff, List.length_mergeSort, List.length_eq_zero_iff]
  rw [others, hsorted, List.filter_eq_nil_iff]
  simp

/-- Where names are distinct, a field holds exactly what stands there. -/
theorem Fields.get?_eq_some_iff (hn : (fs.map (·.1)).Nodup) {name : String} {v : Value} :
    fs.get? name = some v ↔ (name.text, v) ∈ fs := by
  induction fs with
  | nil => simp [get?]
  | cons f fs ih =>
    obtain ⟨t, w⟩ := f
    obtain ⟨ht, hn⟩ := List.nodup_cons.1 hn
    by_cases hname : t = name.text
    · subst hname
      have hnot : (name.text, v) ∉ fs := fun hmem => ht (List.mem_map.2 ⟨_, hmem, rfl⟩)
      simp [get?, hnot, eq_comm]
    · have hget : Fields.get? ((t, w) :: fs) name = Fields.get? fs name := by
        rw [get?, List.find?_cons, beq_eq_false_iff_ne.2 hname]
        rfl
      rw [hget, ih hn, List.mem_cons, Prod.mk.injEq]
      simp [Ne.symm hname]

/-- The fields of some names, in the order of the names. -/
def Fields.inOrder (fs : Fields) (names : List String) : Fields :=
  names.filterMap fun name => (fs.get? name).map fun v => (name.text, v)

theorem Fields.inOrder_nil : fs.inOrder [] = [] :=
  rfl

theorem Fields.inOrder_cons (name : String) (names : List String) :
    fs.inOrder (name :: names) =
      (fs.get? name).elim (fs.inOrder names) fun v => (name.text, v) :: fs.inOrder names := by
  rw [inOrder, List.filterMap_cons]
  cases fs.get? name <;> rfl

/-- Fields are those of their names. -/
theorem Fields.perm_inOrder (hn : (fs.map (·.1)).Nodup) {names : List String}
    (hnames : names.Nodup) (hall : ∀ f ∈ fs, f.1 ∈ names.map String.text) :
    fs.Perm (fs.inOrder names) := by
  have hordered : (fs.inOrder names).Nodup := by
    refine List.Nodup.filterMap ?_ hnames
    intro a b f ha hb
    obtain ⟨_, -, rfl⟩ := Option.map_eq_some_iff.1 ha
    obtain ⟨_, -, hb⟩ := Option.map_eq_some_iff.1 hb
    exact (String.text_injective (Prod.mk.inj hb).1).symm
  refine (List.perm_ext_iff_of_nodup (List.Nodup.of_map _ hn) hordered).2 fun f => ?_
  rw [inOrder, List.mem_filterMap]
  constructor
  · intro hf
    obtain ⟨name, hname, hf₁⟩ := List.mem_map.1 (hall f hf)
    refine ⟨name, hname, Option.map_eq_some_iff.2 ⟨f.2, ?_, by rw [hf₁]⟩⟩
    rw [get?_eq_some_iff hn, hf₁]
    exact hf
  · rintro ⟨name, -, hf⟩
    obtain ⟨v, hv, rfl⟩ := Option.map_eq_some_iff.1 hf
    exact (get?_eq_some_iff hn).1 hv

/-! ### What each reader accepts -/

/-- A source with the anchors added that it lacks. -/
def withAnchors (src : Text) : Text :=
  (if src.head? = some (scalar '^') then [] else [scalar '^']) ++ src ++
    (if src.getLast? = some (scalar '$') then [] else [scalar '$'])

/-- A source that is not empty is put between anchors. -/
theorem anchor_eq_withAnchors (h : src ≠ []) : anchor src = withAnchors src := by
  obtain ⟨c, t, rfl⟩ := List.exists_cons_of_ne_nil h
  have hlast : (scalar '^' :: c :: t).getLast? = (c :: t).getLast? := List.getLast?_cons_cons
  unfold anchor withAnchors
  by_cases hhead : (c :: t).head? = some (scalar '^')
  · simp only [hhead, if_true, List.nil_append]
    split <;> simp
  · simp only [hhead, if_false, hlast, List.cons_append, List.nil_append]
    split <;> simp

theorem isAnchored_anchor (t : Text) : IsAnchored (anchor t) :=
  ⟨head?_anchor t, getLast?_anchor t⟩

/-- **A source is read** exactly if it is a text that the engine accepts between anchors. -/
theorem readSource_eq_ok_iff {v : Value} : readSource engine v = .ok src ↔
    ∃ t, v = .text t ∧ t ≠ [] ∧ src = anchor t ∧ engine.check src = .ok () := by
  constructor
  · intro h
    unfold readSource at h
    split at h
    · rename_i c t
      dsimp only at h
      split at h
      · rename_i hcheck
        cases h
        exact ⟨c :: t, rfl, List.cons_ne_nil c t, rfl, hcheck⟩
      · exact absurd h refuse_ne_ok
      · cases h
    · exact absurd h refuse_ne_ok
  · rintro ⟨t, rfl, hne, rfl, hcheck⟩
    obtain ⟨c, t, rfl⟩ := List.exists_cons_of_ne_nil hne
    rw [readSource, hcheck]

/-- Entries are headers exactly if keys and values are texts. -/
theorem toHeaders_eq_ok_iff {es : List (Value × Value)} {hs : Headers} :
    toHeaders es = .ok hs ↔ es = hs.toEntries := by
  constructor
  · intro h
    induction es generalizing hs with
    | nil =>
      cases h
      rfl
    | cons e es ih =>
      unfold toHeaders at h
      split at h
      · rename_i heq
        cases heq
      · rename_i heq
        cases heq
        obtain ⟨hs', hhs', rfl⟩ := Outcome.map_eq_ok.1 h
        rw [ih hhs']
        rfl
      · exact absurd h refuseShowing_ne_ok
  · rintro rfl
    exact toHeaders_toEntries hs

/-- The headers of a route are a map of texts. -/
theorem readHeaders_eq_ok_iff {hs : Headers} :
    readHeaders fs = .ok hs ↔ fs.get? "headers" = some (.map hs.toEntries) := by
  unfold readHeaders
  constructor
  · intro h
    split at h
    · rename_i es hes
      rw [toHeaders_eq_ok_iff.1 h] at hes
      cases hget : fs.get? "headers" with
      | none =>
        rw [hget] at hes
        cases hes
      | some v =>
        rw [hget] at hes
        exact congrArg some hes
    · exact absurd h refuse_ne_ok
  · intro h
    rw [h]
    exact toHeaders_toEntries hs

/-- A switch is a truth value. -/
theorem readSwitch_eq_ok_iff {field : String} {v : Value} {b : Bool} :
    readSwitch field v = .ok b ↔ v = .bool b := by
  cases v <;> simp [readSwitch, refuse]

/-- A check is a truth value, and false if it is absent. -/
theorem readCheck_eq_ok_iff {b : Bool} : readCheck fs = .ok b ↔
    fs.get? "check" = some (.bool b) ∨ (fs.get? "check" = none ∧ b = false) := by
  unfold readCheck
  cases fs.get? "check" with
  | none => simp [eq_comm]
  | some v => simp [readSwitch_eq_ok_iff]

/-- A status is one of those of redirects. -/
theorem exists_of_readStatus {v : Value} {n : Int} (h : readStatus v = .ok n) :
    v = .int n ∧ n ∈ redirectStatuses := by
  unfold readStatus at h
  split at h
  · split at h
    · cases h
      exact ⟨rfl, ‹_›⟩
    · exact absurd h refuseShowing_ne_ok
  · exact absurd h refuse_ne_ok

/-- Fields that exclude each other are absent. -/
theorem forbid_eq_ok_iff {owner : String} {names : List String} :
    forbid fs owner names = .ok () ↔ ∀ name ∈ names, fs.get? name = none := by
  induction names with
  | nil => simp [forbid]
  | cons name names ih =>
    rw [forbid, List.forall_mem_cons, ← ih]
    cases hget : fs.get? name with
    | none => simp [Fields.has, hget]
    | some v => simp [Fields.has, hget, refuse]

/-- A marker stands alone, and marks the phase of the file system. -/
theorem exists_of_readHandle {marker : Value} (h : readHandle fs marker = .ok r) :
    fs.others ["handle"] = [] ∧ marker = .text filesystemPhase ∧ r = .handle filesystemPhase := by
  unfold readHandle at h
  split at h
  · cases h
  · rename_i hothers
    split at h
    · cases h
    · split at h
      · split at h
        · rename_i hphase
          cases h
          rw [List.contains_iff_mem, phases, List.mem_singleton] at hphase
          subst hphase
          exact ⟨hothers, rfl, rfl⟩
        · exact absurd h refuseShowing_ne_ok
      · exact absurd h refuseShowing_ne_ok

/-- Fields with known names are read as a route. -/
theorem ofWire_map_entry (hknown : ∀ f ∈ fs, f.1 ∈ fieldNames.map String.text) :
    ofWire engine (fs.map Fields.entry) = ofFields engine fs := by
  refine ofWire_eq (toFields_eq_ok_iff.2 rfl) ?_
  simpa using hknown

/-- The readers of a wire form in a row. -/
theorem ofWire_eq_ok_iff {es : List (Value × Value)} : ofWire engine es = .ok r ↔
    ∃ fs, es = fs.map Fields.entry ∧ (∀ f ∈ fs, f.1 ∈ fieldNames.map String.text) ∧
      Shape engine fs r := by
  constructor
  · intro h
    unfold ofWire at h
    split at h
    · cases h
    · rename_i fs hfs
      split at h
      · cases h
      · rename_i hothers
        exact ⟨fs, toFields_eq_ok_iff.1 hfs, Fields.others_eq_nil_iff.1 hothers,
          ofFields_eq_ok_iff.1 h⟩
  · rintro ⟨fs, rfl, hknown, hshape⟩
    rw [ofWire_map_entry hknown]
    exact ofFields_eq_ok_iff.2 hshape

/-! ### Any entry -/

theorem read_map (engine : Regex.Engine) (es : List (Value × Value)) :
    read engine (.map es) = ofWire engine es :=
  rfl

/-- An entry is read as its wire form is. -/
theorem read_wireForm (engine : Regex.Engine) (v : Value) :
    read engine v.wireForm = read engine v := by
  unfold Value.wireForm
  split
  · rename_i es hes
    unfold read
    rw [hes]
    rfl
  · rfl

/-- An entry is the wire form of something, or a route that has none, or no map. -/
theorem read_cases (engine : Regex.Engine) (v : Value) : (∃ es, v.wireForm = .map es) ∨
    (∃ fault, v.routeWire? = some (.error fault) ∧ read engine v = .error (.fault fault)) ∨
      ∃ p, read engine v = .error (.invalid p) := by
  unfold Value.wireForm read
  cases hwire : v.routeWire? with
  | some wire =>
    cases wire with
    | error fault => exact Or.inr (Or.inl ⟨fault, rfl, rfl⟩)
    | ok es => exact Or.inl ⟨es, rfl⟩
  | none =>
    dsimp only
    split
    · exact Or.inl ⟨_, rfl⟩
    · exact Or.inr (Or.inr ⟨_, rfl⟩)

/-- **An entry is read** exactly if its fields are known and have the shape of the route. -/
theorem read_eq_ok_iff {v : Value} : read engine v = .ok r ↔
    ∃ fs : Fields, v.wireForm = .map (fs.map Fields.entry) ∧
      (∀ f ∈ fs, f.1 ∈ fieldNames.map String.text) ∧ Shape engine fs r := by
  constructor
  · intro h
    rcases read_cases engine v with ⟨es, hes⟩ | ⟨fault, -, hv⟩ | ⟨p, hv⟩
    · rw [← read_wireForm, hes, read_map] at h
      obtain ⟨fs, rfl, hknown, hshape⟩ := ofWire_eq_ok_iff.1 h
      exact ⟨fs, hes, hknown, hshape⟩
    · cases hv.symm.trans h
    · cases hv.symm.trans h
  · rintro ⟨fs, hfs, hknown, hshape⟩
    rw [← read_wireForm, hfs, read_map]
    exact ofWire_eq_ok_iff.2 ⟨fs, rfl, hknown, hshape⟩

end Route
end RouteTable
