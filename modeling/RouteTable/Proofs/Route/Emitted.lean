/-
# Reading emitted routes

What rules and switches emit (`Emitted`) goes through the reader of tables like any other
entry: it is turned into its wire form, and read from there.  Nothing of it is changed:
reading an emitted route comes to a check of its source by the engine, and of its status
(`Route.read_toValue`).  So a table of emitted routes is the list of them, if all are
admitted (`Table.readFrom_eq_ok_iff`), and fails at the first one that is not
(`Table.readFrom_eq_error_iff`).
-/

import RouteTable.Proofs.Route.Anchored

namespace RouteTable
namespace Route

/-- A source with an anchor at each end. -/
structure IsAnchored (src : Text) : Prop where
  head : src.head? = some (scalar '^')
  last : src.getLast? = some (scalar '$')

/-- The routes that rules and switches emit. -/
inductive Emitted : Route → Prop
  | redirect {src : Text} (location : Text) (n : Int) (h : IsAnchored src) :
    Emitted (.redirect src [("Location".text, location)] (.int n))
  | rewrite {src : Text} (dest : Text) (h : IsAnchored src) : Emitted (.rewrite src dest true)
  | headers {src : Text} (hs : Headers) (h : IsAnchored src) : Emitted (.headers src hs true)
  | handle : Emitted (.handle filesystemPhase)

/-- The status of a redirect, if it is a number. -/
def status? : Route → Option Int
  | redirect _ _ (.int n) => some n
  | _ => none

/-- What the reader asks of an emitted route. -/
structure Admitted (engine : Regex.Engine) (r : Route) : Prop where
  source : ∀ src, r.source? = some src → engine.check src = .ok ()
  status : ∀ n, r.status? = some n → n ∈ redirectStatuses

/-- The engine's word on a source that is anchored. -/
def checkSource (engine : Regex.Engine) (src : Text) : Except Failure Unit :=
  match engine.check src with
  | .ok () => .ok ()
  | .error (.refused flaw) => refuse "src" (.refusedSource flaw)
  | .error (.broken b) => .error (.regex b)

/-- What is checked of an emitted route. -/
def recheck (engine : Regex.Engine) : Route → Except Failure Unit
  | redirect src _ status =>
    (checkSource engine src).bind fun _ => (readStatus status).map fun _ => ()
  | rewrite src _ _ => checkSource engine src
  | headers src _ _ => checkSource engine src
  | handle _ => .ok ()

variable {engine : Regex.Engine} {r : Route} {src : Text}

/-- A source between anchors gets no more of them. -/
theorem IsAnchored.anchor_eq (h : IsAnchored src) : anchor src = src := by
  rw [anchor, if_pos h.head]
  exact if_pos h.last

/-- A source between anchors is read as it is, if the engine accepts it. -/
theorem IsAnchored.readSource_eq (h : IsAnchored src) :
    readSource engine (.text src) = (checkSource engine src).map fun _ => src := by
  cases hsrc : src with
  | nil =>
    rw [hsrc] at h
    cases h.head
  | cons c t =>
    rw [hsrc] at h
    rw [readSource, h.anchor_eq, checkSource]
    cases engine.check (c :: t) with
    | ok u => rfl
    | error e => cases e <;> rfl

/-- Headers are read back from their entries. -/
theorem toHeaders_toEntries (hs : Headers) : toHeaders hs.toEntries = .ok hs := by
  induction hs with
  | nil => rfl
  | cons h hs ih =>
    rw [Headers.toEntries] at ih
    rw [Headers.toEntries, List.map_cons, toHeaders, ih]
    rfl

/-- Fields that are all known are read as they are. -/
theorem ofWire_eq {es : List (Value × Value)} {fs : Fields} (h : toFields es = .ok fs)
    (hknown : ((fs.map (·.1)).filter fun n => !(fieldNames.map String.text).contains n) = []) :
    ofWire engine es = ofFields engine fs := by
  rw [ofWire, h]
  dsimp only
  rw [Fields.others, hknown, List.mergeSort_nil]

/-- A route is read as its wire form. -/
theorem read_toValue_eq_ofWire (engine : Regex.Engine) (r : Route) :
    read engine r.toValue = ofWire engine r.wire := by
  unfold read
  rw [routeWire?_toValue]

/-- A number is read as a status if it is one. -/
theorem readStatus_eq_ok_iff {n m : Int} :
    readStatus (.int n) = .ok m ↔ n ∈ redirectStatuses ∧ m = n := by
  rw [readStatus]
  split
  · rename_i h
    simp [h, eq_comm]
  · rename_i h
    exact ⟨fun hshown => absurd hshown refuseShowing_ne_ok, fun hn => absurd hn.1 h⟩

/-- **A number that is no status is refused by name,** or it has too many digits for that. -/
theorem readStatus_eq_error_iff {n : Int} {e : Failure} :
    readStatus (.int n) = .error e ↔ n ∉ redirectStatuses ∧
      e = if (Value.int n).isWritable = true then
          .invalid ⟨.notARedirectStatus n, some "status".text⟩
        else .fault .numeralTooLong := by
  rw [readStatus]
  split
  · rename_i h
    simp [h]
  · rename_i h
    rw [refuseShowing_eq]
    split <;> simp [h, eq_comm]

/-- **A status that is not read is invalid,** or a number with too many digits. -/
theorem cases_of_readStatus {v : Value} {e : Failure} (h : readStatus v = .error e) :
    (∃ reason, e = .invalid ⟨reason, some "status".text⟩) ∨
      ∃ n, v = .int n ∧ n ∉ redirectStatuses ∧ (Value.int n).isWritable = false ∧
        e = .fault .numeralTooLong := by
  by_cases hv : ∃ n, v = .int n
  · obtain ⟨n, rfl⟩ := hv
    obtain ⟨hn, he⟩ := readStatus_eq_error_iff.1 h
    split at he
    · exact .inl ⟨_, he⟩
    · rename_i hlong
      exact .inr ⟨n, rfl, hn, eq_false_of_ne_true hlong, he⟩
  · unfold readStatus at h
    split at h
    · exact absurd ⟨_, rfl⟩ hv
    · cases h
      exact .inl ⟨_, rfl⟩

/-- A redirect with a `Location` is read as one, if its source and its status pass. -/
theorem IsAnchored.read_redirect (h : IsAnchored src) (location : Text) (status : Value) :
    read engine (toValue (.redirect src [("Location".text, location)] status)) =
      (checkSource engine src).bind fun _ => (readStatus status).map fun n =>
        .redirect src [("Location".text, location)] (.int n) := by
  have hfields : ofWire engine (wire (.redirect src [("Location".text, location)] status)) =
      (readSource engine (.text src)).bind fun src => (readStatus status).bind fun n =>
        .ok (.redirect src [("Location".text, location)] (.int n)) :=
    Eq.trans (ofWire_eq rfl rfl) rfl
  rw [read_toValue_eq_ofWire, hfields, h.readSource_eq]
  cases checkSource engine src with
  | error e => rfl
  | ok u => cases readStatus status <;> rfl

/-- **An emitted route is read as itself,** if its source and its status pass. -/
theorem read_toValue (h : Emitted r) :
    read engine r.toValue = (recheck engine r).map fun _ => r := by
  cases h with
  | @redirect src location n h =>
    rw [h.read_redirect, recheck]
    cases checkSource engine src with
    | error e => rfl
    | ok u =>
      change (readStatus (.int n)).map _ = ((readStatus (.int n)).map _).map _
      cases hn : readStatus (.int n) with
      | error e => rfl
      | ok m =>
        obtain ⟨-, rfl⟩ := readStatus_eq_ok_iff.1 hn
        rfl
  | @rewrite src dest h =>
    have hfields : ofWire engine (wire (.rewrite src dest true)) =
        (readSource engine (.text src)).bind fun src => .ok (.rewrite src dest true) :=
      Eq.trans (ofWire_eq rfl rfl) rfl
    rw [read_toValue_eq_ofWire, hfields, h.readSource_eq, recheck]
    cases checkSource engine src <;> rfl
  | @headers src hs h =>
    have hfields : ofWire engine (wire (.headers src hs true)) =
        (readSource engine (.text src)).bind fun src => (toHeaders hs.toEntries).bind fun hs =>
          .ok (.headers src hs true) :=
      Eq.trans (ofWire_eq rfl rfl) rfl
    rw [read_toValue_eq_ofWire, hfields, h.readSource_eq, recheck, toHeaders_toEntries]
    cases checkSource engine src <;> rfl
  | handle =>
    have hnothing : Fields.others [("handle".text, .text filesystemPhase)] ["handle"] = [] := by
      change List.mergeSort [] _ = []
      rw [List.mergeSort_nil]
    have hfields : ofWire engine (wire (.handle filesystemPhase)) =
        readHandle [("handle".text, .text filesystemPhase)] (.text filesystemPhase) :=
      Eq.trans (ofWire_eq rfl rfl) rfl
    rw [read_toValue_eq_ofWire, hfields, readHandle, hnothing]
    rfl

/-- A source is accepted exactly if the engine accepts it. -/
theorem checkSource_eq_ok_iff : checkSource engine src = .ok () ↔ engine.check src = .ok () := by
  unfold checkSource
  split
  · rename_i h
    simp [h]
  · rename_i h
    simp [h, refuse]
  · rename_i h
    simp [h]

/-- A source breaks exactly if the engine breaks on it. -/
theorem checkSource_eq_regex_iff {b : Regex.Breakdown} :
    checkSource engine src = .error (.regex b) ↔ engine.check src = .error (.broken b) := by
  unfold checkSource
  split
  · rename_i h
    simp [h]
  · rename_i h
    simp [h, refuse]
  · rename_i h
    simp [h]

/-- An emitted route passes exactly if it is admitted. -/
theorem recheck_eq_ok_iff (h : Emitted r) : recheck engine r = .ok () ↔ r.Admitted engine := by
  cases h with
  | @redirect src location n h =>
    constructor
    · intro hr
      obtain ⟨_, hsrc, hr⟩ := Outcome.bind_eq_ok.1 hr
      obtain ⟨m, hm, -⟩ := Outcome.map_eq_ok.1 hr
      refine ⟨fun t ht => ?_, fun k hk => ?_⟩
      · cases ht
        exact checkSource_eq_ok_iff.1 hsrc
      · cases hk
        exact (readStatus_eq_ok_iff.1 hm).1
    · rintro ⟨hsource, hstatus⟩
      refine Outcome.bind_eq_ok.2 ⟨(), checkSource_eq_ok_iff.2 (hsource src rfl), ?_⟩
      exact Outcome.map_eq_ok.2 ⟨n, readStatus_eq_ok_iff.2 ⟨hstatus n rfl, rfl⟩, rfl⟩
  | @rewrite src | @headers src =>
    rw [recheck, checkSource_eq_ok_iff]
    constructor
    · intro hr
      exact ⟨fun t ht => Option.some.inj ht ▸ hr, nofun⟩
    · intro hr
      exact hr.source src rfl
  | handle => exact ⟨fun _ => ⟨nofun, nofun⟩, fun _ => rfl⟩

/-- **The engine breaks on an emitted route exactly if it breaks on its source.** -/
theorem recheck_eq_regex_iff (h : Emitted r) {b : Regex.Breakdown} :
    recheck engine r = .error (.regex b) ↔
      ∃ src, r.source? = some src ∧ engine.check src = .error (.broken b) := by
  cases h with
  | @redirect src location n h =>
    constructor
    · intro hr
      rcases Outcome.bind_eq_error.1 hr with hr | ⟨_, -, hr⟩
      · exact ⟨src, rfl, checkSource_eq_regex_iff.1 hr⟩
      · obtain ⟨-, he⟩ := readStatus_eq_error_iff.1 (Outcome.map_eq_error.1 hr)
        split at he <;> cases he
    · rintro ⟨t, ht, hr⟩
      cases ht
      exact Outcome.bind_eq_error.2 (Or.inl (checkSource_eq_regex_iff.2 hr))
  | @rewrite src | @headers src =>
    rw [recheck, checkSource_eq_regex_iff]
    constructor
    · intro hr
      exact ⟨src, rfl, hr⟩
    · rintro ⟨t, ht, hr⟩
      cases ht
      exact hr
  | handle =>
    constructor
    · intro hr
      cases hr
    · rintro ⟨t, ht, -⟩
      cases ht

/-- The status of a route is beyond what can be written, and no status. -/
def HasUnwritableStatus (r : Route) : Prop :=
  ∃ n, r.status? = some n ∧ n ∉ redirectStatuses ∧ (Value.int n).isWritable = false

/-- **What is wrong with an emitted route is at fault itself** exactly if its source passes and its
status is beyond what can be written. -/
theorem recheck_eq_fault_iff (h : Emitted r) {fault : Value.Fault} :
    recheck engine r = .error (.fault fault) ↔ fault = .numeralTooLong ∧
      (∀ src, r.source? = some src → engine.check src = .ok ()) ∧ r.HasUnwritableStatus := by
  have hsource : ∀ src, checkSource engine src ≠ .error (.fault fault) := by
    intro src hsrc
    unfold checkSource at hsrc
    split at hsrc <;> cases hsrc
  cases h with
  | @redirect src location n h =>
    constructor
    · intro hr
      rcases Outcome.bind_eq_error.1 hr with hr | ⟨_, hsrc, hr⟩
      · exact absurd hr (hsource src)
      · obtain ⟨hn, he⟩ := readStatus_eq_error_iff.1 (Outcome.map_eq_error.1 hr)
        split at he
        · cases he
        · rename_i hlong
          cases he
          refine ⟨rfl, fun t ht => ?_, n, rfl, hn, eq_false_of_ne_true hlong⟩
          cases ht
          exact checkSource_eq_ok_iff.1 hsrc
    · rintro ⟨rfl, hsrc, k, hk, hn, hlong⟩
      cases hk
      refine Outcome.bind_eq_error.2 (Or.inr ⟨(), checkSource_eq_ok_iff.2 (hsrc src rfl), ?_⟩)
      refine Outcome.map_eq_error.2 (readStatus_eq_error_iff.2 ⟨hn, ?_⟩)
      rw [if_neg (Bool.not_eq_true _ ▸ hlong)]
  | rewrite | headers =>
    refine ⟨fun hr => absurd hr (hsource _), ?_⟩
    rintro ⟨-, -, k, hk, -⟩
    cases hk
  | handle =>
    refine ⟨nofun, ?_⟩
    rintro ⟨-, -, k, hk, -⟩
    cases hk

/-- **An emitted route is read back as itself** exactly if it is admitted. -/
theorem read_toValue_eq_ok_iff (h : Emitted r) {r' : Route} :
    read engine r.toValue = .ok r' ↔ r' = r ∧ r.Admitted engine := by
  rw [read_toValue h, Outcome.map_eq_ok, ← recheck_eq_ok_iff h]
  constructor
  · rintro ⟨_, hr, rfl⟩
    exact ⟨rfl, hr⟩
  · rintro ⟨rfl, hr⟩
    exact ⟨(), hr, rfl⟩

/-- An emitted route fails as its second check does. -/
theorem read_toValue_eq_error_iff (h : Emitted r) {e : Failure} :
    read engine r.toValue = .error e ↔ recheck engine r = .error e := by
  rw [read_toValue h, Outcome.map_eq_error]

end Route

namespace Table

open Route (Emitted Admitted recheck)

variable {engine : Regex.Engine} {index : Nat} {marked : List Text} {rs rs' : List Route}

/-- Emitted routes are read back as themselves exactly if all are admitted. -/
theorem forall₂_read_toValue_iff (hemitted : ∀ r ∈ rs, Emitted r) :
    List.Forall₂ (fun v r => Route.read engine v = .ok r) (rs.map Route.toValue) rs' ↔
      rs' = rs ∧ ∀ r ∈ rs, r.Admitted engine := by
  induction rs generalizing rs' with
  | nil => simp
  | cons r rs ih =>
    obtain ⟨hr, hrs⟩ := List.forall_mem_cons.1 hemitted
    rw [List.map_cons, List.forall₂_cons_left_iff, List.forall_mem_cons]
    constructor
    · rintro ⟨r', rs', hread, hall, rfl⟩
      obtain ⟨rfl, hadmitted⟩ := (Route.read_toValue_eq_ok_iff hr).1 hread
      obtain ⟨rfl, hall⟩ := (ih hrs).1 hall
      exact ⟨rfl, hadmitted, hall⟩
    · rintro ⟨rfl, hadmitted, hall⟩
      exact ⟨r, rs, (Route.read_toValue_eq_ok_iff hr).2 ⟨rfl, hadmitted⟩, (ih hrs).2 ⟨rfl, hall⟩,
        rfl⟩

/-- **A table of emitted routes is the list of them,** if all are admitted. -/
theorem readFrom_eq_ok_iff (hemitted : ∀ r ∈ rs, Emitted r) (honce : MarkOnce marked rs) :
    readFrom engine index marked (rs.map Route.toValue) = .ok rs' ↔
      rs' = rs ∧ ∀ r ∈ rs, r.Admitted engine := by
  rw [readFrom_eq_ok_iff_forall₂, forall₂_read_toValue_iff hemitted]
  refine and_iff_left_of_imp ?_
  rintro ⟨rfl, -⟩
  exact honce

/-- **A table of emitted routes fails at the first one that is not admitted.** -/
theorem readFrom_eq_error_iff (hemitted : ∀ r ∈ rs, Emitted r) (honce : MarkOnce marked rs)
    {f : Failure} : readFrom engine index marked (rs.map Route.toValue) = .error f ↔
      ∃ front r back e, rs = front ++ r :: back ∧ (∀ q ∈ front, q.Admitted engine) ∧
        recheck engine r = .error e ∧ f = Failure.ofEntry (some (index + front.length)) e := by
  rw [readFrom_eq_error_iff_exists]
  constructor
  · rintro ⟨front, entry, back, rs₁, hsplit, hfront, hentry⟩
    obtain ⟨front, rest, rfl, rfl, hrest⟩ := List.map_eq_append_iff.1 hsplit
    obtain ⟨r, back, rfl, rfl, rfl⟩ := List.map_eq_cons_iff.1 hrest
    obtain ⟨hemits, hrest⟩ := List.forall_mem_append.1 hemitted
    obtain ⟨hfirst, hthen⟩ := markOnce_append_iff.1 honce
    have hr := hrest r List.mem_cons_self
    obtain ⟨rfl, hall⟩ := (readFrom_eq_ok_iff hemits hfirst).1 hfront
    rw [List.length_map] at hentry
    rcases readEntry_eq_error_iff.1 hentry with ⟨e, he, rfl⟩ | ⟨phase, hread, hmem, -⟩
    · exact ⟨rs₁, r, back, e, rfl, hall, (Route.read_toValue_eq_error_iff hr).1 he, rfl⟩
    · obtain ⟨rfl, -⟩ := (Route.read_toValue_eq_ok_iff hr).1 hread
      exact absurd hmem ((markOnce_cons_iff.1 hthen).1 phase rfl)
  · rintro ⟨front, r, back, e, rfl, hall, he, rfl⟩
    obtain ⟨hemits, hrest⟩ := List.forall_mem_append.1 hemitted
    refine ⟨front.map Route.toValue, r.toValue, back.map Route.toValue, front, by simp,
      (readFrom_eq_ok_iff hemits (markOnce_append_iff.1 honce).1).2 ⟨rfl, hall⟩, ?_⟩
    rw [readEntry_eq_error_iff, List.length_map]
    exact Or.inl ⟨e, (Route.read_toValue_eq_error_iff (hrest r List.mem_cons_self)).2 he, rfl⟩

end Table
end RouteTable
