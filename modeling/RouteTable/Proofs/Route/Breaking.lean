/-
# Entries that break

An entry is read, or it is invalid, or it is neither (`Route.Breaks`).  Then reading it fails with
an error that says nothing about the entry:

| entry | why it breaks |
| --- | --- |
| a route | its headers can be made no map |
| a map | the name of a field cannot be written |
| a phase marker | the phase is not hashable, and is looked up before its kind is asked for |
| a phase marker | the phase is none, and cannot be written |
| what has a source | the engine breaks on it |
| what has headers | a name among them cannot be written |
| a redirect | its status is none, and cannot be written |

What cannot be written is shown in the words of a refusal, and that is where it is missed.  Every
other reader of a field refuses what it does not take (`Route.OnlyRefuses`), and so do readers one
after another.  So nothing else breaks (`Route.cases_of_read`), and all this does
(`Route.Breaks.read_eq`).
-/

import RouteTable.Proofs.Route.Acceptance

namespace RouteTable

/-! ### Entries that break -/

namespace Route

variable {engine : Regex.Engine} {fs : Fields} {r : Route} {v : Value} {e : Failure}

/-- Fields that mark no phase, and have a source that the engine accepts. -/
structure Fields.HasSource (engine : Regex.Engine) (fs : Fields) : Prop where
  handle : fs.get? "handle" = none
  source : ∃ src, fs.get? "src" = some (.text src) ∧ IsUsable engine src

/-- A field is set, and none of some others is. -/
structure Fields.SetsAlone (fs : Fields) (name : String) (others : List String) : Prop where
  set : fs.get? name ≠ none
  others : ∀ other ∈ others, fs.get? other = none

/-- The fields that are neither read nor invalid, and how they fail. -/
inductive Fields.Breaks (engine : Regex.Engine) (fs : Fields) : Failure → Prop
  | marker {marker : Value} {kind : String} (hnames : ∀ f ∈ fs, f.1 = "handle".text)
    (hmarker : fs.get? "handle" = some marker) (hkind : marker.unhashable? = some kind) :
    Breaks engine fs (.fault (.unhashable kind))
  | phase {marker : Value} (hnames : ∀ f ∈ fs, f.1 = "handle".text)
    (hmarker : fs.get? "handle" = some marker) (hhashable : marker.unhashable? = none)
    (hlong : marker.isWritable = false) : Breaks engine fs (.fault .numeralTooLong)
  | source {src : Text} {b : Regex.Breakdown} (hhandle : fs.get? "handle" = none)
    (hsrc : fs.get? "src" = some (.text src)) (hne : src ≠ [])
    (hcheck : engine.check (withAnchors src) = .error (.broken b)) : Breaks engine fs (.regex b)
  | header {hs : Headers} {key w : Value} {rest : List (Value × Value)}
    (hsrc : fs.HasSource engine)
    (hshape : fs.SetsAlone "continue" ["dest", "status", "check"] ∨
      fs.SetsAlone "status" ["continue", "dest", "check"])
    (hheaders : fs.get? "headers" = some (.map (hs.toEntries ++ (key, w) :: rest)))
    (hlong : key.isWritable = false) : Breaks engine fs (.fault .numeralTooLong)
  | status {hs : Headers} {n : Int} (hsrc : fs.HasSource engine)
    (hshape : fs.SetsAlone "status" ["continue", "dest", "check"])
    (hheaders : fs.get? "headers" = some (.map hs.toEntries))
    (hlocation : hs.any (fun h => isLocation h.1) = true)
    (hstatus : fs.get? "status" = some (.int n)) (hn : n ∉ redirectStatuses)
    (hlong : (Value.int n).isWritable = false) : Breaks engine fs (.fault .numeralTooLong)

/-- The entries that are neither read nor invalid, and how they fail. -/
inductive Breaks (engine : Regex.Engine) (v : Value) : Failure → Prop
  | headers {fault : Value.Fault} (h : v.routeWire? = some (.error fault)) :
    Breaks engine v (.fault fault)
  | name {fs : Fields} {key w : Value} {rest : List (Value × Value)}
    (hfs : v.wireForm = .map (fs.map Fields.entry ++ (key, w) :: rest))
    (hlong : key.isWritable = false) : Breaks engine v (.fault .numeralTooLong)
  | fields {fs : Fields} {e : Failure} (hfs : v.wireForm = .map (fs.map Fields.entry))
    (hknown : ∀ f ∈ fs, f.1 ∈ fieldNames.map String.text) (h : fs.Breaks engine e) :
    Breaks engine v e

/-! Most readers of a field refuse what they do not take. -/

/-- What fails for nothing but that something is invalid. -/
def OnlyRefuses {α : Type} (x : Except Failure α) : Prop :=
  ∀ e, x = .error e → ∃ p, e = .invalid p

namespace OnlyRefuses

variable {α β : Type}

theorem of_eq_ok {x : Except Failure α} {a : α} (hx : x = .ok a) : OnlyRefuses x := by
  intro e h
  cases hx.symm.trans h

theorem ok (a : α) : OnlyRefuses (.ok a) := of_eq_ok rfl

/-- What is invalid is refused. -/
theorem invalid (p : Problem) : OnlyRefuses (.error (.invalid p) : Except Failure α) := by
  intro e h
  cases h
  exact ⟨p, rfl⟩

theorem refuse (field : String) (reason : Reason) :
    OnlyRefuses (Route.refuse field reason : Except Failure α) :=
  invalid _

theorem bind {x : Except Failure α} {f : α → Except Failure β} (hx : OnlyRefuses x)
    (hf : ∀ a, OnlyRefuses (f a)) : OnlyRefuses (x >>= f) :=
  Outcome.forall_of_bind_eq_error hx hf

/-- Fields that exclude each other are refused. -/
theorem forbid (fs : Fields) (owner : String) (names : List String) :
    OnlyRefuses (Route.forbid fs owner names) := by
  induction names with
  | nil => exact ok ()
  | cons name names ih =>
    unfold Route.forbid
    split
    · exact refuse _ _
    · exact ih

/-- A switch is refused if it is no truth value. -/
theorem readSwitch (field : String) (v : Value) : OnlyRefuses (Route.readSwitch field v) := by
  unfold Route.readSwitch
  split
  · exact ok _
  · exact refuse _ _

/-- A check is refused if it is no truth value. -/
theorem readCheck (fs : Fields) : OnlyRefuses (Route.readCheck fs) := by
  unfold Route.readCheck
  split
  · exact readSwitch _ _
  · exact ok _

end OnlyRefuses

/-! The others are those of markers and of sources, and all that show a value. -/

/-- What shows a value refuses it, or the value cannot be written. -/
theorem cases_of_refuseShowing {α : Type} {field : Option Text} {reason : Text → Reason}
    (h : (refuseShowing field v reason : Except Failure α) = .error e) :
    (∃ p, e = .invalid p) ∨ v.isWritable = false ∧ e = .fault .numeralTooLong := by
  rw [refuseShowing_eq] at h
  split at h
  · cases h
    exact .inl ⟨_, rfl⟩
  · rename_i hlong
    cases h
    exact .inr ⟨eq_false_of_ne_true hlong, rfl⟩

/-- What cannot be written is no text. -/
theorem ne_text_of_not_isWritable (h : v.isWritable = false) (t : Text) : v ≠ .text t := by
  rintro rfl
  cases h

/-- A value that cannot be written is a fault of the words that show it. -/
theorem refuseShowing_of_not_isWritable {α : Type} (field : Option Text) (reason : Text → Reason)
    (h : v.isWritable = false) :
    (refuseShowing field v reason : Except Failure α) = .error (.fault .numeralTooLong) := by
  rw [refuseShowing_eq, h, if_neg Bool.false_ne_true]

/-- Keys are refused, or the first that is no text is a number that cannot be written. -/
theorem cases_of_toFields {es : List (Value × Value)} (h : toFields es = .error e) :
    (∃ p, e = .invalid p) ∨
      ∃ fs : Fields, ∃ key w rest, es = fs.map Fields.entry ++ (key, w) :: rest ∧
      key.isWritable = false ∧ e = .fault .numeralTooLong := by
  induction es with
  | nil => cases h
  | cons entry es ih =>
    unfold toFields at h
    split at h
    · rename_i heq
      cases heq
    · rename_i t v es' heq
      cases heq
      refine (ih (Outcome.map_eq_error.1 h)).imp_right ?_
      rintro ⟨fs, key, w, rest, rfl, hlong, rfl⟩
      exact ⟨(t, v) :: fs, key, w, rest, rfl, hlong, rfl⟩
    · rename_i key w es' hkey heq
      cases heq
      refine (cases_of_refuseShowing h).imp_right ?_
      rintro ⟨hlong, rfl⟩
      exact ⟨[], key, w, es, rfl, hlong, rfl⟩

/-- Behind texts, a key that cannot be written has no name. -/
theorem toFields_of_name (fs : Fields) {key w : Value} {rest : List (Value × Value)}
    (hlong : key.isWritable = false) : toFields (fs.map Fields.entry ++ (key, w) :: rest) =
      .error (.fault .numeralTooLong) := by
  induction fs with
  | nil =>
    change toFields ((key, w) :: rest) = _
    rw [toFields, refuseShowing_of_not_isWritable _ _ hlong]
    exact fun t ht => ne_text_of_not_isWritable hlong t ht
  | cons f fs ih =>
    rw [List.map_cons, List.cons_append, Fields.entry, toFields, ih]
    rfl

/-- Headers are refused, or the first that is no text cannot be written. -/
theorem cases_of_toHeaders {es : List (Value × Value)} (h : toHeaders es = .error e) :
    (∃ p, e = .invalid p) ∨ ∃ hs : Headers, ∃ key w rest, es = hs.toEntries ++ (key, w) :: rest ∧
      key.isWritable = false ∧ e = .fault .numeralTooLong := by
  induction es with
  | nil => cases h
  | cons entry es ih =>
    unfold toHeaders at h
    split at h
    · rename_i heq
      cases heq
    · rename_i k v es' heq
      cases heq
      refine (ih (Outcome.map_eq_error.1 h)).imp_right ?_
      rintro ⟨hs, key, w, rest, rfl, hlong, rfl⟩
      exact ⟨(k, v) :: hs, key, w, rest, rfl, hlong, rfl⟩
    · rename_i key w es' hkey heq
      cases heq
      refine (cases_of_refuseShowing h).imp_right ?_
      rintro ⟨hlong, rfl⟩
      exact ⟨[], key, w, es, rfl, hlong, rfl⟩

/-- Behind headers, a key that cannot be written is no header. -/
theorem toHeaders_of_key (hs : Headers) {key w : Value} {rest : List (Value × Value)}
    (hlong : key.isWritable = false) : toHeaders (hs.toEntries ++ (key, w) :: rest) =
      .error (.fault .numeralTooLong) := by
  induction hs with
  | nil =>
    change toHeaders ((key, w) :: rest) = _
    rw [toHeaders, refuseShowing_of_not_isWritable _ _ hlong]
    exact fun t u ht _ => ne_text_of_not_isWritable hlong t ht
  | cons header hs ih =>
    rw [Headers.toEntries] at ih
    rw [Headers.toEntries, List.map_cons, List.cons_append, toHeaders, ih]
    rfl

/-- The headers of a route are refused, or one of their keys cannot be written. -/
theorem cases_of_readHeaders (h : readHeaders fs = .error e) : (∃ p, e = .invalid p) ∨
    ∃ hs : Headers, ∃ key w rest,
      fs.get? "headers" = some (.map (hs.toEntries ++ (key, w) :: rest)) ∧
      key.isWritable = false ∧ e = .fault .numeralTooLong := by
  unfold readHeaders at h
  split at h
  · rename_i es hes
    refine (cases_of_toHeaders h).imp_right ?_
    rintro ⟨hs, key, w, rest, rfl, hlong, rfl⟩
    refine ⟨hs, key, w, rest, ?_, hlong, rfl⟩
    cases hget : fs.get? "headers" with
    | none =>
      rw [hget] at hes
      cases hes
    | some v =>
      rw [hget] at hes
      exact congrArg some hes
  · exact .inl (OnlyRefuses.refuse _ _ _ h)

/-- A key that cannot be written breaks the headers of a route. -/
theorem readHeaders_of_key {hs : Headers} {key w : Value} {rest : List (Value × Value)}
    (h : fs.get? "headers" = some (.map (hs.toEntries ++ (key, w) :: rest)))
    (hlong : key.isWritable = false) : readHeaders fs = .error (.fault .numeralTooLong) := by
  unfold readHeaders
  rw [h]
  exact toHeaders_of_key hs hlong

/-- A marker is refused, or it breaks. -/
theorem cases_of_readHandle (hmarker : fs.get? "handle" = some v)
    (h : readHandle fs v = .error e) : (∃ p, e = .invalid p) ∨ fs.Breaks engine e := by
  unfold readHandle at h
  split at h
  · cases h
    exact .inl ⟨_, rfl⟩
  · rename_i hothers
    have hnames : ∀ f ∈ fs, f.1 = "handle".text := fun f hf =>
      List.mem_singleton.1 (Fields.others_eq_nil_iff.1 hothers f hf)
    split at h
    · rename_i kind hkind
      cases h
      exact .inr (.marker hnames hmarker hkind)
    · rename_i hhashable
      have hshown : (refuseShowing (some "handle".text) v .unknownPhase : Except Failure Route) =
          .error e := by
        split at h
        · split at h
          · cases h
          · exact h
        · exact h
      refine (cases_of_refuseShowing hshown).imp_right ?_
      rintro ⟨hlong, rfl⟩
      exact .phase hnames hmarker hhashable hlong

/-- A source is refused, or the engine breaks on it. -/
theorem cases_of_readSource (h : readSource engine v = .error e) : (∃ p, e = .invalid p) ∨
    ∃ src b, v = .text src ∧ src ≠ [] ∧
      engine.check (withAnchors src) = .error (.broken b) ∧ e = .regex b := by
  unfold readSource at h
  split at h
  · rename_i c t
    rw [anchor_eq_withAnchors (List.cons_ne_nil c t)] at h
    dsimp only at h
    split at h
    · cases h
    · exact Or.inl (OnlyRefuses.refuse _ _ _ h)
    · rename_i b hcheck
      cases h
      exact Or.inr ⟨c :: t, b, rfl, List.cons_ne_nil c t, hcheck, rfl⟩
  · exact Or.inl (OnlyRefuses.refuse _ _ _ h)

/-! ### Fields that break -/

section behind

/-! What is read behind a source that is accepted depends on which field is set. -/

variable {src : Text} (hhandle : fs.get? "handle" = none) (hv : fs.get? "src" = some v)
  (hsrc : readSource engine v = .ok src)

include hhandle hv hsrc

/-- With `continue` the other kinds are excluded, and the headers are read. -/
theorem ofFields_goOn {goOn : Value} (hgoOn : fs.get? "continue" = some goOn) :
    ofFields engine fs = (forbid fs "continue" ["dest", "status", "check"] >>= fun _ =>
      readHeaders fs >>= fun hs => readSwitch "continue" goOn >>= fun b =>
        .ok (.headers src hs b)) := by
  unfold ofFields
  rw [hhandle, hv]
  change (readSource engine v >>= _) = _
  rw [hsrc, hgoOn]
  rfl

variable (hgoOn : fs.get? "continue" = none)

include hgoOn

/-- With `dest` the other kinds are excluded, and the destination is read. -/
theorem ofFields_dest {dest : Value} (hdest : fs.get? "dest" = some dest) :
    ofFields engine fs = (forbid fs "dest" ["status", "headers"] >>= fun _ =>
      match dest with
      | .text dest => readCheck fs >>= fun check => .ok (.rewrite src dest check)
      | _ => refuse "dest" (.destNotText dest.kind)) := by
  unfold ofFields
  rw [hhandle, hv]
  change (readSource engine v >>= _) = _
  rw [hsrc, hgoOn, hdest]
  cases forbid fs "dest" ["status", "headers"] with
  | error e => rfl
  | ok u => cases dest <;> rfl

variable (hdest : fs.get? "dest" = none)

include hdest

/-- With `status` the headers are read, and need a location. -/
theorem ofFields_status {status : Value} (hstatus : fs.get? "status" = some status) :
    ofFields engine fs = (forbid fs "status" ["check"] >>= fun _ => readHeaders fs >>= fun hs =>
      if hs.any (fun h => isLocation h.1) = true then
        readStatus status >>= fun n => .ok (.redirect src hs (.int n))
      else refuse "headers" .noLocation) := by
  unfold ofFields
  rw [hhandle, hv]
  change (readSource engine v >>= _) = _
  rw [hsrc, hgoOn, hdest, hstatus]
  change (forbid fs "status" ["check"] >>= _) = _
  refine congrArg _ (funext fun _ => ?_)
  refine congrArg _ (funext fun hs => ?_)
  cases hs.any fun h => isLocation h.1 <;> rfl

/-- Without a field of any kind a source is refused. -/
theorem ofFields_noKind (hstatus : fs.get? "status" = none) :
    ofFields engine fs = .error (.invalid ⟨.noKind, none⟩) := by
  unfold ofFields
  rw [hhandle, hv]
  change (readSource engine v >>= _) = _
  rw [hsrc, hgoOn, hdest, hstatus]
  rfl

end behind

/-- **Fields that are not read are invalid, or break.** -/
theorem cases_of_ofFields (h : ofFields engine fs = .error e) :
    (∃ p, e = .invalid p) ∨ fs.Breaks engine e := by
  cases hhandle : fs.get? "handle" with
  | some marker =>
    rw [ofFields_marker hhandle] at h
    exact cases_of_readHandle hhandle h
  | none =>
  cases hv : fs.get? "src" with
  | none =>
    rw [ofFields_sourceless hhandle hv] at h
    cases h
    exact .inl ⟨_, rfl⟩
  | some v =>
  cases hread : readSource engine v with
  | error e' =>
    rw [ofFields_refusedSource hhandle hv hread] at h
    cases h
    refine (cases_of_readSource hread).imp_right ?_
    rintro ⟨src, b, rfl, hne, hcheck, rfl⟩
    exact .source hhandle hv hne hcheck
  | ok src =>
  have hsource : fs.HasSource engine := by
    obtain ⟨t, rfl, husable, -⟩ := exists_of_readSource hread
    exact ⟨hhandle, t, hv, husable⟩
  cases hgoOn : fs.get? "continue" with
  | some goOn =>
    rw [ofFields_goOn hhandle hv hread hgoOn] at h
    rcases Outcome.bind_eq_error.1 h with h | ⟨_, halone, h⟩
    · exact .inl (OnlyRefuses.forbid _ _ _ e h)
    rcases Outcome.bind_eq_error.1 h with h | ⟨hs, -, h⟩
    · refine (cases_of_readHeaders h).imp_right ?_
      rintro ⟨hs, key, w, rest, hheaders, hlong, rfl⟩
      have hset : fs.get? "continue" ≠ none := hgoOn ▸ Option.some_ne_none goOn
      exact .header hsource (.inl ⟨hset, forbid_eq_ok_iff.1 halone⟩) hheaders hlong
    · exact .inl (OnlyRefuses.bind (OnlyRefuses.readSwitch _ _) (fun _ => .ok _) e h)
  | none =>
  cases hdest : fs.get? "dest" with
  | some dest =>
    rw [ofFields_dest hhandle hv hread hgoOn hdest] at h
    refine .inl (OnlyRefuses.bind (.forbid _ _ _) (fun _ => ?_) e h)
    split
    · exact (OnlyRefuses.readCheck fs).bind fun _ => .ok _
    · exact .refuse _ _
  | none =>
  cases hstatus : fs.get? "status" with
  | none =>
    rw [ofFields_noKind hhandle hv hread hgoOn hdest hstatus] at h
    exact .inl (OnlyRefuses.invalid _ e h)
  | some status =>
    rw [ofFields_status hhandle hv hread hgoOn hdest hstatus] at h
    rcases Outcome.bind_eq_error.1 h with h | ⟨_, halone, h⟩
    · exact .inl (OnlyRefuses.forbid _ _ _ e h)
    have hshape : fs.SetsAlone "status" ["continue", "dest", "check"] := by
      refine ⟨hstatus ▸ Option.some_ne_none status, ?_⟩
      rw [List.forall_mem_cons, List.forall_mem_cons]
      exact ⟨hgoOn, hdest, forbid_eq_ok_iff.1 halone⟩
    rcases Outcome.bind_eq_error.1 h with h | ⟨hs, hheaders, h⟩
    · refine (cases_of_readHeaders h).imp_right ?_
      rintro ⟨hs, key, w, rest, hheaders, hlong, rfl⟩
      exact .header hsource (.inr hshape) hheaders hlong
    · split at h
      · rename_i hlocation
        rcases Outcome.bind_eq_error.1 h with h | ⟨n, -, h⟩
        · rcases cases_of_readStatus h with ⟨reason, rfl⟩ | ⟨n, rfl, hn, hlong, rfl⟩
          · exact .inl ⟨_, rfl⟩
          · exact .inr (.status hsource hshape (readHeaders_eq_ok_iff.1 hheaders) hlocation hstatus
              hn hlong)
        · cases h
      · exact .inl (OnlyRefuses.refuse _ _ e h)

/-- Fields that break are not read. -/
theorem Fields.Breaks.ofFields_eq (h : fs.Breaks engine e) : ofFields engine fs = .error e := by
  have halone : (∀ f ∈ fs, f.1 = "handle".text) → fs.others ["handle"] = [] := fun hnames =>
    Fields.others_eq_nil_iff.2 fun f hf => List.mem_singleton.2 (hnames f hf)
  cases h with
  | marker hnames hmarker hkind =>
    rw [ofFields_marker hmarker]
    unfold readHandle
    rw [halone hnames, hkind]
  | @phase marker hnames hmarker hhashable hlong =>
    have hshown := refuseShowing_of_not_isWritable (α := Route) (some "handle".text) .unknownPhase
      hlong
    rw [ofFields_marker hmarker]
    unfold readHandle
    rw [halone hnames, hhashable]
    dsimp only
    split
    · cases hlong
    · exact hshown
  | @source src b hhandle hsrc hne hcheck =>
    refine ofFields_refusedSource hhandle hsrc ?_
    obtain ⟨c, t, rfl⟩ := List.exists_cons_of_ne_nil hne
    rw [readSource, anchor_eq_withAnchors hne, hcheck]
  | @header hs key w rest hsrc hshape hheaders hlong =>
    obtain ⟨hhandle, src, hv, husable⟩ := hsrc
    have hread := readHeaders_of_key hheaders hlong
    rcases hshape with ⟨hset, hothers⟩ | ⟨hset, hothers⟩
    · obtain ⟨goOn, hgoOn⟩ := Option.ne_none_iff_exists'.1 hset
      rw [ofFields_goOn hhandle hv husable.readSource_eq hgoOn, forbid_eq_ok_iff.2 hothers, hread]
      rfl
    · obtain ⟨status, hstatus⟩ := Option.ne_none_iff_exists'.1 hset
      rw [List.forall_mem_cons, List.forall_mem_cons] at hothers
      obtain ⟨hgoOn, hdest, hothers⟩ := hothers
      rw [ofFields_status hhandle hv husable.readSource_eq hgoOn hdest hstatus,
        forbid_eq_ok_iff.2 hothers, hread]
      rfl
  | @status hs n hsrc hshape hheaders hlocation hstatus hn hlong =>
    obtain ⟨hhandle, src, hv, husable⟩ := hsrc
    have hothers := hshape.others
    rw [List.forall_mem_cons, List.forall_mem_cons] at hothers
    obtain ⟨hgoOn, hdest, hothers⟩ := hothers
    have hread : readStatus (.int n) = .error (.fault .numeralTooLong) := by
      refine readStatus_eq_error_iff.2 ⟨hn, ?_⟩
      rw [hlong, if_neg Bool.false_ne_true]
    have hheaders := readHeaders_eq_ok_iff.2 hheaders
    rw [ofFields_status hhandle hv husable.readSource_eq hgoOn hdest hstatus,
      forbid_eq_ok_iff.2 hothers, hheaders]
    change (if _ then _ else _) = _
    rw [if_pos hlocation, hread]
    rfl

/-! ### Entries -/

/-- **What is not read is invalid, or breaks.** -/
theorem cases_of_read (h : read engine v = .error e) :
    (∃ p, e = .invalid p) ∨ Breaks engine v e := by
  rcases read_cases engine v with ⟨es, hes⟩ | ⟨fault, hfault, hv⟩ | ⟨p, hv⟩
  · rw [← read_wireForm, hes, read_map] at h
    unfold ofWire at h
    split at h
    · rename_i e' hfields
      cases h
      refine (cases_of_toFields hfields).imp_right ?_
      rintro ⟨fs, key, w, rest, rfl, hlong, rfl⟩
      exact .name hes hlong
    · rename_i fs hfs
      rw [toFields_eq_ok_iff.1 hfs] at hes
      split at h
      · cases h
        exact Or.inl ⟨_, rfl⟩
      · rename_i hothers
        exact (cases_of_ofFields h).imp_right (.fields hes (Fields.others_eq_nil_iff.1 hothers))
  · cases hv.symm.trans h
    exact Or.inr (.headers hfault)
  · cases hv.symm.trans h
    exact Or.inl ⟨p, rfl⟩

/-- An entry that breaks is not read. -/
theorem Breaks.read_eq (h : Breaks engine v e) : read engine v = .error e := by
  cases h with
  | headers h =>
    unfold read
    rw [h]
  | @name fs key w rest hfs hlong =>
    rw [← read_wireForm, hfs, read_map, ofWire, toFields_of_name fs hlong]
  | fields hfs hknown h =>
    rw [← read_wireForm, hfs, read_map, ofWire_map_entry hknown]
    exact h.ofFields_eq

/-- An entry that breaks is not invalid. -/
theorem Breaks.ne_invalid (h : Breaks engine v e) (p : Problem) : e ≠ .invalid p := by
  cases h with
  | headers | name => exact nofun
  | fields _ _ h => cases h <;> exact nofun

/-- **Where an engine breaks on an entry, it is on the source of the entry.** -/
theorem Breaks.exists_source {b : Regex.Breakdown} (h : Breaks engine v (.regex b)) :
    ∃ src, engine.check (withAnchors src) = .error (.broken b) ∧
      (withAnchors src).head? = some (scalar '^') := by
  cases h with
  | fields _ _ h =>
    cases h with
    | @source src b hhandle hsrc hne hcheck =>
      exact ⟨src, hcheck, anchor_eq_withAnchors hne ▸ head?_anchor src⟩

end Route

end RouteTable
