/-
# The four shapes of an entry

`Shape` says what makes a route of the fields of an entry, with one constructor for each of
the four shapes, and `ofFields_eq_ok_iff` that nothing else does.  What is said of the
routes that are read is said by cases on their shapes.
-/

import RouteTable.Route.Reader

namespace RouteTable
namespace Route

/-- What makes a route of fields. -/
inductive Shape (engine : Regex.Engine) (fs : Fields) : Route → Prop
  | handle {marker : Value} {r : Route} (hmarker : fs.get? "handle" = some marker)
    (hr : readHandle fs marker = .ok r) : Shape engine fs r
  | headers {v goOn : Value} {src : Text} {hs : Headers} {b : Bool}
    (hhandle : fs.get? "handle" = none) (hv : fs.get? "src" = some v)
    (hsrc : readSource engine v = .ok src) (hgoOn : fs.get? "continue" = some goOn)
    (halone : forbid fs "continue" ["dest", "status", "check"] = .ok ())
    (hhs : readHeaders fs = .ok hs) (hb : readSwitch "continue" goOn = .ok b) :
    Shape engine fs (.headers src hs b)
  | rewrite {v : Value} {src dest : Text} {b : Bool}
    (hhandle : fs.get? "handle" = none) (hv : fs.get? "src" = some v)
    (hsrc : readSource engine v = .ok src) (hgoOn : fs.get? "continue" = none)
    (hdest : fs.get? "dest" = some (.text dest))
    (halone : forbid fs "dest" ["status", "headers"] = .ok ()) (hb : readCheck fs = .ok b) :
    Shape engine fs (.rewrite src dest b)
  | redirect {v status : Value} {src : Text} {hs : Headers} {n : Int}
    (hhandle : fs.get? "handle" = none) (hv : fs.get? "src" = some v)
    (hsrc : readSource engine v = .ok src) (hgoOn : fs.get? "continue" = none)
    (hdest : fs.get? "dest" = none) (hstatus : fs.get? "status" = some status)
    (halone : forbid fs "status" ["check"] = .ok ()) (hhs : readHeaders fs = .ok hs)
    (hlocation : hs.any (fun h => isLocation h.1) = true) (hn : readStatus status = .ok n) :
    Shape engine fs (.redirect src hs (.int n))

variable {engine : Regex.Engine} {fs : Fields} {r : Route}

theorem refuse_ne_ok {α : Type} {field : String} {reason : Reason} {a : α} :
    (refuse field reason : Except Failure α) ≠ .ok a := by
  intro h
  cases h

/-- **A value is shown in the words of a refusal,** or it is at fault for what cannot be written
of it. -/
theorem refuseShowing_eq {α : Type} (field : Option Text) (v : Value) (reason : Text → Reason) :
    (refuseShowing field v reason : Except Failure α) =
      if v.isWritable = true then .error (.invalid ⟨reason v.display, field⟩)
      else .error (.fault .numeralTooLong) := by
  unfold refuseShowing Value.shown
  by_cases hv : v.isWritable = true
  · rw [if_pos hv, if_pos hv]
  · rw [if_neg hv, if_neg hv]

/-- What is refused with a value shown does not succeed. -/
theorem refuseShowing_ne_ok {α : Type} {field : Option Text} {v : Value} {reason : Text → Reason}
    {a : α} : (refuseShowing field v reason : Except Failure α) ≠ .ok a := by
  intro h
  rw [refuseShowing_eq] at h
  split at h
  · cases h
  · cases h

/-! A marker is read alone, and of the others nothing is read behind a source that fails. -/

/-- With `handle` the fields are those of a marker. -/
theorem ofFields_marker {marker : Value} (hmarker : fs.get? "handle" = some marker) :
    ofFields engine fs = readHandle fs marker := by
  unfold ofFields
  rw [hmarker]

/-- Without `handle` and without `src` nothing is read. -/
theorem ofFields_sourceless (hhandle : fs.get? "handle" = none) (hv : fs.get? "src" = none) :
    ofFields engine fs = .error (.invalid ⟨.neitherHandleNorSource, none⟩) := by
  unfold ofFields
  rw [hhandle, hv]
  rfl

/-- Fields fail as their source does. -/
theorem ofFields_refusedSource {v : Value} {e : Failure} (hhandle : fs.get? "handle" = none)
    (hv : fs.get? "src" = some v) (hsrc : readSource engine v = .error e) :
    ofFields engine fs = .error e := by
  unfold ofFields
  rw [hhandle, hv]
  exact Outcome.bind_eq_error.2 (Or.inl hsrc)

/-- **What is read from fields has their shape.** -/
theorem shape_of_ofFields (h : ofFields engine fs = .ok r) : Shape engine fs r := by
  cases hhandle : fs.get? "handle" with
  | some marker =>
    rw [ofFields_marker hhandle] at h
    exact .handle hhandle h
  | none =>
  unfold ofFields at h
  rw [hhandle] at h
  cases hv : fs.get? "src" with
  | none =>
    rw [hv] at h
    cases h
  | some v =>
  rw [hv] at h
  obtain ⟨src, hsrc, h⟩ := Outcome.bind_eq_ok.1 h
  cases hgoOn : fs.get? "continue" with
  | some goOn =>
    rw [hgoOn] at h
    obtain ⟨_, halone, h⟩ := Outcome.bind_eq_ok.1 h
    obtain ⟨hs, hhs, h⟩ := Outcome.bind_eq_ok.1 h
    obtain ⟨b, hb, h⟩ := Outcome.bind_eq_ok.1 h
    cases h
    exact .headers hhandle hv hsrc hgoOn halone hhs hb
  | none =>
  rw [hgoOn] at h
  cases hdest : fs.get? "dest" with
  | some dest =>
    rw [hdest] at h
    obtain ⟨_, halone, h⟩ := Outcome.bind_eq_ok.1 h
    split at h
    · obtain ⟨b, hb, h⟩ := Outcome.bind_eq_ok.1 h
      cases h
      exact .rewrite hhandle hv hsrc hgoOn hdest halone hb
    · obtain ⟨_, hrefused, h⟩ := Outcome.bind_eq_ok.1 h
      exact absurd hrefused refuse_ne_ok
  | none =>
  rw [hdest] at h
  cases hstatus : fs.get? "status" with
  | none =>
    rw [hstatus] at h
    cases h
  | some status =>
    rw [hstatus] at h
    obtain ⟨_, halone, h⟩ := Outcome.bind_eq_ok.1 h
    obtain ⟨hs, hhs, h⟩ := Outcome.bind_eq_ok.1 h
    split at h
    · obtain ⟨_, hrefused, h⟩ := Outcome.bind_eq_ok.1 h
      exact absurd hrefused refuse_ne_ok
    · rename_i hlocation
      obtain ⟨n, hn, h⟩ := Outcome.bind_eq_ok.1 h
      cases h
      refine .redirect hhandle hv hsrc hgoOn hdest hstatus halone hhs ?_ hn
      simpa using hlocation

/-- **Fields are read as a route in exactly four shapes.** -/
theorem ofFields_eq_ok_iff : ofFields engine fs = .ok r ↔ Shape engine fs r := by
  constructor
  · exact shape_of_ofFields
  · intro h
    cases h with
    | handle hmarker hr => exact (ofFields_marker hmarker).trans hr
    | headers hhandle hv hsrc hgoOn halone hhs hb =>
      simp only [ofFields, hhandle, hv, hgoOn]
      refine Outcome.bind_eq_ok.2 ⟨_, hsrc, Outcome.bind_eq_ok.2 ⟨_, halone, ?_⟩⟩
      exact Outcome.bind_eq_ok.2 ⟨_, hhs, Outcome.bind_eq_ok.2 ⟨_, hb, rfl⟩⟩
    | rewrite hhandle hv hsrc hgoOn hdest halone hb =>
      simp only [ofFields, hhandle, hv, hgoOn, hdest]
      refine Outcome.bind_eq_ok.2 ⟨_, hsrc, Outcome.bind_eq_ok.2 ⟨_, halone, ?_⟩⟩
      exact Outcome.bind_eq_ok.2 ⟨_, hb, rfl⟩
    | redirect hhandle hv hsrc hgoOn hdest hstatus halone hhs hlocation hn =>
      simp only [ofFields, hhandle, hv, hgoOn, hdest, hstatus]
      refine Outcome.bind_eq_ok.2 ⟨_, hsrc, Outcome.bind_eq_ok.2 ⟨_, halone, ?_⟩⟩
      refine Outcome.bind_eq_ok.2 ⟨_, hhs, ?_⟩
      rw [hlocation]
      exact Outcome.bind_eq_ok.2 ⟨_, hn, rfl⟩

end Route
end RouteTable
