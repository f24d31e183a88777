/-
# Verdicts

A table that is read has a verdict, and so has one that fails at an invalid entry.  An entry that
breaks is neither read nor invalid, so a table has no verdict exactly if it breaks at an entry
behind entries that are a table (`Table.judge_list`).  A marker of the phase `[]` is such an entry
(`Table.judge_unhashableMarker`).
-/

import RouteTable.Proofs.Regex.Faults
import RouteTable.Proofs.Route.Batches
import RouteTable.Proofs.Route.Breaking

namespace RouteTable

namespace Table

variable {engine : Regex.Engine} {entries : Value} {vs : List Value} {rs : List Route}
  {f : Failure}

/-- A table is accepted exactly if it is read. -/
theorem judge_eq_accepted_iff :
    judge engine entries = .ok (.accepted rs) ↔ read engine entries = .ok rs := by
  constructor
  · intro h
    unfold judge at h
    split at h
    · rename_i hread
      cases h
      exact hread
    · cases h
    · cases h
  · intro h
    rw [judge, h]

/-- A table is rejected exactly for a route that is invalid. -/
theorem judge_eq_rejected_iff : judge engine entries = .ok (.rejected f) ↔
    ∃ e, f = .route e ∧ read engine entries = .error (.route e) := by
  constructor
  · intro h
    unfold judge at h
    split at h
    · cases h
    · rename_i e hread
      cases h
      exact ⟨e, rfl, hread⟩
    · cases h
  · rintro ⟨e, rfl, h⟩
    rw [judge, h]

/-- A table has no verdict exactly if it fails for something else. -/
theorem judge_eq_error_iff : judge engine entries = .error f ↔
    (∀ e, f ≠ .route e) ∧ read engine entries = .error f := by
  constructor
  · intro h
    unfold judge at h
    split at h
    · cases h
    · cases h
    · rename_i e hne hread
      cases h
      exact ⟨hne, hread⟩
  · rintro ⟨hne, h⟩
    unfold judge
    rw [h]
    cases f with
    | route e => exact absurd rfl (hne e)
    | _ => rfl

/-- An entry that breaks breaks its batch, behind entries that are accepted. -/
theorem judge_of_breaks {front back : List Value} {v : Value} {e : Route.Failure}
    (hfront : read engine (.list front) = .ok rs) (h : Route.Breaks engine v e) :
    judge engine (.list (front ++ v :: back)) =
      .error (Failure.ofEntry (some front.length) e) := by
  rw [read_list] at hfront
  rw [judge_eq_error_iff, read_list]
  constructor
  · intro e' he'
    cases e with
    | invalid p => exact h.ne_invalid p rfl
    | fault | regex => cases he'
  · refine readFrom_eq_error_iff_exists.2 ⟨front, v, back, rs, rfl, hfront, ?_⟩
    rw [Nat.zero_add]
    exact readEntry_eq_error_iff.2 (Or.inl ⟨e, h.read_eq, rfl⟩)

/-- **When a batch has a verdict.**  It has none exactly if one of its entries breaks, those
before it being a table, and that is how it fails; so it has one if no entry breaks.  A table
that is accepted has a route for each entry.  What rejects a batch is about one entry and tells
its position; the entries before it are a table, and with it they are none.

The backtracking engine breaks on a source that exhausts the stack, or for a number in it that is
too large for a bound or too long to be read.  A linear engine that is as documented breaks on a
source that has no bytes, and on no other. -/
theorem judge_list (engine : Regex.Engine) (vs : List Value) :
    (∀ f, judge engine (.list vs) = .error f ↔ ∃ front v back rs e, vs = front ++ v :: back ∧
      read engine (.list front) = .ok rs ∧ Route.Breaks engine v e ∧
        f = Failure.ofEntry (some front.length) e) ∧
    (∀ rt v b, engine = .backtracking rt → Route.Breaks engine v (.regex b) →
      (∃ src message, rt.exhausted? src = some message ∧ b = .stack message) ∨
        b = .backtracking .boundTooLarge ∨ ∃ n, b = .backtracking (.numeralTooLong n)) ∧
    (∀ rt v b, engine = .linear rt → rt.LinearAsDocumented → Route.Breaks engine v (.regex b) →
      ∃ src message, ¬ Text.IsEncodable (Route.withAnchors src) ∧
        b = .linear "UnicodeEncodeError" message) ∧
    ((∀ v ∈ vs, ∀ e, ¬Route.Breaks engine v e) → ∃ verdict, judge engine (.list vs) = .ok verdict) ∧
    (∀ rs, judge engine (.list vs) = .ok (.accepted rs) →
      read engine (.list vs) = .ok rs ∧ rs.length = vs.length) ∧
    (∀ f, judge engine (.list vs) = .ok (.rejected f) → ∃ front v back e,
      vs = front ++ v :: back ∧ f = .route e ∧ e.index = some front.length ∧
        (∃ rs, read engine (.list front) = .ok rs) ∧
        read engine (.list (front ++ [v])) = .error f) := by
  have hbroken : ∀ f, judge engine (.list vs) = .error f → ∃ front v back rs e,
      vs = front ++ v :: back ∧ read engine (.list front) = .ok rs ∧ Route.Breaks engine v e ∧
        f = Failure.ofEntry (some front.length) e := by
    intro f h
    obtain ⟨hne, hread⟩ := judge_eq_error_iff.1 h
    rw [read_list] at hread
    obtain ⟨front, v, back, rs, rfl, hfront, hv⟩ := readFrom_eq_error_iff_exists.1 hread
    rw [Nat.zero_add] at hv
    rcases readEntry_eq_error_iff.1 hv with ⟨e, he, rfl⟩ | ⟨phase, -, -, hf⟩
    · rcases Route.cases_of_read he with ⟨p, rfl⟩ | hbreaks
      · exact absurd rfl (hne _)
      · exact ⟨front, v, back, rs, e, rfl, read_list.trans hfront, hbreaks, rfl⟩
    · exact absurd hf (hne _)
  refine ⟨fun f => ⟨hbroken f, ?_⟩, ?_, ?_, fun hnone => ?_, fun rs h => ?_, fun f h => ?_⟩
  · rintro ⟨front, v, back, rs, e, rfl, hfront, hbreaks, rfl⟩
    exact judge_of_breaks hfront hbreaks
  · rintro rt v b rfl hbreaks
    obtain ⟨src, hcheck, hfirst⟩ := hbreaks.exists_source
    obtain ⟨t, ht⟩ := List.head?_eq_some_iff.1 hfirst
    rw [ht] at hcheck
    refine (Regex.Engine.backtracking_broken_of_caret hcheck).imp_left ?_
    rintro ⟨message, hstack, rfl⟩
    exact ⟨_, message, hstack, rfl⟩
  · rintro rt v b rfl hdocumented hbreaks
    obtain ⟨src, hcheck, -⟩ := hbreaks.exists_source
    obtain ⟨hbytes, message, -, rfl⟩ :=
      (Regex.Engine.linear_broken_iff_of_documented hdocumented).1 hcheck
    exact ⟨src, message, hbytes, rfl⟩
  · cases h : judge engine (.list vs) with
    | ok verdict => exact ⟨verdict, rfl⟩
    | error f =>
      obtain ⟨front, v, back, rs, e, rfl, -, hbreaks, -⟩ := hbroken f h
      exact absurd hbreaks (hnone v (by simp) e)
  · have hread := judge_eq_accepted_iff.1 h
    refine ⟨hread, ?_⟩
    rw [read_list] at hread
    exact (readFrom_eq_ok_iff_forall₂.1 hread).1.length_eq.symm
  · obtain ⟨e, rfl, hread⟩ := judge_eq_rejected_iff.1 h
    rw [read_list] at hread
    obtain ⟨front, v, back, rs, rfl, hfront, hv⟩ := readFrom_eq_error_iff_exists.1 hread
    have hindex : e.index = some front.length := by
      rw [Nat.zero_add] at hv
      rcases readEntry_eq_error_iff.1 hv with ⟨e', -, he⟩ | ⟨phase, -, -, he⟩
      · cases e' <;> cases he
        rfl
      · cases he
        rfl
    refine ⟨front, v, back, e, rfl, rfl, hindex, ⟨rs, read_list.trans hfront⟩, ?_⟩
    rw [read_list]
    exact readFrom_eq_error_iff_exists.2 ⟨front, v, [], rs, rfl, hfront, hv⟩

/-- A marker of a phase. -/
def marker (phase : Value) : Value := .map [(.text "handle".text, phase)]

/-- An entry that has a source and nothing else. -/
def bareSource (src : Text) : Value := .map [(.text "src".text, .text src)]

/-- A marker breaks on a list for its phase. -/
theorem breaks_marker_list :
    Route.Breaks engine (marker (.list [])) (.fault (.unhashable "list")) := by
  have hnames : ∀ f ∈ [("handle".text, Value.list [])], f.1 = "handle".text := by simp
  have hform : (marker (.list [])).wireForm =
      .map ([("handle".text, Value.list [])].map Route.Fields.entry) := rfl
  refine .fields hform (fun f hf => ?_) (.marker hnames rfl rfl)
  rw [hnames f hf]
  decide

/-- An entry breaks as the engine does on its source. -/
theorem breaks_bareSource {src : Text} (hne : src ≠ []) {b : Regex.Breakdown}
    (hcheck : engine.check (Route.withAnchors src) = .error (.broken b)) :
    Route.Breaks engine (bareSource src) (.regex b) := by
  have hform : (bareSource src).wireForm =
      .map ([("src".text, Value.text src)].map Route.Fields.entry) := rfl
  refine .fields hform (fun f hf => ?_) (.source rfl rfl hne hcheck)
  rw [List.mem_singleton.1 hf]
  exact List.mem_cons_self

/-- The marker of the file system is read. -/
theorem read_marker_filesystem (engine : Regex.Engine) :
    read engine (.list [marker (.text filesystemPhase)]) = .ok [.handle filesystemPhase] := by
  have hmarker : Route.read engine (marker (.text filesystemPhase)) =
      .ok (.handle filesystemPhase) :=
    (Route.Describes.handle (List.Perm.refl _)).ofWire_eq
  rw [read_list]
  exact readFrom_eq_ok_iff_forall₂.2 ⟨.cons hmarker .nil, List.nodup_singleton _,
    fun _ _ => List.not_mem_nil⟩

/-- Batches with each outcome: one breaks behind an entry that is accepted, whatever comes after it,
one is rejected at its second entry, and one is accepted.  The engines break on a bound that is too
large, and on a surrogate. -/
theorem judge_list_markers :
    let good := marker (.text filesystemPhase)
    judge (.linear .plain) (.list [good, marker (.list []), good]) =
      .error (.value (.unhashable "list")) ∧
    (∃ e, judge (.linear .plain) (.list [good, .map []]) = .ok (.rejected (.route e)) ∧
      e.index = some 1) ∧
    (∃ rs, judge (.linear .plain) (.list [good]) = .ok (.accepted rs) ∧ rs.length = 1) ∧
    (Route.Breaks (.backtracking .plain) (bareSource "x\x7b4294967295\x7d".text)
        (.regex (.backtracking .boundTooLarge)) ∧
      ((∃ src message, Regex.Runtime.plain.exhausted? src = some message ∧
          Regex.Breakdown.backtracking .boundTooLarge = .stack message) ∨
        Regex.Breakdown.backtracking .boundTooLarge = .backtracking .boundTooLarge ∨
        ∃ n, Regex.Breakdown.backtracking .boundTooLarge = .backtracking (.numeralTooLong n))) ∧
    ∃ b, Route.Breaks (.linear .plain) (bareSource [.surrogate 0]) (.regex b) ∧
      Regex.Runtime.plain.LinearAsDocumented ∧ ∃ src message,
        ¬ Text.IsEncodable (Route.withAnchors src) ∧ b = .linear "UnicodeEncodeError" message := by
  intro good
  have hgood := read_marker_filesystem (.linear .plain)
  have hdocumented := Regex.Runtime.linearAsDocumented_plain
  have hbroken : Route.Breaks (.backtracking .plain) (bareSource "x\x7b4294967295\x7d".text)
      (.regex (.backtracking .boundTooLarge)) :=
    breaks_bareSource (by decide) (Regex.Engine.backtracking_broken_iff.2
      (.inr ⟨rfl, .boundTooLarge, rfl, nofun, rfl⟩))
  obtain ⟨message, hanswer⟩ :=
    hdocumented.encodes (Route.withAnchors [.surrogate 0]) (by decide)
  have hbytes : Route.Breaks (.linear .plain) (bareSource [.surrogate 0])
      (.regex (.linear "UnicodeEncodeError" message)) :=
    breaks_bareSource (by decide) (Regex.Engine.linear_broken_iff.2 ⟨_, message, hanswer, rfl⟩)
  refine ⟨?_, ?_, ?_, ⟨hbroken, ?_⟩, _, hbytes, hdocumented, ?_⟩
  · exact ((judge_list _ [good, marker (.list []), good]).1 _).2
      ⟨[good], _, [good], _, _, rfl, hgood, breaks_marker_list, rfl⟩
  · have hempty : Route.read (.linear .plain) (.map []) =
        .error (.invalid ⟨.neitherHandleNorSource, none⟩) :=
      @Route.ofWire_map_entry (.linear .plain) [] (List.forall_mem_nil _)
    have hread : read (.linear .plain) (.list [good, .map []]) =
        .error (.route ⟨.neitherHandleNorSource, some 1, none⟩) := by
      rw [read_list] at hgood ⊢
      exact readFrom_eq_error_iff_exists.2 ⟨[good], _, [], _, rfl, hgood,
        readEntry_eq_error_iff.2 (.inl ⟨_, hempty, rfl⟩)⟩
    have hjudge := judge_eq_rejected_iff.2 ⟨_, rfl, hread⟩
    obtain ⟨front, v, back, e, hsplit, he, hindex, -, -⟩ :=
      (judge_list _ [good, .map []]).2.2.2.2.2 _ hjudge
    exact ⟨_, hjudge, rfl⟩
  · have hjudge := judge_eq_accepted_iff.2 hgood
    exact ⟨_, hjudge, ((judge_list _ [good]).2.2.2.2.1 _ hjudge).2⟩
  · exact (judge_list (.backtracking .plain) []).2.1 _ _ _ rfl hbroken
  · exact (judge_list (.linear .plain) []).2.2.1 _ _ _ rfl hdocumented hbytes

/-- **A marker whose phase is not hashable has no verdict:** its batch fails, where the entry is
a map like any other. -/
theorem judge_unhashableMarker :
    judge (.backtracking .plain) (.list [.map [(.text "handle".text, .list [])]]) =
      .error (.value (.unhashable "list")) := by
  have hnothing : read (.backtracking .plain) (.list []) = .ok [] := rfl
  exact judge_of_breaks hnothing breaks_marker_list

end Table
end RouteTable
