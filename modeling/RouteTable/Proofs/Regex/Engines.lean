/-
# What engines say

The backtracking engine accepts what its reader reads, if the stack has room for it; it breaks on
what exhausts the stack, and where its reader has an error that is no flaw.  The linear engine
breaks as it answers, which is on expressions without bytes if it is as documented
(`Engine.linear_broken_iff_of_documented`).

What is relied on of a runtime can be met: `Runtime.plain` never comes to an end of its stack, and
its linear engine accepts whatever has bytes.
-/

import Mathlib.Data.List.TakeWhile
import RouteTable.Regex.Engine

namespace RouteTable
namespace Regex
namespace Engine

variable {rt : Runtime} {src : Text} {b : Breakdown}

/-- Two engines have names. -/
theorem eq_of_ofName? {name : Text} {engine : Engine} (h : ofName? rt name = some engine) :
    engine = backtracking rt ∨ engine = linear rt := by
  unfold ofName? at h
  split at h
  · exact .inl (Option.some.inj h).symm
  · split at h
    · exact .inr (Option.some.inj h).symm
    · cases h

/-- **How the backtracking engine breaks:** it comes to an end of its stack, or its reader has an
error that is no flaw. -/
theorem backtracking_broken_iff :
    (backtracking rt).check src = .error (.broken b) ↔
      (∃ message, rt.exhausted? src = some message ∧ b = .stack message) ∨
      (rt.exhausted? src = none ∧ ∃ e, Backtracking.parse rt.edition src = .error e ∧
        (∀ cause place, e ≠ .malformed cause place) ∧ b = .backtracking e) := by
  unfold backtracking
  dsimp only
  cases rt.exhausted? src with
  | some message => simp [eq_comm]
  | none =>
    cases Backtracking.parse rt.edition src with
    | ok n => simp
    | error e => cases e <;> simp [eq_comm]

/-- The backtracking engine accepts what its reader reads, if the stack has room for it. -/
theorem backtracking_check_eq_ok {n : Node} (hroom : rt.exhausted? src = none)
    (hread : Backtracking.parse rt.edition src = .ok n) : (backtracking rt).check src = .ok () := by
  simp only [backtracking, hroom, hread]

/-- What the backtracking engine accepts, its reader reads. -/
theorem exists_parse_of_backtracking_check (h : (backtracking rt).check src = .ok ()) :
    ∃ n, Backtracking.parse rt.edition src = .ok n := by
  unfold backtracking at h
  dsimp only at h
  split at h
  · cases h
  · split at h
    · exact ⟨_, by assumption⟩
    · cases h
    · cases h

/-- The linear engine accepts what it says it accepts. -/
theorem linear_check_eq_ok_iff : (linear rt).check src = .ok () ↔ rt.answer src = .accepted := by
  unfold linear
  dsimp only
  cases rt.answer src <;> simp

/-- **How the linear engine breaks:** with an error of its own. -/
theorem linear_broken_iff :
    (linear rt).check src = .error (.broken b) ↔
      ∃ kind message, rt.answer src = .failed kind message ∧ b = .linear kind message := by
  unfold linear
  dsimp only
  cases rt.answer src with
  | accepted => simp
  | refused words => simp
  | failed kind message =>
    constructor
    · intro h
      cases h
      exact ⟨kind, message, rfl, rfl⟩
    · rintro ⟨kind', message', hanswer, rfl⟩
      cases hanswer
      rfl

/-- Where the linear engine is as documented, it breaks on what has no bytes. -/
theorem linear_broken_iff_of_documented (hrt : rt.LinearAsDocumented) :
    (linear rt).check src = .error (.broken b) ↔
      ¬ src.IsEncodable ∧ ∃ message, rt.answer src = .failed "UnicodeEncodeError" message ∧
        b = .linear "UnicodeEncodeError" message := by
  rw [linear_broken_iff]
  constructor
  · rintro ⟨kind, message, hanswer, rfl⟩
    have hsrc := hrt.answers src kind message hanswer
    obtain ⟨message', hfailed⟩ := hrt.encodes src hsrc
    obtain ⟨rfl, rfl⟩ : kind = "UnicodeEncodeError" ∧ message = message' := by
      rw [hfailed] at hanswer
      cases hanswer
      exact ⟨rfl, rfl⟩
    exact ⟨hsrc, message, hanswer, rfl⟩
  · rintro ⟨-, message, hanswer, rfl⟩
    exact ⟨_, message, hanswer, rfl⟩

end Engine

/-! ### A runtime that is as documented -/

/-- **A text without an encoding is told for its surrogates.** -/
theorem encodingError?_eq_none_iff {t : Text} : t.encodingError? = none ↔ t.IsEncodable := by
  have hrun : t.encodingError? = none ↔
      ((t.dropWhile CodePoint.isScalar).takeWhile fun c => !c.isScalar) = [] := by
    unfold Text.encodingError?
    dsimp only
    split <;> simp_all
  have hnone : t.dropWhile CodePoint.isScalar = [] ↔ t.IsEncodable := List.dropWhile_eq_nil_iff
  rw [hrun, ← hnone]
  cases hrest : t.dropWhile CodePoint.isScalar with
  | nil => simp
  | cons c u =>
    have hc := List.head?_dropWhile_not CodePoint.isScalar t
    rw [hrest] at hc
    simp only [List.head?_cons] at hc
    simp [hc]

namespace Runtime

/-- A runtime whose stack has no end, and whose linear engine accepts whatever it is given. -/
def plain : Runtime where
  edition := .strict
  exhausted? _ := none
  answer t :=
    match t.encodingError? with
    | none => .accepted
    | some message => .failed "UnicodeEncodeError" message

theorem hasRoom_plain : plain.HasRoom := fun _ _ => rfl

/-- The plain linear engine accepts whatever has bytes. -/
theorem answer_plain {t : Text} (ht : t.IsEncodable) : plain.answer t = .accepted := by
  unfold plain
  dsimp only
  rw [encodingError?_eq_none_iff.2 ht]

/-- **The plain linear engine is as documented.** -/
theorem linearAsDocumented_plain : plain.LinearAsDocumented where
  reads t _ ht := Or.inl (answer_plain ht)
  fits t _ _ h := by
    unfold plain at h
    dsimp only at h
    split at h <;> cases h
  encodes t ht := by
    obtain ⟨message, hmessage⟩ :=
      Option.ne_none_iff_exists'.1 (mt encodingError?_eq_none_iff.1 ht)
    refine ⟨message, ?_⟩
    unfold plain
    dsimp only
    rw [hmessage]
  answers t kind message h ht := by
    rw [answer_plain ht] at h
    cases h

end Runtime

end Regex
end RouteTable
