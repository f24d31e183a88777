/-
# Where captures should land

`landings` says which group each capturing segment emits, how much is left of the
expression behind it, and which number it has.  The numbers are those of the registry
(`Registry.entries_ofSegments`), and those that the engine would count if each landing
were one group (`number_landings`).
-/

import RouteTable.Proofs.Pattern.Emission
import RouteTable.Proofs.Regex.Marks

namespace RouteTable
namespace Pattern

open Regex Regex.Backtracking

namespace Capture

/-- The capture has neither lead nor trail. -/
def isBare (c : Capture) : Bool := c.lead.isEmpty && c.trail.isEmpty

/-- What stands in the group of a capture: its body, or runs of it. -/
def inner (c : Capture) : Text :=
  if c.isBare then c.body
  else match c.modifier with
    | .once | .optional => c.body
    | .star | .plus =>
      parenthesised "(?:" c.body ++ (parenthesised "(?:" (escapeLiteral c.trail ++
        escapeLiteral c.lead ++ parenthesised "(?:" c.body) ++ [scalar '*'])

/-- The group of a capture. -/
def own (c : Capture) : Text := parenthesised "(" c.inner

/-- What is emitted before the group. -/
def front (c : Capture) : Text := if c.isBare then [] else "(?:".text ++ escapeLiteral c.lead

/-- What is emitted after the group. -/
def behind (c : Capture) : Text :=
  if c.isBare then c.modifier.text
  else escapeLiteral c.trail ++ scalar ')' :: match c.modifier with
    | .once | .plus => []
    | .optional | .star => [scalar '?']

/-- A capture is emitted as its group, with the rest before and behind it. -/
theorem emit_eq (c : Capture) : c.emit = c.front ++ c.own ++ c.behind := by
  have hbare : (escapeLiteral c.lead = [] ∧ escapeLiteral c.trail = []) ↔ c.isBare = true := by
    rw [escapeLiteral_eq_nil, escapeLiteral_eq_nil, isBare, Bool.and_eq_true, List.isEmpty_iff,
      List.isEmpty_iff]
  unfold emit front own behind inner
  simp only [hbare]
  split
  · simp
  · cases c.modifier <;>
      simp [emit.once, emit.repeated, parenthesised, List.append_assoc]

end Capture

/-- Where the group of a capture begins and ends, if it is one group and so many characters
stand behind it. -/
def Capture.ends (c : Capture) (behind : Nat) : List (Bool × Nat) :=
  [(true, c.own.length + behind), (false, behind + 1)]

/-- A capture, the number that it takes, and how many characters of the expression stand
behind its group. -/
structure Landing where
  number : Nat
  capture : Capture
  behind : Nat

/-- Where the captures of segments land, after `opened` of them: each takes the next
number. -/
def landings (opened : Nat) : List Segment → List Landing
  | [] => []
  | .capture c :: ss =>
    ⟨opened + 1, c, c.behind.length + ((ss.flatMap Segment.emit).length + 1)⟩ ::
      landings (opened + 1) ss
  | .literal _ :: ss | .group _ _ :: ss => landings opened ss

namespace Landing

/-- The marks of a group that is opened and closed where the capture emits it. -/
def marks (l : Landing) : List (Mark × Nat) :=
  [(.opens l.number, l.capture.own.length + l.behind), (.closes l.number, l.behind + 1)]

/-- The entry of a capture with a name. -/
def entry? (l : Landing) : Option Entry :=
  l.capture.name.map fun name => ⟨name, l.number, l.capture.modifier.text⟩

/-- The marks without their numbers. -/
def ends (l : Landing) : List (Bool × Nat) := l.capture.ends l.behind

end Landing

/-- The entries that are registered are those of the landings. -/
theorem entries_foldl_register (b : Registry.Builder) (segments : List Segment) :
    (segments.foldl Segment.register b).entries =
      b.entries ++ (landings b.groups segments).filterMap Landing.entry? := by
  induction segments generalizing b with
  | nil => simp [landings]
  | cons s ss ih =>
    rw [List.foldl_cons, ih]
    cases s with
    | literal | group => rfl
    | capture c =>
      cases hname : c.name with
      | none =>
        simp [Segment.register, Segment.capture?, Registry.Builder.capture, landings, hname,
          Landing.entry?]
      | some n =>
        simp [Segment.register, Segment.capture?, Registry.Builder.capture, landings, hname,
          Landing.entry?]

/-- **The registry lists the named captures** with the numbers that they take. -/
theorem Registry.entries_ofSegments (segments : List Segment) :
    (Registry.ofSegments segments).entries = (landings 0 segments).filterMap Landing.entry? :=
  entries_foldl_register .empty segments

/-- Landings have the numbers that follow. -/
theorem lt_number_of_mem_landings {opened : Nat} {segments : List Segment} {l : Landing}
    (h : l ∈ landings opened segments) : opened < l.number := by
  induction segments generalizing opened with
  | nil => cases h
  | cons s ss ih =>
    cases s with
    | literal | group => exact ih h
    | capture c =>
      rcases List.mem_cons.1 h with rfl | h
      · exact Nat.lt_succ_self opened
      · have hlater := ih h
        omega

/-- The numbers go up. -/
theorem pairwise_number_landings (opened : Nat) (segments : List Segment) :
    (landings opened segments).Pairwise (·.number < ·.number) := by
  induction segments generalizing opened with
  | nil => exact .nil
  | cons s ss ih =>
    cases s with
    | literal | group => exact ih opened
    | capture c => exact .cons (fun _ => lt_number_of_mem_landings) (ih (opened + 1))

/-- The groups that a registry lists stand in the order of their numbers. -/
theorem Registry.pairwise_index (segments : List Segment) :
    (Registry.ofSegments segments).entries.Pairwise (·.index < ·.index) := by
  rw [entries_ofSegments]
  refine (pairwise_number_landings 0 segments).filterMap _ fun l m hlt e he f hf => ?_
  obtain ⟨name, -, rfl⟩ := Option.map_eq_some_iff.1 he
  obtain ⟨name', -, rfl⟩ := Option.map_eq_some_iff.1 hf
  exact Int.ofNat_lt.2 hlt

/-- The groups that a registry lists are numbered from one on. -/
theorem Registry.index_pos {segments : List Segment} {e : Entry}
    (he : e ∈ (Registry.ofSegments segments).entries) : 0 < e.index := by
  rw [entries_ofSegments] at he
  obtain ⟨l, hl, hentry⟩ := List.mem_filterMap.1 he
  obtain ⟨name, -, rfl⟩ := Option.map_eq_some_iff.1 hentry
  have hnumber := lt_number_of_mem_landings hl
  exact Int.natCast_pos.2 hnumber

/-- The ends of landings are numbered as the landings are. -/
theorem number_landings (opened : Nat) (segments : List Segment) :
    number opened [] ((landings opened segments).flatMap Landing.ends) =
      (landings opened segments).flatMap Landing.marks := by
  induction segments generalizing opened with
  | nil => rfl
  | cons s ss ih =>
    cases s with
    | literal | group => exact ih opened
    | capture c =>
      have h := ih (opened + 1)
      simpa [landings, Landing.ends, Capture.ends, Landing.marks, number] using h

/-- Without their numbers the marks of landings are their ends. -/
theorem map_isOpening_landings (opened : Nat) (segments : List Segment) :
    ((landings opened segments).flatMap Landing.marks).map (fun m => (m.1.isOpening, m.2)) =
      (landings opened segments).flatMap Landing.ends := by
  rw [List.map_flatMap]
  rfl

end Pattern
end RouteTable
