/-
# Templates

A template is text with references to parameters in it.  A reference is `:`, the
longest run of name characters that follows, which is not empty, and the modifier
right after the run if there is one.  Any text is a template: a `:` that no name
follows is text.
-/

import RouteTable.Pattern.Segment

namespace RouteTable
namespace Template

open Pattern (Modifier isNameChar)

/-- A reference to a parameter. -/
structure Reference where
  name : Text
  modifier : Modifier
  deriving DecidableEq, Repr

/-- The reference as it is written. -/
def Reference.written (r : Reference) : Text := scalar ':' :: r.name ++ r.modifier.text

/-- A run of literal text, or a reference. -/
inductive Part where
  | literal (text : Text)
  | reference (reference : Reference)
  deriving DecidableEq, Repr

namespace Part

/-- The part as it is written. -/
def written : Part → Text
  | literal t => t
  | reference r => r.written

/-- A character in front of parts: part of the run that they begin with, or a run
of its own. -/
def consChar (c : CodePoint) : List Part → List Part
  | literal t :: ps => literal (c :: t) :: ps
  | ps => literal [c] :: ps

end Part

/-- The modifier at the front of a text, and what follows it. -/
def readModifier : Text → Modifier × Text
  | [] => (.once, [])
  | c :: t =>
    match Modifier.ofChar? c with
    | some m => (m, t)
    | none => (.once, c :: t)

/-- A reference at the front of a text, and what follows it. -/
def readReference? : Text → Option (Reference × Text)
  | ':' :: t =>
    match t.takeWhile isNameChar with
    | [] => none
    | name =>
      let after := readModifier (t.dropWhile isNameChar)
      some (⟨name, after.1⟩, after.2)
  | _ => none

/-- The modifier that is read and what follows it make up the text. -/
theorem written_append_readModifier (t : Text) :
    (readModifier t).1.text ++ (readModifier t).2 = t := by
  cases t with
  | nil => rfl
  | cons c t =>
    simp only [readModifier]
    split
    · simp [Modifier.ofChar?_eq_some_iff.1 ‹_›]
    · rfl

/-- What `readReference?` reads is written at the front. -/
theorem written_append_of_readReference? {t rest : Text} {r : Reference}
    (h : readReference? t = some (r, rest)) : r.written ++ rest = t := by
  unfold readReference? at h
  split at h
  · split at h
    · simp at h
    · rename_i t _ _
      obtain ⟨rfl, rfl⟩ := Prod.mk.inj (Option.some.inj h)
      simp only [Reference.written, List.cons_append, List.append_assoc,
        written_append_readModifier, List.takeWhile_append_dropWhile]
  · simp at h

/-- Reading a reference takes a character at least. -/
theorem length_of_readReference? {t rest : Text} {r : Reference}
    (h : readReference? t = some (r, rest)) : rest.length < t.length := by
  rw [← written_append_of_readReference? h]
  simp [Reference.written]; omega

/-- The parts of a template: runs of literal text as long as they can be, and the
references between them. -/
def scan (t : Text) : List Part :=
  match t with
  | [] => []
  | c :: t =>
    match _h : readReference? (c :: t) with
    | some (r, rest) => .reference r :: scan rest
    | none => Part.consChar c (scan t)
termination_by t.length
decreasing_by
  · exact length_of_readReference? ‹_›
  · simp

/-- One character more in front of parts is one character more of what they write. -/
theorem flatMap_written_consChar (c : CodePoint) (ps : List Part) :
    (Part.consChar c ps).flatMap Part.written = c :: ps.flatMap Part.written := by
  unfold Part.consChar; split <;> simp [Part.written]

/-- **The parts of a template, written one after the other, are the template.** -/
theorem flatMap_written_scan (t : Text) : (scan t).flatMap Part.written = t := by
  fun_induction scan t with
  | case1 => rfl
  | case2 c t r rest h ih =>
    rw [List.flatMap_cons, ih]; exact written_append_of_readReference? h
  | case3 c t h ih => rw [flatMap_written_consChar, ih]

end Template
end RouteTable
