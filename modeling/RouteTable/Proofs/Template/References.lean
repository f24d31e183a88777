/-
# The references of a template

A reference is read where a name stands after `:`, and ends where neither the name goes on
nor a modifier follows (`readReference?_eq_some_iff`).  What the scan of a template begins
with is therefore decided by what the template begins with: a reference, or a character that
begins none.
-/

import RouteTable.Template
import RouteTable.Proofs.Pattern.Lexing

namespace RouteTable
namespace Template

open Pattern (Modifier IsName isNameChar)

variable {t u rest : Text} {r : Reference} {c : CodePoint}

/-- The reference, of a part that is one. -/
def Part.reference? : Part → Option Reference
  | literal _ => none
  | reference r => some r

/-- The references of a template, in order. -/
def references (t : Text) : List Reference := (scan t).filterMap Part.reference?

/-! ### Reading a reference -/

/-- A text does not go on with a name. -/
def EndsName (t : Text) : Prop := ∀ c ∈ t.head?, isNameChar c = false

/-- The text that follows is not read as part of the reference. -/
def Reference.EndsBefore (r : Reference) (rest : Text) : Prop :=
  r.modifier = .once → EndsName rest ∧ ∀ c ∈ rest.head?, Modifier.ofChar? c = none

theorem readModifier_text_append (m : Modifier)
    (h : m = .once → ∀ c ∈ rest.head?, Modifier.ofChar? c = none) :
    readModifier (m.text ++ rest) = (m, rest) := by
  cases m with
  | once =>
    cases rest with
    | nil => rfl
    | cons c rest =>
      have hc : Modifier.ofChar? c = none := h rfl c rfl
      rw [Modifier.text, List.nil_append, readModifier, hc]
  | optional | star | plus => rfl

/-- Where no modifier is read none stands. -/
theorem ofChar?_of_readModifier_once (h : (readModifier t).1 = .once) :
    ∀ c ∈ (readModifier t).2.head?, Modifier.ofChar? c = none := by
  cases t with
  | nil => exact nofun
  | cons d t =>
    rw [readModifier] at h ⊢
    split at h
    · rename_i m hd
      rw [show m = .once from h] at hd
      cases Modifier.ofChar?_eq_some_iff.1 hd
    · rename_i hd
      rintro c hc
      rw [← Option.some.inj hc, hd]

/-- Three characters are modifiers. -/
theorem ofChar?_eq_none_iff :
    Modifier.ofChar? c = none ↔ c ∉ [scalar '?', scalar '*', scalar '+'] := by
  unfold Modifier.ofChar?
  split <;> simp_all

/-- A modifier is no name character. -/
theorem not_isNameChar_of_mem_text {m : Modifier} (h : c ∈ m.text) : isNameChar c = false := by
  cases m with
  | once => cases h
  | optional | star | plus =>
    rw [List.mem_singleton.1 h]
    decide

/-- Only one modifier is written with nothing. -/
theorem text_eq_nil_iff {m : Modifier} : m.text = [] ↔ m = .once := by
  cases m <;> simp [Modifier.text]

/-- What follows the name of a reference does not go on with it. -/
theorem Reference.EndsBefore.endsName (h : r.EndsBefore rest) :
    EndsName (r.modifier.text ++ rest) := by
  intro c hc
  cases hm : r.modifier.text with
  | nil =>
    rw [hm] at hc
    exact (h (text_eq_nil_iff.1 hm)).1 c hc
  | cons d u =>
    rw [hm] at hc
    refine not_isNameChar_of_mem_text (m := r.modifier) ?_
    rw [hm, ← Option.some.inj hc]
    exact List.mem_cons_self

/-- A name ends behind its name characters. -/
theorem endsName_dropWhile (t : Text) : EndsName (t.dropWhile isNameChar) := by
  intro c hc
  have h := List.head?_dropWhile_not isNameChar t
  rw [Option.mem_def.1 hc] at h
  simpa using h

/-- No name is read exactly where a name ends. -/
theorem takeWhile_eq_nil_iff : t.takeWhile isNameChar = [] ↔ EndsName t := by
  cases t with
  | nil => simp [EndsName]
  | cons c t => simp [EndsName, List.takeWhile_cons]

/-- A reference starts with a colon. -/
theorem readReference?_of_ne (h : c ≠ ':') (t : Text) : readReference? (c :: t) = none := by
  unfold readReference?
  split
  · rename_i heq
    exact absurd (List.cons.inj heq).1 h
  · rfl

/-- No reference is read without a name. -/
theorem readReference?_of_endsName (h : EndsName t) : readReference? (scalar ':' :: t) = none := by
  rw [readReference?, takeWhile_eq_nil_iff.2 h]

/-- A reference is a name behind a colon, and a modifier. -/
theorem readReference?_colon (h : ¬EndsName t) : readReference? (scalar ':' :: t) =
    some (⟨t.takeWhile isNameChar, (readModifier (t.dropWhile isNameChar)).1⟩,
      (readModifier (t.dropWhile isNameChar)).2) := by
  rw [readReference?]
  split
  · exact absurd (takeWhile_eq_nil_iff.1 ‹_›) h
  · rfl

/-- What is read after a name ends it, or is its modifier. -/
theorem endsBefore_readModifier (name t : Text) :
    Reference.EndsBefore ⟨name, (readModifier (t.dropWhile isNameChar)).1⟩
      (readModifier (t.dropWhile isNameChar)).2 := by
  intro honce
  refine ⟨?_, ofChar?_of_readModifier_once honce⟩
  have hrest := written_append_readModifier (t.dropWhile isNameChar)
  rw [show (readModifier (t.dropWhile isNameChar)).1 = .once from honce] at hrest
  rw [show (readModifier (t.dropWhile isNameChar)).2 = t.dropWhile isNameChar from hrest]
  exact endsName_dropWhile t

/-- **A reference is read where it is written and ends.** -/
theorem readReference?_eq_some_iff : readReference? t = some (r, rest) ↔
    t = r.written ++ rest ∧ IsName r.name ∧ r.EndsBefore rest := by
  constructor
  · intro h
    have hwritten := (written_append_of_readReference? h).symm
    cases t with
    | nil => cases h
    | cons c t =>
      by_cases hc : c = ':'
      · subst hc
        by_cases ht : EndsName t
        · rw [readReference?_of_endsName ht] at h
          cases h
        · rw [readReference?_colon ht] at h
          obtain ⟨rfl, rfl⟩ := Prod.mk.inj (Option.some.inj h)
          exact ⟨hwritten,
            ⟨mt takeWhile_eq_nil_iff.1 ht, List.all_eq_true.1 List.all_takeWhile⟩,
            endsBefore_readModifier _ t⟩
      · rw [readReference?_of_ne hc] at h
        cases h
  · rintro ⟨rfl, hname, hends⟩
    obtain ⟨htake, hdrop⟩ := Pattern.takeWhile_name hname.isNameChar hends.endsName
    have hgoes : ¬EndsName (r.name ++ (r.modifier.text ++ rest)) := by
      rw [← takeWhile_eq_nil_iff, htake]
      exact hname.ne_nil
    rw [Reference.written, List.cons_append, List.cons_append, List.append_assoc,
      readReference?_colon hgoes, htake, hdrop, readModifier_text_append _ fun h => (hends h).2]

/-- **No reference is read** exactly where there is no colon, or no name behind it. -/
theorem readReference?_cons_eq_none_iff :
    readReference? (c :: t) = none ↔ (c = ':' → EndsName t) := by
  by_cases hc : c = ':'
  · subst hc
    by_cases ht : EndsName t
    · simp [readReference?_of_endsName ht, ht]
    · simp [readReference?_colon ht, ht]
  · simp [readReference?_of_ne hc, hc]

/-! ### Scanning -/

/-- A reference is a part of its own. -/
theorem scan_of_readReference? (h : readReference? t = some (r, rest)) :
    scan t = .reference r :: scan rest := by
  cases t with
  | nil => cases h
  | cons c t =>
    rw [scan]
    split
    · rename_i heq
      obtain ⟨rfl, rfl⟩ := Prod.mk.inj (Option.some.inj (heq.symm.trans h))
      rfl
    · rename_i heq
      cases heq.symm.trans h

/-- A character that starts no reference is literal. -/
theorem scan_cons (h : readReference? (c :: t) = none) :
    scan (c :: t) = Part.consChar c (scan t) := by
  rw [scan]
  split
  · rename_i heq
    cases heq.symm.trans h
  · rfl

theorem references_nil : references [] = [] := by
  rw [references, scan, List.filterMap_nil]

/-- A reference stands before those of the rest. -/
theorem references_of_readReference? (h : readReference? t = some (r, rest)) :
    references t = r :: references rest := by
  rw [references, scan_of_readReference? h]
  rfl

/-- A character that starts no reference adds none. -/
theorem references_cons (h : readReference? (c :: t) = none) :
    references (c :: t) = references t := by
  rw [references, scan_cons h]
  unfold Part.consChar
  split
  · rename_i hscan
    rw [references, hscan]
    rfl
  · rfl

/-- Text without `:` has no reference. -/
theorem references_append (h : scalar ':' ∉ u) (t : Text) : references (u ++ t) = references t := by
  induction u with
  | nil => rfl
  | cons c u ih =>
    obtain ⟨hc, hu⟩ := not_or.1 (mt List.mem_cons.2 h)
    rw [List.cons_append, references_cons (readReference?_of_ne (Ne.symm hc) _), ih hu]

theorem references_eq_nil (h : scalar ':' ∉ t) : references t = [] := by
  rw [← List.append_nil t, references_append h, references_nil]

end Template
end RouteTable
