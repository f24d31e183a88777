/-
# Getting a template back

A rewritten template does not always tell which template it comes from.  The number of a group
can be written in a template itself, and a modifier that is taken with its reference is gone:
where `id` is declared with `?` and has the first group, `:id`, `:id?` and `$1` are all rewritten
to `$1`.

A template that writes no number of a listed group, and no modifier that is taken, is got back by
putting the names in the places of the numbers (`restore_rewrite`).  A number is told from what
follows it, since a reference without a modifier stands in front of no digit.  So two such
templates that are rewritten to the same are the same (`IsRestorable.rewrite_inj`).
-/

import Mathlib.Data.List.Nodup
import RouteTable.Proofs.Pattern.Names
import RouteTable.Proofs.Template.GroupNumbers

namespace RouteTable

/-- The entries have numbers from one on, and no two the same. -/
structure Pattern.Registry.IsNumbered (r : Pattern.Registry) : Prop where
  pos : ∀ e ∈ r.entries, 0 < e.index
  nodup : (r.entries.map Pattern.Entry.index).Nodup

theorem Pattern.Registry.isNumbered_ofSegments (segments : List Pattern.Segment) :
    (Registry.ofSegments segments).IsNumbered where
  pos _ := Registry.index_pos
  nodup := List.pairwise_map.2 ((Registry.pairwise_index segments).imp Int.ne_of_lt)

namespace Template

open Pattern (Registry Entry)

variable {registry : Registry} {t u rest : Text} {r : Reference} {e f : Entry} {c : CodePoint}
  {n : Nat}

/-- A text with the names of entries in the places of their references. -/
def restore (registry : Registry) (t : Text) : Text :=
  match t with
  | [] => []
  | c :: t =>
    match registry.entries.find? fun e => e.reference == c :: t.takeWhile CodePoint.isDigit with
    | some e => scalar ':' :: e.name ++ restore registry (t.dropWhile CodePoint.isDigit)
    | none => c :: restore registry t
termination_by t.length
decreasing_by
  · exact Nat.lt_succ_of_le (List.dropWhile_suffix CodePoint.isDigit).length_le
  · exact Nat.lt_succ_self _

/-- A template writes no number of a listed group, and no modifier that is taken with a
reference. -/
structure IsRestorable (registry : Registry) (t : Text) : Prop where
  not_listed : ∀ n ∈ groupNumbers t, ∀ e ∈ registry.entries, e.index ≠ n
  once : ∀ r ∈ references t, ∀ e, registry.get? r.name = some e →
    r.modifier.text = e.modifier → r.modifier = .once

/-! ### The references of entries -/

/-- The number of an entry is read in its reference. -/
theorem numeral_of_reference_eq (hn : e.index = n) (h : e.reference = c :: u) :
    c = '$' ∧ u ≠ [] ∧ Text.numeral 10 u = n := by
  obtain ⟨rfl, rfl⟩ := List.cons.inj ((reference_of_index hn).symm.trans h)
  exact ⟨rfl, text_repr_ne_nil n, numeral_repr n⟩

/-- Entries with one reference have one number. -/
theorem index_eq_of_reference_eq (hr : registry.IsNumbered) (he : e ∈ registry.entries)
    (hf : f ∈ registry.entries) (h : e.reference = f.reference) : e.index = f.index := by
  obtain ⟨n, hn⟩ := Int.eq_ofNat_of_zero_le (Int.le_of_lt (hr.pos e he))
  obtain ⟨m, hm⟩ := Int.eq_ofNat_of_zero_le (Int.le_of_lt (hr.pos f hf))
  obtain ⟨-, -, hen⟩ := numeral_of_reference_eq hn (h.trans (reference_of_index hm))
  rw [hn, hm, ← hen, numeral_repr]

/-- An entry is found by its reference. -/
theorem find?_reference (hr : registry.IsNumbered) (he : e ∈ registry.entries) :
    registry.entries.find? (fun f => f.reference == e.reference) = some e := by
  have hfound : (registry.entries.find? fun f => f.reference == e.reference).isSome :=
    List.find?_isSome.2 ⟨e, he, beq_self_eq_true e.reference⟩
  obtain ⟨f, hf⟩ := Option.isSome_iff_exists.1 hfound
  have hmem := List.mem_of_find?_eq_some hf
  have href : f.reference = e.reference := by simpa using List.find?_some hf
  rw [hf, List.inj_on_of_nodup_map hr.nodup hmem he (index_eq_of_reference_eq hr hmem he href)]

/-! ### Restoring one part after the other -/

theorem restore_cons
    (h : ∀ e ∈ registry.entries, e.reference ≠ c :: t.takeWhile CodePoint.isDigit) :
    restore registry (c :: t) = c :: restore registry t := by
  have hnone : registry.entries.find?
      (fun e => e.reference == c :: t.takeWhile CodePoint.isDigit) = none := by
    simpa using h
  rw [restore, hnone]

/-- Text without `$` stays. -/
theorem restore_append (h : scalar '$' ∉ u) (t : Text) :
    restore registry (u ++ t) = u ++ restore registry t := by
  induction u with
  | nil => rfl
  | cons c u ih =>
    obtain ⟨hc, hu⟩ := not_or.1 (mt List.mem_cons.2 h)
    have hother : ∀ e ∈ registry.entries, e.reference ≠ c :: (u ++ t).takeWhile CodePoint.isDigit :=
      fun e _ heq => hc (List.cons.inj heq).1
    rw [List.cons_append, restore_cons hother, ih hu]
    rfl

/-- **The reference of an entry** becomes its name again if no digit follows. -/
theorem restore_reference_append (hr : registry.IsNumbered) (he : e ∈ registry.entries)
    (ht : EndsNumber t) :
    restore registry (e.reference ++ t) = scalar ':' :: e.name ++ restore registry t := by
  obtain ⟨n, hn⟩ := Int.eq_ofNat_of_zero_le (Int.le_of_lt (hr.pos e he))
  have hdigits : ∀ d ∈ n.repr.text, d.isDigit = true := fun _ => isDigit_of_mem_repr
  have htake : (n.repr.text ++ t).takeWhile CodePoint.isDigit = n.repr.text := by
    rw [List.takeWhile_append_of_pos hdigits, takeWhile_isDigit_eq_nil_iff.2 ht, List.append_nil]
  have hdrop : (n.repr.text ++ t).dropWhile CodePoint.isDigit = t := by
    have hwhole := List.takeWhile_append_dropWhile (p := CodePoint.isDigit) (l := n.repr.text ++ t)
    rw [htake] at hwhole
    exact List.append_cancel_left hwhole
  have hfind := find?_reference hr he
  rw [reference_of_index hn] at hfind ⊢
  rw [List.cons_append, restore, htake, hdrop, hfind]

/-! ### Templates that are restorable -/

/-- Group numbers of a text stay with a character in front. -/
theorem mem_groupNumbers_cons (h : n ∈ groupNumbers t) (c : CodePoint) :
    n ∈ groupNumbers (c :: t) := by
  rw [groupNumbers]
  split
  · exact List.mem_cons_of_mem _ h
  · exact h

/-- A modifier has no `$`. -/
theorem dollar_not_mem_text (m : Pattern.Modifier) : scalar '$' ∉ m.text := by
  cases m <;> decide

/-- A reference to a name has no `$`. -/
theorem dollar_not_mem_written (h : Pattern.IsName r.name) : scalar '$' ∉ r.written := by
  intro hmem
  rcases List.mem_cons.1 hmem with hcolon | hmem
  · cases hcolon
  · rcases List.mem_append.1 hmem with hname | hmodifier
    · cases h.isNameChar '$' hname
    · exact dollar_not_mem_text r.modifier hmodifier

namespace IsRestorable

/-- The rest behind a reference can be restored. -/
theorem of_readReference? (h : IsRestorable registry t)
    (hread : readReference? t = some (r, rest)) : IsRestorable registry rest := by
  obtain ⟨rfl, hname, -⟩ := readReference?_eq_some_iff.1 hread
  refine ⟨?_, fun s hs => h.once s ?_⟩
  · rw [← groupNumbers_append (dollar_not_mem_written hname)]
    exact h.not_listed
  · rw [references_of_readReference? hread]
    exact List.mem_cons_of_mem r hs

/-- A listed reference keeps what is written as its modifier. -/
theorem rewrite_reference (h : IsRestorable registry t) (hread : readReference? t = some (r, rest))
    (hr : registry.get? r.name = some e) : r.rewrite registry = e.reference ++ r.modifier.text := by
  have hmem : r ∈ references t := by
    rw [references_of_readReference? hread]
    exact List.mem_cons_self
  rw [Reference.rewrite, hr]
  by_cases htaken : r.modifier.text = e.modifier
  · have honce := h.once r hmem e hr htaken
    refine (if_pos htaken).trans ?_
    rw [honce]
    exact (List.append_nil e.reference).symm
  · exact if_neg htaken

theorem of_cons (h : IsRestorable registry (c :: t)) (hread : readReference? (c :: t) = none) :
    IsRestorable registry t :=
  ⟨fun n hn => h.not_listed n (mem_groupNumbers_cons hn c),
    fun s hs => h.once s (by rwa [references_cons hread])⟩

/-- A character of text and the digits behind it are no reference of an entry. -/
theorem reference_ne (hr : registry.IsNumbered) (h : IsRestorable registry (c :: t))
    (he : e ∈ registry.entries) : e.reference ≠ c :: t.takeWhile CodePoint.isDigit := by
  intro heq
  obtain ⟨n, hn⟩ := Int.eq_ofNat_of_zero_le (Int.le_of_lt (hr.pos e he))
  obtain ⟨rfl, hne, hread⟩ := numeral_of_reference_eq hn heq
  refine h.not_listed n ?_ e he hn
  rw [groupNumbers, if_pos ⟨rfl, hne⟩, hread]
  exact List.mem_cons_self

end IsRestorable

/-- Digits that a template begins with stay. -/
theorem takeWhile_isDigit_rewrite (registry : Registry) (t : Text) :
    (rewrite registry t).takeWhile CodePoint.isDigit = t.takeWhile CodePoint.isDigit := by
  induction t with
  | nil => rw [rewrite_nil]
  | cons c t ih =>
    by_cases hc : c.isDigit = true
    · have hcolon : c ≠ ':' := by
        rintro rfl
        cases hc
      rw [rewrite_cons (readReference?_of_ne hcolon t), List.takeWhile_cons, List.takeWhile_cons,
        if_pos hc, if_pos hc, ih]
    · have hends : EndsNumber (c :: t) := by simpa [EndsNumber] using hc
      rw [takeWhile_isDigit_eq_nil_iff.2 hends,
        takeWhile_isDigit_eq_nil_iff.2 (endsNumber_rewrite_iff.2 hends)]

/-- **A template is got back from its rewritten form.** -/
theorem restore_rewrite (hr : registry.IsNumbered) (h : IsRestorable registry t) :
    restore registry (rewrite registry t) = t := by
  induction t using scan.induct with
  | case1 => rw [rewrite_nil, restore]
  | case2 c t r rest hread ih =>
    obtain ⟨hwritten, hname, hends⟩ := readReference?_eq_some_iff.1 hread
    have hrest := ih (h.of_readReference? hread)
    rw [rewrite_of_readReference? hread, hwritten]
    cases hget : registry.get? r.name with
    | none =>
      rw [Reference.rewrite_of_none hget, restore_append (dollar_not_mem_written hname), hrest]
    | some e =>
      have hkept : EndsNumber (r.modifier.text ++ rewrite registry rest) :=
        hends.rewrite.endsName.endsNumber
      have hsame : e.name = r.name := by simpa using List.find?_some hget
      rw [h.rewrite_reference hread hget, List.append_assoc,
        restore_reference_append hr (List.mem_of_find?_eq_some hget) hkept,
        restore_append (dollar_not_mem_text r.modifier), hrest, hsame]
      exact (List.append_assoc ..).symm
  | case3 c t hread ih =>
    have hother : ∀ e ∈ registry.entries,
        e.reference ≠ c :: (rewrite registry t).takeWhile CodePoint.isDigit := by
      rw [takeWhile_isDigit_rewrite]
      exact fun e he => h.reference_ne hr he
    rw [rewrite_cons hread, restore_cons hother, ih (h.of_cons hread)]

/-- **Templates that are rewritten to the same are the same.** -/
theorem IsRestorable.rewrite_inj (hr : registry.IsNumbered) (ht : IsRestorable registry t)
    (hu : IsRestorable registry u) (h : rewrite registry t = rewrite registry u) : t = u := by
  rw [← restore_rewrite hr ht, h, restore_rewrite hr hu]

end Template
end RouteTable
