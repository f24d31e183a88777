/-
# A template is rewritten once and for all

A rewritten template is scanned like the template: what a listed reference becomes has no
`:` in it, and whatever stands before it ends where it ended before.  So the references of
the rewritten template are those that are not listed (`references_rewrite`), and rewriting
it again changes nothing (`rewrite_rewrite`).
-/

import Mathlib.Data.List.Basic
import RouteTable.Template.Rewriting
import RouteTable.Proofs.Template.References

namespace RouteTable
namespace Template

open Pattern (Modifier Registry Entry IsName isNameChar)

variable {registry : Registry} {t u rest : Text} {r : Reference} {c : CodePoint}

/-! ### What a template becomes -/

/-- What a template becomes part by part, whether or not any parameter is listed. -/
theorem rewrite_eq_flatMap (registry : Registry) (t : Text) :
    rewrite registry t = (scan t).flatMap (Part.rewrite registry) := by
  rw [rewrite]
  split
  · rename_i hnone
    have hpart : Part.rewrite registry = Part.written := by
      funext p
      cases p with
      | literal u => rfl
      | reference r =>
        rw [Part.rewrite, Reference.rewrite, Registry.get?, hnone]
        rfl
    rw [hpart, flatMap_written_scan]
  · rfl

theorem rewrite_nil (registry : Registry) : rewrite registry [] = [] := by
  rw [rewrite_eq_flatMap, scan, List.flatMap_nil]

/-- A reference is rewritten, and then the rest. -/
theorem rewrite_of_readReference? (h : readReference? t = some (r, rest)) :
    rewrite registry t = r.rewrite registry ++ rewrite registry rest := by
  rw [rewrite_eq_flatMap, rewrite_eq_flatMap, scan_of_readReference? h]
  rfl

/-- A character that starts no reference stays. -/
theorem rewrite_cons (h : readReference? (c :: t) = none) :
    rewrite registry (c :: t) = c :: rewrite registry t := by
  rw [rewrite_eq_flatMap, rewrite_eq_flatMap, scan_cons h]
  unfold Part.consChar
  split
  · rename_i hscan
    rw [hscan]
    rfl
  · rfl

/-- A listed reference becomes that of its entry, with or without the modifier after it. -/
theorem Reference.rewrite_of_get? {e : Entry} (h : registry.get? r.name = some e) :
    ∃ m, (m = .once ∨ m = r.modifier) ∧ r.rewrite registry = e.reference ++ m.text := by
  rw [Reference.rewrite, h]
  by_cases hm : r.modifier.text = e.modifier
  · refine ⟨.once, .inl rfl, (if_pos hm).trans ?_⟩
    exact (List.append_nil e.reference).symm
  · exact ⟨r.modifier, .inr rfl, if_neg hm⟩

/-- A reference that is not listed stays. -/
theorem Reference.rewrite_of_none (h : registry.get? r.name = none) :
    r.rewrite registry = r.written := by
  rw [Reference.rewrite, h]

/-- A rewritten template begins like the template, except that a `:` can have become `$`. -/
theorem head?_rewrite (registry : Registry) (t : Text) :
    (rewrite registry t).head? = t.head? ∨
      t.head? = some (scalar ':') ∧ (rewrite registry t).head? = some (scalar '$') := by
  cases t with
  | nil => exact .inl (by rw [rewrite_nil])
  | cons c t =>
    cases h : readReference? (c :: t) with
    | none => exact .inl (by rw [rewrite_cons h]; rfl)
    | some p =>
      obtain ⟨r, rest⟩ := p
      rw [rewrite_of_readReference? h, ← written_append_of_readReference? h]
      cases hr : registry.get? r.name with
      | none => exact .inl (by rw [Reference.rewrite_of_none hr]; rfl)
      | some e =>
        obtain ⟨m, -, hm⟩ := Reference.rewrite_of_get? hr
        exact .inr ⟨rfl, by rw [hm]; rfl⟩

/-- What ends a name or a reference still ends it when it is rewritten. -/
theorem forall_head?_rewrite {p : CodePoint → Prop} (hp : p '$')
    (h : ∀ c ∈ t.head?, p c) : ∀ c ∈ (rewrite registry t).head?, p c := by
  rcases head?_rewrite registry t with heq | ⟨-, heq⟩
  · rwa [heq]
  · rw [heq]
    rintro c hc
    rwa [← Option.some.inj hc]

theorem EndsName.rewrite (h : EndsName t) : EndsName (rewrite registry t) :=
  forall_head?_rewrite (by decide) h

theorem Reference.EndsBefore.rewrite (h : r.EndsBefore rest) :
    r.EndsBefore (Template.rewrite registry rest) :=
  fun honce => ⟨(h honce).1.rewrite, forall_head?_rewrite (by decide) (h honce).2⟩

/-- The reference of an entry is `$` and a number. -/
theorem mem_reference {e : Entry} (h : c ∈ e.reference) :
    c = '$' ∨ c = '-' ∨ c.isDigit = true := by
  rcases List.mem_cons.1 h with h | h
  · exact .inl h
  · cases hindex : e.index with
    | ofNat n =>
      rw [hindex] at h
      exact .inr (.inr (isDigit_of_mem_repr h))
    | negSucc n =>
      have hwritten : (toString (Int.negSucc n)).text = scalar '-' :: (n + 1).repr.text :=
        String.text_append "-" _
      rw [hindex, hwritten] at h
      rcases List.mem_cons.1 h with h | h
      · exact .inr (.inl h)
      · exact .inr (.inr (isDigit_of_mem_repr h))

/-- A reference to a group has no colon. -/
theorem colon_not_mem_reference {e : Entry} : scalar ':' ∉ e.reference := by
  intro h
  rcases mem_reference h with h | h | h <;> cases h

/-- A modifier has no colon. -/
theorem colon_not_mem_text (m : Modifier) : scalar ':' ∉ m.text := by
  cases m <;> decide

/-! ### Once and for all -/

/-- **The references of a rewritten template** are those of the template that are not
listed. -/
theorem references_rewrite (registry : Registry) (t : Text) :
    references (rewrite registry t) =
      (references t).filter fun r => (registry.get? r.name).isNone := by
  induction t using scan.induct with
  | case1 => rw [rewrite_nil, references_nil, List.filter_nil]
  | case2 c t r rest h ih =>
    obtain ⟨-, hname, hends⟩ := readReference?_eq_some_iff.1 h
    rw [rewrite_of_readReference? h, references_of_readReference? h, List.filter_cons]
    cases hr : registry.get? r.name with
    | none =>
      rw [Reference.rewrite_of_none hr, references_of_readReference?
        (readReference?_eq_some_iff.2 ⟨rfl, hname, hends.rewrite⟩), ih]
      rfl
    | some e =>
      obtain ⟨m, -, hm⟩ := Reference.rewrite_of_get? hr
      rw [hm, List.append_assoc, references_append colon_not_mem_reference,
        references_append (colon_not_mem_text m), ih]
      rfl
  | case3 c t h ih =>
    have hrewrite : readReference? (c :: rewrite registry t) = none :=
      readReference?_cons_eq_none_iff.2 fun hc =>
        (readReference?_cons_eq_none_iff.1 h hc).rewrite
    rw [rewrite_cons h, references_cons hrewrite, references_cons h, ih]

/-- A template without listed references stays as it is. -/
theorem rewrite_eq_self (h : ∀ r ∈ references t, registry.get? r.name = none) :
    rewrite registry t = t := by
  have hpart : ∀ p ∈ scan t, p.rewrite registry = p.written := by
    intro p hp
    cases p with
    | literal u => rfl
    | reference r => exact Reference.rewrite_of_none (h r (List.mem_filterMap.2 ⟨_, hp, rfl⟩))
  calc rewrite registry t
      = (scan t).flatMap (Part.rewrite registry) := rewrite_eq_flatMap registry t
    _ = (scan t).flatMap Part.written := List.flatMap_congr hpart
    _ = t := flatMap_written_scan t

/-- The reference of an entry stays as it is. -/
theorem rewrite_reference (registry : Registry) (e : Entry) :
    rewrite registry e.reference = e.reference := by
  refine rewrite_eq_self fun r hr => ?_
  rw [references_eq_nil colon_not_mem_reference] at hr
  cases hr

/-- No reference of a rewritten template is listed. -/
theorem get?_of_mem_references_rewrite (h : r ∈ references (rewrite registry t)) :
    registry.get? r.name = none := by
  rw [references_rewrite] at h
  exact Option.isNone_iff_eq_none.1 (List.mem_filter.1 h).2

/-- **Rewriting a rewritten template changes nothing.** -/
theorem rewrite_rewrite (registry : Registry) (t : Text) :
    rewrite registry (rewrite registry t) = rewrite registry t :=
  rewrite_eq_self fun _ h => get?_of_mem_references_rewrite h

/-! ### What a rewritten template is made of -/

/-- A rewritten template is made of characters of the template and of references to
entries. -/
theorem mem_rewrite (h : c ∈ rewrite registry t) :
    c ∈ t ∨ ∃ e ∈ registry.entries, c ∈ e.reference := by
  rw [rewrite_eq_flatMap] at h
  obtain ⟨p, hp, hc⟩ := List.mem_flatMap.1 h
  have of_written : c ∈ p.written → c ∈ t := by
    intro hwritten
    rw [← flatMap_written_scan t]
    exact List.mem_flatMap.2 ⟨p, hp, hwritten⟩
  cases p with
  | literal u => exact .inl (of_written hc)
  | reference r =>
    rw [Part.rewrite] at hc
    cases hr : registry.get? r.name with
    | none =>
      rw [Reference.rewrite_of_none hr] at hc
      exact .inl (of_written hc)
    | some e =>
      obtain ⟨m, hm, heq⟩ := Reference.rewrite_of_get? hr
      rw [heq] at hc
      rcases List.mem_append.1 hc with hc | hc
      · exact .inr ⟨e, List.mem_of_find?_eq_some hr, hc⟩
      · rcases hm with rfl | rfl
        · cases hc
        · exact .inl (of_written (List.mem_cons_of_mem _ (List.mem_append_right _ hc)))

/-- A text that can stand only where the template has it: there is no `$` in it, and every
`:` in it has something after it that begins no name. -/
def Inert : Text → Prop
  | [] => True
  | c :: t => c ≠ '$' ∧ (c = ':' → t ≠ [] ∧ EndsName t) ∧ Inert t

theorem Inert.append (hu : ∀ c ∈ u, c ≠ '$' ∧ c ≠ ':') (ht : Inert t) : Inert (u ++ t) := by
  induction u with
  | nil => exact ht
  | cons c u ih =>
    obtain ⟨hdollar, hcolon⟩ := hu c List.mem_cons_self
    exact ⟨hdollar, fun h => absurd h hcolon, ih fun d hd => hu d (List.mem_cons_of_mem _ hd)⟩

/-- **A rewritten template begins with an inert text only if the template does.** -/
theorem Inert.of_prefix_rewrite (hu : Inert u) (h : u <+: rewrite registry t) : u <+: t := by
  induction u generalizing t with
  | nil => exact List.nil_prefix
  | cons c u ih =>
    obtain ⟨hdollar, hcolon, hu⟩ := hu
    cases t with
    | nil =>
      rw [rewrite_nil] at h
      cases List.prefix_nil.1 h
    | cons d t =>
      cases hread : readReference? (d :: t) with
      | none =>
        rw [rewrite_cons hread, List.cons_prefix_cons] at h
        exact List.cons_prefix_cons.2 ⟨h.1, ih hu h.2⟩
      | some p =>
        obtain ⟨r, rest⟩ := p
        rw [rewrite_of_readReference? hread] at h
        cases hr : registry.get? r.name with
        | none =>
          -- The text would go on with the name of the reference.
          obtain ⟨-, hname, -⟩ := readReference?_eq_some_iff.1 hread
          obtain ⟨a, name, hcons⟩ := List.exists_cons_of_ne_nil hname.ne_nil
          rw [Reference.rewrite_of_none hr, Reference.written, hcons] at h
          obtain ⟨hc, h⟩ := List.cons_prefix_cons.1 h
          obtain ⟨hne, hends⟩ := hcolon hc
          obtain ⟨b, u, rfl⟩ := List.exists_cons_of_ne_nil hne
          obtain ⟨rfl, -⟩ := List.cons_prefix_cons.1 h
          have ha : isNameChar b = true := hname.isNameChar b (hcons ▸ List.mem_cons_self)
          cases ha.symm.trans (hends b rfl)
        | some e =>
          obtain ⟨m, -, hm⟩ := Reference.rewrite_of_get? hr
          rw [hm] at h
          exact absurd (List.cons_prefix_cons.1 h).1 hdollar

end Template
end RouteTable
