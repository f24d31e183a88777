/-
# What becomes of the query of a destination

Each pair of a query is rewritten on its own, and the pairs that hand on the missing
parameters follow (`rewritePairs_eq`).  None of them has a mark in it at which a query is
cut, so a rewritten query is cut into just these pairs (`pieces_join_rewritePairs`): every
parameter is one of its keys, and rewriting it again changes nothing
(`rewritePairs_join_rewritePairs`).
-/

import Mathlib.Data.List.Nodup
import RouteTable.Destination
import RouteTable.Proofs.Pattern.Names
import RouteTable.Proofs.Template.Rewriting
import RouteTable.Proofs.Text.Pieces

namespace RouteTable
namespace Destination

open Pattern (Registry Entry IsName isNameChar)
open Text (cut join pieces uncut)

variable {registry : Registry} {e : Entry} {c : CodePoint} {p q t : Text}

/-! ### Names -/

/-- Names are written in ASCII. -/
theorem toNat_lt_of_isNameChar (h : isNameChar c = true) : c.toNat < 0x80 := by
  rcases Bool.or_eq_true_iff.1 h with h | h
  · exact CodePoint.toNat_lt_of_isAlphanum h
  · rw [beq_iff_eq.1 h]
    decide

/-- A name is the key that it stands for. -/
theorem formDecode_name {n : Text} (h : IsName n) : Text.formDecode n = n := by
  refine Text.formDecode_eq_self fun c hc => ⟨toNat_lt_of_isNameChar (h.isNameChar c hc), ?_, ?_⟩
  · rintro rfl
    cases h.isNameChar _ hc
  · rintro rfl
    cases h.isNameChar _ hc

/-! ### Pairs -/

/-- The entries that no key of a query names. -/
def missing (registry : Registry) (query : Text) : List Entry :=
  registry.entries.filter fun e => !((pairs query).map key).contains e.name

/-- What is missing is listed, and is no key. -/
theorem mem_missing_iff :
    e ∈ missing registry q ↔ e ∈ registry.entries ∧ e.name ∉ (pairs q).map key := by
  simp [missing]

theorem rewritePairs_eq (registry : Registry) (q : Text) :
    rewritePairs registry q =
      (pairs q).map (rewritePair registry) ++ (missing registry q).map parameterPair := rfl

/-- A pair of a rewritten query comes from a pair, or from a parameter that is missing. -/
theorem mem_rewritePairs_iff : p ∈ rewritePairs registry q ↔
    (∃ u ∈ pairs q, rewritePair registry u = p) ∨
      ∃ e ∈ missing registry q, parameterPair e = p := by
  rw [rewritePairs_eq, List.mem_append, List.mem_map, List.mem_map]

/-- A pair is rewritten behind its first `=`. -/
theorem rewritePair_eq (registry : Registry) (p : Text) :
    rewritePair registry p =
      uncut '=' (cut '=' p).1 ((cut '=' p).2.map (Template.rewrite registry)) := by
  rw [rewritePair]
  split
  · rename_i hp
    rw [hp]
    rfl
  · rename_i hp
    rw [hp]
    rfl

/-- A rewritten pair has the key as it is written, and the rewritten value. -/
theorem cut_rewritePair (registry : Registry) (p : Text) :
    cut '=' (rewritePair registry p) =
      ((cut '=' p).1, (cut '=' p).2.map (Template.rewrite registry)) := by
  rw [rewritePair_eq, Text.cut_uncut (Text.cut_fst_not_mem '=' p)]

/-- A name has name characters only. -/
theorem not_mem_name {n : Text} (h : IsName n) (hc : isNameChar c = false) : c ∉ n := by
  intro hmem
  cases hc.symm.trans (h.isNameChar c hmem)

theorem cut_parameterPair (h : IsName e.name) :
    cut '=' (parameterPair e) = (e.name, some e.reference) :=
  Text.cut_append_cons (not_mem_name h (by decide)) e.reference

/-- Rewriting a pair keeps its key. -/
theorem key_rewritePair (registry : Registry) (p : Text) :
    key (rewritePair registry p) = key p := by
  rw [key, cut_rewritePair, key]

/-- The key of a parameter's pair is its name. -/
theorem key_parameterPair (h : IsName e.name) : key (parameterPair e) = e.name := by
  rw [key, cut_parameterPair h, formDecode_name h]

/-! ### Marks -/

/-- The characters at which a destination and its query are cut. -/
def marks : List CodePoint := [scalar '?', scalar '#', scalar '&']

/-- The marks between the components of a destination are three. -/
theorem mem_marks_iff : c ∈ marks ↔ c = '?' ∨ c = '#' ∨ c = '&' := by
  simp [marks]

/-- A reference has no mark between components in it. -/
theorem not_mem_reference (hc : c ∈ marks) : c ∉ e.reference := by
  obtain ⟨hdollar, hdash, hdigit⟩ : c ≠ '$' ∧ c ≠ '-' ∧ c.isDigit = false := by
    rcases mem_marks_iff.1 hc with rfl | rfl | rfl <;> decide
  intro h
  rcases Template.mem_reference h with h | h | h
  · exact hdollar h
  · exact hdash h
  · cases hdigit.symm.trans h

/-- A template that is rewritten gets no mark between components. -/
theorem not_mem_rewrite (hc : c ∈ marks) (h : c ∉ t) : c ∉ Template.rewrite registry t := by
  intro hmem
  rcases Template.mem_rewrite hmem with hmem | ⟨e, -, hmem⟩
  · exact h hmem
  · exact not_mem_reference hc hmem

/-- A pair that is rewritten gets no mark between components. -/
theorem not_mem_rewritePair (hc : c ∈ marks) (h : c ∉ p) : c ∉ rewritePair registry p := by
  rw [← Text.uncut_cut '=' p, Text.mem_uncut] at h
  push Not at h
  rw [rewritePair_eq, Text.mem_uncut]
  push Not
  refine ⟨h.1, fun v hv => ?_⟩
  obtain ⟨u, hu, rfl⟩ := Option.map_eq_some_iff.1 hv
  exact ⟨(h.2 u hu).1, not_mem_rewrite hc (h.2 u hu).2⟩

/-- The pair of a parameter has no mark between components in it. -/
theorem not_mem_parameterPair (hc : c ∈ marks) (h : IsName e.name) : c ∉ parameterPair e := by
  obtain ⟨hname, hequals⟩ : isNameChar c = false ∧ c ≠ '=' := by
    rcases mem_marks_iff.1 hc with rfl | rfl | rfl <;> decide
  intro hmem
  rcases List.mem_append.1 hmem with hmem | hmem
  · exact not_mem_name h hname hmem
  · rcases List.mem_cons.1 hmem with hmem | hmem
    · exact hequals hmem
    · exact not_mem_reference hc hmem

/-- The pairs of a rewritten query have no mark that the pairs of the query do not have. -/
theorem not_mem_rewritePairs (hr : registry.IsProper) (hc : c ∈ marks)
    (h : ∀ p ∈ pairs q, c ∉ p) : ∀ p ∈ rewritePairs registry q, c ∉ p := by
  intro p hp
  rcases mem_rewritePairs_iff.1 hp with ⟨u, hu, rfl⟩ | ⟨e, he, rfl⟩
  · exact not_mem_rewritePair hc (h u hu)
  · exact not_mem_parameterPair hc (hr.isName e (mem_missing_iff.1 he).1)

/-- The pairs of a query are its pieces that are not empty. -/
theorem mem_pairs_iff : p ∈ pairs q ↔ p ∈ pieces '&' q ∧ p ≠ [] := by
  rw [pairs, List.mem_filter, decide_eq_true_iff]

/-- A pair is not empty when it is rewritten. -/
theorem rewritePair_ne_nil (h : p ≠ []) : rewritePair registry p ≠ [] := by
  intro hnil
  have hcut := cut_rewritePair registry p
  rw [hnil] at hcut
  obtain ⟨hkey, hvalue⟩ := Prod.mk.inj hcut
  refine h ?_
  rw [← Text.uncut_cut '=' p, ← hkey, Option.map_eq_none_iff.1 hvalue.symm]
  rfl

/-- The pairs of a rewritten query are not empty. -/
theorem ne_nil_of_mem_rewritePairs (h : p ∈ rewritePairs registry q) : p ≠ [] := by
  rcases mem_rewritePairs_iff.1 h with ⟨u, hu, rfl⟩ | ⟨e, -, rfl⟩
  · exact rewritePair_ne_nil (mem_pairs_iff.1 hu).2
  · exact List.append_ne_nil_of_right_ne_nil _ (List.cons_ne_nil _ _)

/-- A rewritten query has a pair, if there is a parameter. -/
theorem rewritePairs_ne_nil (hne : registry.entries ≠ []) : rewritePairs registry q ≠ [] := by
  rw [rewritePairs_eq]
  cases hold : pairs q with
  | nil =>
    obtain ⟨e, es, hes⟩ := List.exists_cons_of_ne_nil hne
    have hmem : e ∈ missing registry q :=
      mem_missing_iff.2 ⟨hes ▸ List.mem_cons_self, by simp [hold]⟩
    exact List.append_ne_nil_of_right_ne_nil _ (List.ne_nil_of_mem (List.mem_map_of_mem hmem))
  | cons p ps => exact List.cons_ne_nil _ _

/-! ### Queries -/

/-- **A rewritten query is cut into the rewritten pairs.** -/
theorem pieces_join_rewritePairs (hr : registry.IsProper) (hne : registry.entries ≠ [])
    (q : Text) : pieces '&' (join [scalar '&'] (rewritePairs registry q)) =
      rewritePairs registry q :=
  Text.pieces_join (rewritePairs_ne_nil hne) <| not_mem_rewritePairs hr (by decide) fun _ hp =>
    Text.not_mem_of_mem_pieces (mem_pairs_iff.1 hp).1

/-- The pairs of a rewritten query are read back from it. -/
theorem pairs_join_rewritePairs (hr : registry.IsProper) (hne : registry.entries ≠ [])
    (q : Text) : pairs (join [scalar '&'] (rewritePairs registry q)) = rewritePairs registry q := by
  rw [pairs, pieces_join_rewritePairs hr hne, List.filter_eq_self]
  exact fun p hp => decide_eq_true (ne_nil_of_mem_rewritePairs hp)

/-- The pairs of a rewritten query: the keys as they are written, with the values rewritten,
and the names that are missing, each with its reference. -/
theorem map_cut_rewritePairs (hr : registry.IsProper) (q : Text) :
    (rewritePairs registry q).map (cut '=') =
      ((pairs q).map (cut '=')).map (fun p => (p.1, p.2.map (Template.rewrite registry))) ++
        (missing registry q).map fun e => (e.name, some e.reference) := by
  rw [rewritePairs_eq, List.map_append, List.map_map, List.map_map, List.map_map]
  congr 1
  · exact List.map_congr_left fun p _ => cut_rewritePair registry p
  · exact List.map_congr_left fun e he =>
      cut_parameterPair (hr.isName e (mem_missing_iff.1 he).1)

/-- The keys of a rewritten query are those of the query, and the names that it did not
have. -/
theorem map_key_rewritePairs (hr : registry.IsProper) (q : Text) :
    (rewritePairs registry q).map key =
      (pairs q).map key ++ (missing registry q).map Entry.name := by
  rw [rewritePairs_eq, List.map_append, List.map_map, List.map_map]
  congr 1
  · exact List.map_congr_left fun p _ => key_rewritePair registry p
  · exact List.map_congr_left fun e he =>
      key_parameterPair (hr.isName e (mem_missing_iff.1 he).1)

/-- **Every parameter is a key** of a rewritten query. -/
theorem name_mem_map_key_rewritePairs (hr : registry.IsProper) (he : e ∈ registry.entries) :
    e.name ∈ (rewritePairs registry q).map key := by
  rw [map_key_rewritePairs hr]
  by_cases hold : e.name ∈ (pairs q).map key
  · exact List.mem_append_left _ hold
  · exact List.mem_append_right _ (List.mem_map_of_mem
      (mem_missing_iff.2 ⟨he, hold⟩))

/-- A name that was no key of the query is one key of the rewritten query. -/
theorem count_key_rewritePairs (hr : registry.IsProper) (he : e ∈ missing registry q) :
    ((rewritePairs registry q).map key).count e.name = 1 := by
  obtain ⟨hmem, hold⟩ := mem_missing_iff.1 he
  have hnodup : ((missing registry q).map Entry.name).Nodup :=
    hr.nodup.sublist (List.filter_sublist.map _)
  rw [map_key_rewritePairs hr, List.count_append,
    List.count_eq_zero_of_not_mem hold,
    List.count_eq_one_of_mem hnodup (List.mem_map_of_mem he)]

/-- Nothing is missing from a rewritten query. -/
theorem missing_join_rewritePairs (hr : registry.IsProper) (hne : registry.entries ≠ [])
    (q : Text) : missing registry (join [scalar '&'] (rewritePairs registry q)) = [] := by
  refine List.eq_nil_iff_forall_not_mem.2 fun e he => ?_
  obtain ⟨hmem, hold⟩ := mem_missing_iff.1 he
  rw [pairs_join_rewritePairs hr hne] at hold
  exact hold (name_mem_map_key_rewritePairs hr hmem)

/-- A pair is rewritten once and for all. -/
theorem rewritePair_rewritePair (registry : Registry) (p : Text) :
    rewritePair registry (rewritePair registry p) = rewritePair registry p := by
  rw [rewritePair_eq, cut_rewritePair, rewritePair_eq, Option.map_map]
  congr 2
  funext u
  exact Template.rewrite_rewrite registry u

/-- The pair of a parameter is not rewritten again. -/
theorem rewritePair_parameterPair (h : IsName e.name) :
    rewritePair registry (parameterPair e) = parameterPair e := by
  rw [rewritePair_eq, cut_parameterPair h, Option.map_some, Template.rewrite_reference]
  rfl

/-- The pairs of a rewritten query are not rewritten again. -/
theorem rewritePair_of_mem_rewritePairs (hr : registry.IsProper)
    (h : p ∈ rewritePairs registry q) : rewritePair registry p = p := by
  rcases mem_rewritePairs_iff.1 h with ⟨u, -, rfl⟩ | ⟨e, he, rfl⟩
  · exact rewritePair_rewritePair registry u
  · exact rewritePair_parameterPair (hr.isName e (mem_missing_iff.1 he).1)

/-- The values of a rewritten query are not rewritten again. -/
theorem map_value_of_mem_rewritePairs (hr : registry.IsProper)
    (h : p ∈ rewritePairs registry q) : ∀ v ∈ (cut '=' p).2, Template.rewrite registry v = v := by
  intro v hv
  have hcut := cut_rewritePair registry p
  rw [rewritePair_of_mem_rewritePairs hr h] at hcut
  have hvalue := congrArg Prod.snd hcut
  rw [Option.mem_def.1 hv] at hvalue
  exact (Option.some.inj hvalue).symm

/-- Pairs that are rewritten stay as they are, and none is appended again. -/
theorem rewritePairs_join_rewritePairs (hr : registry.IsProper) (hne : registry.entries ≠ [])
    (q : Text) : rewritePairs registry (join [scalar '&'] (rewritePairs registry q)) =
      rewritePairs registry q := by
  rw [rewritePairs_eq, missing_join_rewritePairs hr hne, pairs_join_rewritePairs hr hne,
    List.map_nil, List.append_nil]
  exact (List.map_congr_left fun p hp => rewritePair_of_mem_rewritePairs hr hp).trans
    (List.map_id _)

/-- A rewritten query has no `#` if the query has none. -/
theorem hash_not_mem_join_rewritePairs (hr : registry.IsProper) (h : scalar '#' ∉ q) :
    scalar '#' ∉ join [scalar '&'] (rewritePairs registry q) := by
  intro hmem
  have hold : ∀ p ∈ pairs q, scalar '#' ∉ p := fun p hp hc =>
    h (Text.mem_of_mem_pieces (mem_pairs_iff.1 hp).1 hc)
  rcases Text.mem_join hmem with hmem | ⟨p, hp, hmem⟩
  · cases List.mem_singleton.1 hmem
  · exact not_mem_rewritePairs hr (by decide) hold p hp hmem

end Destination
end RouteTable
