/-
# Headers that are assigned one after the other

What assignments give is known by its keys and by the value of each.  The keys are those that
are assigned, each where it is assigned first (`keys_ofList`), and a key has the value that is
assigned to it last (`lookup_ofList`).  So the headers are the assignments themselves exactly if
no key is assigned twice (`ofList_eq_self_iff`).
-/

import Mathlib.Data.List.Induction
import Mathlib.Data.List.Nodup
import RouteTable.Route

namespace RouteTable
namespace Headers

/-- The keys of headers, in order. -/
def keys (hs : Headers) : List Text := hs.map Prod.fst

variable {hs ps : Headers} {k l v : Text}

/-! ### One assignment -/

/-- A key that is new comes last. -/
theorem assign_of_notMem (h : k ∉ hs.keys) : assign k v hs = hs ++ [(k, v)] := by
  induction hs with
  | nil => rfl
  | cons p hs ih =>
    obtain ⟨hne, hk⟩ := not_or.1 (mt List.mem_cons.2 h)
    rw [assign, if_neg (Ne.symm hne), ih hk]
    rfl

/-- A key that is assigned again keeps its place. -/
theorem keys_assign_of_mem (h : k ∈ hs.keys) : (assign k v hs).keys = hs.keys := by
  induction hs with
  | nil => cases h
  | cons p hs ih =>
    rw [assign]
    by_cases hp : p.1 = k
    · rw [if_pos hp]
      rfl
    · rw [if_neg hp]
      exact congrArg (p.1 :: ·) (ih ((List.mem_cons.1 h).resolve_left (Ne.symm hp)))

theorem keys_singleton (k v : Text) : keys [(k, v)] = [k] := rfl

theorem keys_append (hs ps : Headers) : keys (hs ++ ps) = hs.keys ++ ps.keys := List.map_append

/-- A header is found at its first key. -/
theorem lookup_cons (k v l : Text) (hs : Headers) :
    List.lookup l ((k, v) :: hs) = if l = k then some v else hs.lookup l := by
  rw [List.lookup_cons]
  by_cases h : l = k
  · rw [beq_iff_eq.2 h, if_pos h]
  · rw [beq_eq_false_iff_ne.2 h, if_neg h]

/-- What is assigned is found, and the others are as before. -/
theorem lookup_assign : (assign k v hs).lookup l = if l = k then some v else hs.lookup l := by
  induction hs with
  | nil => exact lookup_cons k v l []
  | cons p hs ih =>
    obtain ⟨k', v'⟩ := p
    rw [assign]
    by_cases hp : k' = k
    · rw [if_pos hp, lookup_cons, lookup_cons, hp]
      by_cases hl : l = k
      · rw [if_pos hl, if_pos hl]
      · rw [if_neg hl, if_neg hl, if_neg hl]
    · rw [if_neg hp, lookup_cons, lookup_cons, ih]
      by_cases hl : l = k
      · have hne : l ≠ k' := hl ▸ Ne.symm hp
        rw [if_pos hl, if_pos hl, if_neg hne]
      · rw [if_neg hl, if_neg hl]

/-! ### All assignments -/

/-- Headers are assigned one after the other. -/
theorem ofList_concat (ps : Headers) (k v : Text) :
    ofList (ps ++ [(k, v)]) = assign k v (ofList ps) := by
  rw [ofList, List.foldl_append]
  rfl

/-- **The keys** are those that are assigned, in the order of their first assignments. -/
theorem keys_ofList (ps : Headers) : (ofList ps).keys = ps.keys.eraseDups := by
  induction ps using List.reverseRecOn with
  | nil => rfl
  | append_singleton ps p ih =>
    obtain ⟨k, v⟩ := p
    have hmem : k ∈ (ofList ps).keys ↔ k ∈ keys ps := by
      rw [ih, List.mem_eraseDups]
    rw [ofList_concat, keys_append, List.eraseDups_append, ← ih]
    by_cases hk : k ∈ keys ps
    · rw [keys_assign_of_mem (hmem.2 hk)]
      simp [keys_singleton, List.removeAll, hk]
    · rw [assign_of_notMem (mt hmem.1 hk), keys_append]
      simp [keys_singleton, List.removeAll, hk, List.eraseDups_cons]

/-- **The value of a key** is the one that is assigned last. -/
theorem lookup_ofList (ps : Headers) (k : Text) : (ofList ps).lookup k = ps.reverse.lookup k := by
  induction ps using List.reverseRecOn with
  | nil => rfl
  | append_singleton ps p ih =>
    obtain ⟨l, v⟩ := p
    rw [ofList_concat, lookup_assign, ih, List.reverse_append]
    exact (lookup_cons l v k ps.reverse).symm

/-- No key stands twice. -/
theorem nodup_keys_ofList (ps : Headers) : (ofList ps).keys.Nodup := by
  induction ps using List.reverseRecOn with
  | nil => exact List.nodup_nil
  | append_singleton ps p ih =>
    obtain ⟨k, v⟩ := p
    rw [ofList_concat]
    by_cases hk : k ∈ (ofList ps).keys
    · rwa [keys_assign_of_mem hk]
    · rw [assign_of_notMem hk, keys_append]
      exact ih.append (List.nodup_singleton k) (List.disjoint_singleton.2 hk)

/-- **Nothing is lost** exactly if no key is assigned twice. -/
theorem ofList_eq_self_iff : ofList ps = ps ↔ ps.keys.Nodup := by
  constructor
  · intro h
    rw [← h]
    exact nodup_keys_ofList ps
  · intro h
    induction ps using List.reverseRecOn with
    | nil => rfl
    | append_singleton ps p ih =>
      obtain ⟨k, v⟩ := p
      rw [keys_append] at h
      have hps := ih (List.Nodup.of_append_left h)
      rw [ofList_concat, hps, assign_of_notMem]
      exact fun hk => List.disjoint_of_nodup_append h hk List.mem_cons_self

end Headers
end RouteTable
