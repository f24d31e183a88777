/-
# The one way to cut a destination

`IsSplit` says what the components of a destination are: written one after the other they
are the destination, the origin is the longest that it begins with, and neither the path
nor the query goes on past where the next component begins.  That leaves one choice, and
`parse` makes it (`isSplit_iff`).
-/

import RouteTable.Destination
import RouteTable.Proofs.Text.Pieces

namespace RouteTable
namespace Destination

open Text (uncut)

attribute [ext] Destination

variable {s t o v : Text} {d : Destination}

/-! ### Origins -/

/-- A scheme with its `:`, or nothing. -/
def IsScheme (s : Text) : Prop :=
  s = [] ∨ ∃ c u, s = c :: (u ++ [scalar ':']) ∧ c.isAlpha = true ∧ ∀ d ∈ u, isSchemeChar d = true

/-- `//` and an authority, with a scheme before it or not. -/
def IsOrigin (o : Text) : Prop :=
  ∃ s a, o = s ++ scalar '/' :: scalar '/' :: a ∧ IsScheme s ∧ ∀ c ∈ a, endsAuthority c = false

/-- The components of a destination. -/
structure IsSplit (t : Text) (d : Destination) : Prop where
  text_eq : d.text = t
  origin : d.origin = [] ∨ IsOrigin d.origin
  longest : ∀ o, IsOrigin o → o <+: t → o.length ≤ d.origin.length
  path : scalar '?' ∉ d.path ∧ scalar '#' ∉ d.path
  query : ∀ q ∈ d.query, scalar '#' ∉ q

theorem afterScheme?_append {c : CodePoint} {u : Text} (hc : c.isAlpha = true)
    (hu : ∀ d ∈ u, isSchemeChar d = true) (v : Text) :
    afterScheme? (c :: (u ++ scalar ':' :: v)) = some v := by
  rw [afterScheme?, if_pos hc, List.dropWhile_append_of_pos hu]
  rfl

/-- A scheme that is not empty is scheme characters and `:`. -/
theorem IsScheme.eq_nil_or (h : IsScheme s) :
    s = [] ∨ ∃ u, s = u ++ [scalar ':'] ∧ ∀ c ∈ u, isSchemeChar c = true := by
  rcases h with h | ⟨c, u, rfl, hc, hu⟩
  · exact .inl h
  · refine .inr ⟨c :: u, rfl, fun b hb => ?_⟩
    rcases List.mem_cons.1 hb with rfl | hb
    · simp [isSchemeChar, CodePoint.isAlphanum, hc]
    · exact hu b hb

/-- Neither a query nor a fragment begins in an origin. -/
theorem IsOrigin.not_mem {c : CodePoint} (h : IsOrigin o) (hc : c = '?' ∨ c = '#') : c ∉ o := by
  obtain ⟨hscheme, hrest, hends⟩ :
      isSchemeChar c = false ∧ c ∉ [scalar ':', scalar '/'] ∧ endsAuthority c = true := by
    rcases hc with rfl | rfl <;> decide
  obtain ⟨s, a, rfl, hs, ha⟩ := h
  rw [List.mem_append, List.mem_cons, List.mem_cons]
  rintro (hmem | hslash | hslash | hmem)
  · rcases hs.eq_nil_or with rfl | ⟨u, rfl, hu⟩
    · cases hmem
    · rcases List.mem_append.1 hmem with hmem | hcolon
      · cases hscheme.symm.trans (hu c hmem)
      · exact hrest (List.mem_singleton.1 hcolon ▸ List.mem_cons_self)
  · exact hrest (hslash ▸ List.mem_cons_of_mem _ List.mem_cons_self)
  · exact hrest (hslash ▸ List.mem_cons_of_mem _ List.mem_cons_self)
  · cases (ha c hmem).symm.trans hends

/-- What is left after an origin is what does not belong to the authority. -/
theorem afterOrigin_append (hs : IsScheme s) (v : Text) :
    afterOrigin (s ++ scalar '/' :: scalar '/' :: v) = v.dropWhile (!endsAuthority ·) := by
  rcases hs with rfl | ⟨c, u, rfl, hc, hu⟩
  · rfl
  · rw [List.cons_append, List.append_assoc, List.singleton_append, afterOrigin,
      afterScheme?_append hc hu]
    rfl

/-- What a scheme is read from begins with one, or with none. -/
theorem exists_of_afterScheme? (h : afterScheme? t = some v) : ∃ s, IsScheme s ∧ t = s ++ v := by
  cases t with
  | nil => cases h
  | cons c t =>
    rw [afterScheme?] at h
    split at h
    · rename_i hc
      split at h
      · rename_i rest hdrop
        obtain rfl := Option.some.inj h
        refine ⟨c :: (t.takeWhile isSchemeChar ++ [scalar ':']),
          .inr ⟨c, _, rfl, hc, List.all_eq_true.1 List.all_takeWhile⟩, ?_⟩
        rw [List.cons_append, List.append_assoc, List.singleton_append, ← hdrop,
          List.takeWhile_append_dropWhile]
      · cases h
    · cases h

/-- An authority stands behind two slashes, up to the first character that ends one. -/
theorem exists_of_afterAuthority? (h : afterAuthority? t = some v) :
    ∃ u, t = scalar '/' :: scalar '/' :: u ∧ v = u.dropWhile (!endsAuthority ·) := by
  unfold afterAuthority? at h
  split at h
  · rename_i u
    exact ⟨u, rfl, (Option.some.inj h).symm⟩
  · cases h

/-- What is left of a text that has no origin is all of it. -/
theorem afterOrigin_cases (t : Text) : afterOrigin t = t ∨
    ∃ s v, t = s ++ scalar '/' :: scalar '/' :: v ∧ IsScheme s ∧
      afterOrigin t = v.dropWhile (!endsAuthority ·) := by
  have split_off : ∀ {s u rest}, IsScheme s → t = s ++ u → afterAuthority? u = some rest →
      ∃ s v, t = s ++ scalar '/' :: scalar '/' :: v ∧ IsScheme s ∧
        afterOrigin t = v.dropWhile (!endsAuthority ·) := by
    rintro s u rest hs rfl hu
    obtain ⟨v, rfl, -⟩ := exists_of_afterAuthority? hu
    exact ⟨s, v, rfl, hs, afterOrigin_append hs v⟩
  cases hbind : (afterScheme? t).bind afterAuthority? with
  | some rest =>
    obtain ⟨u, hu, hrest⟩ := Option.bind_eq_some_iff.1 hbind
    obtain ⟨s, hs, ht⟩ := exists_of_afterScheme? hu
    exact .inr (split_off hs ht hrest)
  | none =>
    cases hrest : afterAuthority? t with
    | some rest => exact .inr (split_off (.inl rfl) rfl hrest)
    | none =>
      left
      rw [afterOrigin, hbind, hrest]
      rfl

/-- A destination is its origin and what is left after it. -/
theorem origin_parse_spec (t : Text) :
    (parse t).origin ++ afterOrigin t = t ∧
      ((parse t).origin = [] ∨ IsOrigin (parse t).origin) := by
  have of_eq : ∀ o, o ++ afterOrigin t = t → (parse t).origin = o := by
    intro o ho
    have hlength : t.length - (afterOrigin t).length = o.length := by
      rw [← congrArg List.length ho, List.length_append, Nat.add_sub_cancel]
    have htake : t.take o.length = o := by
      rw [← ho, List.take_left]
    rw [parse, hlength, htake]
  rcases afterOrigin_cases t with h | ⟨s, v, ht, hs, h⟩
  · have horigin := of_eq [] h
    rw [horigin]
    exact ⟨h, .inl rfl⟩
  · have hwhole : (s ++ scalar '/' :: scalar '/' :: v.takeWhile (!endsAuthority ·)) ++
        afterOrigin t = t := by
      rw [h, List.append_assoc, List.cons_append, List.cons_append,
        List.takeWhile_append_dropWhile, ht]
    rw [of_eq _ hwhole]
    refine ⟨hwhole, .inr ⟨s, _, rfl, hs, fun c hc => ?_⟩⟩
    simpa using List.all_eq_true.1 List.all_takeWhile c hc

/-- After an origin, the authority goes on to what ends it. -/
theorem IsOrigin.afterOrigin_append (h : IsOrigin o) (w : Text) :
    afterOrigin (o ++ w) = w.dropWhile (!endsAuthority ·) := by
  obtain ⟨s, a, rfl, hs, ha⟩ := h
  rw [List.append_assoc, List.cons_append, List.cons_append, Destination.afterOrigin_append hs,
    List.dropWhile_append_of_pos]
  simpa using ha

/-- No origin that a destination begins with is longer. -/
theorem length_le_origin_parse (ho : IsOrigin o) (h : o <+: t) :
    o.length ≤ (parse t).origin.length := by
  obtain ⟨w, rfl⟩ := h
  have hlength := congrArg List.length (origin_parse_spec (o ++ w)).1
  have hle := (List.dropWhile_sublist (l := w) (!endsAuthority ·)).length_le
  rw [ho.afterOrigin_append, List.length_append, List.length_append] at hlength
  omega

/-- An origin before what ends its authority is the longest. -/
theorem length_le_of_endsAuthority {e w : Text} (ho : IsOrigin o) (he : IsOrigin e)
    (hw : ∀ c ∈ w.head?, endsAuthority c = true) (h : o <+: e ++ w) : o.length ≤ e.length := by
  have hle := length_le_origin_parse ho h
  have hlength := congrArg List.length (origin_parse_spec (e ++ w)).1
  have hleft : w.dropWhile (!endsAuthority ·) = w := by
    cases w with
    | nil => rfl
    | cons c w => simp [hw c rfl]
  rw [he.afterOrigin_append, hleft, List.length_append, List.length_append] at hlength
  omega

/-! ### Components -/

/-- A destination is written as its origin, and the rest cut at `#` and `?`. -/
theorem text_eq_append (d : Destination) :
    d.text = d.origin ++ uncut '#' (uncut '?' d.path d.query) d.fragment := by
  obtain ⟨o, p, _ | q, _ | f⟩ := d <;> simp [text, text.part, uncut]

/-- **A destination is cut into components** by its reader. -/
theorem isSplit_parse (t : Text) : IsSplit t (parse t) := by
  obtain ⟨hwhole, horigin⟩ := origin_parse_spec t
  set before := (Text.cut '#' (afterOrigin t)).1 with hbefore
  have hhash : scalar '#' ∉ before := Text.cut_fst_not_mem '#' (afterOrigin t)
  have hpath : (parse t).path = (Text.cut '?' before).1 := rfl
  have hquery : (parse t).query = (Text.cut '?' before).2 := rfl
  have hfragment : (parse t).fragment = (Text.cut '#' (afterOrigin t)).2 := rfl
  have hcut : uncut '?' (parse t).path (parse t).query = before := Text.uncut_cut '?' before
  have hrest : scalar '#' ∉ uncut '?' (parse t).path (parse t).query := hcut ▸ hhash
  rw [Text.mem_uncut] at hrest
  push Not at hrest
  exact {
    text_eq := by
      rw [text_eq_append, hcut, hfragment, hbefore, Text.uncut_cut, hwhole]
    origin := horigin
    longest := fun _ => length_le_origin_parse
    path := ⟨hpath ▸ Text.cut_fst_not_mem '?' before, hrest.1⟩
    query := fun q hq => (hrest.2 q hq).2 }

/-- Neither the path nor the query has a `#`. -/
theorem IsSplit.hash_not_mem (h : IsSplit t d) : scalar '#' ∉ uncut '?' d.path d.query := by
  rw [Text.mem_uncut]
  rintro (hmem | ⟨q, hq, heq | hmem⟩)
  · exact h.path.2 hmem
  · cases heq
  · exact h.query q hq hmem

/-- The rest of a destination has one path, query and fragment. -/
theorem IsSplit.cut_eq (h : IsSplit t d) :
    Text.cut '#' (uncut '#' (uncut '?' d.path d.query) d.fragment) =
        (uncut '?' d.path d.query, d.fragment) ∧
      Text.cut '?' (uncut '?' d.path d.query) = (d.path, d.query) :=
  ⟨Text.cut_uncut h.hash_not_mem d.fragment, Text.cut_uncut h.path.1 d.query⟩

/-- The origin stands first. -/
theorem IsSplit.origin_begins_text (h : IsSplit t d) : d.origin <+: t := by
  rw [← h.text_eq, text_eq_append]
  exact List.prefix_append _ _

/-- No way to cut has a longer origin than another. -/
theorem IsSplit.length_origin_le {e : Destination} (hd : IsSplit t d) (he : IsSplit t e) :
    d.origin.length ≤ e.origin.length := by
  rcases hd.origin with hnil | horigin
  · rw [hnil]
    exact Nat.zero_le _
  · exact he.longest _ horigin hd.origin_begins_text

/-- **There is one way to cut a destination** into components. -/
theorem IsSplit.unique {e : Destination} (hd : IsSplit t d) (he : IsSplit t e) : d = e := by
  have horigin : d.origin = e.origin :=
    (List.prefix_of_prefix_length_le hd.origin_begins_text he.origin_begins_text
      (hd.length_origin_le he)).eq_of_length
      (Nat.le_antisymm (hd.length_origin_le he) (he.length_origin_le hd))
  have hrest : uncut '#' (uncut '?' d.path d.query) d.fragment =
      uncut '#' (uncut '?' e.path e.query) e.fragment := by
    have htext := hd.text_eq.trans he.text_eq.symm
    rw [text_eq_append, text_eq_append, horigin] at htext
    exact List.append_cancel_left htext
  obtain ⟨hbefore, hfragment⟩ :=
    Prod.mk.inj (hd.cut_eq.1.symm.trans ((congrArg _ hrest).trans he.cut_eq.1))
  obtain ⟨hpath, hquery⟩ :=
    Prod.mk.inj (hd.cut_eq.2.symm.trans ((congrArg _ hbefore).trans he.cut_eq.2))
  exact Destination.ext horigin hpath hquery hfragment

/-- The path after an origin is empty or begins with `/`. -/
theorem IsSplit.head?_path (h : IsSplit t d) (ho : d.origin ≠ []) :
    ∀ c ∈ d.path.head?, c = '/' := by
  intro c hc
  obtain ⟨p, hp⟩ := List.head?_eq_some_iff.1 hc
  have hpath := h.path
  rw [hp] at hpath
  by_contra hne
  -- The origin could go on with `c`.
  have hends : endsAuthority c = false := by
    have hquery : c ≠ '?' := fun heq => hpath.1 (heq ▸ List.mem_cons_self)
    have hhash : c ≠ '#' := fun heq => hpath.2 (heq ▸ List.mem_cons_self)
    simp [endsAuthority, hne, hquery, hhash]
  obtain ⟨s, a, horigin, hs, ha⟩ := h.origin.resolve_left ho
  have hlonger : IsOrigin (d.origin ++ [c]) := by
    refine ⟨s, a ++ [c], by rw [horigin, List.append_assoc]; rfl, hs, fun b hb => ?_⟩
    rcases List.mem_append.1 hb with hb | hb
    · exact ha b hb
    · rwa [List.mem_singleton.1 hb]
  have hfront : d.origin ++ [c] <+: t := by
    rw [← h.text_eq, text, hp, List.append_assoc, List.append_assoc, List.prefix_append_right_inj]
    exact List.cons_prefix_cons.2 ⟨rfl, List.nil_prefix⟩
  have hle := h.longest _ hlonger hfront
  rw [List.length_append, List.length_singleton] at hle
  omega

/-- A destination has a fragment exactly if it has a `#`. -/
theorem IsSplit.isSome_fragment_iff (h : IsSplit t d) :
    d.fragment.isSome = true ↔ scalar '#' ∈ t := by
  have horigin : scalar '#' ∉ d.origin := by
    rcases h.origin with hnil | ho
    · rw [hnil]
      exact List.not_mem_nil
    · exact ho.not_mem (.inr rfl)
  rw [← h.text_eq, text_eq_append, List.mem_append, Text.mem_uncut, Option.isSome_iff_exists]
  constructor
  · rintro ⟨f, hf⟩
    exact .inr (.inr ⟨f, hf, .inl rfl⟩)
  · rintro (hmem | hmem | ⟨f, hf, -⟩)
    · exact absurd hmem horigin
    · exact absurd hmem h.hash_not_mem
    · exact ⟨f, hf⟩

/-- **A destination can be cut in one way, and `parse` cuts it so.** -/
theorem isSplit_iff : IsSplit t d ↔ d = parse t := by
  constructor
  · exact fun h => h.unique (isSplit_parse t)
  · rintro rfl
    exact isSplit_parse t

end Destination
end RouteTable
