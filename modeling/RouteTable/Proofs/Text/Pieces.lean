/-
# What is put together is cut again

Texts without a character are the pieces at it of what they are joined to
(`pieces_join`), and a text without it is what `cut` finds before it (`cut_uncut`).
Decoding leaves most texts of one-byte characters as they are (`formDecode_eq_self`).
-/

import Mathlib.Data.List.Basic
import RouteTable.Text.FormDecoding

namespace RouteTable
namespace Text

variable {c d : CodePoint} {t : Text}

/-! ### At the first occurrence -/

/-- A text, and `c` with what follows it if anything does. -/
def uncut (c : CodePoint) (before : Text) : Option Text → Text
  | none => before
  | some after => before ++ c :: after

/-- What is in the uncut text is the separator, or in one of its parts. -/
theorem mem_uncut {after? : Option Text} :
    d ∈ uncut c t after? ↔ d ∈ t ∨ ∃ after ∈ after?, d = c ∨ d ∈ after := by
  cases after? <;> simp [uncut]

/-- The first part begins the uncut text. -/
theorem prefix_uncut (c : CodePoint) (t : Text) (after? : Option Text) :
    t <+: uncut c t after? := by
  cases after? with
  | none => exact List.prefix_rfl
  | some after => exact List.prefix_append _ _

/-- Without the separator nothing is cut off. -/
theorem cut_of_not_mem (h : c ∉ t) : cut c t = (t, none) := by
  induction t with
  | nil => rfl
  | cons d t ih =>
    obtain ⟨hd, ht⟩ := not_or.1 (mt List.mem_cons.2 h)
    rw [cut, if_neg (Ne.symm hd), ih ht]

theorem cut_append_cons (h : c ∉ t) (after : Text) : cut c (t ++ c :: after) = (t, some after) := by
  induction t with
  | nil => rw [List.nil_append, cut, if_pos rfl]
  | cons d t ih =>
    obtain ⟨hd, ht⟩ := not_or.1 (mt List.mem_cons.2 h)
    rw [List.cons_append, cut, if_neg (Ne.symm hd), ih ht]

/-- **A text without `c` is what `cut` finds before `c`.** -/
theorem cut_uncut (h : c ∉ t) (after? : Option Text) : cut c (uncut c t after?) = (t, after?) := by
  cases after? with
  | none => exact cut_of_not_mem h
  | some after => exact cut_append_cons h after

/-- What is cut is put together again. -/
theorem uncut_cut (c : CodePoint) (t : Text) : uncut c (cut c t).1 (cut c t).2 = t := by
  induction t with
  | nil => rfl
  | cons d t ih =>
    rw [cut]
    split
    · rename_i hd
      rw [hd]
      rfl
    · have hcons : ∀ before after?, uncut c (d :: before) after? = d :: uncut c before after? := by
        rintro before (_ | after) <;> rfl
      rw [hcons, ih]

/-- Text without `c` at the front of a text with `c` in it stands before that `c`. -/
theorem prefix_of_prefix_uncut {u : Text} {after? : Option Text} (hu : c ∉ u)
    (h : u <+: uncut c t after?) : u <+: t := by
  cases after? with
  | none => exact h
  | some after =>
    induction t generalizing u with
    | nil =>
      cases u with
      | nil => exact List.nil_prefix
      | cons d u =>
        obtain rfl : d = c := (List.cons_prefix_cons.1 h).1
        exact absurd List.mem_cons_self hu
    | cons d t ih =>
      cases u with
      | nil => exact List.nil_prefix
      | cons e u =>
        obtain ⟨rfl, htail⟩ := List.cons_prefix_cons.1 h
        exact List.cons_prefix_cons.2 ⟨rfl, ih (mt (List.mem_cons_of_mem _) hu) htail⟩

/-! ### At every occurrence -/

/-- Pieces are the parts of the list that is split. -/
theorem pieces_eq_splitOn (c : CodePoint) (t : Text) : pieces c t = t.splitOn c := by
  induction t with
  | nil => simp [pieces, List.splitOn]
  | cons d t ih =>
    obtain ⟨p, ps, hps⟩ := List.exists_cons_of_ne_nil (pieces_ne_nil c t)
    rw [List.splitOn, List.splitOnP_cons_eq_if_modifyHead, ← List.splitOn, ← ih, pieces, hps]
    simp

/-- Joining puts the separator in between. -/
theorem join_eq_intercalate (sep : Text) (ts : List Text) : join sep ts = sep.intercalate ts := by
  fun_induction join sep ts with
  | case1 => rfl
  | case2 t => simp
  | case3 t u ts ih => rw [ih, List.intercalate_cons_cons]

/-- **Texts without `c` are the pieces of what they are joined to.** -/
theorem pieces_join {ts : List Text} (hne : ts ≠ []) (h : ∀ t ∈ ts, c ∉ t) :
    pieces c (join [c] ts) = ts := by
  rw [pieces_eq_splitOn, join_eq_intercalate, List.splitOn_intercalate c h hne]

/-- A piece has no separator in it. -/
theorem not_mem_of_mem_pieces {p : Text} (h : p ∈ pieces c t) : c ∉ p := by
  induction t generalizing p with
  | nil =>
    rw [List.mem_singleton.1 h]
    exact List.not_mem_nil
  | cons d t ih =>
    rw [pieces] at h
    split at h
    · exact absurd ‹_› (pieces_ne_nil c t)
    · rename_i q qs hqs
      rw [hqs] at ih
      split at h
      · rcases List.mem_cons.1 h with rfl | h
        · exact List.not_mem_nil
        · exact ih h
      · rename_i hd
        rcases List.mem_cons.1 h with rfl | h
        · exact List.not_mem_cons_of_ne_of_not_mem (Ne.symm hd) (ih List.mem_cons_self)
        · exact ih (List.mem_cons_of_mem _ h)

/-- What is in joined texts is in the separator or in one of them. -/
theorem mem_join {sep : Text} {ts : List Text} (h : d ∈ join sep ts) :
    d ∈ sep ∨ ∃ t ∈ ts, d ∈ t := by
  fun_induction join sep ts with
  | case1 => cases h
  | case2 t => exact .inr ⟨t, List.mem_singleton_self t, h⟩
  | case3 t u ts ih =>
    rcases List.mem_append.1 h with h | h
    · rcases List.mem_append.1 h with h | h
      · exact .inr ⟨t, List.mem_cons_self, h⟩
      · exact .inl h
    · rcases ih h with h | ⟨v, hv, h⟩
      · exact .inl h
      · exact .inr ⟨v, List.mem_cons_of_mem _ hv, h⟩

/-- What is in a text is in those it is joined with. -/
theorem mem_of_mem_join {sep p : Text} {ts : List Text} (hp : p ∈ ts) (hd : d ∈ p) :
    d ∈ join sep ts := by
  fun_induction join sep ts with
  | case1 => cases hp
  | case2 t => rwa [← List.mem_singleton.1 hp]
  | case3 t u ts ih =>
    rcases List.mem_cons.1 hp with rfl | hp
    · exact List.mem_append_left _ (List.mem_append_left _ hd)
    · exact List.mem_append_right _ (ih hp)

/-- A piece is made of characters of the text. -/
theorem mem_of_mem_pieces {p : Text} (hp : p ∈ pieces c t) (hd : d ∈ p) : d ∈ t := by
  rw [← join_pieces c t]
  exact mem_of_mem_join hp hd

/-! ### Decoding -/

/-- A character of ASCII other than `+` and `%` stands for its byte. -/
theorem formUnits_cons (hplus : c ≠ '+') (hpercent : c ≠ '%') (hlt : c.toNat < 0x80) (t : Text) :
    formUnits (c :: t) = .inl (UInt8.ofNat c.toNat) :: formUnits t := by
  rw [formUnits, if_pos hlt]
  · exact fun h => hplus h
  · exact fun a b u h => absurd h hpercent

/-- A byte of ASCII is the character of its number. -/
theorem scalar_ofNat_toNat (h : c.toNat < 0x80) : scalar (Char.ofNat c.toNat) = c := by
  cases c with
  | scalar c => exact congrArg scalar (Char.ofNat_toNat c)
  | surrogate i =>
    have hsurrogate : (CodePoint.surrogate i).toNat = 0xD800 + i := rfl
    omega

/-- **Decoding leaves one-byte characters** other than `+` and `%` as they are. -/
theorem formDecode_eq_self (h : ∀ c ∈ t, c.toNat < 0x80 ∧ c ≠ '+' ∧ c ≠ '%') :
    formDecode t = t := by
  induction t with
  | nil => rfl
  | cons c t ih =>
    obtain ⟨hlt, hplus, hpercent⟩ := h c List.mem_cons_self
    have hbyte : (UInt8.ofNat c.toNat).toNat = c.toNat := by
      simp only [UInt8.toNat_ofNat']
      omega
    rw [formDecode, formUnits_cons hplus hpercent hlt, ofUnits, hbyte, nextByte, startByte,
      if_pos hlt]
    exact congrArg₂ List.cons (scalar_ofNat_toNat hlt)
      (ih fun d hd => h d (List.mem_cons_of_mem _ hd))

end Text
end RouteTable
