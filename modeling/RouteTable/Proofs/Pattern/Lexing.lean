/-
# What the scanner reads

The scanner has one state, and what it reads is said without it: shapes that are
valid, each of which ends before the next one (`Lexed`).  `Token.scan_eq_ok_iff` is the
whole statement, in both directions: the shapes of the tokens of a text are the lexed
shapes that are written as the text.  Under it are the same two-sided statements of one
token (`Token.read_eq_ok_iff`) and of a body (`Token.readBody_eq_ok_iff`).
-/

import RouteTable.Proofs.Pattern.Grammar

namespace RouteTable
namespace Pattern

namespace TokenShape

/-- The shapes that are read: what they carry is what the grammar lets them. -/
def Valid : TokenShape → Prop
  | char c => c ∉ reserved
  | modifier m => m ≠ .once
  | name t => IsName t
  | body t => IsBody t
  | _ => True

/-- The shape ends before a text: a name is as long as it can be. -/
def EndsBefore (rest : Text) : TokenShape → Prop
  | name _ => ∀ c ∈ rest.head?, isNameChar c = false
  | _ => True

/-- Shapes as they are written one after the other. -/
abbrev text (shapes : List TokenShape) : Text := shapes.flatMap written

/-- Valid shapes, each of which ends before the next one. -/
def Lexed : List TokenShape → Prop
  | [] => True
  | k :: ks => k.Valid ∧ k.EndsBefore (text ks) ∧ Lexed ks

/-- A shape ends before a text that begins as another, or with nothing that goes on. -/
theorem EndsBefore.of_head {k : TokenShape} {t u : Text} (h : k.EndsBefore t)
    (hu : ∀ c ∈ u.head?, c ∈ t.head? ∨ isNameChar c = false) : k.EndsBefore u := by
  cases k with
  | name n =>
    intro c hc
    rcases hu c hc with ht | hc
    · exact h c ht
    · exact hc
  | _ => trivial

/-- A token is written with a character at least. -/
theorem written_ne_nil_of_valid {k : TokenShape} (h : k.Valid) : k.written ≠ [] := by
  cases k with
  | modifier m => cases m <;> simp_all [Valid, written, Modifier.text]
  | _ => simp [written]

end TokenShape

/-- A name before what does not go on with it is the longest run of name characters. -/
theorem takeWhile_name {t rest : Text} (ht : ∀ c ∈ t, isNameChar c = true)
    (hr : ∀ c ∈ rest.head?, isNameChar c = false) :
    (t ++ rest).takeWhile isNameChar = t ∧ (t ++ rest).dropWhile isNameChar = rest := by
  have hnone : rest.takeWhile isNameChar = [] ∧ rest.dropWhile isNameChar = rest := by
    cases rest with
    | nil => exact ⟨rfl, rfl⟩
    | cons c rest =>
      have hc : isNameChar c = false := hr c rfl
      simp [hc]
  rw [List.takeWhile_append_of_pos ht, List.dropWhile_append_of_pos ht, hnone.1, hnone.2,
    List.append_nil]
  exact ⟨rfl, rfl⟩

namespace Token

/-- **A body is read up to the parenthesis that closes it.** -/
theorem readBody_eq_ok_iff {start depth i : Nat} {t body rest : Text} :
    readBody start depth i t = .ok (body, rest) ↔ Closes depth body ∧
      t = body ++ scalar ')' :: rest := by
  constructor
  · intro h
    refine ⟨?_, eq_append_of_readBody h⟩
    fun_induction readBody start depth i t generalizing body rest with
    | case1 | case2 => cases h
    | case3 depth i c t ih =>
      obtain ⟨⟨b, r⟩, hb, he⟩ := Outcome.map_eq_ok.1 h
      cases he
      exact .escape (ih hb)
    | case4 i t =>
      cases h
      exact .nil
    | case5 depth i t ih =>
      obtain ⟨⟨b, r⟩, hb, he⟩ := Outcome.map_eq_ok.1 h
      cases he
      exact .closes (ih hb)
    | case6 depth i t hq ih =>
      obtain ⟨⟨b, r⟩, hb, he⟩ := Outcome.map_eq_ok.1 h
      cases he
      -- what opens is followed by a `?`, so the body goes on with it
      obtain ⟨u, rfl⟩ : ∃ u, b = scalar '?' :: u := by
        have ht := eq_append_of_readBody hb
        cases b with
        | nil => rw [ht] at hq; cases hq
        | cons c u => rw [ht] at hq; cases hq; exact ⟨u, rfl⟩
      exact .opens (ih hb)
    | case7 => cases h
    | case8 depth i c t hc₁ hc₂ hc₃ hc₄ hc₅ ih =>
      obtain ⟨⟨b, r⟩, hb, he⟩ := Outcome.map_eq_ok.1 h
      cases he
      have hslash : c ≠ '\\' := by
        intro hc
        cases t with
        | nil => exact hc₁ hc rfl
        | cons d t => exact hc₂ d t hc rfl
      have hclose : c ≠ ')' := by
        intro hc
        cases depth with
        | zero => exact hc₃ rfl hc
        | succ depth => exact hc₄ depth rfl hc
      exact .other (by simpa using ⟨hslash, hc₅, hclose⟩) (ih hb)
  · rintro ⟨hc, rfl⟩
    induction hc generalizing i with
    | nil => simp [readBody]
    | @escape d c t _ ih => simp [readBody, ih, Except.map]
    | @opens d t _ ih =>
      rw [List.cons_append, readBody.eq_def]
      simp only [List.cons_append, List.head?_cons, if_true]
      rw [← List.cons_append, ih]
      rfl
    | @closes d t _ ih => simp [readBody, ih, Except.map]
    | @other d c t hc _ ih =>
      simp only [List.mem_cons, List.not_mem_nil, or_false, not_or] at hc
      rw [List.cons_append, readBody.eq_def]
      grind [Except.map]

/-- A name is read up to the first character that is no name character. -/
theorem read_name {i : Nat} {t rest : Text} (ht : IsName t)
    (hr : ∀ c ∈ rest.head?, isNameChar c = false) :
    read i ':' (t ++ rest) = .ok (.name t, rest) := by
  obtain ⟨htake, hdrop⟩ := takeWhile_name ht.isNameChar hr
  have hm : Modifier.ofChar? ':' = none := rfl
  obtain ⟨c, u, rfl⟩ := List.exists_cons_of_ne_nil ht.ne_nil
  simp only [read, hm, htake, hdrop]

/-- A body is read up to the parenthesis that closes it. -/
theorem read_body {i : Nat} {t rest : Text} (ht : IsBody t) :
    read i '(' (t ++ scalar ')' :: rest) = .ok (.body t, rest) := by
  have hb : readBody i 0 (i + 1) (t ++ scalar ')' :: rest) = .ok (t, rest) :=
    readBody_eq_ok_iff.2 ⟨ht.closes, rfl⟩
  have hm : Modifier.ofChar? '(' = none := rfl
  have hq := ht.head_ne
  obtain ⟨c, u, rfl⟩ := List.exists_cons_of_ne_nil ht.ne_nil
  have hh : ((c :: u) ++ scalar ')' :: rest).head? ≠ some (scalar '?') := hq
  simp only [read, hm, hb, if_neg hh]

/-- A character that is not reserved is read as it is. -/
theorem read_char {i : Nat} {c : CodePoint} {t : Text} (hc : c ∉ reserved) :
    read i c t = .ok (.char c, t) := by
  simp only [reserved, List.mem_cons, List.not_mem_nil, or_false, not_or] at hc
  have hm : Modifier.ofChar? c = none := by
    unfold Modifier.ofChar?
    split <;> simp_all
  unfold read
  rw [hm]
  grind

/-- A valid shape that ends before a text is read as it is written. -/
theorem read_of_valid {i : Nat} {c : CodePoint} {t rest : Text} {k : TokenShape} (hv : k.Valid)
    (he : k.EndsBefore rest) (hw : k.written ++ rest = c :: t) : read i c t = .ok (k, rest) := by
  cases k with
  | char d =>
    cases hw
    exact read_char hv
  | escaped d =>
    cases hw
    rfl
  | modifier m =>
    cases m with
    | once => exact absurd rfl hv
    | optional | star | plus =>
      cases hw
      rfl
  | name u =>
    cases hw
    exact read_name hv he
  | body u =>
    obtain ⟨rfl, rfl⟩ : '(' = c ∧ u ++ scalar ')' :: rest = t := by
      simpa [TokenShape.written] using hw
    exact read_body hv
  | opening | closing =>
    cases hw
    rfl

/-- What is read is valid and as long as it can be. -/
theorem valid_of_read {i : Nat} {c : CodePoint} {t rest : Text} {k : TokenShape}
    (h : read i c t = .ok (k, rest)) : k.Valid ∧ k.EndsBefore rest := by
  unfold read at h
  split at h
  · rename_i m hm
    cases h
    refine ⟨?_, trivial⟩
    rintro rfl
    cases Modifier.ofChar?_eq_some_iff.1 hm
  · rename_i hm
    split at h
    · split at h
      · cases h
      · cases h
        exact ⟨trivial, trivial⟩
    · cases h
      exact ⟨trivial, trivial⟩
    · cases h
      exact ⟨trivial, trivial⟩
    · split at h
      · cases h
      · rename_i hne
        cases h
        refine ⟨⟨hne, List.all_eq_true.1 List.all_takeWhile⟩, fun d hd => ?_⟩
        have hdrop := List.head?_dropWhile_not isNameChar t
        rw [Option.mem_def.1 hd] at hdrop
        simpa using hdrop
    · split at h
      · cases h
      · rename_i hq
        split at h
        · cases h
        · cases h
        · rename_i body _ hne hb
          cases h
          obtain ⟨hc, rfl⟩ := readBody_eq_ok_iff.1 hb
          refine ⟨⟨hne, ?_, hc⟩, trivial⟩
          intro hh
          apply hq
          rw [List.head?_append, hh]
          rfl
    · cases h
      refine ⟨?_, trivial⟩
      have hmod : ∀ m : Modifier, m.text ≠ [c] := by
        intro m hc
        rw [Modifier.ofChar?_eq_some_iff.2 hc] at hm
        cases hm
      have h₁ : c ≠ '?' := fun hc => hmod .optional (hc ▸ rfl)
      have h₂ : c ≠ '*' := fun hc => hmod .star (hc ▸ rfl)
      have h₃ : c ≠ '+' := fun hc => hmod .plus (hc ▸ rfl)
      simp_all [TokenShape.Valid, reserved]

/-- **A token is read where it is valid and as long as it can be.** -/
theorem read_eq_ok_iff {i : Nat} {c : CodePoint} {t rest : Text} {k : TokenShape} :
    read i c t = .ok (k, rest) ↔ k.Valid ∧ k.EndsBefore rest ∧ k.written ++ rest = c :: t := by
  constructor
  · intro h
    obtain ⟨hv, he⟩ := valid_of_read h
    exact ⟨hv, he, written_append_of_read h⟩
  · rintro ⟨hv, he, hw⟩
    exact read_of_valid hv he hw

/-- A text is scanned token by token. -/
theorem scan_cons {i : Nat} {c : CodePoint} {t rest : Text} {k : TokenShape}
    (h : read i c t = .ok (k, rest)) :
    scan i (c :: t) = (scan (i + k.written.length) rest).map (⟨i, k⟩ :: ·) := by
  rw [scan]
  split
  · rename_i f hf
    rw [h] at hf
    cases hf
  · rename_i k' rest' h'
    rw [h] at h'
    cases h'
    rfl

/-- A valid shape that ends before a text is the first token before it. -/
theorem scan_written_append {i : Nat} {rest : Text} {k : TokenShape} (hv : k.Valid)
    (he : k.EndsBefore rest) :
    scan i (k.written ++ rest) = (scan (i + k.written.length) rest).map (⟨i, k⟩ :: ·) := by
  obtain ⟨c, t, hct⟩ := List.exists_cons_of_ne_nil (TokenShape.written_ne_nil_of_valid hv)
  have hr : read i c (t ++ rest) = .ok (k, rest) :=
    read_eq_ok_iff.2 ⟨hv, he, by rw [hct, List.cons_append]⟩
  rw [← scan_cons hr, hct, List.cons_append]

/-- The first token of a text, and the text of the others. -/
theorem exists_of_scan_cons {i : Nat} {t : Text} {k : Token} {ks : List Token}
    (h : scan i t = .ok (k :: ks)) : ∃ rest, k.offset = i ∧ t = k.shape.written ++ rest ∧
      k.shape.Valid ∧ k.shape.EndsBefore rest ∧
      scan (i + k.shape.written.length) rest = .ok ks := by
  cases t with
  | nil =>
    rw [scan] at h
    cases h
  | cons c t =>
    rw [scan] at h
    split at h
    · cases h
    · rename_i shape rest hr
      obtain ⟨ks', hks, he⟩ := Outcome.map_eq_ok.1 h
      cases he
      obtain ⟨hv, he, hw⟩ := read_eq_ok_iff.1 hr
      exact ⟨rest, rfl, hw.symm, hv, he, hks⟩

/-- **The tokens of a text are the lexed shapes that are written as it.** -/
theorem scan_eq_ok_iff {i : Nat} {t : Text} {shapes : List TokenShape} :
    (∃ tokens, scan i t = .ok tokens ∧ tokens.map shape = shapes) ↔
      TokenShape.Lexed shapes ∧ TokenShape.text shapes = t := by
  constructor
  · rintro ⟨tokens, h, rfl⟩
    refine ⟨?_, by rw [TokenShape.text, List.flatMap_map]; exact flatMap_written_of_scan h⟩
    induction tokens generalizing i t with
    | nil => trivial
    | cons k ks ih =>
      obtain ⟨rest, -, -, hv, he, hks⟩ := exists_of_scan_cons h
      have hrest : TokenShape.text (ks.map shape) = rest := by
        rw [TokenShape.text, List.flatMap_map]
        exact flatMap_written_of_scan hks
      exact ⟨hv, by rwa [hrest], ih hks⟩
  · rintro ⟨hl, rfl⟩
    induction shapes generalizing i with
    | nil => exact ⟨[], scan.eq_1 i, rfl⟩
    | cons k ks ih =>
      obtain ⟨hv, he, hks⟩ := hl
      obtain ⟨tokens, ht, hm⟩ := @ih (i + k.written.length) hks
      refine ⟨⟨i, k⟩ :: tokens, ?_, by rw [List.map_cons, hm]⟩
      rw [TokenShape.text, List.flatMap_cons, scan_written_append hv he, ht]
      rfl

end Token
end Pattern
end RouteTable
