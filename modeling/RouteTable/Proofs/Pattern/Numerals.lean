/-
# Numerals in compiled patterns

Digits that stand in a row in a compiled expression are no more than the source has
characters: what is written between two texts of the source is no digit, unless the texts
are the trail and the lead of one capture, or neighbouring literals.  So all digits in a row
are counted by texts that the source has one after the other
(`Compiled.length_le_of_digits`).
-/

import RouteTable.Proofs.Pattern.Landings
import RouteTable.Proofs.Pattern.SourceTexts

namespace RouteTable
namespace Pattern

/-- How many digits a text has. -/
def digitCount (t : Text) : Nat := t.countP CodePoint.isDigit

/-- Digits in a row are at most `k`. -/
def ShortNumerals (k : Nat) (t : Text) : Prop :=
  ∀ ds, ds <:+: t → (∀ c ∈ ds, c.isDigit = true) → ds.length ≤ k

namespace ShortNumerals

variable {k : Nat} {t u : Text}

/-- A text with few digits has short numerals. -/
theorem of_digitCount (h : digitCount t ≤ k) : ShortNumerals k t := by
  intro ds hds hdigits
  rw [← List.countP_eq_length.2 hdigits]
  exact Nat.le_trans hds.sublist.countP_le h

/-- Digits in a row do not go on from a text that ends in no digit. -/
theorem append (ht : ShortNumerals k t) (hu : ShortNumerals k u)
    (hlast : ∀ c ∈ t.getLast?, c.isDigit = false) : ShortNumerals k (t ++ u) := by
  intro ds hds hdigits
  rcases List.infix_append_iff.1 hds with hds | hds | ⟨l₁, l₂, rfl, ⟨s, rfl⟩, hl₂⟩
  · exact ht ds hds hdigits
  · exact hu ds hds hdigits
  · cases hl : l₁.getLast? with
    | none =>
      obtain rfl := List.getLast?_eq_none_iff.1 hl
      exact hu _ hl₂.isInfix hdigits
    | some c =>
      have hc := hlast c (by rw [List.getLast?_append, hl]; rfl)
      rw [hdigits c (List.mem_append_left _ (List.mem_of_getLast? hl))] at hc
      cases hc

/-- Digits in a row do not go on into a text that begins with no digit. -/
theorem append_cons (ht : ShortNumerals k t) {c : CodePoint} (hc : c.isDigit = false)
    (hu : ShortNumerals k (c :: u)) : ShortNumerals k (t ++ c :: u) := by
  intro ds hds hdigits
  rcases List.infix_append_iff.1 hds with hds | hds | ⟨l₁, l₂, rfl, hl₁, hl₂⟩
  · exact ht ds hds hdigits
  · exact hu ds hds hdigits
  · rcases List.prefix_cons_iff.1 hl₂ with rfl | ⟨l₂, rfl, -⟩
    · rw [List.append_nil] at hdigits ⊢
      exact ht _ hl₁.isInfix hdigits
    · rw [hdigits c (by simp)] at hc
      cases hc

/-- Parentheses end all digits in a row. -/
theorem parenthesised {opening : String} (ho : opening ∈ ["(", "(?:"]) (ht : ShortNumerals k t) :
    ShortNumerals k (parenthesised opening t) := by
  have hparen : ShortNumerals k [scalar ')'] := of_digitCount (Nat.zero_le k)
  have hopen : ShortNumerals k opening.text ∧
      ∀ c ∈ opening.text.getLast?, c.isDigit = false := by
    simp only [List.mem_cons, List.not_mem_nil, or_false] at ho
    rcases ho with rfl | rfl
    · exact ⟨of_digitCount (Nat.zero_le k), fun c hc => Option.some.inj hc ▸ rfl⟩
    · exact ⟨of_digitCount (Nat.zero_le k), fun c hc => Option.some.inj hc ▸ rfl⟩
  exact (hopen.1.append ht hopen.2).append_cons rfl hparen

/-- Digits in a row do not go on through parentheses. -/
theorem around {opening : String} (ho : opening ∈ ["(", "(?:"]) {v w : Text}
    (hv : ShortNumerals k v) (ht : ShortNumerals k t) (hw : ShortNumerals k w) :
    ShortNumerals k (v ++ (Pattern.parenthesised opening t ++ w)) := by
  have hlast : (Pattern.parenthesised opening t).getLast? = some (scalar ')') :=
    List.getLast?_concat
  obtain ⟨u, hu⟩ : ∃ u, Pattern.parenthesised opening t = scalar '(' :: u := by
    simp only [List.mem_cons, List.not_mem_nil, or_false] at ho
    rcases ho with rfl | rfl <;> exact ⟨_, rfl⟩
  have htail : ShortNumerals k (Pattern.parenthesised opening t ++ w) := by
    refine (ht.parenthesised ho).append hw fun c hc => ?_
    rw [hlast] at hc
    cases hc
    rfl
  rw [hu, List.cons_append] at htail ⊢
  exact hv.append_cons rfl htail

end ShortNumerals

theorem digitCount_append (t u : Text) : digitCount (t ++ u) = digitCount t + digitCount u :=
  List.countP_append ..

/-- Escaping adds no digit. -/
theorem digitCount_escapeLiteral (t : Text) : digitCount (escapeLiteral t) = digitCount t := by
  induction t with
  | nil => rfl
  | cons c t ih =>
    have hc : digitCount (if isSpecial c then [scalar '\\', c] else [c]) = digitCount [c] := by
      split
      · simp [digitCount, List.countP_cons]
      · rfl
    have hcons : c :: t = [c] ++ t := rfl
    rw [escapeLiteral, List.flatMap_cons, digitCount_append, hc, hcons, digitCount_append]
    exact congrArg _ ih

/-- A modifier has no digit. -/
theorem digitCount_modifier (m : Modifier) : digitCount m.text = 0 := by
  cases m <;> rfl

/-- A text is parentheses and something without digits after them. -/
def Closed (k : Nat) (t : Text) : Prop :=
  ∃ opening ∈ ["(", "(?:"], ∃ u v, t = parenthesised opening u ++ v ∧ ShortNumerals k u ∧
    digitCount v = 0

/-- A capture is closed. -/
theorem Capture.closed_emit {c : Capture} {k : Nat} (hc : digitCount c.texts ≤ k) :
    Closed k c.emit := by
  have text : ∀ t : Text, Pattern.digitCount t ≤ k → ShortNumerals k (escapeLiteral t) :=
    fun t ht => .of_digitCount (by rwa [digitCount_escapeLiteral])
  have hnil : ShortNumerals k [] := .of_digitCount (Nat.zero_le k)
  have hstar : ShortNumerals k [scalar '*'] := .of_digitCount (Nat.zero_le k)
  rw [texts, digitCount_append, digitCount_append] at hc
  have hbody : ShortNumerals k c.body := .of_digitCount (by omega)
  have hlead := text c.lead (by omega)
  have htrail := text c.trail (by omega)
  have hbetween : ShortNumerals k (escapeLiteral c.trail ++ escapeLiteral c.lead) := by
    refine .of_digitCount ?_
    rw [digitCount_append, digitCount_escapeLiteral, digitCount_escapeLiteral]
    omega
  have hone : ShortNumerals k (escapeLiteral c.lead ++ parenthesised "(" c.body ++
      escapeLiteral c.trail) := by
    rw [List.append_assoc]
    exact .around (by decide) hlead hbody htrail
  have hmore : ShortNumerals k (escapeLiteral c.trail ++ escapeLiteral c.lead ++
      parenthesised "(?:" c.body) := by
    have h := hbetween.around (show "(?:" ∈ ["(", "(?:"] by decide) hbody hnil
    rwa [List.append_nil] at h
  have hruns : ShortNumerals k (parenthesised "(?:" c.body ++ (parenthesised "(?:"
      (escapeLiteral c.trail ++ escapeLiteral c.lead ++ parenthesised "(?:" c.body) ++
        [scalar '*'])) :=
    .around (by decide) (.parenthesised (by decide) hbody) hmore hstar
  have hseveral : ShortNumerals k (escapeLiteral c.lead ++ parenthesised "(" (
      parenthesised "(?:" c.body ++ (parenthesised "(?:" (escapeLiteral c.trail ++
        escapeLiteral c.lead ++ parenthesised "(?:" c.body) ++ [scalar '*'])) ++
          escapeLiteral c.trail) := by
    rw [List.append_assoc]
    exact .around (by decide) hlead hruns htrail
  unfold emit
  dsimp only
  split
  · exact ⟨"(", by decide, _, _, rfl, hbody, digitCount_modifier _⟩
  · cases c.modifier with
    | once => exact ⟨"(?:", by decide, _, [], (List.append_nil _).symm, hone, rfl⟩
    | plus => exact ⟨"(?:", by decide, _, [], (List.append_nil _).symm, hseveral, rfl⟩
    | optional => exact ⟨"(?:", by decide, _, [scalar '?'], rfl, hone, rfl⟩
    | star => exact ⟨"(?:", by decide, _, [scalar '?'], rfl, hseveral, rfl⟩

/-- A segment that is no literal is closed. -/
theorem Segment.closed_emit {s : Segment} {k : Nat} (hs : digitCount s.texts ≤ k)
    (hliteral : ∀ t, s ≠ .literal t) : Closed k s.emit := by
  cases s with
  | literal t => exact absurd rfl (hliteral t)
  | group t m =>
    refine ⟨"(?:", by decide, escapeLiteral t, m.text, rfl, .of_digitCount ?_,
      digitCount_modifier m⟩
    rwa [digitCount_escapeLiteral]
  | capture c => exact Capture.closed_emit hs

/-- Digits in a row of compiled segments are counted by the texts of the segments.  The
induction has what stands before the segments without a parenthesis in `t`. -/
theorem shortNumerals_emit {k : Nat} {ss : List Segment} (t : Text)
    (h : digitCount t + digitCount (ss.flatMap Segment.texts) ≤ k) :
    ShortNumerals k (t ++ (ss.flatMap Segment.emit ++ [scalar '$'])) := by
  induction ss generalizing t with
  | nil =>
    have hdollar : ShortNumerals k [scalar '$'] := .of_digitCount (Nat.zero_le k)
    exact ShortNumerals.append_cons (.of_digitCount (Nat.le_of_add_right_le h)) rfl hdollar
  | cons s ss ih =>
    rw [List.flatMap_cons, digitCount_append] at h
    rw [List.flatMap_cons, List.append_assoc]
    have closed (hs : Closed k s.emit) :
        ShortNumerals k (t ++ (s.emit ++ (ss.flatMap Segment.emit ++ [scalar '$']))) := by
      obtain ⟨opening, ho, u, v, hemit, hu, hv⟩ := hs
      rw [hemit, List.append_assoc]
      exact .around ho (.of_digitCount (by omega)) hu (ih v (by omega))
    cases s with
    | literal u =>
      rw [← List.append_assoc]
      refine ih _ ?_
      rw [digitCount_append, Segment.emit, digitCount_escapeLiteral]
      rw [Segment.texts] at h
      omega
    | group u m => exact closed (Segment.closed_emit (by omega) fun _ => Segment.noConfusion)
    | capture c => exact closed (Segment.closed_emit (by omega) fun _ => Segment.noConfusion)

/-! ### Digits of sources -/

/-- The texts of segments have no more digits than the pieces that they mean. -/
theorem digitCount_segmentsOf_le (ps : List Piece) :
    digitCount ((segmentsOf ps).flatMap Segment.texts) ≤
      digitCount (ps.flatMap Piece.written) :=
  countP_segmentsOf_le (by decide) (by decide) ps

/-- What compiles is not too long. -/
theorem Compiled.length_source_le {source : Text} {c : Compiled} (h : compile source = .ok c) :
    source.length ≤ maxSourceLength := by
  obtain ⟨ss, hs, -⟩ := Outcome.map_eq_ok.1 h
  exact (segments_eq_ok_iff.1 hs).2.1

/-- **Digits in a row of a compiled expression** are no more than the source has
characters. -/
theorem Compiled.length_le_of_digits {source : Text} {c : Compiled} (h : compile source = .ok c)
    {ds : Text} (hds : ds <:+: c.regex) (hdigits : ∀ d ∈ ds, d.isDigit = true) :
    ds.length ≤ source.length := by
  obtain ⟨ss, hs, rfl⟩ := Outcome.map_eq_ok.1 h
  obtain ⟨-, -, ps, hp, -, rfl⟩ := segments_eq_ok_iff.1 hs
  have hcount := digitCount_segmentsOf_le ps
  rw [hp.written_eq] at hcount
  have hshort : ShortNumerals source.length (scalar '^' :: ((segmentsOf ps).flatMap Segment.emit ++
      [scalar '$'])) := by
    refine shortNumerals_emit [scalar '^'] ?_
    have : digitCount source ≤ source.length := List.countP_le_length
    have : digitCount [scalar '^'] = 0 := rfl
    omega
  exact hshort ds hds hdigits

end Pattern
end RouteTable
