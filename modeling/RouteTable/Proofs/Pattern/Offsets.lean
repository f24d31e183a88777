/-
# Where tokens and the faults of the scanner are

Tokens written one after the other are the text that they come from, so that a token is where the
text of the tokens before it ends; and so is the end (`Token.nextOffset_of_scan`).

A text in which no token can be read is `Stuck`, in one of these ways, with the offset of what is
marked:

| reason | the text |
| --- | --- |
| dangling escape | **`\`**, and nothing after it |
| missing name | **`:`**, and no name character after it |
| leading question mark | `(` **`?`** |
| missing body | **`(`** `)` |
| nested capture | `(`, a body that stays open, **`(`**, and no `?` after it |
| unbalanced body | **`(`**, and a body that stays open up to the end |

What the scanner does not accept is a text that it accepts and a text in which it is stuck
(`Token.exists_stuck_of_scan`).
-/

import RouteTable.Proofs.Pattern.Shapes

namespace RouteTable
namespace Pattern

/-- A text leaves what is open before it open: of the parentheses that it closes all but `d` are
its own.  A backslash takes the next character with it, and a parenthesis is only opened right
before a `?`. -/
inductive StaysOpen : Nat → Text → Prop where
  | nil {d : Nat} : StaysOpen d []
  | escape {d : Nat} {c : CodePoint} {t : Text} :
      StaysOpen d t → StaysOpen d (scalar '\\' :: c :: t)
  | opens {d : Nat} {t : Text} :
      StaysOpen (d + 1) (scalar '?' :: t) → StaysOpen d (scalar '(' :: scalar '?' :: t)
  | closes {d : Nat} {t : Text} : StaysOpen d t → StaysOpen (d + 1) (scalar ')' :: t)
  | other {d : Nat} {c : CodePoint} {t : Text} :
    c ∉ [scalar '\\', scalar '(', scalar ')'] → StaysOpen d t → StaysOpen d (c :: t)

/-- The body that a text writes after its `(` stays open up to the end, where a backslash may
stand alone. -/
def NeverCloses (t : Text) : Prop :=
  ∃ body, StaysOpen 0 body ∧ (t = body ∨ t = body ++ [scalar '\\'])

/-- A text at an offset, in which no token can be read. -/
inductive Stuck (i : Nat) : Text → Fault → Prop where
  | danglingEscape : Stuck i [scalar '\\'] ⟨.danglingEscape, some i⟩
  | missingName {t : Text} (h : ∀ c ∈ t.head?, isNameChar c = false) :
    Stuck i (scalar ':' :: t) ⟨.missingName, some i⟩
  | leadingQuestionMark {t : Text} :
      Stuck i (scalar '(' :: scalar '?' :: t) ⟨.leadingQuestionMark, some (i + 1)⟩
  | emptyBody {t : Text} : Stuck i (scalar '(' :: scalar ')' :: t) ⟨.emptyBody, some i⟩
  | nestedCapture {body t : Text} (hbody : StaysOpen 0 body) (ht : t.head? ≠ some (scalar '?')) :
    Stuck i (scalar '(' :: body ++ scalar '(' :: t) ⟨.nestedCapture, some (i + 1 + body.length)⟩
  | unbalancedBody {t : Text} (h : NeverCloses t) :
      Stuck i (scalar '(' :: t) ⟨.unbalancedBody, some i⟩

namespace Token

/-- The class of what tokens begin with, which is the end if there are none. -/
def nextClass : List Token → TokenClass
  | [] => .ending
  | k :: _ => k.shape.tokenClass

/-- The offset of what tokens begin with; `length` is that of the end. -/
def nextOffset (length : Nat) : List Token → Nat
  | [] => length
  | k :: _ => k.offset

/-- The text that tokens write. -/
abbrev text (ks : List Token) : Text := ks.flatMap fun k => k.shape.written

/-- **Tokens are where their text is,** and so is the end. -/
theorem nextOffset_of_scan {i : Nat} {t : Text} {before rest : List Token}
    (h : scan i t = .ok (before ++ rest)) :
    nextOffset (i + t.length) rest = i + (text before).length := by
  induction before generalizing i t with
  | nil =>
    cases rest with
    | nil =>
      obtain rfl : [] = t := flatMap_written_of_scan h
      rfl
    | cons k rest =>
      obtain ⟨-, hk, -⟩ := exists_of_scan_cons h
      exact hk
  | cons k before ih =>
    obtain ⟨u, -, rfl, -, -, hu⟩ := exists_of_scan_cons h
    have hnext := ih hu
    simp only [text, List.flatMap_cons, List.length_append] at hnext ⊢
    rw [← Nat.add_assoc, hnext, Nat.add_assoc]

/-! ### The faults of the scanner -/

/-- The faults of bodies: `depth` parentheses are open inside, `start` is the offset of the own
one, and the text is at offset `i`. -/
inductive BodyFault (start depth i : Nat) : Text → Fault → Prop where
  | nestedCapture {body t : Text} (hbody : StaysOpen depth body)
      (ht : t.head? ≠ some (scalar '?')) :
    BodyFault start depth i (body ++ scalar '(' :: t) ⟨.nestedCapture, some (i + body.length)⟩
  | unbalancedBody {body t : Text} (hbody : StaysOpen depth body)
    (ht : t = body ∨ t = body ++ [scalar '\\']) :
    BodyFault start depth i t ⟨.unbalancedBody, some start⟩

/-- A fault further on is a fault of the whole, if what stays open there stays open behind what is
in front. -/
theorem BodyFault.append {start depth depth' i : Nat} {t : Text} {f : Fault} (front : Text)
    (hfront : ∀ body u, t = body ++ u → (body = [] → t.head? ≠ some (scalar '?')) →
      StaysOpen depth' body → StaysOpen depth (front ++ body))
    (h : BodyFault start depth' (i + front.length) t f) :
    BodyFault start depth i (front ++ t) f := by
  cases h with
  | @nestedCapture body t hbody ht =>
    have hopen := hfront body (scalar '(' :: t) rfl (by rintro rfl; simp) hbody
    have hfault : BodyFault start depth i ((front ++ body) ++ scalar '(' :: t)
        ⟨.nestedCapture, some (i + (front ++ body).length)⟩ := .nestedCapture hopen ht
    rwa [List.append_assoc, List.length_append, ← Nat.add_assoc] at hfault
  | @unbalancedBody body t hbody ht =>
    have hopen : StaysOpen depth (front ++ body) := by
      rcases ht with rfl | rfl
      · exact hfront t [] (List.append_nil t).symm (by rintro rfl; simp) hbody
      · exact hfront body [scalar '\\'] rfl (by rintro rfl; simp) hbody
    refine .unbalancedBody hopen ?_
    rw [List.append_assoc, List.append_cancel_left_eq, List.append_cancel_left_eq]
    exact ht

/-- **A body that is refused has a fault** at the place that is told. -/
theorem bodyFault_of_readBody {start depth i : Nat} {t : Text} {f : Fault}
    (h : readBody start depth i t = .error f) : BodyFault start depth i t f := by
  fun_induction readBody start depth i t with
  | case1 =>
    cases h
    exact .unbalancedBody .nil (.inl rfl)
  | case2 =>
    cases h
    exact .unbalancedBody .nil (.inr rfl)
  | case3 depth i c t ih =>
    exact (ih (Outcome.map_eq_error.1 h)).append [scalar '\\', c] fun _ _ _ _ => .escape
  | case4 => cases h
  | case5 depth i t ih =>
    exact (ih (Outcome.map_eq_error.1 h)).append [scalar ')'] fun _ _ _ _ => .closes
  | case6 depth i t hq ih =>
    refine (ih (Outcome.map_eq_error.1 h)).append [scalar '('] ?_
    rintro (_ | ⟨c, body⟩) u rfl hne hbody
    · exact absurd hq (hne rfl)
    · cases hq
      exact .opens hbody
  | case7 depth i t hq =>
    cases h
    exact @BodyFault.nestedCapture start depth i [] t .nil hq
  | case8 depth i c t hc₁ hc₂ hc₃ hc₄ hc₅ ih =>
    refine (ih (Outcome.map_eq_error.1 h)).append [c] fun _ _ _ _ => .other ?_
    have hslash : c ≠ '\\' := by
      intro hc
      cases t with
      | nil => exact hc₁ hc rfl
      | cons d t => exact hc₂ d t hc rfl
    have hclose : c ≠ ')' := by
      intro hc
      cases depth with
      | zero => exact hc₃ rfl hc
      | succ depth => exact hc₄ depth rfl hc
    simpa using ⟨hslash, hc₅, hclose⟩

/-- **What is no token is stuck** at the place that is told. -/
theorem stuck_of_read {i : Nat} {c : CodePoint} {t : Text} {f : Fault} (h : read i c t = .error f) :
    Stuck i (c :: t) f := by
  unfold read at h
  split at h
  · cases h
  · split at h
    · split at h
      · cases h
        exact .danglingEscape
      · cases h
    · cases h
    · cases h
    · split at h
      · rename_i htake
        cases h
        refine .missingName fun d hd => ?_
        cases t with
        | nil => cases hd
        | cons e t =>
          cases hd
          simpa [List.takeWhile_cons] using htake
      · cases h
    · split at h
      · rename_i hq
        cases h
        obtain ⟨u, rfl⟩ := List.head?_eq_some_iff.1 hq
        exact .leadingQuestionMark
      · rename_i hq
        split at h
        · rename_i g hbody
          cases h
          cases bodyFault_of_readBody hbody with
          | nestedCapture hopen ht => exact .nestedCapture hopen ht
          | unbalancedBody hopen ht => exact .unbalancedBody ⟨_, hopen, ht⟩
        · rename_i rest hbody
          cases h
          rw [eq_append_of_readBody hbody]
          exact .emptyBody
        · cases h
    · cases h

/-- **What the scanner does not accept** is a text that it accepts, and a text in which it is
stuck. -/
theorem exists_stuck_of_scan {i : Nat} {t : Text} {f : Fault} (h : scan i t = .error f) :
    ∃ before rest tokens, t = before ++ rest ∧ scan i before = .ok tokens ∧
      Stuck (i + before.length) rest f := by
  fun_induction scan i t with
  | case1 => cases h
  | case2 i c t g hr =>
    cases h
    exact ⟨[], c :: t, [], rfl, scan.eq_1 i, stuck_of_read hr⟩
  | case3 i c t k u hr ih =>
    obtain ⟨before, rest, tokens, rfl, hscan, hstuck⟩ := ih (Outcome.map_eq_error.1 h)
    obtain ⟨hv, he, hw⟩ := read_eq_ok_iff.1 hr
    have hbefore : k.EndsBefore before := he.of_head fun e hmem => by
      rw [List.head?_append, Option.mem_def.1 hmem]
      exact .inl rfl
    refine ⟨k.written ++ before, rest, ⟨i, k⟩ :: tokens, ?_, ?_, ?_⟩
    · rw [← hw, List.append_assoc]
    · rw [scan_written_append hv hbefore, hscan]
      rfl
    · rwa [List.length_append, ← Nat.add_assoc]

end Token
end Pattern
end RouteTable
