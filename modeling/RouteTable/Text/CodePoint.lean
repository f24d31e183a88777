/-
# Code points

The characters of a text are code points: scalar values, which is what `Char` holds, and
surrogates.  A surrogate is half of a pair that other encodings write for a scalar value;
it has a number of its own and no encoding as bytes, but it can stand in a text, where it
is a character like any other.

A character literal is the scalar value that it writes, and `String.text` is the text of a
string.
-/

namespace RouteTable

/-- A code point. -/
inductive CodePoint where
  | scalar (c : Char)
  /-- The surrogate at a place in their range. -/
  | surrogate (i : Fin 0x800)
  deriving DecidableEq, Repr

export CodePoint (scalar)

instance : Coe Char CodePoint := ⟨scalar⟩

/-- A text, as its code points in order. -/
abbrev Text := List CodePoint

namespace CodePoint

/-- The number of a code point. -/
def toNat : CodePoint → Nat
  | scalar c => c.toNat
  | surrogate i => 0xD800 + i

/-- A letter of ASCII. -/
def isAlpha : CodePoint → Bool
  | scalar c => c.isAlpha
  | surrogate _ => false

/-- A digit of ASCII. -/
def isDigit : CodePoint → Bool
  | scalar c => c.isDigit
  | surrogate _ => false

/-- A letter or digit of ASCII. -/
def isAlphanum (c : CodePoint) : Bool := c.isAlpha || c.isDigit

/-- An upper-case letter of ASCII. -/
def isUpper : CodePoint → Bool
  | scalar c => c.isUpper
  | surrogate _ => false

/-- The code point with a letter of ASCII made lower case. -/
def toLower : CodePoint → CodePoint
  | scalar c => c.toLower
  | c => c

/-- The code point with a letter of ASCII made upper case. -/
def toUpper : CodePoint → CodePoint
  | scalar c => c.toUpper
  | c => c

/-- Whether a code point is no surrogate. -/
def isScalar : CodePoint → Bool
  | scalar _ => true
  | surrogate _ => false

/-- Code points are in order as their numbers are. -/
instance : LE CodePoint := ⟨fun c d => c.toNat ≤ d.toNat⟩

instance (c d : CodePoint) : Decidable (c ≤ d) := inferInstanceAs (Decidable (c.toNat ≤ d.toNat))

@[simp] theorem toNat_scalar (c : Char) : (scalar c).toNat = c.toNat := rfl

@[simp] theorem isDigit_scalar (c : Char) : (scalar c).isDigit = c.isDigit := rfl

/-- The letters and digits of ASCII are below 128. -/
theorem toNat_lt_of_isAlphanum {c : CodePoint} (h : c.isAlphanum = true) : c.toNat < 0x80 := by
  cases c with
  | scalar c =>
    have hupper : c.isUpper = true → c.toNat ≤ 90 := fun h =>
      UInt32.le_iff_toNat_le.1 (of_decide_eq_true h).2
    have hlower : c.isLower = true → c.toNat ≤ 122 := fun h =>
      UInt32.le_iff_toNat_le.1 (of_decide_eq_true (Bool.and_eq_true_iff.1 h).2)
    have hdigit : c.isDigit = true → c.toNat ≤ 57 := fun h =>
      UInt32.le_iff_toNat_le.1 (of_decide_eq_true (Bool.and_eq_true_iff.1 h).2)
    rcases Bool.or_eq_true_iff.1 h with h | h
    · rcases Bool.or_eq_true_iff.1 h with h | h
      · exact Nat.lt_of_le_of_lt (hupper h) (by decide)
      · exact Nat.lt_of_le_of_lt (hlower h) (by decide)
    · exact Nat.lt_of_le_of_lt (hdigit h) (by decide)
  | surrogate i => cases h

/-- No scalar value has the number of a surrogate. -/
theorem toNat_scalar_ne (c : Char) (i : Fin 0x800) : (scalar c).toNat ≠ (surrogate i).toNat := by
  have hi := i.isLt
  have hc := c.valid
  simp only [UInt32.isValidChar, Nat.isValidChar] at hc
  change c.toNat ≠ 0xD800 + i
  change c.toNat < 0xD800 ∨ 0xDFFF < c.toNat ∧ c.toNat < 0x110000 at hc
  omega

/-- A code point is told by its number. -/
theorem toNat_inj {c d : CodePoint} : c.toNat = d.toNat ↔ c = d := by
  refine ⟨fun h => ?_, congrArg toNat⟩
  cases c with
  | scalar c =>
    cases d with
    | scalar d => exact congrArg scalar (Char.toNat_inj.1 h)
    | surrogate j => exact absurd h (toNat_scalar_ne c j)
  | surrogate i =>
    cases d with
    | scalar d => exact absurd h.symm (toNat_scalar_ne d i)
    | surrogate j => exact congrArg surrogate (Fin.ext (Nat.add_left_cancel h))

end CodePoint
end RouteTable

/-- The text of a string. -/
def String.text (s : String) : RouteTable.Text := s.toList.map .scalar

namespace String

/-- A string is told by its text. -/
theorem text_injective {s t : String} (h : s.text = t.text) : s = t :=
  String.toList_injective ((List.map_inj_right fun _ _ h => by cases h; rfl).1 h)

/-- The text of two strings one after the other. -/
theorem text_append (s t : String) : (s ++ t).text = s.text ++ t.text := by
  simp [text]

end String

namespace RouteTable

/-- The numeral of a number consists of its decimal digits. -/
theorem text_repr (n : Nat) : n.repr.text = (Nat.toDigits 10 n).map scalar := by
  simp [String.text, Nat.toList_repr]

theorem text_repr_ne_nil (n : Nat) : n.repr.text ≠ [] := by
  simp [text_repr, Nat.toDigits_ne_nil]

/-- The decimal digits of a number are digits. -/
theorem isDigit_of_mem_repr {c : CodePoint} {n : Nat} (h : c ∈ n.repr.text) :
    c.isDigit = true := by
  rw [text_repr] at h
  obtain ⟨d, hd, rfl⟩ := List.mem_map.1 h
  exact Nat.isDigit_of_mem_toDigits (by decide) (by decide) hd

end RouteTable
