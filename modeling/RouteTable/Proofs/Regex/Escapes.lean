/-
# Escapes look at the next symbol

An escape is told by what it reads and by the next symbol: an octal one takes a digit more
if there is one, and no other looks ahead.
-/

import RouteTable.Proofs.Regex.Readers

namespace RouteTable
namespace Regex
namespace Backtracking

variable {α : Type}

namespace Escape

/-- Hexadecimal digits are read as far as they go. -/
theorem reads_readHex (count : Nat) (c : CodePoint) : Reads (readHex count c) :=
  Reads.after_readWhile (by decide) count
    (G := fun digits after =>
      if digits.length < count then
        fail (.incompleteEscape (scalar '\\' :: c :: digits)) after
          (scalar '\\' :: c :: digits).length
      else if 0x10FFFF < Text.numeral 16 digits then
        fail (.badEscape (scalar '\\' :: c :: digits)) after (scalar '\\' :: c :: digits).length
      else .ok (Text.numeral 16 digits, after))
    fun _ => Reads.of_settles (Settles.fail.ite (Settles.fail.ite (Settles.ok _)))

theorem settles_octal (digits : Text) : Settles (octal digits) :=
  Settles.fail.ite (Settles.ok _)

theorem settles_itself (c : CodePoint) : Settles (itself c) :=
  Settles.fail.ite (Settles.ok _)

/-- An octal number is read as far as its digits go. -/
theorem reads_octal (c : CodePoint) (n : Nat) :
    Reads fun rest => octal (c :: (readWhile isOctalDigit n rest).1)
      (readWhile isOctalDigit n rest).2 :=
  Reads.after_readWhile (by decide) n (G := fun digits => octal (c :: digits))
    fun _ => Reads.of_settles (settles_octal _)

/-- The code point that a name stands for. -/
def ofName (name : Text) (after : Symbols) : Except Fault (Nat × Symbols) :=
  match Text.codeNamed? name with
  | some n => .ok (n, after)
  | none => fail (.undefinedCharacter name) after (name.length + 4)

/-- The name of a character looks at nothing that follows. -/
theorem settles_ofName (name : Text) : Settles (ofName name) := by
  unfold ofName
  cases Text.codeNamed? name with
  | none => exact Settles.fail
  | some n => exact Settles.ok n

/-- The name of a character ends at its brace. -/
theorem terminates_readNamed : Terminates readNamed := by
  have hbrace : scalar '\x7d' ≠ '$' := by decide
  have h := (terminates_readUntil hbrace "character name").bind settles_ofName
  intro ss x after hss
  unfold readNamed at hss
  split at hss
  · exact (h hss).cons fun _ => rfl
  · exact absurd hss fail_ne_ok

/-- The code point of an escape, by its letter or else as `G` reads it. -/
theorem reads_code (c : CodePoint) {G : Symbols → Except Fault (Nat × Symbols)} (hG : Reads G) :
    Reads fun rest => if let some n := control? c then .ok (n, rest)
      else if let some read := spelled? c rest then read
      else G rest := by
  cases hc : control? c with
  | some n => exact Reads.of_settles (Settles.ok n)
  | none =>
    by_cases hx : c = 'x'
    · subst hx
      exact reads_readHex 2 'x'
    by_cases hu : c = 'u'
    · subst hu
      exact reads_readHex 4 'u'
    by_cases hU : c = 'U'
    · subst hU
      exact reads_readHex 8 'U'
    by_cases hN : c = 'N'
    · subst hN
      exact terminates_readNamed.reads
    have hnone : ∀ rest, spelled? c rest = none := by
      intro rest
      unfold spelled?
      split <;> simp_all
    simpa only [hnone] using hG

/-- What an escape reads in a set. -/
theorem reads_readInSet (c : CodePoint) : Reads (readInSet c) := by
  unfold readInSet
  cases class? c with
  | some k => exact Reads.of_settles (Settles.ok k)
  | none =>
    refine Reads.map (F := fun rest => if c = 'b' then .ok (8, rest)
      else if let some n := control? c then .ok (n, rest)
      else if let some read := spelled? c rest then read
      else if isOctalDigit c then
        octal (c :: (readWhile isOctalDigit 2 rest).1) (readWhile isOctalDigit 2 rest).2
      else itself c rest) ?_ SetItem.code
    exact Reads.ite (Reads.of_settles (Settles.ok 8))
      (reads_code c (Reads.ite (reads_octal c 2) (Reads.of_settles (settles_itself c))))

/-- Where nothing is read, everything is left. -/
theorem readWhile_snd_of_fst_eq_nil {p : CodePoint → Bool} {n : Nat} {ss : Symbols}
    (h : (readWhile p n ss).1 = []) : (readWhile p n ss).2 = ss := by
  unfold readWhile at h ⊢
  split at h
  · split at h
    · cases h
    · rename_i hc
      dsimp only
      rw [if_neg hc]
  · rfl

/-- Digits of an escape, of which the third is octal as those before it, if there is one. -/
def ofThird (first : CodePoint) (second third : Text) (after : Symbols) :
    Except Fault (Escape × Symbols) :=
  match third with
  | [] => .ok (.reference (Text.numeral 10 (first :: second)) (second.length + 2), after)
  | third => (octal (first :: second ++ third) after).map fun r => (.item (.code r.1), r.2)

/-- Digits of an escape, the first two of which are read. -/
def ofSecond (first : CodePoint) (second : Text) (after : Symbols) :
    Except Fault (Escape × Symbols) :=
  if (first :: second).all isOctalDigit && !second.isEmpty then
    ofThird first second (readWhile isOctalDigit 1 after).1 (readWhile isOctalDigit 1 after).2
  else .ok (.reference (Text.numeral 10 (first :: second)) (second.length + 2), after)

/-- Digits are read one at a time. -/
theorem readDigits_eq (first : CodePoint) (rest : Symbols) : readDigits first rest =
    ofSecond first (readWhile CodePoint.isDigit 1 rest).1
      (readWhile CodePoint.isDigit 1 rest).2 := by
  unfold readDigits ofSecond
  generalize readWhile CodePoint.isDigit 1 rest = r
  obtain ⟨second, after⟩ := r
  dsimp only
  by_cases h : ((first :: second).all isOctalDigit && !second.isEmpty) = true
  · rw [if_pos h, if_pos h]
    cases hr : readWhile isOctalDigit 1 after with
    | mk third after' =>
      cases third with
      | nil =>
        have hsame := @readWhile_snd_of_fst_eq_nil isOctalDigit 1 after (by rw [hr])
        rw [hr] at hsame
        rw [ofThird, hsame]
      | cons c third => rfl
  · rw [if_neg h, if_neg h]

/-- A number behind a backslash is read as far as its digits go. -/
theorem reads_readDigits (first : CodePoint) : Reads (readDigits first) := by
  rw [funext (readDigits_eq first)]
  refine Reads.after_readWhile (by decide) 1 (G := ofSecond first) fun second => ?_
  unfold ofSecond
  refine Reads.ite (Reads.after_readWhile (by decide) 1 (G := ofThird first second)
    fun third => ?_) (Reads.of_settles (Settles.ok _))
  cases third with
  | nil => exact Reads.of_settles (Settles.ok _)
  | cons c third =>
    exact Reads.of_settles ((settles_octal _).map fun n => Escape.item (.code n))

/-- What an escape reads outside sets. -/
theorem reads_read (ascii : Bool) (c : CodePoint) : Reads (Escape.read ascii c) := by
  unfold Escape.read
  cases anchor? ascii c with
  | some a => exact Reads.of_settles (Settles.ok _)
  | none =>
    cases class? c with
    | some k => exact Reads.of_settles (Settles.ok _)
    | none =>
      refine Reads.ite (reads_readDigits c) ?_
      refine Reads.map (F := fun rest => if let some n := control? c then .ok (n, rest)
        else if let some read := spelled? c rest then read
        else if c = '0' then
          octal (c :: (readWhile isOctalDigit 2 rest).1) (readWhile isOctalDigit 2 rest).2
        else itself c rest) ?_ fun n => Escape.item (.code n)
      exact reads_code c (Reads.ite (reads_octal c 2) (Reads.of_settles (settles_itself c)))

end Escape

end Backtracking
end Regex
end RouteTable
