/-
# How reading fails

An expression that is refused has a flaw, mostly with a place.  Only two other faults can
come up in reading, both from numbers: a bound in braces is too large, or a numeral too long,
there or in the condition of an alternative.  A third one, the choice of two alphabets at once,
takes flags for the whole expression, which come too late once something is read.

Every reader but those of bounds and of conditions has `OnlyFlaws`.  A step has them, or there are digits in
what is left that no bound can be (`State.failsFor_isIn_step`), and so has a run.  What
`parse_eq_error_of_caret` says of an expression that starts with `^` follows, and what the
engine breaks on there (`Engine.backtracking_broken_of_caret`).
-/

import RouteTable.Proofs.Regex.Engines
import RouteTable.Proofs.Regex.Outline
import RouteTable.Proofs.Regex.Reading

namespace RouteTable
namespace Regex
namespace Backtracking

variable {α β : Type}

/-- A flaw of the expression: it is malformed, at a place or without one. -/
def Fault.IsFlaw : Fault → Prop
  | .located _ _ | .unlocated _ => True
  | .boundTooLarge | .numeralTooLong _ | .conflictingAlphabets => False

/-- What fails, fails for a fault of some kind. -/
def FailsFor (P : Fault → Prop) (x : Except Fault α) : Prop := ∀ f, x = .error f → P f

/-- What fails, fails for a flaw. -/
abbrev OnlyFlaws (x : Except Fault α) : Prop := FailsFor Fault.IsFlaw x

namespace FailsFor

variable {P Q : Fault → Prop} {x y : Except Fault α}

theorem mono (hx : FailsFor P x) (hPQ : ∀ f, P f → Q f) : FailsFor Q x :=
  fun f h => hPQ f (hx f h)

theorem ok (a : α) : FailsFor P (.ok a) := fun _ h => by cases h

theorem bind {f : α → Except Fault β} (hx : FailsFor P x) (hf : ∀ a, FailsFor P (f a)) :
    FailsFor P (x >>= f) :=
  Outcome.forall_of_bind_eq_error hx hf

/-- The second step may use what the first one gives. -/
theorem bind_of_ok {f : α → Except Fault β} (hx : FailsFor P x)
    (hf : ∀ a, x = .ok a → FailsFor P (f a)) : FailsFor P (x >>= f) := by
  intro e h
  rcases Outcome.bind_eq_error.1 h with h | ⟨a, ha, h⟩
  · exact hx e h
  · exact hf a ha e h

theorem map (hx : FailsFor P x) (f : α → β) : FailsFor P (x.map f) :=
  fun e h => hx e (Outcome.map_eq_error.1 h)

theorem ite {p : Prop} [Decidable p] (hx : FailsFor P x) (hy : FailsFor P y) :
    FailsFor P (if p then x else y) := by
  split
  · exact hx
  · exact hy

theorem located (cause : Cause) (left : Nat) : OnlyFlaws (α := α) (.error (.located cause left)) :=
  fun _ h => by cases h; trivial

theorem unlocated (cause : Cause) : OnlyFlaws (α := α) (.error (.unlocated cause)) :=
  fun _ h => by cases h; trivial

theorem backslash : OnlyFlaws (failAtBackslash (α := α)) := .located _ _

theorem failAt (place : Nat) (cause : Cause) (following : Symbols) :
    OnlyFlaws (failAt (α := α) place cause following) := by
  unfold Backtracking.failAt
  split
  · exact .backslash
  · exact .located _ _

theorem fail (cause : Cause) (following : Symbols) (back : Nat) :
    OnlyFlaws (fail (α := α) cause following back) := .failAt _ _ _

end FailsFor

/-! ### The text of symbols -/

/-- The text of symbols. -/
def Symbol.text (ss : Symbols) : Text := ss.flatMap Symbol.written

theorem Symbol.text_append (ss tt : Symbols) :
    Symbol.text (ss ++ tt) = Symbol.text ss ++ Symbol.text tt := List.flatMap_append

/-- Symbols in a row of others are in a row of their text. -/
theorem Symbol.text_isInfix {ss tt : Symbols} (h : ss <:+: tt) :
    Symbol.text ss <:+: Symbol.text tt := by
  obtain ⟨front, back, rfl⟩ := h
  exact ⟨Symbol.text front, Symbol.text back, by rw [text_append, text_append]⟩

/-- Plain symbols have the text of their characters. -/
theorem Symbol.text_map_plain (t : Text) : Symbol.text (t.map .plain) = t := by
  induction t with
  | nil => rfl
  | cons c t ih => exact congrArg (c :: ·) ih

/-! ### Readers -/

/-- A name that is read stands in front of its terminator. -/
theorem text_of_readUntil_go {terminator : CodePoint} {what : String} {ss after : Symbols}
    {name t : Text} (h : readUntil.go terminator what name ss = .ok (t, after)) :
    name ++ Symbol.text ss = t ++ terminator :: Symbol.text after := by
  induction ss generalizing name with
  | nil =>
    rw [readUntil.go] at h
    split at h <;> exact absurd h fail_ne_ok
  | cons s rest ih =>
    have hs : s ≠ .dangling := by
      rintro rfl
      cases h
    rw [readUntil_go_cons hs] at h
    split at h
    · rename_i ht
      subst ht
      split at h
      · exact absurd h fail_ne_ok
      · cases h
        rfl
    · have hrest := ih h
      rw [List.append_assoc] at hrest
      exact hrest

/-- A name has only flaws. -/
theorem onlyFlaws_readUntil (terminator : CodePoint) (what : String) (ss : Symbols) :
    OnlyFlaws (readUntil terminator what ss) := by
  rw [readUntil]
  fun_induction readUntil.go terminator what [] ss with
  | case1 | case2 | case4 => exact .fail _ _ _
  | case3 => exact .backslash
  | case5 => exact .ok _
  | case6 _ _ _ _ _ ih => exact ih

namespace Escape

theorem onlyFlaws_readHex (count : Nat) (c : CodePoint) (rest : Symbols) :
    OnlyFlaws (readHex count c rest) := .ite (.fail _ _ _) (.ite (.fail _ _ _) (.ok _))

/-- A character that is named has only flaws. -/
theorem onlyFlaws_readNamed (rest : Symbols) : OnlyFlaws (readNamed rest) := by
  unfold readNamed
  split
  · refine .bind (onlyFlaws_readUntil _ _ _) fun ⟨name, after⟩ => ?_
    dsimp only
    cases Text.codeNamed? name with
    | some n => exact .ok _
    | none => exact .fail _ _ _
  · exact .fail _ _ _

/-- A character that is spelled by its number or its name has only flaws. -/
theorem onlyFlaws_of_spelled? {c : CodePoint} {rest : Symbols} {x : Except Fault (Nat × Symbols)}
    (h : spelled? c rest = some x) : OnlyFlaws x := by
  unfold spelled? at h
  split at h <;> cases h
  · exact onlyFlaws_readHex _ _ _
  · exact onlyFlaws_readHex _ _ _
  · exact onlyFlaws_readHex _ _ _
  · exact onlyFlaws_readNamed _

theorem onlyFlaws_octal (digits : Text) (after : Symbols) : OnlyFlaws (octal digits after) :=
  .ite (.fail _ _ _) (.ok _)

theorem onlyFlaws_itself (c : CodePoint) (rest : Symbols) : OnlyFlaws (itself c rest) :=
  .ite (.fail _ _ _) (.ok _)

/-- An escape in a set has only flaws. -/
theorem onlyFlaws_readInSet (c : CodePoint) (rest : Symbols) : OnlyFlaws (readInSet c rest) := by
  unfold readInSet
  split
  · exact .ok _
  · refine .map ?_ _
    split
    · exact .ok _
    · split
      · exact .ok _
      · split
        · exact onlyFlaws_of_spelled? ‹_›
        · exact .ite (onlyFlaws_octal _ _) (onlyFlaws_itself _ _)

/-- An escape has only flaws. -/
theorem onlyFlaws_read (ascii : Bool) (c : CodePoint) (rest : Symbols) :
    OnlyFlaws (Escape.read ascii c rest) := by
  have hdigits : OnlyFlaws (readDigits c rest) := by
    unfold readDigits
    dsimp only
    split
    · exact .ok _
    · exact (onlyFlaws_octal _ _).map _
  unfold Escape.read
  split
  · exact .ok _
  · split
    · exact .ok _
    · refine .ite hdigits (.map ?_ _)
      split
      · exact .ok _
      · split
        · exact onlyFlaws_of_spelled? ‹_›
        · exact .ite (onlyFlaws_octal _ _) (onlyFlaws_itself _ _)

end Escape

/-- A member of a set has only flaws. -/
theorem onlyFlaws_readMember (rest : Symbols) (s : Symbol) : OnlyFlaws (readMember rest s) := by
  cases s with
  | plain c => exact .ok _
  | escaped c => exact Escape.onlyFlaws_readInSet c rest
  | dangling => exact .backslash

/-- The members of a set have only flaws. -/
theorem onlyFlaws_readMembers (start : Nat) (members : List SetItem) (skip : Nat)
    (ss : Symbols) : OnlyFlaws (readMembers start members skip ss) := by
  induction ss generalizing members skip with
  | nil => cases skip <;> exact .failAt _ _ _
  | cons s rest ih =>
    cases skip with
    | succ skip => exact ih members skip
    | zero =>
      rw [readMembers]
      refine .ite (.ok _) (.bind (onlyFlaws_readMember _ _) fun q => ?_)
      obtain ⟨first, after⟩ := q
      dsimp only
      split
      · exact .failAt _ _ _
      · exact .ok _
      · refine .bind (onlyFlaws_readMember _ _) fun q => ?_
        obtain ⟨last, after⟩ := q
        dsimp only
        cases range? first last with
        | some r => exact ih _ _
        | none => exact .fail _ _ _
      · exact ih _ _

/-- A set has only flaws. -/
theorem onlyFlaws_readSet (rest : Symbols) : OnlyFlaws (readSet rest) := by
  unfold readSet
  dsimp only
  split <;> exact (onlyFlaws_readMembers _ _ _ _).map _

/-! ### Parentheses -/

/-- What is no flag is a flaw. -/
theorem onlyFlaws_noFlag (otherwise : Cause) (rest : Symbols) (s : Symbol) :
    OnlyFlaws (noFlag (α := α) otherwise rest s) := by
  cases s with
  | plain | escaped => exact .fail _ _ _
  | dangling => exact .backslash

/-- Flags that are turned off have only flaws. -/
theorem onlyFlaws_readFlagsOff (on off : List Flag) (ss : Symbols) :
    OnlyFlaws (readFlagsOff on off ss) := by
  induction ss generalizing off with
  | nil => exact .fail _ _ _
  | cons s rest ih =>
    rw [readFlagsOff]
    refine .ite (.ite (.fail _ _ _) (.ite (.fail _ _ _) (.ok _))) ?_
    cases Flag.ofSymbol? s with
    | none => exact onlyFlaws_noFlag _ _ _
    | some f => exact .ite (.fail _ _ _) (ih _)

/-- The first flag that is turned off has only flaws. -/
theorem onlyFlaws_readFirstFlagOff (on : List Flag) (ss : Symbols) :
    OnlyFlaws (readFirstFlagOff on ss) := by
  cases ss with
  | nil => exact .fail _ _ _
  | cons s rest =>
    rw [readFirstFlagOff]
    cases Flag.ofSymbol? s with
    | none => exact onlyFlaws_noFlag _ _ _
    | some f => exact onlyFlaws_readFlagsOff _ _ _

/-- Flags that are turned on have only flaws. -/
theorem onlyFlaws_readFlagsOn (on : List Flag) (ss : Symbols) :
    OnlyFlaws (readFlagsOn on ss) := by
  induction ss generalizing on with
  | nil => exact .fail _ _ _
  | cons s rest ih =>
    rw [readFlagsOn]
    refine .ite (.ok _) (.ite (.ite (.fail _ _ _) (.ite (.ok _)
      (onlyFlaws_readFirstFlagOff _ _))) ?_)
    cases Flag.ofSymbol? s with
    | none => exact onlyFlaws_noFlag _ _ _
    | some f => exact .ite (.fail _ _ _) (.ite (.fail _ _ _) (ih _))

namespace Parenthesis

/-- What has a name opens no alternative. -/
theorem readNamed_ne_ifGroup {ss after : Symbols} {t : Text} :
    readNamed ss ≠ .ok (.opens (.ifGroup t), after) := by
  intro h
  unfold readNamed at h
  split at h
  · obtain ⟨_, -, he⟩ := Outcome.map_eq_ok.1 h
    cases he
  · obtain ⟨_, -, he⟩ := Outcome.map_eq_ok.1 h
    cases he
  · exact absurd h fail_ne_ok
  · exact absurd h unknown_ne_ok

/-- What looks behind opens no alternative. -/
theorem readBehind_ne_ifGroup {ss after : Symbols} {t : Text} :
    readBehind ss ≠ .ok (.opens (.ifGroup t), after) := by
  intro h
  unfold readBehind at h
  split at h
  · cases h
  · cases h
  · exact absurd h fail_ne_ok
  · exact absurd h unknown_ne_ok

/-- The condition of an alternative is in a row of what is read. -/
theorem isInfix_of_read_ifGroup {start : Nat} {ss after : Symbols} {t : Text}
    (h : Parenthesis.read start ss = .ok (.opens (.ifGroup t), after)) :
    t <:+: Symbol.text ss := by
  unfold Parenthesis.read at h
  split at h
  · unfold readExtension at h
    split at h
    case h_2 => exact absurd h readNamed_ne_ifGroup
    case h_7 => exact absurd h readBehind_ne_ifGroup
    case h_8 rest =>
      obtain ⟨⟨t, after⟩, hname, he⟩ := Outcome.map_eq_ok.1 h
      cases he
      have htext : Symbol.text rest = t ++ scalar ')' :: Symbol.text after :=
        text_of_readUntil_go hname
      refine ⟨['?', '('], ')' :: Symbol.text after, ?_⟩
      rw [List.append_assoc, ← htext]
      rfl
    case h_4 =>
      obtain ⟨_, -, he⟩ := Outcome.map_eq_ok.1 h
      cases he
    case h_10 =>
      split at h
      · obtain ⟨⟨flags, _⟩, -, he⟩ := Outcome.map_eq_ok.1 h
        cases flags <;> cases he
      · exact absurd h unknown_ne_ok
    case h_1 => exact absurd h fail_ne_ok
    all_goals cases h
  · cases h

/-- A comment has only flaws. -/
theorem onlyFlaws_skipComment (start : Nat) (ss : Symbols) : OnlyFlaws (skipComment start ss) := by
  fun_induction skipComment start ss with
  | case1 => exact .failAt _ _ _
  | case2 => exact .backslash
  | case3 => exact .ok _
  | case4 _ _ _ _ ih => exact ih

/-- An extension that is unknown is a flaw. -/
theorem onlyFlaws_unknown (start : Text) (rest : Symbols) (s : Symbol) :
    OnlyFlaws (unknown (α := α) start rest s) := by
  cases s with
  | plain | escaped => exact .fail _ _ _
  | dangling => exact .backslash

/-- The name of a group has only flaws. -/
theorem onlyFlaws_readName (terminator : CodePoint) (rest : Symbols) :
    OnlyFlaws (readName terminator rest) := by
  refine .bind (onlyFlaws_readUntil _ _ _) fun ⟨name, after⟩ => ?_
  exact .ite (.bind (.fail _ _ _) fun _ => .ok _) (.ok _)

/-- A group with a name has only flaws. -/
theorem onlyFlaws_readNamed (ss : Symbols) : OnlyFlaws (readNamed ss) := by
  unfold readNamed
  split
  · exact (onlyFlaws_readName _ _).map _
  · exact (onlyFlaws_readName _ _).map _
  · exact .fail _ _ _
  · exact onlyFlaws_unknown _ _ _

/-- What looks behind has only flaws. -/
theorem onlyFlaws_readBehind (ss : Symbols) : OnlyFlaws (readBehind ss) := by
  unfold readBehind
  split
  · exact .ok _
  · exact .ok _
  · exact .fail _ _ _
  · exact onlyFlaws_unknown _ _ _

/-- An extension has only flaws. -/
theorem onlyFlaws_readExtension (start : Nat) (ss : Symbols) :
    OnlyFlaws (readExtension start ss) := by
  unfold readExtension
  split
  · exact .fail _ _ _
  · exact onlyFlaws_readNamed _
  · exact .ok _
  · exact (onlyFlaws_skipComment _ _).map _
  · exact .ok _
  · exact .ok _
  · exact onlyFlaws_readBehind _
  · exact (onlyFlaws_readUntil _ _ _).map _
  · exact .ok _
  · exact .ite ((onlyFlaws_readFlagsOn _ _).map _) (onlyFlaws_unknown _ _ _)

/-- What a parenthesis opens has only flaws. -/
theorem onlyFlaws_read (start : Nat) (ss : Symbols) : OnlyFlaws (Parenthesis.read start ss) := by
  unfold Parenthesis.read
  split
  · exact onlyFlaws_readExtension _ _
  · exact .ok _

end Parenthesis

/-! ### Numerals -/

/-- The digits can be no number: it is too large for a bound, or they are too many. -/
def Fault.IsOfDigits (f : Fault) (ds : Text) : Prop :=
  (f = .boundTooLarge ∧ endOfBounds ≤ Text.numeral 10 ds) ∨
    (f = .numeralTooLong ds.length ∧ maxNumeralLength < ds.length)

/-- A fault has its reason in a text: it is a flaw, or digits in a row can be no number. -/
def Fault.IsIn (t : Text) (f : Fault) : Prop :=
  f.IsFlaw ∨ ∃ ds : Text, ds <:+: t ∧ (∀ c ∈ ds, c.isDigit = true) ∧ f.IsOfDigits ds

theorem Fault.IsIn.mono {f : Fault} {t u : Text} (h : f.IsIn t) (ht : t <:+: u) : f.IsIn u :=
  h.imp_right fun ⟨ds, hds, h⟩ => ⟨ds, hds.trans ht, h⟩

theorem FailsFor.isIn {x : Except Fault α} (hx : OnlyFlaws x) (t : Text) :
    FailsFor (Fault.IsIn t) x := hx.mono fun _ => Or.inl

/-! ### Groups -/

namespace Groups

variable {gs : Groups}

/-- A group that is opened has only flaws. -/
theorem onlyFlaws_openGroup (gs : Groups) (name : Option Text) (rest : Symbols) :
    OnlyFlaws (gs.openGroup name rest) := by
  unfold openGroup
  dsimp only
  split
  · exact .ok _
  · split
    · exact .fail _ _ _
    · exact .ok _

/-- A reference inside what stands behind has only flaws. -/
theorem onlyFlaws_checkFloor (gs : Groups) (index : Nat) (rest : Symbols) :
    OnlyFlaws (gs.checkFloor index rest) := by
  unfold checkFloor
  split
  · exact .ok _
  · exact .ite (.fail _ _ _) (.ite (.fail _ _ _) (.ok _))

theorem onlyFlaws_checkNumber (gs : Groups) (index length : Nat) (rest : Symbols) :
    OnlyFlaws (gs.checkNumber index length rest) :=
  .ite (.fail _ _ _) (.ite (.fail _ _ _) (onlyFlaws_checkFloor _ _ _))

/-- A name that is looked up has only flaws. -/
theorem onlyFlaws_named (gs : Groups) (name : Text) (rest : Symbols) :
    OnlyFlaws (gs.named name rest) := by
  unfold named
  split
  · exact .ok _
  · exact .fail _ _ _

/-- A reference by name has only flaws. -/
theorem onlyFlaws_checkName (gs : Groups) (name : Text) (rest : Symbols) :
    OnlyFlaws (gs.checkName name rest) := by
  have done : ∀ index, OnlyFlaws (gs.checkFloor index rest >>= fun _ => .ok index) :=
    fun _ => .bind (onlyFlaws_checkFloor _ _ _) fun _ => .ok _
  refine .bind (onlyFlaws_named _ _ _) fun index => ?_
  exact .ite (.bind (.fail _ _ _) fun _ => done _) (done _)

/-- The number of a condition has a flaw, or too many digits. -/
theorem failsFor_conditionNumber (edition : Edition) (t : Text) (rest : Symbols) :
    FailsFor (Fault.IsIn t) (conditionNumber edition t rest) := by
  cases edition with
  | lenient =>
    unfold conditionNumber
    dsimp only
    cases integerNumber? t with
    | none => exact .isIn (.fail _ _ _) t
    | some index => exact .ok _
  | strict =>
    unfold conditionNumber
    dsimp only
    split
    · exact .isIn (.fail _ _ _) t
    · rename_i hdigits
      intro f h
      split at h
      · rename_i hlong
        cases h
        exact Or.inr ⟨t, List.infix_rfl, by simpa using hdigits, Or.inr ⟨rfl, hlong⟩⟩
      · cases h

/-- A condition has a flaw, or a number with too many digits. -/
theorem failsFor_checkCondition (gs : Groups) (t : Text) (rest : Symbols) :
    FailsFor (Fault.IsIn t) (gs.checkCondition t rest) := by
  have done : ∀ (index : Nat) (gs : Groups),
      FailsFor (Fault.IsIn t) (gs.checkFloor index rest >>= fun _ => .ok (index, gs)) :=
    fun _ _ => .isIn (.bind (onlyFlaws_checkFloor _ _ _) fun _ => .ok _) t
  have refused : ∀ cause back, FailsFor (Fault.IsIn t) (fail (α := Nat × Groups) cause rest back >>=
      fun q => q.2.checkFloor q.1 rest >>= fun _ => .ok (q.1, q.2)) :=
    fun _ _ => .bind (.isIn (.fail _ _ _) t) fun _ => done _ _
  unfold checkCondition
  dsimp only
  refine .ite (.bind (.isIn (onlyFlaws_named _ _ _) t) fun _ => done _ _) ?_
  refine .bind (failsFor_conditionNumber _ _ _) fun index => ?_
  exact .ite (refused _ _) (.ite (refused _ _) (.ite (done _ _) (done _ _)))

/-- The groups of all conditions have only flaws. -/
theorem onlyFlaws_checkConditions (gs : Groups) : OnlyFlaws gs.checkConditions := by
  unfold checkConditions
  split
  · exact .located _ _
  · exact .ok _

end Groups

/-! ### Numbers in braces -/

/-- A run of characters is at the front of what it is read from. -/
theorem readWhile_eq (p : CodePoint → Bool) (n : Nat) (ss : Symbols) :
    ss = (readWhile p n ss).1.map .plain ++ (readWhile p n ss).2 ∧
      ∀ c ∈ (readWhile p n ss).1, p c = true := by
  fun_induction readWhile p n ss with
  | case1 n c rest hc t after heq ih =>
    rw [heq] at ih
    exact ⟨congrArg (Symbol.plain c :: ·) ih.1, List.forall_mem_cons.2 ⟨hc, ih.2⟩⟩
  | case2 | case3 => exact ⟨rfl, List.forall_mem_nil _⟩

namespace Bounds

variable {rest : Symbols} {f : Fault}

/-- The numerals in braces are digits in a row. -/
theorem isInfix_of_split? {low high : Text} {after : Symbols}
    (h : split? rest = some ((low, high), after)) : ∀ ds ∈ [low, high],
      ds.map Symbol.plain <:+: rest ∧ ∀ c ∈ ds, c.isDigit = true := by
  have hlow := readWhile_eq CodePoint.isDigit rest.length rest
  rw [split?_eq] at h
  generalize readWhile CodePoint.isDigit rest.length rest = q at h hlow
  obtain ⟨low', mid⟩ := q
  have hmid : mid <:+: rest := ⟨low'.map .plain, [], by rw [List.append_nil]; exact hlow.1.symm⟩
  have hlow' : low'.map Symbol.plain <:+: rest := ⟨[], mid, hlow.1.symm⟩
  have hend : (numerals low' mid).1 = (low, high) := by
    dsimp only at h
    unfold endOf at h
    split at h
    · split at h
      · cases h
      · exact congrArg Prod.fst (Option.some.inj h)
    · cases h
  unfold numerals at hend
  split at hend
  · rename_i after'
    have hhigh := readWhile_eq CodePoint.isDigit after'.length after'
    cases hend
    refine List.forall_mem_cons.2 ⟨⟨hlow', hlow.2⟩, List.forall_mem_singleton.2 ⟨?_, hhigh.2⟩⟩
    refine List.IsInfix.trans ?_ hmid
    exact ⟨[.plain ','], _, by
      rw [List.append_assoc, ← hhigh.1]
      rfl⟩
  · cases hend
    exact List.forall_mem_cons.2 ⟨⟨hlow', hlow.2⟩, List.forall_mem_singleton.2 ⟨hlow', hlow.2⟩⟩

/-- Digits are refused only if they can be no bound. -/
theorem ofDigits_eq_error {ds : Text} (h : ofDigits ds = .error f) : f.IsOfDigits ds := by
  unfold ofDigits at h
  dsimp only at h
  split at h
  · cases h
  · split at h
    · cases h
      exact Or.inr ⟨rfl, ‹_›⟩
    · split at h
      · cases h
        exact Or.inl ⟨rfl, ‹_›⟩
      · cases h

/-- Bounds fail for a flaw, or since digits can be no bound. -/
theorem failsFor_isIn_read? (c : CodePoint) (rest : Symbols) :
    FailsFor (Fault.IsIn (Symbol.text rest)) (read? c rest) := by
  have braces : FailsFor (Fault.IsIn (Symbol.text rest)) (readBraces? rest) := by
    unfold readBraces?
    split
    · exact .ok _
    · rename_i low high after hsplit
      have numerals : ∀ ds ∈ [low, high],
          FailsFor (Fault.IsIn (Symbol.text rest)) (ofDigits ds) := by
        intro ds hds f h
        obtain ⟨hin, hdigits⟩ := isInfix_of_split? hsplit ds hds
        have htext : ds <:+: Symbol.text rest := by
          rw [← Symbol.text_map_plain ds]
          exact Symbol.text_isInfix hin
        exact Or.inr ⟨ds, htext, hdigits, ofDigits_eq_error h⟩
      have unordered := FailsFor.failAt (α := Unit) (left rest) .leastOverGreatest after
      have refused := FailsFor.backslash (α := Unit)
      have read := FailsFor.bind (numerals low (by simp)) fun l =>
        FailsFor.bind (numerals high (by simp)) fun greatest =>
          FailsFor.ite (p := greatest.any (· < l.getD 0))
            (.bind (unordered.isIn _) fun _ =>
              .ok (some ((⟨l.getD 0, greatest⟩ : Bounds), after)))
            (.ok (some (⟨l.getD 0, greatest⟩, after)))
      exact .ite (.bind (refused.isIn _) fun _ => read) read
  unfold read?
  split
  · exact .ok _
  · exact .ok _
  · exact .ok _
  · exact braces
  · exact .ok _

end Bounds

namespace State

variable {s : State} {rest : Symbols} {f : Fault}

/-- A bracket fails for a flaw, or since the number of a condition has too many digits. -/
theorem failsFor_bracket (s : State) (rest : Symbols) {t : Text} {o : Opening}
    (ho : ∀ name, o = .ifGroup name → name <:+: t) :
    FailsFor (Fault.IsIn t) (s.bracket rest o) := by
  cases o with
  | capture name => exact .isIn ((Groups.onlyFlaws_openGroup _ _ _).map _) t
  | plain | atomic | ahead | behind => exact .ok _
  | ifGroup name =>
    exact ((Groups.failsFor_checkCondition _ _ _).mono fun _ h => h.mono (ho name rfl)).map _

/-- A parenthesis fails for a flaw, or since the number of a condition has too many digits. -/
theorem failsFor_isIn_enter (s : State) (rest : Symbols) :
    FailsFor (Fault.IsIn (Symbol.text rest)) (s.enter rest) := by
  refine .bind_of_ok (.isIn (Parenthesis.onlyFlaws_read _ _) _) fun ⟨p, after⟩ hp => ?_
  cases p with
  | comment => exact .ok _
  | wholeFlags on => exact .isIn (.bind (.ite (.ok _) (.failAt _ _ _)) fun _ => .ok _) _
  | reference name => exact .isIn (.bind (Groups.onlyFlaws_checkName _ _ _) fun _ => .ok _) _
  | opens o =>
    refine .bind (failsFor_bracket s _ ?_) fun _ => .ok _
    rintro name rfl
    exact Parenthesis.isInfix_of_read_ifGroup hp

/-- A closing parenthesis has only flaws. -/
theorem onlyFlaws_leave (h : s.wholeFlags = []) (rest : Symbols) : OnlyFlaws (s.leave rest) := by
  unfold leave
  split
  · rw [unbalanced, if_neg (by simp [h])]
    exact .fail _ _ _
  · exact .ok _

/-- A branch has only flaws. -/
theorem onlyFlaws_nextBranch (s : State) (rest : Symbols) : OnlyFlaws (s.nextBranch rest) := by
  unfold nextBranch
  split
  · exact .fail _ _ _
  · exact .ok _

/-- A repetition has only flaws, once its bounds are read. -/
theorem onlyFlaws_loop (s : State) (bounds : Bounds) (rest after : Symbols) :
    OnlyFlaws (s.loop bounds rest after) := by
  unfold loop
  dsimp only
  split
  · exact .failAt _ _ _
  · split
    · exact .failAt _ _ _
    · exact .ok _

/-- An escape that is pushed has only flaws. -/
theorem onlyFlaws_escape (s : State) (c : CodePoint) (rest : Symbols) :
    OnlyFlaws (s.escape c rest) := by
  refine .bind (Escape.onlyFlaws_read _ _ _) fun ⟨e, after⟩ => ?_
  cases e with
  | item | anchor => exact .ok _
  | reference index length => exact .bind (Groups.onlyFlaws_checkNumber _ _ _ _) fun _ => .ok _

/-- The comment of a line has only flaws. -/
theorem onlyFlaws_skipLine (ss : Symbols) : OnlyFlaws (skipLine ss) := by
  fun_induction skipLine ss with
  | case1 => exact .ok _
  | case2 => exact .backslash
  | case3 => exact .ok _
  | case4 _ _ _ _ ih => exact ih

/-- A character fails for a flaw, or since digits can be no number. -/
theorem failsFor_isIn_char (hs : s.wholeFlags = []) (c : CodePoint) (rest : Symbols) :
    FailsFor (Fault.IsIn (Symbol.text rest)) (s.char c rest) := by
  unfold char
  split
  · exact ((onlyFlaws_nextBranch s rest).map _).isIn _
  · exact ((onlyFlaws_leave hs rest).map _).isIn _
  · exact failsFor_isIn_enter s rest
  · exact ((onlyFlaws_readSet rest).map _).isIn _
  · exact .ok _
  · exact .ok _
  · exact .ok _
  · refine .bind (Bounds.failsFor_isIn_read? c rest) fun b => ?_
    cases b with
    | none => exact .ok _
    | some b => exact (onlyFlaws_loop s _ _ _).isIn _

/-- **A step fails for a flaw, or since digits can be no number,** as long as no flags are set
for the whole expression. -/
theorem failsFor_isIn_step (hs : s.wholeFlags = []) (t : Symbol) (rest : Symbols) :
    FailsFor (Fault.IsIn (Symbol.text rest)) (s.step t rest) := by
  cases t with
  | dangling => exact FailsFor.isIn .backslash _
  | escaped c => exact (onlyFlaws_escape s c rest).isIn _
  | plain c =>
    exact .ite (.ok _) (.ite (((onlyFlaws_skipLine rest).map _).isIn _)
      (failsFor_isIn_char hs c rest))

/-- No move sets flags for the whole expression. -/
theorem Move.wholeFlags_eq {s' : State} (h : Move s s') : s'.wholeFlags = s.wholeFlags := by
  cases h <;> rfl

end State

/-! ### Whole expressions -/

/-- The end of an expression has only flaws. -/
theorem onlyFlaws_finish {s : State} (hs : s.wholeFlags = []) : OnlyFlaws s.finish := by
  have checked {x : Except Fault Node} (hx : OnlyFlaws x) :
      OnlyFlaws (s.groups.checkConditions >>= fun _ => x) :=
    .bind (Groups.onlyFlaws_checkConditions _) fun _ => hx
  unfold State.finish
  split
  · rename_i hboth
    simp [hs] at hboth
  · dsimp only
    cases unsupported? (s.wholeFlags.contains .loopless) s.level.node with
    | none =>
      split
      · exact .bind (.failAt _ _ _) fun _ => checked (.ok _)
      · exact checked (.ok _)
    | some cause =>
      split
      · exact .bind (.failAt _ _ _) fun _ => checked (.unlocated cause)
      · exact checked (.unlocated cause)

/-- A run fails for a flaw, or since digits can be no number. -/
theorem isIn_of_run_eq_error {s : State} {skip : Nat} {ss : Symbols} {f : Fault} (hs : s.Begun)
    (hflags : s.wholeFlags = []) (h : s.run skip ss = .error f) : f.IsIn (Symbol.text ss) := by
  induction ss generalizing s skip with
  | nil => cases skip <;> cases h
  | cons t rest ih =>
    cases skip with
    | succ skip =>
      exact (ih hs hflags h).mono (Symbol.text_isInfix (List.suffix_cons _ _).isInfix)
    | zero =>
      rw [State.run] at h
      refine Fault.IsIn.mono ?_ (Symbol.text_isInfix (List.suffix_cons t rest).isInfix)
      split at h
      · rename_i f' hstep
        cases h
        exact State.failsFor_isIn_step hflags t rest _ hstep
      · rename_i s' after hstep
        obtain ⟨-, hmove⟩ := State.step_outline hs hstep
        exact ih (hmove.begun hs) (hmove.wholeFlags_eq.trans hflags) h

/-- A run sets no flags for the whole expression, once something is read. -/
theorem wholeFlags_eq_of_run {s s' : State} {skip : Nat} {ss : Symbols} (hs : s.Begun)
    (h : s.run skip ss = .ok s') : s'.wholeFlags = s.wholeFlags := by
  induction ss generalizing s skip with
  | nil =>
    cases skip <;> cases h <;> rfl
  | cons t rest ih =>
    cases skip with
    | succ skip => exact ih hs h
    | zero =>
      rw [State.run] at h
      split at h
      · cases h
      · rename_i s₁ after hstep
        obtain ⟨-, hmove⟩ := State.step_outline hs hstep
        exact (ih (hmove.begun hs) h).trans hmove.wholeFlags_eq

/-- **An expression that starts with `^` is malformed if it is refused,** or it has digits
that can be no number: it is too large for a bound, or they are too many. -/
theorem parse_eq_error_of_caret {edition : Edition} {t : Text} {e : Error}
    (h : parse edition (scalar '^' :: t) = .error e) :
    (∃ cause place, e = .malformed cause place) ∨ ∃ ds, ds <:+: t ∧
      (∀ c ∈ ds, c.isDigit = true) ∧
      ((e = .boundTooLarge ∧ endOfBounds ≤ Text.numeral 10 ds) ∨
        (e = .numeralTooLong ds.length ∧ maxNumeralLength < ds.length)) := by
  have hfirst : Symbol.ofText (scalar '^' :: t) = .plain '^' :: Symbol.ofText t := rfl
  have hrun : (State.start edition).run 0 (Symbol.ofText (scalar '^' :: t)) =
      ((State.start edition).push (.anchor (.start false))).run 0 (Symbol.ofText t) := by
    rw [hfirst]
    exact State.run_cons rfl
  have hbegun : ((State.start edition).push (.anchor (.start false))).Begun :=
    Or.inr (Or.inr (List.cons_ne_nil _ _))
  have hfault : ∃ f : Fault, f.IsIn t ∧ f.toError (scalar '^' :: t) = e := by
    rw [parse, hrun] at h
    cases hr : ((State.start edition).push (.anchor (.start false))).run 0 (Symbol.ofText t) with
    | error f =>
      rw [hr] at h
      have hin := isIn_of_run_eq_error hbegun rfl hr
      rw [Symbol.text, Symbol.flatMap_written_ofText] at hin
      exact ⟨f, hin, Except.error.inj h⟩
    | ok s =>
      rw [hr, Except.bind] at h
      cases hf : s.finish with
      | ok n =>
        rw [hf] at h
        cases h
      | error f =>
        rw [hf] at h
        exact ⟨f, Or.inl (onlyFlaws_finish (wholeFlags_eq_of_run hbegun hr) f hf),
          Except.error.inj h⟩
  obtain ⟨f, hf | ⟨ds, hds, hdigits, hf⟩, rfl⟩ := hfault
  · left
    cases f with
    | located cause left => exact ⟨cause, _, rfl⟩
    | unlocated cause => exact ⟨cause, none, rfl⟩
    | boundTooLarge | numeralTooLong | conflictingAlphabets => exact hf.elim
  · refine Or.inr ⟨ds, hds, hdigits, ?_⟩
    rcases hf with ⟨rfl, hbound⟩ | ⟨rfl, hlength⟩
    · exact Or.inl ⟨rfl, hbound⟩
    · exact Or.inr ⟨rfl, hlength⟩

end Backtracking

/-! ### The engine -/

namespace Engine

variable {rt : Runtime} {b : Breakdown}

/-- **What the backtracking engine breaks on behind a `^`:** the depth of an expression, or digits
in it. -/
theorem backtracking_broken_of_caret {t : Text}
    (h : (backtracking rt).check (scalar '^' :: t) = .error (.broken b)) :
    (∃ message, rt.exhausted? (scalar '^' :: t) = some message ∧ b = .stack message) ∨
      b = .backtracking .boundTooLarge ∨ ∃ n, b = .backtracking (.numeralTooLong n) := by
  rcases backtracking_broken_iff.1 h with hstack | ⟨-, e, hparse, hflaw, rfl⟩
  · exact .inl hstack
  · right
    rcases Backtracking.parse_eq_error_of_caret hparse with
      ⟨cause, place, rfl⟩ | ⟨ds, -, -, ⟨rfl, -⟩ | ⟨rfl, -⟩⟩
    · exact absurd rfl (hflaw cause place)
    · exact .inl rfl
    · exact .inr ⟨_, rfl⟩

end Engine

end Regex
end RouteTable
