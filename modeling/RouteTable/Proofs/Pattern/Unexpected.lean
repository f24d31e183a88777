/-
# The token that is not expected

A reader of tokens looks at what it reads and at the class of the token after it, and no further.
So other tokens may stand for those that it leaves, if they begin with the same class, or with
nothing that any reader goes on with (`Stands`): that is what it means that a reader is local
(`IsLocal`).  Readers in a row are local if each of them is.

Where tokens are refused they have a front that is right, and a token after it that is wrong
(`Segment.IsWrongAt`): with a token of its class there, whatever comes behind, the same front is
refused at the same place, and with what is expected there the front is complete.
`Segment.exists_isWrongAt` says so of the fault that is reported.
-/

import RouteTable.Proofs.Pattern.Offsets
import RouteTable.Proofs.Pattern.Parsing

namespace RouteTable
namespace Pattern
namespace Segment

open Token (nextClass)

variable {α β : Type} {ks rest r r' : List Token} {length : Nat}

/-! ### Local readers -/

/-- Tokens stand for others: they begin with the same class, or with the end or a closing brace. -/
def Stands (r r' : List Token) : Prop :=
  nextClass r' = nextClass r ∨ nextClass r' = .ending ∨ nextClass r' = .closing

theorem Stands.append (h : Stands r r') (front : List Token) :
    Stands (front ++ r) (front ++ r') := by
  cases front with
  | nil => exact h
  | cons k front => exact .inl rfl

/-- A class that what is left does not begin with is not begun with by what stands for it. -/
theorem Stands.ne (h : Stands r r') {c : TokenClass} (hr : nextClass r ≠ c) (he : .ending ≠ c)
    (hc : .closing ≠ c) : nextClass r' ≠ c := by
  rcases h with h | h | h <;> rw [h] <;> assumption

/-- A reader reads the same where others stand for the tokens that it leaves. -/
def IsLocal (read : List Token → α × List Token) : Prop :=
  ∀ ks, ∃ front, ks = front ++ (read ks).2 ∧
    ∀ r', Stands (read ks).2 r' → read (front ++ r') = ((read ks).1, r')

theorem IsLocal.bind {read : List Token → α × List Token} {next : α → List Token → β × List Token}
    (h : IsLocal read) (hnext : ∀ a, IsLocal (next a)) :
    IsLocal fun ks => next (read ks).1 (read ks).2 := by
  intro ks
  obtain ⟨front₁, h₁, hr₁⟩ := h ks
  obtain ⟨front₂, h₂, hr₂⟩ := hnext (read ks).1 (read ks).2
  refine ⟨front₁ ++ front₂, by rw [List.append_assoc, ← h₂, ← h₁], fun r' hr' => ?_⟩
  have hstands : Stands (read ks).2 (front₂ ++ r') := by
    rw [h₂]
    exact hr'.append front₂
  simp only [List.append_assoc, hr₁ _ hstands, hr₂ _ hr']

theorem IsLocal.map {read : List Token → α × List Token} (h : IsLocal read) (f : α → β) :
    IsLocal fun ks => (f (read ks).1, (read ks).2) := by
  intro ks
  obtain ⟨front, hks, hr⟩ := h ks
  exact ⟨front, hks, fun r' hr' => by simp only [hr r' hr']⟩

/-- Text is a character, or an escaped one. -/
theorem textChar?_eq_none_iff {k : TokenShape} :
    k.textChar? = none ↔ k.tokenClass ≠ .char ∧ k.tokenClass ≠ .escapedChar := by
  cases k <;> simp [TokenShape.textChar?, TokenShape.tokenClass]

/-- No text is read where none is next. -/
theorem readText_of_nextClass (h : nextClass ks ≠ .char ∧ nextClass ks ≠ .escapedChar) :
    readText ks = ([], ks) := by
  cases ks with
  | nil => rfl
  | cons k ks => rw [readText, textChar?_eq_none_iff.2 h]

/-- Reading text looks one token ahead. -/
theorem isLocal_readText : IsLocal readText := by
  intro ks
  have stop : ∀ {ks r' : List Token}, (nextClass ks ≠ .char ∧ nextClass ks ≠ .escapedChar) →
      Stands ks r' → readText r' = ([], r') := fun h hr' =>
    readText_of_nextClass ⟨hr'.ne h.1 nofun nofun, hr'.ne h.2 nofun nofun⟩
  induction ks with
  | nil => exact ⟨[], rfl, fun r' => stop ⟨nofun, nofun⟩⟩
  | cons k ks ih =>
    obtain ⟨front, hks, hr⟩ := ih
    cases hc : k.shape.textChar? with
    | none =>
      have hclass := textChar?_eq_none_iff.1 hc
      have hread : readText (k :: ks) = ([], k :: ks) := readText_of_nextClass hclass
      rw [hread]
      exact ⟨[], rfl, fun r' => stop hclass⟩
    | some c =>
      have hread : ∀ ks, readText (k :: ks) = (c :: (readText ks).1, (readText ks).2) := by
        intro ks
        rw [readText, hc]
      rw [hread]
      refine ⟨k :: front, congrArg (k :: ·) hks, fun r' hr' => ?_⟩
      rw [List.cons_append, hread, hr r' hr']

/-- No parameter is read exactly where neither a name nor a body is next. -/
theorem readParameter?_eq_none_iff : readParameter? ks = none ↔
    nextClass ks ≠ .name ∧ nextClass ks ≠ .body := by
  rcases ks with _ | ⟨⟨o, _ | _ | _ | n | b | _ | _⟩, ks⟩
  case cons.name =>
    rcases ks with _ | ⟨⟨o, _ | _ | _ | n | b | _ | _⟩, ks⟩ <;>
      simp [readParameter?, nextClass, TokenShape.tokenClass]
  all_goals simp [readParameter?, nextClass, TokenShape.tokenClass]

/-- Where no parameter comes next, none does in what stands there. -/
theorem Stands.readParameter?_eq_none (h : Stands r r') (hr : readParameter? r = none) :
    readParameter? r' = none := by
  have hclass := readParameter?_eq_none_iff.1 hr
  exact readParameter?_eq_none_iff.2 ⟨h.ne hclass.1 nofun nofun, h.ne hclass.2 nofun nofun⟩

/-- No modifier is read where none is next. -/
theorem readModifier_of_nextClass (h : nextClass ks ≠ .modifier) :
    readModifier ks = (.once, ks) := by
  rcases ks with _ | ⟨⟨o, _ | _ | m | _ | _ | _ | _⟩, ks⟩
  case cons.modifier => exact absurd rfl h
  all_goals rfl

/-- Reading a modifier looks one token ahead. -/
theorem isLocal_readModifier : IsLocal readModifier := by
  intro ks
  by_cases h : nextClass ks = .modifier
  · rcases ks with _ | ⟨⟨o, _ | _ | m | _ | _ | _ | _⟩, ks⟩
    case cons.modifier => exact ⟨[⟨o, .modifier m⟩], rfl, fun r' _ => rfl⟩
    all_goals cases h
  · rw [readModifier_of_nextClass h]
    exact ⟨[], rfl, fun r' hr' => readModifier_of_nextClass (hr'.ne h nofun nofun)⟩

/-- A parameter that is read is read before tokens that stand for those behind it. -/
theorem exists_front_of_readParameter? {p : Option Text × Text}
    (h : readParameter? ks = some (p, r)) :
    ∃ k front, ks = k :: front ++ r ∧
      ∀ r', Stands r r' → readParameter? (k :: front ++ r') = some (p, r') := by
  unfold readParameter? at h
  split at h
  · cases h
    exact ⟨_, [_], rfl, fun _ _ => rfl⟩
  · rename_i o n r₁ hbody
    cases h
    refine ⟨_, [], rfl, fun r' hr' => ?_⟩
    have hclass : nextClass r ≠ .body := by
      rcases r with _ | ⟨⟨o', _ | _ | _ | _ | b | _ | _⟩, r⟩
      case cons.body => exact absurd rfl (hbody o' b r)
      all_goals nofun
    have hclass' := hr'.ne hclass nofun nofun
    rcases r' with _ | ⟨⟨o', _ | _ | _ | _ | b | _ | _⟩, r'⟩
    case cons.body => exact absurd rfl hclass'
    all_goals rfl
  · cases h
    exact ⟨_, [], rfl, fun _ _ => rfl⟩
  · cases h

/-- The parameter that comes next, if one does, and the tokens after it. -/
def optionalParameter (ks : List Token) : Option (Option Text × Text) × List Token :=
  match readParameter? ks with
  | some (p, rest) => (some p, rest)
  | none => (none, ks)

/-- Reading a parameter or none looks one token ahead. -/
theorem isLocal_optionalParameter : IsLocal optionalParameter := by
  intro ks
  cases h : readParameter? ks with
  | none =>
    rw [optionalParameter, h]
    refine ⟨[], rfl, fun r' hr' => ?_⟩
    rw [List.nil_append, optionalParameter, hr'.readParameter?_eq_none h]
  | some q =>
    obtain ⟨p, r⟩ := q
    obtain ⟨k, front, hks, hr⟩ := exists_front_of_readParameter? h
    rw [optionalParameter, h]
    refine ⟨k :: front, hks, fun r' hr' => ?_⟩
    rw [optionalParameter, hr r' hr']

/-! ### Braces -/

/-- What stands in a brace: text, a parameter or none, and text. -/
abbrev Inside := Text × Option (Option Text × Text) × Text

/-- What stands in a brace, and the tokens after it. -/
def readInside (ks : List Token) : Inside × List Token :=
  let (lead, ks) := readText ks
  let (parameter, ks) := optionalParameter ks
  let (trail, ks) := readText ks
  ((lead, parameter, trail), ks)

/-- The segment of a brace. -/
def Inside.segment (x : Inside) (m : Modifier) : Segment :=
  match x.2.1 with
  | some (name, body) => .capture ⟨name, x.1, body, x.2.2, m⟩
  | none => .group (x.1 ++ x.2.2) m

/-- Reading what stands in braces looks one token ahead. -/
theorem isLocal_readInside : IsLocal readInside :=
  isLocal_readText.bind fun lead => isLocal_optionalParameter.bind fun parameter =>
    isLocal_readText.map fun trail => (lead, parameter, trail)

theorem readBrace_eq (length : Nat) (ks : List Token) : readBrace length ks =
    match (readInside ks).2 with
    | ⟨_, .closing⟩ :: rest => .ok ((readInside ks).1.segment (readModifier rest).1,
        (readModifier rest).2)
    | rest => .error (unexpected length .closing rest) := rfl

/-- Braces are refused where the closing one is not next. -/
theorem readBrace_of_nextClass (length : Nat) (h : nextClass (readInside ks).2 ≠ .closing) :
    readBrace length ks = .error (unexpected length .closing (readInside ks).2) := by
  rw [readBrace_eq]
  split
  · rename_i heq
    rw [heq] at h
    exact absurd rfl h
  · rfl

/-- **Braces are refused** exactly for what stands in the place of the closing one. -/
theorem readBrace_eq_error_iff {f : Fault} : readBrace length ks = .error f ↔
    nextClass (readInside ks).2 ≠ .closing ∧
      f = unexpected length .closing (readInside ks).2 := by
  constructor
  · intro h
    have hclass : nextClass (readInside ks).2 ≠ .closing := by
      intro hc
      rw [readBrace_eq] at h
      rcases hks : (readInside ks).2 with _ | ⟨⟨o, _ | _ | _ | _ | _ | _ | _⟩, rest⟩ <;>
        rw [hks] at hc <;> cases hc
      rw [hks] at h
      cases h
    rw [readBrace_of_nextClass length hclass] at h
    exact ⟨hclass, (Except.error.inj h).symm⟩
  · rintro ⟨hclass, rfl⟩
    exact readBrace_of_nextClass length hclass

/-! ### Items -/

variable {k : Token} {item : Item}

theorem isLocal_readCapture (lead : Text) (p : Option Text × Text) :
    IsLocal (readCapture lead p) :=
  isLocal_readModifier.map fun m => Item.segment (.capture ⟨p.1, lead, p.2, [], m⟩)

/-- A capture is read before tokens that stand for those behind it. -/
theorem exists_front_of_readCapture {p : Option Text × Text} {lead : Text}
    (h : readParameter? ks = some (p, rest)) (hr : readCapture lead p rest = (item, r)) :
    ∃ k front, ks = k :: front ++ r ∧ ∀ r', Stands r r' →
      ∃ rest', readParameter? (k :: front ++ r') = some (p, rest') ∧
        readCapture lead p rest' = (item, r') := by
  obtain ⟨k, front₁, rfl, hparameter⟩ := exists_front_of_readParameter? h
  obtain ⟨front₂, hrest, hcapture⟩ := isLocal_readCapture lead p rest
  rw [hr] at hrest hcapture
  refine ⟨k, front₁ ++ front₂, by simp [← hrest], fun r' hr' => ⟨front₂ ++ r', ?_, hcapture r' hr'⟩⟩
  have hstands : Stands rest (front₂ ++ r') := by
    rw [hrest]
    exact hr'.append front₂
  rw [← hparameter _ hstands]
  simp

/-- What stands for tokens without a parameter leads to none. -/
theorem Stands.readLedParameter?_eq_none {c : CodePoint} (h : Stands r r')
    (hr : readLedParameter? c r = none) : readLedParameter? c r' = none := by
  unfold readLedParameter? at hr ⊢
  split at hr
  · rename_i hs
    rw [if_pos hs]
    exact h.readParameter?_eq_none hr
  · rename_i hs
    exact if_neg hs

/-- An item that is no braces is read from a front, whatever stands for the rest. -/
theorem exists_front_of_readUnledParameter
    (h : readUnledParameter length (k :: ks) = .ok (item, r)) :
    ∃ front, ks = front ++ r ∧ ∀ length' r', Stands r r' →
      readUnledParameter length' (k :: (front ++ r')) = .ok (item, r') := by
  unfold readUnledParameter at h
  split at h
  · rename_i p rest hp
    obtain ⟨k', front, hks, hr⟩ := exists_front_of_readCapture hp (Except.ok.inj h)
    cases hks
    refine ⟨front, rfl, fun length' r' hr' => ?_⟩
    obtain ⟨rest', hp', hc'⟩ := hr r' hr'
    rw [readUnledParameter, ← List.cons_append, hp']
    exact congrArg Except.ok hc'
  · cases h

/-- Braces are read from a front, whatever stands for the rest. -/
theorem exists_front_of_readBrace {s : Segment} (h : readBrace length ks = .ok (s, r)) :
    ∃ front, ks = front ++ r ∧ ∀ length' r', Stands r r' →
      readBrace length' (front ++ r') = .ok (s, r') := by
  obtain ⟨front₁, hks, hinside⟩ := isLocal_readInside ks
  rw [readBrace_eq] at h
  split at h
  · rename_i o rest heq
    cases h
    obtain ⟨front₂, hrest, hmodifier⟩ := isLocal_readModifier rest
    rw [heq] at hks hinside
    refine ⟨front₁ ++ ⟨o, .closing⟩ :: front₂, ?_, fun length' r' hr' => ?_⟩
    · rw [hks, List.append_assoc, List.cons_append, ← hrest]
    · have hread := hinside (⟨o, .closing⟩ :: (front₂ ++ r')) (.inl rfl)
      rw [List.append_assoc, List.cons_append, readBrace_eq, hread]
      simp only [hmodifier r' hr']
  · cases h

/-- **An item is read before tokens that stand for those behind it.** -/
theorem exists_front_of_readItem (h : readItem length k ks = .ok (item, r)) :
    ∃ front, ks = front ++ r ∧
      ∀ length' r', Stands r r' → readItem length' k (front ++ r') = .ok (item, r') := by
  rcases k with ⟨o, c | c | m | n | b | _ | _⟩ <;> simp only [readItem] at h ⊢
  case char =>
    split at h
    · rename_i p rest hp
      obtain ⟨hs, hp⟩ := readLedParameter?_eq_some_iff.1 hp
      obtain ⟨k', front, hks, hr⟩ := exists_front_of_readCapture hp (Except.ok.inj h)
      refine ⟨k' :: front, hks, fun _ r' hr' => ?_⟩
      obtain ⟨rest', hp', hc'⟩ := hr r' hr'
      rw [readLedParameter?_eq_some_iff.2 ⟨hs, hp'⟩]
      exact congrArg Except.ok hc'
    · rename_i hp
      cases h
      refine ⟨[], rfl, fun _ r' hr' => ?_⟩
      rw [List.nil_append, hr'.readLedParameter?_eq_none hp]
  case escaped =>
    cases h
    exact ⟨[], rfl, fun _ _ _ => rfl⟩
  case opening =>
    obtain ⟨⟨s, r₁⟩, hbrace, he⟩ := Outcome.map_eq_ok.1 h
    cases he
    obtain ⟨front, hks, hr⟩ := exists_front_of_readBrace hbrace
    refine ⟨front, hks, fun length' r' hr' => ?_⟩
    rw [hr length' r' hr']
    rfl
  all_goals exact exists_front_of_readUnledParameter h

/-! ### What is refused -/

/-- What completes tokens where a class is expected: nothing where the end is, and else a closing
brace. -/
inductive Completes : TokenClass → List Token → Prop where
  | ending : Completes .ending []
  | closing {o : Nat} : Completes .closing [⟨o, .closing⟩]

/-- What completes tokens stands for what follows them. -/
theorem Completes.stands {expected : TokenClass} (h : Completes expected r') : Stands r r' := by
  cases h with
  | ending => exact .inr (.inl rfl)
  | closing => exact .inr (.inr rfl)

/-- Tokens go wrong behind a front: where others of the class are next, the class that is expected
is missed there, whatever comes behind; and with what is expected the front is complete. -/
structure IsWrongAt (front rest : List Token) (expected : TokenClass) : Prop where
  fails : ∀ length r', nextClass r' = nextClass rest →
    readItems length (front ++ r') = .error (unexpected length expected r')
  expects : expected = .ending ∨ expected = .closing
  completes : ∀ length r', Completes expected r' → ∃ items,
    readItems length (front ++ r') = .ok items

/-- An item that is refused refuses the items. -/
theorem readItems_of_error {f : Fault} (h : readItem length k ks = .error f) :
    readItems length (k :: ks) = .error f := by
  rw [readItems]
  split
  · rename_i g hg
    rw [h] at hg
    cases hg
    rfl
  · rename_i hok
    rw [h] at hok
    cases hok

/-- An item in front of what is wrong is no part of the fault. -/
theorem IsWrongAt.cons {front : List Token} {expected : TokenClass}
    (h : readItem length k ks = .ok (item, front ++ rest))
    (hwrong : IsWrongAt front rest expected) :
    ∃ front', k :: ks = front' ++ rest ∧ IsWrongAt front' rest expected := by
  obtain ⟨front₁, rfl, hitem⟩ := exists_front_of_readItem h
  have read : ∀ length' r', Stands rest r' → readItems length' (k :: (front₁ ++ front) ++ r') =
      (readItems length' (front ++ r')).map (item :: ·) := by
    intro length' r' hr'
    rw [List.cons_append, List.append_assoc]
    exact readItems_cons (hitem length' _ (hr'.append front))
  refine ⟨k :: (front₁ ++ front), by simp, ⟨fun length' r' hr' => ?_, hwrong.expects,
    fun length' r' hr' => ?_⟩⟩
  · rw [read length' r' (.inl hr'), hwrong.fails length' r' hr']
    rfl
  · obtain ⟨items, hitems⟩ := hwrong.completes length' r' hr'
    exact ⟨item :: items, by rw [read length' r' hr'.stands, hitems]; rfl⟩

/-- A modifier or a closing brace starts no item. -/
theorem isWrongAt_nil (h : nextClass rest = .modifier ∨ nextClass rest = .closing) :
    IsWrongAt [] rest .ending where
  fails length r' hr' := by
    rw [← hr'] at h
    rcases r' with _ | ⟨⟨o, _ | _ | m | _ | _ | _ | _⟩, r'⟩ <;> rcases h with h | h <;> cases h
    all_goals exact readItems_of_error rfl
  expects := .inl rfl
  completes length r' h := by
    cases h
    exact ⟨[], readItems.eq_1 length⟩

/-- A brace that does not close is right up to what is not expected in it. -/
theorem isWrongAt_of_readInside {o : Nat} (h : nextClass (readInside ks).2 ≠ .closing) :
    ∃ front, ks = front ++ (readInside ks).2 ∧
      IsWrongAt (⟨o, .opening⟩ :: front) (readInside ks).2 .closing := by
  obtain ⟨front, hks, hinside⟩ := isLocal_readInside ks
  refine ⟨front, hks, ⟨fun length r' hr' => ?_, .inr rfl, fun length r' hr' => ?_⟩⟩
  · have hread := hinside r' (.inl hr')
    have hbrace : readBrace length (front ++ r') = .error (unexpected length .closing r') := by
      rw [readBrace_of_nextClass length (by rwa [hread, hr']), hread]
    have hitem : readItem length ⟨o, .opening⟩ (front ++ r') =
        .error (unexpected length .closing r') := by
      simp only [readItem, hbrace, Except.map]
    exact readItems_of_error hitem
  · have hread := hinside r' hr'.stands
    cases hr'
    rename_i o'
    have hitem : readItem length ⟨o, .opening⟩ (front ++ [⟨o', .closing⟩]) =
        .ok (.segment ((readInside ks).1.segment .once), []) := by
      simp only [readItem, readBrace_eq, hread]
      rfl
    exact ⟨_, (readItems_cons hitem).trans (by rw [readItems]; rfl)⟩

/-- **Tokens that are refused are right up to one that is not expected,** or to the end, and the
fault names its class and its place. -/
theorem exists_isWrongAt {f : Fault} (h : readItems length ks = .error f) :
    ∃ front rest expected, ks = front ++ rest ∧ f = unexpected length expected rest ∧
      IsWrongAt front rest expected := by
  fun_induction readItems length ks with
  | case1 => cases h
  | case2 k ks g hitem =>
    cases h
    have unled : readUnledParameter length (k :: ks) = .error f →
        (k.shape.tokenClass = .modifier ∨ k.shape.tokenClass = .closing) →
        f = unexpected length .ending (k :: ks) ∧ IsWrongAt [] (k :: ks) .ending := by
      intro hf hk
      unfold readUnledParameter at hf
      split at hf
      · cases hf
      · exact ⟨(Except.error.inj hf).symm, isWrongAt_nil hk⟩
    rcases k with ⟨o, c | c | m | n | b | _ | _⟩ <;> simp only [readItem] at hitem
    case char => split at hitem <;> cases hitem
    case escaped => cases hitem
    case modifier =>
      obtain ⟨hf, hwrong⟩ := unled hitem (.inl rfl)
      exact ⟨[], _, .ending, rfl, hf, hwrong⟩
    case name | body =>
      -- both are parameters
      unfold readUnledParameter at hitem
      split at hitem
      · cases hitem
      · rename_i hnone
        have hclass := readParameter?_eq_none_iff.1 hnone
        simp [nextClass, TokenShape.tokenClass] at hclass
    case opening =>
      obtain ⟨hclass, rfl⟩ := readBrace_eq_error_iff.1 (Outcome.map_eq_error.1 hitem)
      obtain ⟨front, hks, hwrong⟩ := isWrongAt_of_readInside (o := o) hclass
      exact ⟨⟨o, .opening⟩ :: front, _, .closing, congrArg (_ :: ·) hks, rfl, hwrong⟩
    case closing =>
      obtain ⟨hf, hwrong⟩ := unled hitem (.inr rfl)
      exact ⟨[], _, .ending, rfl, hf, hwrong⟩
  | case3 k ks item r hitem ih =>
    obtain ⟨front, rest, expected, rfl, rfl, hwrong⟩ := ih (Outcome.map_eq_error.1 h)
    obtain ⟨front', hks, hwrong'⟩ := hwrong.cons hitem
    exact ⟨front', rest, expected, hks, rfl, hwrong'⟩

end Segment
end Pattern
end RouteTable
