/-
# Reading source patterns

The tokens of a source are read as segments, from left to right:

* a parameter is a name, a body, or a name right before its body, and the
  modifier after it if there is one; a plain `/` or `.` right before it is its
  lead;
* a brace holds text, at most one parameter and again text, and the modifier
  after it if there is one;
* all other text is literal, and neighbouring text is one literal.

Nothing else may stand in a source.  A source has between 1 and 4096 characters,
and no two parameters of one name.
-/

import RouteTable.Pattern.Token

namespace RouteTable
namespace Pattern

/-- The most characters that a source may have. -/
def maxSourceLength : Nat := 4096

namespace Segment

/-- The text at the front of tokens, and the tokens after it. -/
def readText : List Token → Text × List Token
  | [] => ([], [])
  | k :: ks =>
    match k.shape.textChar? with
    | some c => let (t, rest) := readText ks; (c :: t, rest)
    | none => ([], k :: ks)

/-- A parameter at the front of tokens: its name and its body, at least one of
them, and the tokens after it. -/
def readParameter? : List Token → Option ((Option Text × Text) × List Token)
  | ⟨_, .name n⟩ :: ⟨_, .body b⟩ :: rest => some ((some n, b), rest)
  | ⟨_, .name n⟩ :: rest => some ((some n, defaultBody), rest)
  | ⟨_, .body b⟩ :: rest => some ((none, b), rest)
  | _ => none

/-- The modifier at the front of tokens, `once` if there is none, and the tokens
after it. -/
def readModifier : List Token → Modifier × List Token
  | ⟨_, .modifier m⟩ :: rest => (m, rest)
  | rest => (.once, rest)

/-- The fault of tokens that should go on with another class; `length` is the
offset of the end. -/
def unexpected (length : Nat) (expected : TokenClass) : List Token → Fault
  | [] => ⟨.unexpected .ending expected, some length⟩
  | k :: _ => ⟨.unexpected k.shape.tokenClass expected, some k.offset⟩

/-- The rest of a brace whose opening is read: its segment, and the tokens after
it. -/
def readBrace (length : Nat) (ks : List Token) : Except Fault (Segment × List Token) :=
  let (lead, ks) := readText ks
  let (parameter, ks) := match readParameter? ks with
    | some (p, rest) => (some p, rest)
    | none => (none, ks)
  let (trail, ks) := readText ks
  match ks with
  | ⟨_, .closing⟩ :: ks =>
    let (modifier, ks) := readModifier ks
    .ok (match parameter with
      | some (name, body) => .capture ⟨name, lead, body, trail, modifier⟩
      | none => .group (lead ++ trail) modifier, ks)
  | ks => .error (unexpected length .closing ks)

/-- Reading text leaves no more tokens than there were. -/
theorem length_readText_le (ks : List Token) : (readText ks).2.length ≤ ks.length := by
  induction ks with
  | nil => simp [readText]
  | cons k ks ih =>
    rw [readText]
    split
    · simp only [List.length_cons]; omega
    · exact Nat.le_refl _

/-- Reading a parameter takes a token at least. -/
theorem length_of_readParameter? {ks rest : List Token} {p : Option Text × Text}
    (h : readParameter? ks = some (p, rest)) : rest.length < ks.length := by
  unfold readParameter? at h
  split at h
  · obtain ⟨_, rfl⟩ := Prod.mk.inj (Option.some.inj h); simp only [List.length_cons]; omega
  · obtain ⟨_, rfl⟩ := Prod.mk.inj (Option.some.inj h); simp
  · obtain ⟨_, rfl⟩ := Prod.mk.inj (Option.some.inj h); simp
  · simp at h

/-- Reading a modifier leaves no more tokens than there were. -/
theorem length_readModifier_le (ks : List Token) : (readModifier ks).2.length ≤ ks.length := by
  unfold readModifier; split <;> simp

/-- Reading braces takes a token at least. -/
theorem length_of_readBrace {length : Nat} {ks rest : List Token} {s : Segment}
    (h : readBrace length ks = .ok (s, rest)) : rest.length < ks.length := by
  unfold readBrace at h
  have h₁ := length_readText_le ks
  generalize readText ks = p₁ at h h₁
  obtain ⟨lead, ks₁⟩ := p₁
  dsimp only at h h₁
  have h₂ : (match readParameter? ks₁ with
      | some (p, rest) => (some p, rest)
      | none => (none, ks₁)).2.length ≤ ks₁.length := by
    split
    · exact Nat.le_of_lt (length_of_readParameter? ‹_›)
    · exact Nat.le_refl _
  generalize (match readParameter? ks₁ with
      | some (p, rest) => (some p, rest)
      | none => (none, ks₁)) = p₂ at h h₂
  obtain ⟨parameter, ks₂⟩ := p₂
  dsimp only at h h₂
  have h₃ := length_readText_le ks₂
  generalize readText ks₂ = p₃ at h h₃
  obtain ⟨trail, ks₃⟩ := p₃
  dsimp only at h h₃
  split at h
  · rename_i ks₄
    obtain ⟨_, rfl⟩ := Prod.mk.inj (Except.ok.inj h)
    have h₄ := length_readModifier_le ks₄
    simp at h₃; omega
  · simp at h

/-- The characters that a parameter takes from the text before it as its lead. -/
def isSeparator (c : CodePoint) : Bool := c == '/' || c == '.'

/-- A parameter at the front of tokens that takes the character before it as its
lead, and the tokens after it. -/
def readLedParameter? (c : CodePoint) (ks : List Token) :
    Option ((Option Text × Text) × List Token) :=
  if isSeparator c then readParameter? ks else none

/-- What stands next in a source: a character of literal text, or a segment of
another kind. -/
inductive Item where
  | text (c : CodePoint)
  | segment (s : Segment)
  deriving DecidableEq, Repr

/-- The capture of a parameter with the modifier that follows it, and the tokens
after both. -/
def readCapture (lead : Text) (parameter : Option Text × Text) (ks : List Token) :
    Item × List Token :=
  let (modifier, rest) := readModifier ks
  (.segment (.capture ⟨parameter.1, lead, parameter.2, [], modifier⟩), rest)

/-- The parameter that tokens start with, without a prefix, and the tokens after it. -/
def readUnledParameter (length : Nat) (ks : List Token) : Except Fault (Item × List Token) :=
  match readParameter? ks with
  | some (p, rest) => .ok (readCapture [] p rest)
  | none => .error (unexpected length .ending ks)

/-- The item that starts with the token `k`, and the tokens after it. -/
def readItem (length : Nat) (k : Token) (ks : List Token) : Except Fault (Item × List Token) :=
  match k.shape with
  | .char c =>
    match readLedParameter? c ks with
    | some (p, rest) => .ok (readCapture [c] p rest)
    | none => .ok (.text c, ks)
  | .escaped c => .ok (.text c, ks)
  | .opening => (readBrace length ks).map fun (s, rest) => (.segment s, rest)
  | _ => readUnledParameter length (k :: ks)

/-- Reading a capture leaves no more tokens than there were. -/
theorem length_readCapture_le (lead : Text) (p : Option Text × Text) (ks : List Token) :
    (readCapture lead p ks).2.length ≤ ks.length := by
  rw [readCapture]
  exact length_readModifier_le ks

/-- Reading a parameter behind a slash or a dot takes a token at least. -/
theorem length_of_readLedParameter? {c : CodePoint} {ks rest : List Token} {p : Option Text × Text}
    (h : readLedParameter? c ks = some (p, rest)) : rest.length < ks.length := by
  unfold readLedParameter? at h
  split at h
  · exact length_of_readParameter? h
  · cases h

/-- Reading an item takes the token it starts with. -/
theorem length_of_readItem {length : Nat} {k : Token} {ks rest : List Token} {item : Item}
    (h : readItem length k ks = .ok (item, rest)) : rest.length < (k :: ks).length := by
  have capture : ∀ {lead p r}, r.length ≤ ks.length → readCapture lead p r = (item, rest) →
      rest.length < (k :: ks).length := by
    intro lead p r hr he
    have hle := length_readCapture_le lead p r
    rw [he] at hle
    exact Nat.lt_succ_of_le (Nat.le_trans hle hr)
  have unled : readUnledParameter length (k :: ks) = .ok (item, rest) →
      rest.length < (k :: ks).length := by
    intro h
    unfold readUnledParameter at h
    split at h
    · rename_i p r hp
      exact capture (Nat.le_of_lt_succ (length_of_readParameter? hp)) (Except.ok.inj h)
    · cases h
  rcases k with ⟨offset, c | c | m | n | b | _ | _⟩ <;> simp only [readItem] at h
  · split at h
    · rename_i p r hp
      exact capture (Nat.le_of_lt (length_of_readLedParameter? hp)) (Except.ok.inj h)
    · cases h
      exact Nat.lt_succ_self _
  · cases h
    exact Nat.lt_succ_self _
  · exact unled h
  · exact unled h
  · exact unled h
  · obtain ⟨⟨s, r⟩, hb, he⟩ := Outcome.map_eq_ok.1 h
    cases he
    exact Nat.lt_succ_of_lt (length_of_readBrace hb)
  · exact unled h

/-- The items that tokens write; `length` is the offset of the end. -/
def readItems (length : Nat) (ks : List Token) : Except Fault (List Item) :=
  match ks with
  | [] => .ok []
  | k :: ks =>
    match _h : readItem length k ks with
    | .error f => .error f
    | .ok (item, rest) => (readItems length rest).map (item :: ·)
termination_by ks.length
decreasing_by exact length_of_readItem ‹_›

/-- The segments of items: neighbouring characters are one literal. -/
def ofItems : List Item → List Segment
  | [] => []
  | .text c :: items => consChar c (ofItems items)
  | .segment s :: items => s :: ofItems items

/-- The first name that stands in two segments. -/
def duplicate? (seen : List Text) : List Segment → Option Text
  | [] => none
  | s :: ss =>
    match s.name? with
    | none => duplicate? seen ss
    | some n => if n ∈ seen then some n else duplicate? (n :: seen) ss

end Segment

/-- The segments of a source pattern. -/
def segments (source : Text) : Except Error (List Segment) :=
  (read source).mapError (Error.ofFault source)
where
  /-- The segments, or the fault of the source. -/
  read (source : Text) : Except Fault (List Segment) := do
    if source = [] then throw ⟨.emptySource, none⟩
    let length := source.length
    if maxSourceLength < length then throw ⟨.sourceTooLong length maxSourceLength, none⟩
    let items ← Segment.readItems length (← Token.scan 0 source)
    let segments := Segment.ofItems items
    match Segment.duplicate? [] segments with
    | some n => throw ⟨.duplicateName n, none⟩
    | none => return segments

end Pattern
end RouteTable
