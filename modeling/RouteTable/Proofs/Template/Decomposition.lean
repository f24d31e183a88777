/-
# The one way to read a template

A template can be cut into text and references in many ways: `:id` is also a run of text, or
the reference `:i` and the text `d`.  Four conditions leave one of them.  Nothing is lost, the
text between two references is one run that names nothing, a reference is written as it is
listed, and names and modifiers are taken as far as they go (`IsDecomposition`).

Part by part from the front the conditions say what the scan does there.  A reference can stand
only where one is read, with the name and the modifier that are read
(`isDecomposition_reference_cons_iff`), and where a run of text can stand the scan finds it
(`scan_append`).  So a decomposition is what the scan finds (`isDecomposition_iff`).
-/

import Mathlib.Data.List.Chain
import RouteTable.Proofs.Template.References

namespace RouteTable
namespace Template

open Pattern (Modifier IsName isNameChar)

/-- A part with all that is listed of it, whatever the texts are: a run of text, or the name
and the modifier of a reference and the text that they are taken from. -/
inductive RawPart where
  | literal (text : Text)
  | reference (name modifier raw : Text)
  deriving DecidableEq, Repr

/-- A part as it is listed. -/
def Part.raw : Part → RawPart
  | literal u => .literal u
  | reference r => .reference r.name r.modifier.text r.written

/-- No `:` of a text has a character of a name behind it. -/
def NamesNothing (u : Text) : Prop :=
  ∀ front c back, u = front ++ scalar ':' :: c :: back → isNameChar c = false

namespace RawPart

/-- The text that a part is taken from. -/
def text : RawPart → Text
  | literal u => u
  | reference _ _ raw => raw

/-- A part that is no reference. -/
def IsLiteral : RawPart → Prop
  | literal _ => True
  | reference .. => False

/-- A run of text is not empty and names nothing; a reference is `:`, its name and its
modifier. -/
def IsWellFormed : RawPart → Prop
  | literal u => u ≠ [] ∧ NamesNothing u
  | reference name modifier raw =>
    IsName name ∧ modifier ∈ [[], [scalar '?'], [scalar '*'], [scalar '+']] ∧
      raw = scalar ':' :: name ++ modifier

end RawPart

/-- **A template is cut into these parts.** -/
structure IsDecomposition (t : Text) (ps : List RawPart) : Prop where
  /-- Nothing is lost and nothing is added. -/
  text_eq : ps.flatMap RawPart.text = t
  isWellFormed : ∀ p ∈ ps, p.IsWellFormed
  /-- Text that stands together is one run. -/
  apart : ps.IsChain fun p q => ¬(p.IsLiteral ∧ q.IsLiteral)
  /-- A name goes as far as it can, and so does a modifier. -/
  greedy : ∀ front name raw back, ps = front ++ .reference name [] raw :: back →
    ∀ c ∈ (back.flatMap RawPart.text).head?, isNameChar c = false ∧
      c ∉ [scalar '?', scalar '*', scalar '+']

variable {t u rest : Text} {r : Reference} {c : CodePoint} {p : RawPart} {ps : List RawPart}

/-! ### One part after the other -/

/-- A text names nothing if no name stands behind its first colon, nor further on. -/
theorem namesNothing_cons_iff :
    NamesNothing (c :: u) ↔ (c = ':' → EndsName u) ∧ NamesNothing u := by
  constructor
  · refine fun h => ⟨?_, fun front d back hu => h (c :: front) d back (congrArg (c :: ·) hu)⟩
    rintro rfl d hd
    obtain ⟨back, rfl⟩ : ∃ back, u = d :: back := List.head?_eq_some_iff.1 hd
    exact h [] d back rfl
  · rintro ⟨hc, hu⟩ front d back heq
    cases front with
    | nil =>
      obtain ⟨rfl, rfl⟩ := List.cons.inj heq
      exact hc rfl d rfl
    | cons e front => exact hu front d back (List.cons.inj heq).2

/-- The empty text has no parts. -/
theorem isDecomposition_nil_iff : IsDecomposition t [] ↔ t = [] := by
  constructor
  · exact fun h => h.text_eq.symm
  · rintro rfl
    exact ⟨rfl, List.forall_mem_nil _, .nil, by simp⟩

/-- The conditions on the first part, and those on the others. -/
theorem isDecomposition_cons_iff : IsDecomposition t (p :: ps) ↔
    p.IsWellFormed ∧ (∀ q ∈ ps.head?, ¬(p.IsLiteral ∧ q.IsLiteral)) ∧
      ∃ rest, t = p.text ++ rest ∧ IsDecomposition rest ps ∧
        ∀ name raw, p = .reference name [] raw →
          ∀ c ∈ rest.head?, isNameChar c = false ∧ c ∉ [scalar '?', scalar '*', scalar '+'] := by
  constructor
  · intro h
    obtain ⟨hhead, hapart⟩ := List.isChain_cons.1 h.apart
    have htail : IsDecomposition (ps.flatMap RawPart.text) ps := by
      refine ⟨rfl, (List.forall_mem_cons.1 h.isWellFormed).2, hapart, ?_⟩
      intro front name raw back heq
      exact h.greedy (p :: front) name raw back (congrArg (p :: ·) heq)
    refine ⟨(List.forall_mem_cons.1 h.isWellFormed).1, hhead, _, h.text_eq.symm, htail, ?_⟩
    rintro name raw rfl
    exact h.greedy [] name raw ps rfl
  · rintro ⟨hp, hhead, rest, rfl, h, hgreedy⟩
    refine ⟨congrArg (p.text ++ ·) h.text_eq, List.forall_mem_cons.2 ⟨hp, h.isWellFormed⟩,
      List.isChain_cons.2 ⟨hhead, h.apart⟩, ?_⟩
    intro front name raw back heq
    cases front with
    | nil =>
      obtain ⟨rfl, rfl⟩ := List.cons.inj heq
      rw [h.text_eq]
      exact hgreedy name raw rfl
    | cons q front => exact h.greedy front name raw back (List.cons.inj heq).2

/-- A literal part stands in front of no other literal. -/
theorem isDecomposition_literal_cons_iff : IsDecomposition t (.literal u :: ps) ↔
    u ≠ [] ∧ NamesNothing u ∧ (∀ q ∈ ps.head?, ¬q.IsLiteral) ∧
      ∃ rest, t = u ++ rest ∧ IsDecomposition rest ps := by
  rw [isDecomposition_cons_iff]
  simp [RawPart.IsWellFormed, RawPart.IsLiteral, RawPart.text, and_assoc]

/-- What follows a run of text begins with no character of a name. -/
theorem IsDecomposition.endsName (h : IsDecomposition t ps)
    (hhead : ∀ q ∈ ps.head?, ¬q.IsLiteral) : EndsName t := by
  cases ps with
  | nil =>
    rw [isDecomposition_nil_iff.1 h]
    exact nofun
  | cons q ps =>
    obtain ⟨hq, -, rest, rfl, -⟩ := isDecomposition_cons_iff.1 h
    cases q with
    | literal u => exact absurd trivial (hhead _ rfl)
    | reference name modifier raw =>
      rintro c hc
      rw [RawPart.text, hq.2.2] at hc
      rw [← Option.some.inj hc]
      decide

/-- A modifier is written with one of three signs, or with none. -/
theorem text_mem (m : Modifier) : m.text ∈ [[], [scalar '?'], [scalar '*'], [scalar '+']] := by
  cases m <;> simp [Modifier.text]

/-- Each of the signs writes a modifier. -/
theorem exists_text_eq (h : u ∈ [[], [scalar '?'], [scalar '*'], [scalar '+']]) :
    ∃ m : Modifier, m.text = u := by
  simp only [List.mem_cons, List.not_mem_nil, or_false] at h
  rcases h with h | h | h | h
  · exact ⟨.once, h.symm⟩
  · exact ⟨.optional, h.symm⟩
  · exact ⟨.star, h.symm⟩
  · exact ⟨.plus, h.symm⟩

/-- A listed reference that is well formed is the listed form of one. -/
theorem exists_raw_eq {name modifier raw : Text}
    (h : (RawPart.reference name modifier raw).IsWellFormed) :
    ∃ r, (Part.reference r).raw = .reference name modifier raw := by
  obtain ⟨-, hmodifier, rfl⟩ := h
  obtain ⟨m, rfl⟩ := exists_text_eq hmodifier
  exact ⟨⟨name, m⟩, rfl⟩

/-- A reference ends where neither its name nor its modifier goes on. -/
theorem endsBefore_iff : r.EndsBefore rest ↔
    ∀ name raw, (Part.reference r).raw = .reference name [] raw →
      ∀ c ∈ rest.head?, isNameChar c = false ∧ c ∉ [scalar '?', scalar '*', scalar '+'] := by
  constructor
  · intro h name raw heq c hc
    have honce : r.modifier = .once := text_eq_nil_iff.1 (RawPart.reference.inj heq).2.1
    exact ⟨(h honce).1 c hc, ofChar?_eq_none_iff.1 ((h honce).2 c hc)⟩
  · intro h honce
    have heq : (Part.reference r).raw = .reference r.name [] r.written := by
      rw [Part.raw, honce]
      rfl
    exact ⟨fun c hc => (h _ _ heq c hc).1, fun c hc => ofChar?_eq_none_iff.2 (h _ _ heq c hc).2⟩

/-- A decomposition begins with a reference exactly if it is read there. -/
theorem isDecomposition_reference_cons_iff :
    IsDecomposition t ((Part.reference r).raw :: ps) ↔
      ∃ rest, readReference? t = some (r, rest) ∧ IsDecomposition rest ps := by
  have hwell : (Part.reference r).raw.IsWellFormed ↔ IsName r.name :=
    ⟨fun h => h.1, fun h => ⟨h, text_mem r.modifier, rfl⟩⟩
  have hhead : ∀ q ∈ ps.head?, ¬((Part.reference r).raw.IsLiteral ∧ q.IsLiteral) :=
    fun _ _ h => h.1
  rw [isDecomposition_cons_iff, hwell]
  constructor
  · rintro ⟨hname, -, rest, ht, h, hgreedy⟩
    exact ⟨rest, readReference?_eq_some_iff.2 ⟨ht, hname, endsBefore_iff.2 hgreedy⟩, h⟩
  · rintro ⟨rest, hread, h⟩
    obtain ⟨ht, hname, hends⟩ := readReference?_eq_some_iff.1 hread
    exact ⟨hname, hhead, rest, ht, h, endsBefore_iff.1 hends⟩

/-- Where a run of text stands, the scan finds it. -/
theorem scan_append (hne : u ≠ []) (hu : NamesNothing u) (hrest : EndsName rest)
    (hhead : ∀ q ∈ (scan rest).head?, ¬q.raw.IsLiteral) :
    scan (u ++ rest) = .literal u :: scan rest := by
  induction u with
  | nil => exact absurd rfl hne
  | cons c u ih =>
    obtain ⟨hc, hu⟩ := namesNothing_cons_iff.1 hu
    have hread : readReference? (c :: (u ++ rest)) = none := by
      refine readReference?_cons_eq_none_iff.2 fun h => ?_
      cases u with
      | nil => exact hrest
      | cons d u => exact hc h
    rw [List.cons_append, scan_cons hread]
    cases u with
    | nil =>
      rw [List.nil_append, Part.consChar]
      intro v ps hscan
      rw [hscan] at hhead
      exact hhead _ rfl trivial
    | cons d u =>
      rw [ih (List.cons_ne_nil d u) hu]
      rfl

/-! ### The scan -/

/-- **There is no other decomposition** than what is scanned. -/
theorem IsDecomposition.eq_map_scan (h : IsDecomposition t ps) : ps = (scan t).map Part.raw := by
  induction ps generalizing t with
  | nil =>
    rw [isDecomposition_nil_iff.1 h, scan]
    rfl
  | cons p ps ih =>
    cases p with
    | literal u =>
      obtain ⟨hne, hu, hhead, rest, rfl, hrest⟩ := isDecomposition_literal_cons_iff.1 h
      have hscan : scan (u ++ rest) = .literal u :: scan rest := by
        refine scan_append hne hu (hrest.endsName hhead) fun q hq => hhead q.raw ?_
        rw [ih hrest, List.head?_map, Option.mem_def.1 hq]
        rfl
      rw [hscan, List.map_cons, ← ih hrest]
      rfl
    | reference name modifier raw =>
      obtain ⟨r, hr⟩ := exists_raw_eq (isDecomposition_cons_iff.1 h).1
      rw [← hr] at h ⊢
      obtain ⟨rest, hread, hrest⟩ := isDecomposition_reference_cons_iff.1 h
      rw [scan_of_readReference? hread, List.map_cons, ← ih hrest]

/-- A character that begins no reference is part of the run of text before the parts. -/
theorem IsDecomposition.consChar {ps : List Part} (h : IsDecomposition t (ps.map Part.raw))
    (hc : c = ':' → EndsName t) : IsDecomposition (c :: t) ((Part.consChar c ps).map Part.raw) := by
  unfold Part.consChar
  split
  · obtain ⟨hne, hu, hhead, rest, rfl, hrest⟩ := isDecomposition_literal_cons_iff.1 h
    obtain ⟨d, u, rfl⟩ := List.exists_cons_of_ne_nil hne
    exact isDecomposition_literal_cons_iff.2 ⟨List.cons_ne_nil c _,
      namesNothing_cons_iff.2 ⟨hc, hu⟩, hhead, rest, rfl, hrest⟩
  · rename_i hnone
    have hhead : ∀ q ∈ (ps.map Part.raw).head?, ¬q.IsLiteral := by
      cases ps with
      | nil => exact nofun
      | cons p ps =>
        cases p with
        | literal u => exact absurd rfl (hnone u ps)
        | reference r =>
          rintro q hq
          rw [← Option.some.inj hq]
          exact id
    have hnothing : NamesNothing [c] :=
      namesNothing_cons_iff.2 ⟨fun _ => takeWhile_eq_nil_iff.1 rfl, by simp [NamesNothing]⟩
    exact isDecomposition_literal_cons_iff.2
      ⟨List.cons_ne_nil c _, hnothing, hhead, t, rfl, h⟩

/-- **What is scanned is a decomposition.** -/
theorem isDecomposition_scan (t : Text) : IsDecomposition t ((scan t).map Part.raw) := by
  induction t using scan.induct with
  | case1 =>
    rw [scan]
    exact isDecomposition_nil_iff.2 rfl
  | case2 c t r rest h ih =>
    rw [scan_of_readReference? h]
    exact isDecomposition_reference_cons_iff.2 ⟨rest, h, ih⟩
  | case3 c t h ih =>
    rw [scan_cons h]
    exact ih.consChar (readReference?_cons_eq_none_iff.1 h)

/-- **The scan of a template is the one way to cut it.** -/
theorem isDecomposition_iff : IsDecomposition t ps ↔ ps = (scan t).map Part.raw := by
  constructor
  · exact IsDecomposition.eq_map_scan
  · rintro rfl
    exact isDecomposition_scan t

end Template
end RouteTable
