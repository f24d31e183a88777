/-
# What a row passes and captures

Which texts a row of items passes is a language, and what it has captured then may depend on
the way.  Where no group is repeated both are one relation between texts and captures, whose
texts are the language (`Traces`).  Such relations are put together like the rows: a row after
another one captures what both do (`Traces.append`), a text before or behind it adds nothing to
that (`Traces.text_append`, `Traces.append_text`), and a row that is optional may do without
(`Traces.optional`).

Between two anchors a search in a path of one line finds a match exactly if the relation has
the path, and what the match has captured is related to the path (`Traces.search_iff`).
-/

import RouteTable.Proofs.Pattern.Capturing

namespace RouteTable
namespace Pattern

open Regex Regex.Backtracking

/-- The texts of a relation between texts and captures. -/
def texts (R : Text → List (Nat × Text) → Prop) : Language CodePoint := {t | ∃ cs, R t cs}

/-- The row passes the texts of a relation, and captures what it relates to them; what is
captured last stands first. -/
structure Traces (items : List Item) (R : Text → List (Nat × Text) → Prop) : Prop where
  spell : SpellRow items (texts R)
  leaves : Ways.Leaves (row items).ways R

variable {is js : List Item} {R S : Text → List (Nat × Text) → Prop} {L : Language CodePoint}
  {t : Text}

theorem mem_texts_iff : t ∈ texts R ↔ ∃ cs, R t cs := .rfl

/-- Texts that are each related to one thing. -/
theorem texts_eq (f : Text → List (Nat × Text)) : texts (fun t cs => t ∈ L ∧ cs = f t) = L := by
  ext t
  simp [mem_texts_iff]

namespace Traces

theorem congr (h : Traces is R) (hRS : ∀ t cs, R t cs ↔ S t cs) : Traces is S where
  spell := h.spell.congr (Set.ext fun t => exists_congr (hRS t))
  leaves := h.leaves.mono fun t cs => (hRS t cs).1

/-- A row that captures nothing. -/
theorem of_keep (hk : Ways.Keep (row is).ways) (hs : SpellRow is L) :
    Traces is fun t cs => t ∈ L ∧ cs = [] where
  spell := hs.congr (texts_eq fun _ => []).symm
  leaves := .of_keep hk hs

theorem text (t : Text) : Traces (t.map Item.literal) fun u cs => u = t ∧ cs = [] :=
  of_keep (L := {t}) (keep_text t) (.text t)

/-- A group around a row that captures nothing. -/
theorem group (index : Nat) (hk : Ways.Keep (row is).ways) (hs : SpellRow is L) :
    Traces [Item.other (.group index (row is))] fun t cs => t ∈ L ∧ cs = [(index, t)] := by
  have hgroup : Ways.Spell (Node.group index (row is)).ways L := .group index hs
  refine ⟨hgroup.congr (texts_eq fun t => [(index, t)]).symm, ⟨fun {p q} hq => ?_⟩⟩
  obtain ⟨t, cs, hpq, hcs, rfl⟩ := (Ways.Leaves.group hk hgroup).exists_of_mem hq
  obtain ⟨u, hu, hpu⟩ := hgroup.sound hq
  exact ⟨t, _, hpq, hcs, hpq.unique hpu ▸ hu, rfl⟩

/-- One row after another. -/
theorem append (hi : Traces is R) (hj : Traces js S) :
    Traces (is ++ js) fun t cs => ∃ a b as bs, t = a ++ b ∧ cs = bs ++ as ∧ R a as ∧ S b bs where
  spell := by
    refine (hi.spell.append hj.spell).congr ?_
    ext t
    rw [Language.mem_mul]
    constructor
    · rintro ⟨a, ⟨as, ha⟩, b, ⟨bs, hb⟩, rfl⟩
      exact ⟨_, a, b, as, bs, rfl, rfl, ha, hb⟩
    · rintro ⟨-, a, b, as, bs, rfl, rfl, ha, hb⟩
      exact ⟨a, ⟨as, ha⟩, b, ⟨bs, hb⟩, rfl⟩
  leaves := by
    rw [ways_row_append]
    exact hi.leaves.andThen hj.leaves

/-- A text in front of a row. -/
theorem text_append (t : Text) (h : Traces is R) :
    Traces (t.map Item.literal ++ is) fun u cs => ∃ v, u = t ++ v ∧ R v cs := by
  refine ((text t).append h).congr fun u cs => ?_
  constructor
  · rintro ⟨_, v, _, cs, rfl, rfl, ⟨rfl, rfl⟩, hv⟩
    exact ⟨v, rfl, by rwa [List.append_nil]⟩
  · rintro ⟨v, rfl, hv⟩
    exact ⟨t, v, [], cs, rfl, (List.append_nil cs).symm, ⟨rfl, rfl⟩, hv⟩

/-- A text behind a row. -/
theorem append_text (h : Traces is R) (t : Text) :
    Traces (is ++ t.map Item.literal) fun u cs => ∃ v, u = v ++ t ∧ R v cs := by
  refine (h.append (text t)).congr fun u cs => ?_
  constructor
  · rintro ⟨v, _, cs, _, rfl, rfl, hv, rfl, rfl⟩
    exact ⟨v, rfl, hv⟩
  · rintro ⟨v, rfl, hv⟩
    exact ⟨v, t, cs, [], rfl, rfl, hv, rfl, rfl⟩

/-- A row, or nothing. -/
theorem optional (h : Traces is R) :
    Traces [.modified (row is) .optional] fun t cs => R t cs ∨ (t = [] ∧ cs = []) where
  spell := by
    have hspell := spell_modified h.spell .optional
    refine SpellRow.congr (.singleton hspell) ?_
    ext t
    change t ∈ 1 + texts R ↔ _
    rw [Language.mem_add, Language.mem_one]
    constructor
    · rintro (rfl | ⟨cs, ht⟩)
      · exact ⟨[], .inr ⟨rfl, rfl⟩⟩
      · exact ⟨cs, .inl ht⟩
    · rintro ⟨cs, ht | ⟨rfl, -⟩⟩
      · exact .inr ⟨cs, ht⟩
      · exact .inl rfl
  leaves := h.leaves.optional

/-- **Between two anchors** a search in a path of one line finds what the row passes, and a
match has captured what the row does. -/
theorem search_iff (h : Traces is R) {path : Text} (hline : scalar '\n' ∉ path) :
    (((anchored is).search path).isSome = true ↔ ∃ cs, R path cs) ∧
      ∀ m, (anchored is).search path = some m → R path m.stop.captures := by
  constructor
  · have hfound := h.spell.isFoundIn_iff path
    have hfeed : ¬∃ t ∈ texts R, path = t ++ [scalar '\n'] := by
      rintro ⟨t, -, rfl⟩
      exact hline (List.mem_append_right t List.mem_cons_self)
    exact hfound.trans (or_iff_left hfeed)
  · intro m hm
    obtain ⟨hfirst, hstop⟩ := firstTo_of_search hm
    obtain ⟨t, cs, hpassed, hcs, hR⟩ := h.leaves.exists_of_mem hfirst.mem
    have hpath : path = t ++ m.stop.after := hpassed.1
    have hend : m.stop.after = [] := by
      refine hstop.resolve_right fun hfeed => hline ?_
      rw [hpath, hfeed]
      exact List.mem_append_right t List.mem_cons_self
    have hcaptures : m.stop.captures = cs := hcs.trans (List.append_nil cs)
    rw [hcaptures, hpath, hend, List.append_nil]
    exact hR

end Traces

end Pattern
end RouteTable
