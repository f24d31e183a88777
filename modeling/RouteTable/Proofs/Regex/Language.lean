/-
# The texts that an expression spells

Most expressions look neither around nor back: which texts they pass depends on
nothing but those texts.  Such ways spell a language, `Ways.Spell`: each of them
passes a text of the language, and each text of the language that follows a
position is passed by one.

Each construct spells what is made of the languages of its parts: a sequence
their product, and a loop, greedy or lazy, all numbers of repetitions within its
bounds (`Ways.Spell.loop`), although a loop gives up after a repetition that
matches nothing.
-/

import Mathlib.Computability.Language
import RouteTable.Proofs.Regex.Ways

namespace RouteTable
namespace Regex

/-- `q` is `p` with the text `t` passed, whatever is captured at either. -/
def Position.Passes (p : Position) (t : Text) (q : Position) : Prop :=
  p.after = t ++ q.after ∧ q.before = t.reverse ++ p.before

namespace Position
namespace Passes

variable {p q r : Position} {t u : Text}

theorem refl (p : Position) : p.Passes [] p := ⟨rfl, rfl⟩

theorem trans (h : p.Passes t q) (h' : q.Passes u r) : p.Passes (t ++ u) r :=
  ⟨by rw [h.1, h'.1, List.append_assoc], by rw [h'.2, h.2, List.reverse_append, List.append_assoc]⟩

/-- What is passed is taken from what is left. -/
theorem length_after (h : p.Passes t q) : p.after.length = t.length + q.after.length := by
  rw [h.1, List.length_append]

/-- A text that is passed leads to what follows it. -/
theorem after_eq {rest : Text} (h : p.Passes t q) (hp : p.after = t ++ rest) : q.after = rest :=
  List.append_cancel_left (h.1.symm.trans hp)

end Passes
end Position

/-- The ways spell a language: they pass its texts and no others. -/
structure Ways.Spell (w : Ways) (L : Language CodePoint) : Prop where
  sound : ∀ {p q}, q ∈ w p → ∃ t ∈ L, p.Passes t q
  complete : ∀ {p t rest}, t ∈ L → p.after = t ++ rest → ∃ q ∈ w p, p.Passes t q

/-- The texts of one character of a set. -/
def CharSet.language (s : CharSet) : Language CodePoint := {t | ∃ c, s.contains c = true ∧ t = [c]}

/-- What repetitions spell, at least `least` and at most `greatest` of them. -/
def repetitions (L : Language CodePoint) (least : Nat) (greatest : Option Nat) :
    Language CodePoint :=
  {t | ∃ ws : List Text, t = ws.flatten ∧ (∀ u ∈ ws, u ∈ L) ∧ least ≤ ws.length ∧
    ∀ n ∈ greatest, ws.length ≤ n}

/-- Repetitions of one character of a set are the texts of its characters, if they are long
enough. -/
theorem mem_repetitions_set_iff {s : CharSet} {least : Nat} {t : Text} :
    t ∈ repetitions s.language least none ↔
      least ≤ t.length ∧ ∀ c ∈ t, s.contains c = true := by
  constructor
  · rintro ⟨ws, rfl, hws, hl, -⟩
    have hlength : ws.flatten.length = ws.length := by
      have hone : ws.map List.length = ws.map fun _ => 1 := by
        refine List.map_congr_left fun u hu => ?_
        obtain ⟨c, -, rfl⟩ := hws u hu
        rfl
      rw [List.length_flatten, hone]
      simp
    refine ⟨by omega, fun c hc => ?_⟩
    obtain ⟨u, hu, hcu⟩ := List.mem_flatten.1 hc
    obtain ⟨d, hd, rfl⟩ := hws u hu
    rw [List.mem_singleton.1 hcu]
    exact hd
  · rintro ⟨hl, ht⟩
    refine ⟨t.map fun c => [c], ?_, ?_, by simpa using hl, by simp⟩
    · simp [List.flatten_eq_flatMap, List.flatMap_map]
    · intro u hu
      obtain ⟨c, hc, rfl⟩ := List.mem_map.1 hu
      exact ⟨c, ht c hc, rfl⟩

/-- One or more characters of a set are a text that is not empty. -/
theorem mem_repetitions_language_iff {s : CharSet} {t : Text} :
    t ∈ repetitions s.language 1 none ↔ t ≠ [] ∧ ∀ c ∈ t, s.contains c = true := by
  rw [mem_repetitions_set_iff, Nat.one_le_iff_ne_zero, ne_eq, List.length_eq_zero_iff]

namespace Ways
namespace Spell

variable {v w : Ways} {L M : Language CodePoint}

/-- What follows a text of the language is where one of the ways ends. -/
theorem exists_after_eq (h : w.Spell L) {p : Position} {t rest : Text} (ht : t ∈ L)
    (hp : p.after = t ++ rest) : ∃ q ∈ w p, p.Passes t q ∧ q.after = rest := by
  obtain ⟨q, hq, hpq⟩ := h.complete ht hp
  exact ⟨q, hq, hpq, hpq.after_eq hp⟩

theorem congr (h : w.Spell L) (hLM : L = M) : w.Spell M := hLM ▸ h

theorem nothing : Ways.Spell (fun p => [p]) 1 where
  sound {p _} hq := ⟨[], rfl, List.mem_singleton.1 hq ▸ .refl p⟩
  complete {p _ _} ht _ := ⟨p, List.mem_singleton_self p, ht ▸ .refl p⟩

theorem set (s : CharSet) : Ways.Spell (Node.set s).ways s.language where
  sound {p q} hq := by
    rw [Node.ways] at hq
    rcases hp : p.after with _ | ⟨c, rest⟩ <;> simp only [hp] at hq
    · cases hq
    · split at hq
      · rename_i hc
        obtain rfl := List.mem_singleton.1 hq
        exact ⟨[c], ⟨c, hc, rfl⟩, hp, rfl⟩
      · cases hq
  complete {p t rest} ht hp := by
    obtain ⟨c, hc, rfl⟩ := ht
    refine ⟨p.advance c rest, ?_, hp, rfl⟩
    rw [Node.ways]
    simp [hp, hc]

/-- One thing after another spells the product. -/
theorem andThen (hw : w.Spell L) (hv : v.Spell M) :
    Ways.Spell (fun p => (w p).flatMap v) (L * M) where
  sound {p r} hr := by
    obtain ⟨q, hq, hqr⟩ := List.mem_flatMap.1 hr
    obtain ⟨t, ht, hpq⟩ := hw.sound hq
    obtain ⟨u, hu, hqr⟩ := hv.sound hqr
    exact ⟨t ++ u, Language.append_mem_mul ht hu, hpq.trans hqr⟩
  complete {p t rest} ht hp := by
    obtain ⟨a, ha, b, hb, rfl⟩ := Language.mem_mul.1 ht
    rw [List.append_assoc] at hp
    obtain ⟨q, hq, hpq, hqa⟩ := hw.exists_after_eq ha hp
    obtain ⟨r, hr, hqr⟩ := hv.complete hb hqa
    exact ⟨r, List.mem_flatMap.2 ⟨q, hq, hr⟩, hpq.trans hqr⟩

/-- A group spells what its body spells. -/
theorem group {n : Node} (index : Nat) (h : Ways.Spell n.ways L) :
    Ways.Spell (Node.group index n).ways L where
  sound {p q} hq := by
    rw [Node.ways] at hq
    obtain ⟨r, hr, rfl⟩ := List.mem_map.1 hq
    obtain ⟨t, ht, hpr⟩ := h.sound hr
    exact ⟨t, ht, hpr⟩
  complete {p t rest} ht hp := by
    obtain ⟨q, hq, hpq⟩ := h.complete ht hp
    rw [Node.ways]
    exact ⟨_, List.mem_map_of_mem hq, hpq⟩

theorem times (h : w.Spell L) (n : Nat) : Ways.Spell (w.times n) (L ^ n) := by
  induction n with
  | zero => exact nothing
  | succ n ih => exact (h.andThen ih).congr (pow_succ' L n).symm

/-- A greedy loop passes repetitions, no more than its limit. -/
theorem exists_of_mem_greedy (h : w.Spell L) {fuel : Nat} {limit : Option Nat} {p q : Position}
    (hq : q ∈ w.greedy fuel limit p) :
    ∃ ws : List Text, (∀ u ∈ ws, u ∈ L) ∧ (∀ n ∈ limit, ws.length ≤ n) ∧
      p.Passes ws.flatten q := by
  induction fuel generalizing limit p with
  | zero =>
    have : q = p := by
      rcases limit with _ | _ | n <;> exact List.mem_singleton.1 hq
    exact ⟨[], by simp, by simp, this ▸ .refl p⟩
  | succ fuel ih =>
    by_cases hl : limit = some 0
    · subst hl
      exact ⟨[], by simp, by simp, List.mem_singleton.1 hq ▸ .refl p⟩
    · rw [Ways.greedy, List.mem_append, List.mem_flatMap] at hq
      · rcases hq with ⟨r, hr, hq⟩ | hq
        · obtain ⟨t, ht, hpr⟩ := h.sound hr
          obtain ⟨ws, hws, hn, hrq⟩ : ∃ ws : List Text, (∀ u ∈ ws, u ∈ L) ∧
              (∀ n ∈ limit, ws.length + 1 ≤ n) ∧ r.Passes ws.flatten q := by
            split at hq
            · refine ⟨[], by simp, fun n hn => ?_, List.mem_singleton.1 hq ▸ .refl r⟩
              rcases n with _ | n
              · exact absurd hn hl
              · exact Nat.succ_le_succ (Nat.zero_le n)
            · obtain ⟨ws, hws, hn, hrq⟩ := ih hq
              refine ⟨ws, hws, fun n hl' => ?_, hrq⟩
              obtain rfl := Option.mem_def.1 hl'
              have := hn (n - 1) rfl
              have : n ≠ 0 := fun h0 => hl (h0 ▸ rfl)
              omega
          refine ⟨t :: ws, ?_, hn, hpr.trans hrq⟩
          rintro u (_ | ⟨_, hu⟩)
          exacts [ht, hws u hu]
        · exact ⟨[], by simp, by simp, List.mem_singleton.1 hq ▸ .refl p⟩
      all_goals simpa using hl

/-- One repetition less stays within a limit that is one less. -/
theorem forall_mem_map_pred {limit : Option Nat} {n : Nat} (h : ∀ m ∈ limit, n + 1 ≤ m) :
    ∀ m ∈ limit.map (· - 1), n ≤ m := by
  intro m hm
  obtain ⟨k, hk, rfl⟩ := Option.mem_map.1 hm
  exact Nat.le_sub_one_of_lt (h k hk)

/-- A greedy loop passes each repetition of texts that are not empty. -/
theorem exists_mem_greedy (h : w.Spell L) {ws : List Text} (hws : ∀ u ∈ ws, u ∈ L ∧ u ≠ [])
    {fuel : Nat} {limit : Option Nat} {p : Position} {rest : Text} (hf : ws.length ≤ fuel)
    (hn : ∀ n ∈ limit, ws.length ≤ n) (hp : p.after = ws.flatten ++ rest) :
    ∃ q ∈ w.greedy fuel limit p, p.Passes ws.flatten q := by
  induction ws generalizing fuel limit p with
  | nil =>
    refine ⟨p, ?_, .refl p⟩
    rcases fuel with _ | fuel <;> rcases limit with _ | _ | n <;> simp [Ways.greedy]
  | cons t ws ih =>
    obtain ⟨fuel, rfl⟩ : ∃ f, fuel = f + 1 := ⟨fuel - 1, by simp at hf; omega⟩
    obtain ⟨ht, hne⟩ := hws t (List.mem_cons_self ..)
    rw [List.flatten_cons, List.append_assoc] at hp
    obtain ⟨r, hr, hpr, hra⟩ := h.exists_after_eq ht hp
    have hlen : r.after.length ≠ p.after.length := by
      have := hpr.length_after
      have := List.length_pos_iff.2 hne
      omega
    have hl : limit ≠ some 0 := by
      rintro rfl
      exact absurd (hn 0 rfl) (by simp)
    obtain ⟨q, hq, hrq⟩ := ih (fun u hu => hws u (List.mem_cons_of_mem _ hu))
      (Nat.le_of_succ_le_succ hf) (forall_mem_map_pred hn) hra
    refine ⟨q, ?_, hpr.trans hrq⟩
    rw [Ways.greedy, List.mem_append, List.mem_flatMap]
    · exact Or.inl ⟨r, hr, by rw [if_neg hlen]; exact hq⟩
    all_goals simpa using hl

/-- A lazy loop passes repetitions, no more than its limit. -/
theorem exists_of_mem_lazy (h : w.Spell L) {fuel : Nat} {limit : Option Nat} {idle : Bool}
    {p q : Position} (hq : q ∈ w.lazy fuel limit idle p) :
    ∃ ws : List Text, (∀ u ∈ ws, u ∈ L) ∧ (∀ n ∈ limit, ws.length ≤ n) ∧
      p.Passes ws.flatten q := by
  induction fuel generalizing limit idle p with
  | zero => exact ⟨[], by simp, by simp, List.mem_singleton.1 hq ▸ .refl p⟩
  | succ fuel ih =>
    rw [Ways.lazy, List.mem_cons] at hq
    rcases hq with rfl | hq
    · exact ⟨[], by simp, by simp, .refl q⟩
    · split at hq
      · cases hq
      · rename_i hl
        obtain ⟨r, hr, hq⟩ := List.mem_flatMap.1 hq
        obtain ⟨t, ht, hpr⟩ := h.sound hr
        obtain ⟨ws, hws, hn, hrq⟩ := ih hq
        refine ⟨t :: ws, ?_, fun n hn' => ?_, hpr.trans hrq⟩
        · rintro u (_ | ⟨_, hu⟩)
          exacts [ht, hws u hu]
        · obtain rfl := Option.mem_def.1 hn'
          have := hn (n - 1) rfl
          have : n ≠ 0 := fun h0 => hl (Or.inl (h0 ▸ rfl))
          rw [List.length_cons]
          omega

/-- A lazy loop passes each repetition of texts that are not empty. -/
theorem exists_mem_lazy (h : w.Spell L) {ws : List Text} (hws : ∀ u ∈ ws, u ∈ L ∧ u ≠ [])
    {fuel : Nat} {limit : Option Nat} {p : Position} {rest : Text} (hf : ws.length ≤ fuel)
    (hn : ∀ n ∈ limit, ws.length ≤ n) (hp : p.after = ws.flatten ++ rest) :
    ∃ q ∈ w.lazy fuel limit false p, p.Passes ws.flatten q := by
  induction ws generalizing fuel limit p with
  | nil =>
    refine ⟨p, ?_, .refl p⟩
    rcases fuel with _ | fuel <;> simp [Ways.lazy]
  | cons t ws ih =>
    obtain ⟨fuel, rfl⟩ : ∃ f, fuel = f + 1 := ⟨fuel - 1, by simp at hf; omega⟩
    obtain ⟨ht, hne⟩ := hws t (List.mem_cons_self ..)
    rw [List.flatten_cons, List.append_assoc] at hp
    obtain ⟨r, hr, hpr, hra⟩ := h.exists_after_eq ht hp
    have hlen : r.after.length ≠ p.after.length := by
      have := hpr.length_after
      have := List.length_pos_iff.2 hne
      omega
    have hl : limit ≠ some 0 := by
      rintro rfl
      exact absurd (hn 0 rfl) (by simp)
    obtain ⟨q, hq, hrq⟩ := ih (fun u hu => hws u (List.mem_cons_of_mem _ hu))
      (Nat.le_of_succ_le_succ hf) (forall_mem_map_pred hn) hra
    refine ⟨q, ?_, hpr.trans hrq⟩
    rw [Ways.lazy, if_neg (by simp [hl])]
    exact List.mem_cons_of_mem _ (List.mem_flatMap.2 ⟨r, hr, by simpa [hlen] using hq⟩)

/-- Texts without the empty ones among them are no more, and the same one after
the other. -/
theorem exists_ne_nil_flatten_eq {ws : List Text} (hws : ∀ u ∈ ws, u ∈ L) :
    ∃ vs : List Text, (∀ u ∈ vs, u ∈ L ∧ u ≠ []) ∧ vs.length ≤ ws.length ∧
      vs.flatten = ws.flatten := by
  refine ⟨ws.filter (!·.isEmpty), fun u hu => ?_, List.length_filter_le _ _,
    List.flatten_filter_not_isEmpty⟩
  obtain ⟨hu, hne⟩ := List.mem_filter.1 hu
  exact ⟨hws u hu, by simpa using hne⟩

/-- A loop that first passes `least` repetitions and then up to `greatest - least`
more spells the repetitions within its bounds.  Those that match nothing count
for the least number only. -/
theorem loop_of_rest (h : w.Spell L) {least : Nat} {greatest : Option Nat}
    (hb : ∀ n ∈ greatest, least ≤ n) {rest : Ways}
    (sound : ∀ {p q}, q ∈ rest p → ∃ ws : List Text, (∀ u ∈ ws, u ∈ L) ∧
      (∀ n ∈ greatest.map (· - least), ws.length ≤ n) ∧ p.Passes ws.flatten q)
    (complete : ∀ {p t} {ws : List Text}, (∀ u ∈ ws, u ∈ L ∧ u ≠ []) →
      (∀ n ∈ greatest.map (· - least), ws.length ≤ n) → p.after = ws.flatten ++ t →
        ∃ q ∈ rest p, p.Passes ws.flatten q) :
    Ways.Spell (fun p => (w.times least p).flatMap rest) (repetitions L least greatest) where
  sound {p r} hr := by
    obtain ⟨q, hq, hr⟩ := List.mem_flatMap.1 hr
    obtain ⟨t, ht, hpq⟩ := (h.times least).sound hq
    obtain ⟨us, rfl, hul, hus⟩ := Language.mem_pow.1 ht
    obtain ⟨ws, hws, hn, hqr⟩ := sound hr
    refine ⟨us.flatten ++ ws.flatten, ⟨us ++ ws, List.flatten_append.symm, ?_, ?_, ?_⟩,
      hpq.trans hqr⟩
    · intro u hu
      rcases List.mem_append.1 hu with hu | hu
      exacts [hus u hu, hws u hu]
    · rw [List.length_append]
      omega
    · intro n hn'
      have := hn (n - least) (Option.mem_map_of_mem _ hn')
      have := hb n hn'
      rw [List.length_append]
      omega
  complete {p t rest'} ht hp := by
    obtain ⟨ws, rfl, hws, hl, hg⟩ := ht
    obtain ⟨vs, hvs, hle, hflat⟩ :=
      exists_ne_nil_flatten_eq fun u hu => hws u (List.mem_of_mem_drop hu)
    have hsplit : ws.flatten = (ws.take least).flatten ++ vs.flatten := by
      rw [hflat, ← List.flatten_append, List.take_append_drop]
    rw [hsplit, List.append_assoc] at hp
    have htake : (ws.take least).flatten ∈ L ^ least := by
      refine Language.mem_pow.2
        ⟨ws.take least, rfl, ?_, fun u hu => hws u (List.mem_of_mem_take hu)⟩
      rw [List.length_take]
      omega
    obtain ⟨q, hq, hpq, hqa⟩ := (h.times least).exists_after_eq htake hp
    have hn : ∀ n ∈ greatest.map (· - least), vs.length ≤ n := by
      intro n hn
      obtain ⟨m, hm, rfl⟩ := Option.mem_map.1 hn
      have := hg m hm
      rw [List.length_drop] at hle
      omega
    obtain ⟨r, hr, hqr⟩ := complete hvs hn hqa
    rw [hsplit]
    exact ⟨r, List.mem_flatMap.2 ⟨q, hq, hr⟩, hpq.trans hqr⟩

/-- Texts that are not empty are no more than the characters that they have. -/
theorem length_le_of_ne_nil {ws : List Text} (hws : ∀ u ∈ ws, u ∈ L ∧ u ≠ []) :
    ws.length ≤ ws.flatten.length := by
  induction ws with
  | nil => exact Nat.zero_le _
  | cons u ws ih =>
    have := ih fun v hv => hws v (List.mem_cons_of_mem _ hv)
    have := List.length_pos_iff.2 (hws u (List.mem_cons_self ..)).2
    rw [List.length_cons, List.flatten_cons, List.length_append]
    omega

/-- **A loop spells the repetitions within its bounds,** whether it is greedy or
lazy. -/
theorem loop {n : Node} (h : Ways.Spell n.ways L) {greed : Greed} (hg : greed ≠ .possessive)
    {least : Nat} {greatest : Option Nat} (hb : ∀ n ∈ greatest, least ≤ n) :
    Ways.Spell (Node.loop greed least greatest n).ways (repetitions L least greatest) := by
  have hloop : (Node.loop greed least greatest n).ways = n.ways.loop greed least greatest := by
    funext p
    rw [Node.ways]
  rw [hloop]
  cases greed with
  | greedy =>
    refine h.loop_of_rest hb h.exists_of_mem_greedy fun hws hn hp => ?_
    refine h.exists_mem_greedy hws ?_ hn hp
    have := length_le_of_ne_nil hws
    rw [hp, List.length_append]
    omega
  | lazy =>
    refine h.loop_of_rest hb h.exists_of_mem_lazy fun hws hn hp => ?_
    refine h.exists_mem_lazy hws ?_ hn hp
    have := length_le_of_ne_nil hws
    rw [hp, List.length_append]
    omega
  | possessive => exact absurd rfl hg

end Spell
end Ways

end Regex
end RouteTable
