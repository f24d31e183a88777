/-
# Reading a rewritten template

Whoever uses a rewritten template looks for `$` in it and reads the digits behind as the
number of a group (`groupNumbers`).  What a listed reference becomes is such a token, but the
text behind it can go on with digits, and is then read as part of the number.  It cannot do so
behind a name, which is read as far as it goes, and not behind a modifier that is kept; it can
behind one that is taken with the reference: where `id` is declared with `?`, the template
`:id?1` becomes `$11`.

So the numbers are those of the entries that the template refers to exactly if no listed
reference that takes its modifier with it stands in front of a digit (`Part.KeepsApart`).
That is `groupNumbers_rewrite_eq_iff`; no other text has any effect on them.
-/

import Mathlib.Data.List.Chain
import Mathlib.Tactic.Ring
import RouteTable.Proofs.Pattern.Landings
import RouteTable.Proofs.Template.Rewriting

namespace RouteTable
namespace Template

open Pattern (Registry Entry isNameChar compile)

/-- The numbers of groups that a text names: each `$`, with all the digits right behind it. -/
def groupNumbers : Text → List Nat
  | [] => []
  | c :: t =>
    if c = '$' ∧ t.takeWhile CodePoint.isDigit ≠ [] then
      Text.numeral 10 (t.takeWhile CodePoint.isDigit) :: groupNumbers t
    else groupNumbers t

/-- The entries that a template refers to, in order. -/
def listed (registry : Registry) (t : Text) : List Entry :=
  (references t).filterMap fun r => registry.get? r.name

/-- What a reference lists stands before the rest. -/
theorem listed_of_readReference? {registry : Registry} {t rest : Text} {r : Reference}
    (h : readReference? t = some (r, rest)) :
    listed registry t = (registry.get? r.name).toList ++ listed registry rest := by
  rw [listed, references_of_readReference? h, List.filterMap_cons, listed]
  cases registry.get? r.name <;> rfl

/-- A part does not go on with the number of a reference in front of it. -/
def Part.KeepsApart (registry : Registry) : Part → Part → Prop
  | reference r, literal (d :: _) =>
    ∀ e, registry.get? r.name = some e → r.modifier.text = e.modifier → d.isDigit = false
  | _, _ => True

/-- A text does not go on with a number. -/
def EndsNumber (t : Text) : Prop := ∀ c ∈ t.head?, c.isDigit = false

variable {registry : Registry} {t u rest : Text} {r : Reference} {e : Entry} {c : CodePoint}
  {n : Nat}

/-! ### Numbers and what follows them -/

/-- No digit is read exactly where a number ends. -/
theorem takeWhile_isDigit_eq_nil_iff : t.takeWhile CodePoint.isDigit = [] ↔ EndsNumber t := by
  cases t with
  | nil => simp [EndsNumber]
  | cons c t => simp [EndsNumber, List.takeWhile_cons]

/-- Digits behind digits: the number in front of them counts as often as they have places. -/
theorem numeral_append (base : Nat) (t u : Text) :
    Text.numeral base (t ++ u) = base ^ u.length * Text.numeral base t + Text.numeral base u := by
  have hfold : ∀ n, u.foldl (fun n c => base * n + (Text.hexDigit? c).getD 0) n =
      base ^ u.length * n + Text.numeral base u := by
    unfold Text.numeral
    induction u with
    | nil => simp
    | cons c u ih =>
      intro n
      rw [List.foldl_cons, List.foldl_cons, ih, ih (base * 0 + _), List.length_cons, Nat.pow_succ]
      ring
  rw [Text.numeral, List.foldl_append, hfold]
  rfl

/-- **The decimal numeral of a number** writes the number. -/
theorem numeral_repr (n : Nat) : Text.numeral 10 n.repr.text = n := by
  have hdigits : ∀ ds : List Char, (∀ d ∈ ds, d.isDigit = true) → ∀ m,
      (ds.map scalar).foldl (fun n c => 10 * n + (Text.hexDigit? c).getD 0) m =
        Nat.ofDigitChars 10 ds m := by
    intro ds hds
    induction ds with
    | nil => intro m; rfl
    | cons d ds ih =>
      intro m
      have hd : Text.hexDigit? d = some (d.toNat - '0'.toNat) := if_pos (hds d List.mem_cons_self)
      rw [List.map_cons, List.foldl_cons, hd, ih fun c hc => hds c (List.mem_cons_of_mem d hc)]
      rfl
  rw [Text.numeral, text_repr,
    hdigits _ (fun d hd => Nat.isDigit_of_mem_toDigits (by decide) (by decide) hd)]
  exact Nat.ofDigitChars_ten_toDigits

/-- Digits behind a number make it another number. -/
theorem numeral_repr_append_eq_iff (hn : 0 < n) (ds : Text) :
    Text.numeral 10 (n.repr.text ++ ds) = n ↔ ds = [] := by
  rw [numeral_append, numeral_repr]
  constructor
  · intro h
    by_contra hne
    obtain ⟨d, ds, rfl⟩ := List.exists_cons_of_ne_nil hne
    have hlarger : 10 * n ≤ 10 ^ (d :: ds).length * n := by
      refine Nat.mul_le_mul_right n ?_
      rw [List.length_cons, Nat.pow_succ]
      have := Nat.one_le_pow ds.length 10 (by omega)
      omega
    omega
  · rintro rfl
    exact Nat.one_mul n

/-- Where a name ends a number does. -/
theorem EndsName.endsNumber (h : EndsName t) : EndsNumber t := by
  intro c hc
  have hname := h c hc
  rw [isNameChar, CodePoint.isAlphanum, Bool.or_eq_false_iff, Bool.or_eq_false_iff] at hname
  exact hname.1.2

/-- A rewritten template begins with a digit only if the template does. -/
theorem endsNumber_rewrite_iff : EndsNumber (rewrite registry t) ↔ EndsNumber t := by
  constructor
  · intro h
    rcases head?_rewrite registry t with heq | ⟨hcolon, -⟩
    · rwa [EndsNumber, heq] at h
    · rw [EndsNumber, hcolon]
      rintro c hc
      rw [← Option.some.inj hc]
      decide
  · exact forall_head?_rewrite (by decide)

/-! ### Reading the numbers -/

theorem groupNumbers_cons (h : c ≠ '$') : groupNumbers (c :: t) = groupNumbers t := by
  rw [groupNumbers, if_neg fun hc => h hc.1]

theorem groupNumbers_append (h : scalar '$' ∉ u) (t : Text) :
    groupNumbers (u ++ t) = groupNumbers t := by
  induction u with
  | nil => rfl
  | cons c u ih =>
    obtain ⟨hc, hu⟩ := not_or.1 (mt List.mem_cons.2 h)
    rw [List.cons_append, groupNumbers_cons (Ne.symm hc), ih hu]

/-- A reference is `$` and its number. -/
theorem reference_of_index (h : e.index = n) : e.reference = scalar '$' :: n.repr.text := by
  rw [Entry.reference, h]
  rfl

/-- **The reference of an entry is read with the digits behind it.** -/
theorem groupNumbers_reference_append (h : e.index = n) (t : Text) :
    groupNumbers (e.reference ++ t) =
      Text.numeral 10 (n.repr.text ++ t.takeWhile CodePoint.isDigit) :: groupNumbers t := by
  have hdigits : ∀ d ∈ n.repr.text, d.isDigit = true := fun _ => isDigit_of_mem_repr
  have hdollar : scalar '$' ∉ n.repr.text := fun hd => absurd (hdigits _ hd) (by decide)
  have htoken : (n.repr.text ++ t).takeWhile CodePoint.isDigit =
      n.repr.text ++ t.takeWhile CodePoint.isDigit := List.takeWhile_append_of_pos hdigits
  have hne : n.repr.text ++ t.takeWhile CodePoint.isDigit ≠ [] :=
    List.append_ne_nil_of_left_ne_nil (text_repr_ne_nil n) _
  rw [reference_of_index h, List.cons_append, groupNumbers, htoken, if_pos ⟨rfl, hne⟩,
    groupNumbers_append hdollar]

/-! ### References and what follows them -/

/-- What follows a reference goes on with its number only behind a modifier that is taken. -/
theorem groupNumbers_rewrite_append (hends : r.EndsBefore rest)
    (hr : registry.get? r.name = some e) (he : e.index = n) (hpos : 0 < n) :
    ∃ k, groupNumbers (r.rewrite registry ++ rewrite registry rest) =
        k :: groupNumbers (rewrite registry rest) ∧
      (k = n ↔ (r.modifier.text = e.modifier → EndsNumber rest)) := by
  have hrewrite : r.rewrite registry =
      if r.modifier.text = e.modifier then e.reference else e.reference ++ r.modifier.text := by
    rw [Reference.rewrite, hr]
  by_cases htaken : r.modifier.text = e.modifier
  · rw [hrewrite, if_pos htaken]
    refine ⟨_, groupNumbers_reference_append he _, ?_⟩
    rw [numeral_repr_append_eq_iff hpos, takeWhile_isDigit_eq_nil_iff, endsNumber_rewrite_iff]
    exact ⟨fun h _ => h, fun h => h htaken⟩
  · have hkept : EndsNumber (r.modifier.text ++ rewrite registry rest) :=
      hends.rewrite.endsName.endsNumber
    have hdollar : scalar '$' ∉ r.modifier.text := by
      cases r.modifier <;> decide
    rw [hrewrite, if_neg htaken, List.append_assoc]
    refine ⟨n, ?_, fun _ h => absurd h htaken, fun _ => rfl⟩
    rw [groupNumbers_reference_append he, takeWhile_isDigit_eq_nil_iff.2 hkept,
      List.append_nil, numeral_repr, groupNumbers_append hdollar]

/-- The parts of a template are apart if the first reference keeps apart from what follows it,
and the parts of the rest are. -/
theorem isChain_scan_of_readReference? (h : readReference? t = some (r, rest)) :
    (scan t).IsChain (Part.KeepsApart registry) ↔
      (∀ e, registry.get? r.name = some e → r.modifier.text = e.modifier → EndsNumber rest) ∧
        (scan rest).IsChain (Part.KeepsApart registry) := by
  have hnext : (∀ p ∈ (scan rest).head?, Part.KeepsApart registry (.reference r) p) ↔
      ∀ e, registry.get? r.name = some e → r.modifier.text = e.modifier → EndsNumber rest := by
    cases rest with
    | nil => simp [scan, EndsNumber]
    | cons c rest =>
      cases hread : readReference? (c :: rest) with
      | none =>
        have hhead : ∃ u, (scan (c :: rest)).head? = some (.literal (c :: u)) := by
          rw [scan_cons hread]
          unfold Part.consChar
          split <;> simp
        obtain ⟨u, hu⟩ := hhead
        simp [hu, Part.KeepsApart, EndsNumber]
      | some p =>
        obtain ⟨s, after⟩ := p
        have hcolon : c = ':' := by
          by_contra hc
          cases hread.symm.trans (readReference?_of_ne hc rest)
        rw [scan_of_readReference? hread]
        simp [Part.KeepsApart, EndsNumber, hcolon]
  rw [scan_of_readReference? h, List.isChain_cons, hnext]

/-- A character in front changes nothing about references that are kept apart. -/
theorem isChain_consChar {ps : List Part} :
    (Part.consChar c ps).IsChain (Part.KeepsApart registry) ↔
      ps.IsChain (Part.KeepsApart registry) := by
  unfold Part.consChar
  split
  · rw [List.isChain_cons, List.isChain_cons]
    simp [Part.KeepsApart]
  · rw [List.isChain_cons]
    simp [Part.KeepsApart]

/-- The numbers that are read are as many as the entries that the template refers to, and they
are the numbers of those if the parts are apart. -/
theorem map_groupNumbers_rewrite_iff (hpos : ∀ e ∈ registry.entries, 0 < e.index)
    (ht : scalar '$' ∉ t) :
    (groupNumbers (rewrite registry t)).length = (listed registry t).length ∧
      ((groupNumbers (rewrite registry t)).map Int.ofNat = (listed registry t).map Entry.index ↔
        (scan t).IsChain (Part.KeepsApart registry)) := by
  induction t using scan.induct with
  | case1 => simp [rewrite_nil, listed, references_nil, groupNumbers, scan]
  | case2 c t r rest h ih =>
    obtain ⟨hwritten, -, hends⟩ := readReference?_eq_some_iff.1 h
    rw [hwritten, List.mem_append, not_or] at ht
    obtain ⟨hlength, hrest⟩ := ih ht.2
    rw [rewrite_of_readReference? h, listed_of_readReference? h,
      isChain_scan_of_readReference? h, ← hrest]
    cases hr : registry.get? r.name with
    | none =>
      rw [Reference.rewrite_of_none hr, groupNumbers_append ht.1]
      simpa using hlength
    | some e =>
      have he : 0 < e.index := hpos e (List.mem_of_find?_eq_some hr)
      obtain ⟨n, hn⟩ := Int.eq_ofNat_of_zero_le (Int.le_of_lt he)
      obtain ⟨k, hk, hnext⟩ := groupNumbers_rewrite_append hends hr hn (by omega)
      rw [hk, Option.toList_some, List.singleton_append, List.map_cons, List.map_cons,
        List.cons.injEq, List.length_cons, List.length_cons, hn]
      refine ⟨congrArg (· + 1) hlength, and_congr_left fun _ => ?_⟩
      rw [Int.ofNat_eq_natCast, Int.natCast_inj, hnext]
      simp
  | case3 c t h ih =>
    obtain ⟨hc, ht⟩ := not_or.1 (mt List.mem_cons.2 ht)
    rw [rewrite_cons h, groupNumbers_cons (Ne.symm hc), listed, references_cons h, scan_cons h,
      isChain_consChar]
    exact ih ht

/-- Behind a reference without a modifier no digit stands. -/
theorem isChain_scan_of_once (honce : ∀ e ∈ registry.entries, e.modifier = []) (t : Text) :
    (scan t).IsChain (Part.KeepsApart registry) := by
  induction t using scan.induct with
  | case1 => simp [scan]
  | case2 c t r rest h ih =>
    obtain ⟨-, -, hends⟩ := readReference?_eq_some_iff.1 h
    refine (isChain_scan_of_readReference? h).2 ⟨fun e he htaken => ?_, ih⟩
    rw [honce e (List.mem_of_find?_eq_some he)] at htaken
    have hendsName := hends.endsName.endsNumber
    rwa [htaken] at hendsName
  | case3 c t h ih =>
    rw [scan_cons h, isChain_consChar]
    exact ih

/-- **Which numbers are read in a rewritten template.**  They are as many as the listed
references of the template.  They are the numbers of the listed entries, in order, exactly if no
listed reference that takes its modifier with it stands in front of a digit; so they are if no
parameter is declared with a modifier. -/
theorem groupNumbers_rewrite_eq_iff (k : Pattern.Compiled) (ht : scalar '$' ∉ t) :
    (groupNumbers (rewrite k.registry t)).length = (listed k.registry t).length ∧
    ((groupNumbers (rewrite k.registry t)).map Int.ofNat = (listed k.registry t).map Entry.index ↔
      (scan t).IsChain (Part.KeepsApart k.registry)) ∧
    ((∀ e ∈ k.registry.entries, e.modifier = []) →
      (groupNumbers (rewrite k.registry t)).map Int.ofNat =
        (listed k.registry t).map Entry.index) := by
  obtain ⟨hlength, hiff⟩ := map_groupNumbers_rewrite_iff (fun _ => Registry.index_pos) ht
  exact ⟨hlength, hiff, fun honce => hiff.2 (isChain_scan_of_once honce t)⟩

/-- The source `/:id?`, compiled. -/
def optionalId : Pattern.Compiled :=
  ⟨"/:id?".text, [.capture ⟨some "id".text, [scalar '/'], Pattern.defaultBody, [], .optional⟩]⟩

/-- A slash behind a reference keeps it apart from digits. -/
theorem groupNumbers_rewrite_eq_iff_optionalId :
    compile "/:id?".text = .ok optionalId ∧ scalar '$' ∉ "/:id?/2024".text ∧
      (groupNumbers (rewrite optionalId.registry "/:id?/2024".text)).map Int.ofNat =
        (listed optionalId.registry "/:id?/2024".text).map Entry.index := by
  have hdollar : scalar '$' ∉ "/:id?/2024".text := by decide
  have hscan : scan "/:id?/2024".text = [.literal [scalar '/'],
      .reference ⟨"id".text, .optional⟩, .literal "/2024".text] := by decide +kernel
  refine ⟨by decide +kernel, hdollar,
    (groupNumbers_rewrite_eq_iff optionalId hdollar).2.1.2 ?_⟩
  rw [hscan, List.isChain_cons_cons, List.isChain_cons_cons]
  exact ⟨trivial, fun _ _ _ => rfl, .singleton _⟩

/-- **A digit behind a modifier is read as part of the number:** in what `:id?1` becomes, the
group of `id` is 1, and 11 is read. -/
theorem groupNumbers_rewrite_optionalDigit :
    compile "/:id?".text = .ok optionalId ∧ scalar '$' ∉ ":id?1".text ∧
      (listed optionalId.registry ":id?1".text).map Entry.index = [1] ∧
      groupNumbers (rewrite optionalId.registry ":id?1".text) = [11] := by
  refine ⟨?_, ?_, ?_, ?_⟩ <;> decide +kernel

end Template
end RouteTable
