/-
# Where the fault of a source is

A text is completed by what the reader expects behind it: by nothing where it expects the end, and
else by a closing brace (`Expects`).  The token that is not expected is told by texts alone: what
is in front of it is completed by what is expected there, and with its first character no text
behind makes it a source that has a reading.  The first character is enough, because it tells the
class of the token (`TokenClass.ofChar`), and what the scanner reads in front of it stays the same
(`Token.scan_append`).

`IsFault` has all the faults of sources.  Three are about the source as a whole and have no
position; the scanner is stuck (`Stuck`), or a token is not expected, or the end.
`tokens_and_faults_are_located` says that each refused source has one of them, and where, beside
the positions of tokens.
-/

import Mathlib.Data.List.Basic
import RouteTable.Proofs.Pattern.Recognition
import RouteTable.Proofs.Pattern.Unexpected

namespace RouteTable
namespace Pattern

/-! ### First characters -/

/-- The class of a token that begins with a character. -/
def TokenClass.ofChar : CodePoint → TokenClass
  | '?' | '*' | '+' => .modifier
  | '\\' => .escapedChar
  | '\x7b' => .opening
  | '\x7d' => .closing
  | ':' => .name
  | '(' => .body
  | _ => .char

/-- A character that is not reserved stands for itself. -/
theorem TokenClass.ofChar_of_not_mem_reserved {c : CodePoint} (h : c ∉ reserved) :
    ofChar c = .char := by
  unfold ofChar
  split <;> simp_all [reserved]

/-- The class of a token is told by its first character. -/
theorem TokenShape.tokenClass_of_valid {k : TokenShape} {c : CodePoint} {t u : Text} (hv : k.Valid)
    (h : k.written ++ t = c :: u) : k.tokenClass = .ofChar c := by
  cases k with
  | char d =>
    cases h
    exact (TokenClass.ofChar_of_not_mem_reserved hv).symm
  | modifier m =>
    cases m with
    | once => exact absurd rfl hv
    | optional | star | plus =>
      cases h
      rfl
  | escaped | name | body | opening | closing =>
    cases h
    rfl

namespace Token

variable {i : Nat} {t u source : Text} {front rest : List Token} {k : Token}

/-- **Tokens stay where they are before another text,** if that begins like theirs, or with what no
name goes on with. -/
theorem scan_append (h : scan i (text front ++ u) = .ok (front ++ rest)) (u' : Text)
    (hu : ∀ c ∈ u'.head?, c ∈ u.head? ∨ isNameChar c = false) :
    scan i (text front ++ u') =
      (scan (i + (text front).length) u').map (front ++ ·) := by
  induction front generalizing i with
  | nil =>
    change scan i u' = (scan i u').map id
    cases scan i u' <;> rfl
  | cons k front ih =>
    obtain ⟨t, rfl, ht, hv, he, hscan⟩ := exists_of_scan_cons h
    have hwritten : ∀ v, text (k :: front) ++ v = k.shape.written ++ (text front ++ v) :=
      fun v => by simp [text]
    rw [hwritten, List.append_cancel_left_eq] at ht
    subst ht
    have hends : k.shape.EndsBefore (text front ++ u') := he.of_head fun c hc => by
      cases hf : text front with
      | nil =>
        rw [hf] at hc
        exact hu c hc
      | cons d v =>
        rw [hf] at hc
        exact .inl hc
    rw [hwritten, scan_written_append hv hends, ih hscan]
    simp only [text, List.flatMap_cons, List.length_append, Nat.add_assoc]
    cases scan (k.offset + (k.shape.written.length + (text front).length)) u' <;> rfl

/-- Behind some of its tokens a text has the others. -/
theorem scan_of_append (h : scan i (text front ++ u) = .ok (front ++ rest)) :
    scan (i + (text front).length) u = .ok rest := by
  have hsame := scan_append h u fun c hc => .inl hc
  rw [h] at hsame
  obtain ⟨r, hr, he⟩ := Outcome.map_eq_ok.1 hsame.symm
  rw [hr, List.append_cancel_left he]

/-- The class of the first token is told by the first character. -/
theorem nextClass_of_scan_cons {c : CodePoint} (h : scan i (c :: t) = .ok rest) :
    nextClass rest = .ofChar c := by
  cases rest with
  | nil => cases (flatMap_written_of_scan h : [] = c :: t)
  | cons k rest =>
    obtain ⟨u, -, hw, hv, -⟩ := exists_of_scan_cons h
    exact TokenShape.tokenClass_of_valid hv hw.symm

/-! ### The tokens of a source -/

/-- The next token stands behind the text of those before it. -/
theorem nextOffset_eq (h : scan 0 source = .ok (front ++ rest)) :
    nextOffset source.length rest = (text front).length := by
  have hoffset := nextOffset_of_scan h
  rwa [Nat.zero_add, Nat.zero_add] at hoffset

/-- The tokens in front and the rest make up the source. -/
theorem text_append_of_scan (h : scan 0 source = .ok (front ++ rest)) :
    source = text front ++ text rest := by
  rw [← flatMap_written_of_scan h, List.flatMap_append]

/-- The source up to the next token is the text of those before it. -/
theorem take_nextOffset (h : scan 0 source = .ok (front ++ rest)) :
    source.take (nextOffset source.length rest) = text front := by
  rw [nextOffset_eq h, text_append_of_scan h]
  exact List.take_left

/-- The source from the next token on is the text of the rest. -/
theorem drop_nextOffset (h : scan 0 source = .ok (front ++ rest)) :
    source.drop (nextOffset source.length rest) = text rest := by
  rw [nextOffset_eq h, text_append_of_scan h]
  exact List.drop_left

/-- A token of a source has a first character, which tells its class. -/
theorem exists_text_eq_cons (h : scan 0 source = .ok (front ++ k :: rest)) :
    ∃ c t, text (k :: rest) = c :: t ∧ k.shape.tokenClass = .ofChar c := by
  rw [text_append_of_scan h] at h
  have hrest := scan_of_append h
  cases htext : text (k :: rest) with
  | nil =>
    rw [htext, scan] at hrest
    cases hrest
  | cons c t =>
    rw [htext] at hrest
    exact ⟨c, t, rfl, nextClass_of_scan_cons hrest⟩

/-- Every token stands inside the source. -/
theorem offset_lt_length (h : scan 0 source = .ok (front ++ k :: rest)) :
    k.offset < source.length := by
  obtain ⟨c, t, htext, -⟩ := exists_text_eq_cons h
  have hdrop : source.drop k.offset = c :: t := (drop_nextOffset h).trans htext
  refine Nat.lt_of_not_le fun hle => ?_
  rw [List.drop_eq_nil_iff.2 hle] at hdrop
  cases hdrop

end Token

/-! ### The token that is not expected, by texts -/

open Segment (IsWrongAt Completes readItems unexpected)
open Token (scan nextClass nextOffset)

/-- A text is completed by what is expected: by nothing where the end is, and else by a closing
brace. -/
def Expects (t : Text) : TokenClass → Prop
  | .ending => ∃ ps, IsParse t ps
  | .closing => ∃ ps, IsParse (t ++ [scalar '\x7d']) ps
  | _ => False

variable {source t : Text} {front rest : List Token} {k : Token} {expected : TokenClass}

/-- What the scanner and the reader accept has a reading. -/
theorem exists_isParse {tokens : List Token} (hscan : scan 0 t = .ok tokens)
    (hread : ∃ items, readItems t.length tokens = .ok items) : ∃ ps, IsParse t ps := by
  obtain ⟨items, hitems⟩ := hread
  obtain ⟨ps, hps, -⟩ := scan_readItems_eq_ok_iff.1 ⟨tokens, hscan, hitems⟩
  exact ⟨ps, hps⟩

/-- What is in front of what is wrong is completed by what is expected. -/
theorem expects_of_isWrongAt (h : scan 0 source = .ok (front ++ rest))
    (hwrong : IsWrongAt front rest expected) :
    Expects (source.take (nextOffset source.length rest)) expected := by
  rw [Token.take_nextOffset h]
  rw [Token.text_append_of_scan h] at h
  rcases hwrong.expects with rfl | rfl
  · have hscan := Token.scan_append h [] nofun
    have hnil : scan (0 + (Token.text front).length) [] = .ok [] := by rw [scan]
    rw [hnil, List.append_nil] at hscan
    exact exists_isParse hscan (hwrong.completes _ [] .ending)
  · have hscan := Token.scan_append h [scalar '\x7d'] (by
      rintro c ⟨⟩
      exact .inr (by decide))
    have hclosing : scan (0 + (Token.text front).length) [scalar '\x7d'] =
        .ok [⟨0 + (Token.text front).length, .closing⟩] :=
      (Token.scan_written_append (k := .closing) trivial trivial).trans (by rw [scan]; rfl)
    rw [hclosing] at hscan
    exact exists_isParse hscan (hwrong.completes _ _ .closing)

/-- With the first character of a token that is not expected, nothing behind it helps. -/
theorem not_isParse_of_isWrongAt_cons (h : scan 0 source = .ok (front ++ k :: rest))
    (hwrong : IsWrongAt front (k :: rest) expected) (more : Text) (ps : List Piece) :
    ¬IsParse (source.take (k.offset + 1) ++ more) ps := by
  intro hps
  obtain ⟨c, t, htext, hclass⟩ := Token.exists_text_eq_cons h
  have htake : source.take (k.offset + 1) = Token.text front ++ [c] := by
    have hdrop : source.drop k.offset = c :: t := (Token.drop_nextOffset h).trans htext
    rw [List.take_add, ← Token.take_nextOffset h, hdrop]
    rfl
  rw [Token.text_append_of_scan h, htext] at h
  rw [htake, List.append_assoc] at hps
  -- what stands there now begins with the same character, so that its class is refused there
  have hscan := Token.scan_append h (c :: more) fun d hd => .inl hd
  obtain ⟨tokens, htokens, hitems⟩ := scan_readItems_eq_ok_iff.2 ⟨ps, hps, rfl⟩
  obtain ⟨r', hr', rfl⟩ := Outcome.map_eq_ok.1 (hscan.symm.trans htokens)
  rw [hwrong.fails _ r' ((Token.nextClass_of_scan_cons hr').trans hclass.symm)] at hitems
  cases hitems

/-- A source that breaks off has no reading. -/
theorem not_isParse_of_isWrongAt_nil (h : scan 0 source = .ok front)
    (hwrong : IsWrongAt front [] expected) (ps : List Piece) : ¬IsParse source ps := by
  intro hps
  obtain ⟨tokens, htokens, hitems⟩ := scan_readItems_eq_ok_iff.2 ⟨ps, hps, rfl⟩
  rw [h] at htokens
  cases htokens
  have hfails := hwrong.fails source.length [] rfl
  rw [List.append_nil] at hfails
  rw [hfails] at hitems
  cases hitems

/-! ### The faults of sources -/

/-- What can be wrong with a source, and where it is marked. -/
inductive IsFault (source : Text) : Fault → Prop where
  | emptySource (h : source = []) : IsFault source ⟨.emptySource, none⟩
  | sourceTooLong (h : maxSourceLength < source.length) :
    IsFault source ⟨.sourceTooLong source.length maxSourceLength, none⟩
  /-- The name is the first one that stands in front of itself. -/
  | duplicateName {ps : List Piece} {n : Text} {before after : List Text} (h : IsParse source ps)
    (hnames : ps.filterMap Piece.name? = before ++ n :: after) (hbefore : before.Nodup)
    (hn : n ∈ before) : IsFault source ⟨.duplicateName n, none⟩
  /-- The text in front is scanned, and no token can be read behind it. -/
  | stuck {before rest : Text} {tokens : List Token} {f : Fault} (h : source = before ++ rest)
    (hscan : scan 0 before = .ok tokens) (hstuck : Stuck before.length rest f) : IsFault source f
  /-- All is scanned, and the first character of the token is one too many. -/
  | unexpectedToken {before after : List Token} {k : Token} {expected : TokenClass}
    (h : scan 0 source = .ok (before ++ k :: after))
    (hexpects : Expects (source.take k.offset) expected)
    (hwrong : ∀ more ps, ¬IsParse (source.take (k.offset + 1) ++ more) ps) :
    IsFault source ⟨.unexpected k.shape.tokenClass expected, some k.offset⟩
  /-- A brace is open at the end. -/
  | unexpectedEnd (hexpects : Expects source .closing) (hwrong : ∀ ps, ¬IsParse source ps) :
    IsFault source ⟨.unexpected .ending .closing, some source.length⟩

variable {f : Fault}

/-- The step of reading a source that finds a fault. -/
theorem step_of_read_eq_error (h : segments.read source = .error f) :
    source = [] ∧ f = ⟨.emptySource, none⟩ ∨
      maxSourceLength < source.length ∧ f = ⟨.sourceTooLong source.length maxSourceLength, none⟩ ∨
      (source ≠ [] ∧ source.length ≤ maxSourceLength) ∧
        (scan 0 source = .error f ∨
          ∃ tokens, scan 0 source = .ok tokens ∧
            (readItems source.length tokens = .error f ∨
              ∃ items, readItems source.length tokens = .ok items ∧
                ∃ n, Segment.duplicate? [] (Segment.ofItems items) = some n ∧
                  f = ⟨.duplicateName n, none⟩)) := by
  unfold segments.read at h
  by_cases hne : source = []
  · rw [if_pos hne] at h
    cases h
    exact .inl ⟨hne, rfl⟩
  rw [if_neg hne] at h
  by_cases hl : maxSourceLength < source.length
  · simp only [if_pos hl] at h
    cases h
    exact .inr (.inl ⟨hl, rfl⟩)
  simp only [if_neg hl] at h
  refine .inr (.inr ⟨⟨hne, Nat.le_of_not_lt hl⟩, ?_⟩)
  rcases Outcome.bind_eq_error.1 h with hscan | ⟨tokens, hscan, h⟩
  · exact .inl hscan
  rcases Outcome.bind_eq_error.1 h with hread | ⟨items, hread, h⟩
  · exact .inr ⟨tokens, hscan, .inl hread⟩
  split at h
  · rename_i n hn
    exact .inr ⟨tokens, hscan, .inr ⟨items, hread, n, hn, (Except.error.inj h).symm⟩⟩
  · cases h

/-- The fault of tokens that are refused is that of their source. -/
theorem isFault_of_readItems {tokens : List Token} (hscan : scan 0 source = .ok tokens)
    (h : readItems source.length tokens = .error f) : IsFault source f := by
  obtain ⟨front, rest, expected, rfl, rfl, hwrong⟩ := Segment.exists_isWrongAt h
  have hexpects := expects_of_isWrongAt hscan hwrong
  cases rest with
  | cons k rest =>
    exact .unexpectedToken hscan hexpects (not_isParse_of_isWrongAt_cons hscan hwrong)
  | nil =>
    rw [List.append_nil] at hscan
    have hnot := not_isParse_of_isWrongAt_nil hscan hwrong
    rw [nextOffset, List.take_length] at hexpects
    rcases hwrong.expects with rfl | rfl
    · obtain ⟨ps, hps⟩ := hexpects
      exact absurd hps (hnot ps)
    · exact .unexpectedEnd hexpects hnot

/-- **What is wrong with a refused source is one of its faults.** -/
theorem isFault_of_read (h : segments.read source = .error f) : IsFault source f := by
  obtain ⟨hne, rfl⟩ | ⟨hl, rfl⟩ |
    ⟨-, hscan | ⟨tokens, hscan, hread | ⟨items, hread, n, hn, rfl⟩⟩⟩ :=
    step_of_read_eq_error h
  · exact .emptySource hne
  · exact .sourceTooLong hl
  · obtain ⟨before, rest, tokens, rfl, hbefore, hstuck⟩ := Token.exists_stuck_of_scan hscan
    rw [Nat.zero_add] at hstuck
    exact .stuck rfl hbefore hstuck
  · exact isFault_of_readItems hscan hread
  · obtain ⟨ps, hps, rfl⟩ := scan_readItems_eq_ok_iff.1 ⟨tokens, hscan, hread⟩
    obtain ⟨before, after, hnames, hmem, hnodup, -⟩ := Segment.exists_of_duplicate? hn
    rw [ofItems_partsOf, filterMap_name?_segmentsOf] at hnames
    exact .duplicateName hps hnames hnodup (hmem.resolve_right List.not_mem_nil)

/-- **A fault has no position if it is about the source as a whole,** and then only. -/
theorem position_eq_none_iff (h : segments.read source = .error f) : f.position = none ↔
    source = [] ∨ maxSourceLength < source.length ∨
      ∃ ps, IsParse source ps ∧ ¬(ps.filterMap Piece.name?).Nodup := by
  constructor
  · intro hnone
    cases isFault_of_read h with
    | emptySource hempty => exact .inl hempty
    | sourceTooLong hlong => exact .inr (.inl hlong)
    | duplicateName hps hnames hbefore hn =>
      refine .inr (.inr ⟨_, hps, ?_⟩)
      rw [hnames, List.nodup_append]
      rintro ⟨-, -, hdisjoint⟩
      exact hdisjoint _ hn _ List.mem_cons_self rfl
    | stuck _ _ hstuck => cases hstuck <;> cases hnone
    | unexpectedToken | unexpectedEnd => cases hnone
  · intro hwhole
    obtain ⟨-, rfl⟩ | ⟨-, rfl⟩ | ⟨⟨hne, hl⟩, h⟩ := step_of_read_eq_error h
    · rfl
    · rfl
    obtain ⟨ps, hps, -⟩ := (hwhole.resolve_left hne).resolve_left (Nat.not_lt.2 hl)
    obtain ⟨tokens, hscan, hread⟩ := scan_readItems_eq_ok_iff.2 ⟨ps, hps, rfl⟩
    rcases h with hs | ⟨tokens', hs, hr | ⟨items, hr, n, -, rfl⟩⟩
    · rw [hscan] at hs
      cases hs
    · rw [hscan] at hs
      cases hs
      rw [hread] at hr
      cases hr
    · rfl

/-- What cannot be a token has a place inside the text. -/
theorem Stuck.exists_position {i : Nat} (h : Stuck i t f) : ∃ p, f.position = some p ∧
    p < i + t.length ∧ ∀ found expected, f.reason ≠ .unexpected found expected := by
  cases h <;> exact ⟨_, rfl, by simp; try omega, nofun⟩

/-- No token is the end of the source. -/
theorem TokenShape.tokenClass_ne_ending (k : TokenShape) : k.tokenClass ≠ .ending := by
  cases k <;> exact nofun

/-- **Only an end that is not expected is marked at the end.** -/
theorem IsFault.position_le (h : IsFault source f) {p : Nat} (hp : f.position = some p) :
    p ≤ source.length ∧
      (p = source.length ↔ ∃ expected, f.reason = .unexpected .ending expected) := by
  cases h with
  | emptySource | sourceTooLong | duplicateName => cases hp
  | @stuck before rest _ _ hsource _ hstuck =>
    obtain ⟨p', hp', hlt, hreason⟩ := hstuck.exists_position
    rw [hp] at hp'
    cases hp'
    rw [← List.length_append, ← hsource] at hlt
    exact ⟨Nat.le_of_lt hlt, fun he => absurd he (Nat.ne_of_lt hlt),
      fun ⟨_, he⟩ => absurd he (hreason _ _)⟩
  | @unexpectedToken _ _ k _ hscan =>
    cases hp
    have hlt := Token.offset_lt_length hscan
    refine ⟨Nat.le_of_lt hlt, fun he => absurd he (Nat.ne_of_lt hlt), fun ⟨_, he⟩ => ?_⟩
    exact absurd (Reason.unexpected.inj he).1 k.shape.tokenClass_ne_ending
  | unexpectedEnd =>
    cases hp
    exact ⟨Nat.le_refl _, fun _ => ⟨_, rfl⟩, fun _ => rfl⟩

/-- **Tokens and faults are where their offsets say.**  The tokens of a text are written as the
text, and each stands where the text of those before it ends; and so does the end.  The error of a
source that is refused carries the source, and has one of its faults; it has no position if the
source is empty or too long, or has a reading in which a name stands twice; and else it has one in
the source, which is its end if the end is not expected, and then only. -/
theorem tokens_and_faults_are_located :
    (∀ source tokens, scan 0 source = .ok tokens →
      Token.text tokens = source ∧ ∀ before rest, tokens = before ++ rest →
        nextOffset source.length rest = (Token.text before).length ∧
        source.drop (nextOffset source.length rest) = Token.text rest) ∧
    ∀ source e, segments source = .error e →
      e.source = source ∧ IsFault source ⟨e.reason, e.position⟩ ∧
      (e.position = none ↔ source = [] ∨ 4096 < source.length ∨
        ∃ ps, IsParse source ps ∧ ¬(ps.filterMap Piece.name?).Nodup) ∧
      ∀ p, e.position = some p → p ≤ source.length ∧
        (p = source.length ↔ ∃ expected, e.reason = .unexpected .ending expected) := by
  refine ⟨fun source tokens h => ⟨Token.flatMap_written_of_scan h, ?_⟩, fun source e h => ?_⟩
  · rintro before rest rfl
    exact ⟨Token.nextOffset_eq h, Token.drop_nextOffset h⟩
  · obtain ⟨f, hf, rfl⟩ := Outcome.mapError_eq_error.1 h
    have hfault := isFault_of_read hf
    exact ⟨rfl, hfault, position_eq_none_iff hf, fun _ => hfault.position_le⟩

/-- Braces in braces are told by the place of the second one. -/
theorem tokens_and_faults_are_located_inBrace :
    scan 0 "/\x7b:a\x7b".text =
      .ok [⟨0, .char '/'⟩, ⟨1, .opening⟩, ⟨2, .name [scalar 'a']⟩, ⟨4, .opening⟩] ∧
    Token.text [⟨0, .char '/'⟩, ⟨1, .opening⟩, ⟨2, .name [scalar 'a']⟩, ⟨4, .opening⟩] =
      "/\x7b:a\x7b".text ∧
    segments "/\x7b:a\x7b".text =
      .error ⟨"/\x7b:a\x7b".text, .unexpected .opening .closing, some 4, none⟩ ∧
    IsFault "/\x7b:a\x7b".text ⟨.unexpected .opening .closing, some 4⟩ := by
  have hscan : scan 0 "/\x7b:a\x7b".text =
      .ok [⟨0, .char '/'⟩, ⟨1, .opening⟩, ⟨2, .name [scalar 'a']⟩, ⟨4, .opening⟩] := by
        decide +kernel
  have herror : segments "/\x7b:a\x7b".text =
      .error ⟨"/\x7b:a\x7b".text, .unexpected .opening .closing, some 4, none⟩ := by
    decide +kernel
  exact ⟨hscan, (tokens_and_faults_are_located.1 _ _ hscan).1, herror,
    (tokens_and_faults_are_located.2 _ _ herror).2.1⟩

end Pattern
end RouteTable
