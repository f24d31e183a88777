/-
# The schema of configurations

| data | is a map with |
| --- | --- |
| redirect | texts `source` and `destination`, and an integer `statusCode` or none |
| rewrite | texts `source` and `destination` |
| header | texts `key` and `value` |
| header rule | a text `source`, and `headers`, a list of headers |
| configuration | truth values `cleanUrls` and `trailingSlash`, each or none, |
| | and lists of rules `redirects`, `rewrites` and `headers`, each or none |

An optional field that holds nothing is as good as absent (`Lacks`).  A truth value is no integer.

The schema is said twice: as what data have to be (`IsConfig`), and as what they say
(`DescribesConfig`), which relates data to the configuration with just the values of their fields.
The readers are told by the second (`readConfig_eq_ok_iff`), one `iff` for each kind of rule, and
data of the schema are the data that describe something (`isConfig_iff`).
-/

import Mathlib.Data.List.Forall2
import RouteTable.Rule

namespace RouteTable
namespace Rule

open List (Forall₂)

variable {α : Type} {es : List (Value × Value)} {field : String} {v : Value}
  {P : Value → Prop} {R : Value → α → Prop}

/-! ### Fields -/

/-- The field is there, and what it holds has the property. -/
def Holds (es : List (Value × Value)) (field : String) (P : Value → Prop) : Prop :=
  ∃ v, Value.lookup field.text es = some v ∧ P v

/-- The field is absent, or holds nothing. -/
def Lacks (es : List (Value × Value)) (field : String) : Prop :=
  ∀ v, Value.lookup field.text es = some v → v = .null

/-- The field is absent, or holds nothing, or what it holds has the property. -/
def MayHold (es : List (Value × Value)) (field : String) (P : Value → Prop) : Prop :=
  Lacks es field ∨ Holds es field P

/-- The field says `a?`: nothing if it lacks, and else what its value says. -/
def Says (es : List (Value × Value)) (field : String) (R : Value → α → Prop) : Option α → Prop
  | none => Lacks es field
  | some a => Holds es field (R · a)

/-! ### What data have to be -/

/-- A map whose entries have the property. -/
def IsMap (P : List (Value × Value) → Prop) (v : Value) : Prop := ∃ es, v = .map es ∧ P es

/-- A list whose items have the property. -/
def IsList (P : Value → Prop) (v : Value) : Prop := ∃ items, v = .list items ∧ ∀ w ∈ items, P w

/-- A text. -/
def IsText (v : Value) : Prop := ∃ t, v = .text t

/-- A truth value. -/
def IsBool (v : Value) : Prop := ∃ b, v = .bool b

/-- An integer, which is no truth value. -/
def IsInt (v : Value) : Prop := ∃ n, v = .int n

/-- The data of a redirect. -/
def IsRedirect : Value → Prop := IsMap fun es =>
  Holds es "source" IsText ∧ Holds es "destination" IsText ∧ MayHold es "statusCode" IsInt

/-- The data of a rewrite. -/
def IsRewrite : Value → Prop := IsMap fun es =>
  Holds es "source" IsText ∧ Holds es "destination" IsText

/-- The data of a header. -/
def IsHeader : Value → Prop := IsMap fun es => Holds es "key" IsText ∧ Holds es "value" IsText

/-- The data of a header rule. -/
def IsHeaderRule : Value → Prop := IsMap fun es =>
  Holds es "source" IsText ∧ Holds es "headers" (IsList IsHeader)

/-- The data of a configuration. -/
def IsConfig : Value → Prop := IsMap fun es =>
  MayHold es "cleanUrls" IsBool ∧ MayHold es "trailingSlash" IsBool ∧
    MayHold es "redirects" (IsList IsRedirect) ∧ MayHold es "rewrites" (IsList IsRewrite) ∧
    MayHold es "headers" (IsList IsHeaderRule)

/-! ### What data say -/

/-- A list whose items say the items of another, one by one. -/
def Lists (R : Value → α → Prop) (v : Value) (as : List α) : Prop :=
  ∃ items, v = .list items ∧ Forall₂ R items as

/-- What is listed is said by an item. -/
theorem Lists.exists_of_mem {as : List α} {a : α} (h : Lists R v as) (ha : a ∈ as) :
    ∃ w, R w a := by
  obtain ⟨items, -, hall⟩ := h
  induction hall with
  | nil => cases ha
  | @cons w b _ _ hR _ ih =>
    rcases List.mem_cons.1 ha with rfl | ha
    · exact ⟨w, hR⟩
    · exact ih ha

/-- The data say what the redirect is. -/
def DescribesRedirect (v : Value) (r : Redirect) : Prop := v |> IsMap fun es =>
  Holds es "source" (· = .text r.source) ∧ Holds es "destination" (· = .text r.destination) ∧
    ∃ code, Says es "statusCode" (fun w n => w = .int n) code ∧ r.status = code.elim .null .int

/-- The data say what the rewrite is. -/
def DescribesRewrite (v : Value) (r : Rewrite) : Prop := v |> IsMap fun es =>
  Holds es "source" (· = .text r.source) ∧ Holds es "destination" (· = .text r.destination)

/-- The data say what the header is. -/
def DescribesHeader (v : Value) (h : Text × Text) : Prop := v |> IsMap fun es =>
  Holds es "key" (· = .text h.1) ∧ Holds es "value" (· = .text h.2)

/-- The data say what the header rule is. -/
def DescribesHeaderRule (v : Value) (r : HeaderRule) : Prop := v |> IsMap fun es =>
  Holds es "source" (· = .text r.source) ∧ Holds es "headers" (Lists DescribesHeader · r.headers)

/-- The data say the configuration: none of a section that they lack, and the items of any other
in their order. -/
def DescribesConfig (v : Value) (c : Config) : Prop := v |> IsMap fun es =>
  Says es "cleanUrls" (fun w b => w = .bool b) c.cleanUrls ∧
    Says es "trailingSlash" (fun w b => w = .bool b) c.trailingSlash ∧
    Says es "redirects" (Lists DescribesRedirect) c.redirects ∧
    Says es "rewrites" (Lists DescribesRewrite) c.rewrites ∧
    Says es "headers" (Lists DescribesHeaderRule) c.headers

/-! ### Data of the schema describe something -/

/-- A field is right if it says something. -/
theorem holds_iff (h : ∀ w, P w ↔ ∃ a, R w a) :
    Holds es field P ↔ ∃ a, Holds es field (R · a) := by
  constructor
  · rintro ⟨w, hw, hP⟩
    obtain ⟨a, ha⟩ := (h w).1 hP
    exact ⟨a, w, hw, ha⟩
  · rintro ⟨a, w, hw, ha⟩
    exact ⟨w, hw, (h w).2 ⟨a, ha⟩⟩

/-- An optional field is right if it says something, or nothing. -/
theorem mayHold_iff (h : ∀ w, P w ↔ ∃ a, R w a) :
    MayHold es field P ↔ ∃ a?, Says es field R a? := by
  rw [MayHold, holds_iff h]
  constructor
  · rintro (hlacks | ⟨a, ha⟩)
    · exact ⟨none, hlacks⟩
    · exact ⟨some a, ha⟩
  · rintro ⟨_ | a, ha⟩
    · exact .inl ha
    · exact .inr ⟨a, ha⟩

/-- A list is right if it lists something. -/
theorem isList_iff (h : ∀ w, P w ↔ ∃ a, R w a) : IsList P v ↔ ∃ as, Lists R v as := by
  have hitems : ∀ items : List Value, (∀ w ∈ items, P w) ↔ ∃ as, Forall₂ R items as := by
    intro items
    induction items with
    | nil => simp
    | cons w items ih =>
      rw [List.forall_mem_cons, h, ih]
      constructor
      · rintro ⟨⟨a, ha⟩, as, has⟩
        exact ⟨a :: as, .cons ha has⟩
      · rintro ⟨_, _ | ⟨ha, has⟩⟩
        exact ⟨⟨_, ha⟩, _, has⟩
  constructor
  · rintro ⟨items, rfl, hall⟩
    obtain ⟨as, has⟩ := (hitems items).1 hall
    exact ⟨as, items, rfl, has⟩
  · rintro ⟨as, items, rfl, has⟩
    exact ⟨items, rfl, (hitems items).2 ⟨as, has⟩⟩

/-- Fields that hold texts hold some texts. -/
theorem holdsTexts_iff {f g : String} : Holds es f IsText ∧ Holds es g IsText ↔
    ∃ t u, Holds es f (· = .text t) ∧ Holds es g (· = .text u) := by
  have htext : ∀ {field : String}, Holds es field IsText ↔ ∃ t, Holds es field (· = .text t) :=
    holds_iff fun _ => Iff.rfl
  simp only [htext, exists_and_left, exists_and_right]

/-- Data are right for a redirect if they describe one. -/
theorem isRedirect_iff : IsRedirect v ↔ ∃ r, DescribesRedirect v r := by
  constructor
  · rintro ⟨es, rfl, hs, hd, hcode⟩
    obtain ⟨source, destination, hs, hd⟩ := holdsTexts_iff.1 ⟨hs, hd⟩
    obtain ⟨code, hcode⟩ := (mayHold_iff fun _ => Iff.rfl).1 hcode
    exact ⟨⟨source, destination, code.elim .null .int⟩, es, rfl, hs, hd, code, hcode, rfl⟩
  · rintro ⟨r, es, rfl, hs, hd, code, hcode, -⟩
    obtain ⟨hs, hd⟩ := holdsTexts_iff.2 ⟨_, _, hs, hd⟩
    exact ⟨es, rfl, hs, hd, (mayHold_iff fun _ => Iff.rfl).2 ⟨code, hcode⟩⟩

/-- Data are right for a rewrite if they describe one. -/
theorem isRewrite_iff : IsRewrite v ↔ ∃ r, DescribesRewrite v r := by
  constructor
  · rintro ⟨es, rfl, h⟩
    obtain ⟨source, destination, h⟩ := holdsTexts_iff.1 h
    exact ⟨⟨source, destination⟩, es, rfl, h⟩
  · rintro ⟨r, es, rfl, h⟩
    exact ⟨es, rfl, holdsTexts_iff.2 ⟨_, _, h⟩⟩

/-- Data are right for a header if they describe one. -/
theorem isHeader_iff : IsHeader v ↔ ∃ h, DescribesHeader v h := by
  constructor
  · rintro ⟨es, rfl, h⟩
    obtain ⟨key, value, h⟩ := holdsTexts_iff.1 h
    exact ⟨(key, value), es, rfl, h⟩
  · rintro ⟨header, es, rfl, h⟩
    exact ⟨es, rfl, holdsTexts_iff.2 ⟨_, _, h⟩⟩

/-- Data are right for a header rule if they describe one. -/
theorem isHeaderRule_iff : IsHeaderRule v ↔ ∃ r, DescribesHeaderRule v r := by
  constructor
  · rintro ⟨es, rfl, hs, hheaders⟩
    obtain ⟨source, hs⟩ := (holds_iff fun _ => Iff.rfl).1 hs
    obtain ⟨headers, hheaders⟩ := (holds_iff fun _ => isList_iff fun _ => isHeader_iff).1 hheaders
    exact ⟨⟨source, headers⟩, es, rfl, hs, hheaders⟩
  · rintro ⟨r, es, rfl, hs, hheaders⟩
    exact ⟨es, rfl, (holds_iff fun _ => Iff.rfl).2 ⟨_, hs⟩,
      (holds_iff fun _ => isList_iff fun _ => isHeader_iff).2 ⟨_, hheaders⟩⟩

/-- **Data of the schema are the data that describe a configuration.** -/
theorem isConfig_iff : IsConfig v ↔ ∃ c, DescribesConfig v c := by
  have hredirects : ∀ w, IsList IsRedirect w ↔ ∃ rs, Lists DescribesRedirect w rs :=
    fun _ => isList_iff fun _ => isRedirect_iff
  have hrewrites : ∀ w, IsList IsRewrite w ↔ ∃ rs, Lists DescribesRewrite w rs :=
    fun _ => isList_iff fun _ => isRewrite_iff
  have hheaders : ∀ w, IsList IsHeaderRule w ↔ ∃ rs, Lists DescribesHeaderRule w rs :=
    fun _ => isList_iff fun _ => isHeaderRule_iff
  constructor
  · rintro ⟨es, rfl, h₁, h₂, h₃, h₄, h₅⟩
    obtain ⟨cleanUrls, h₁⟩ := (mayHold_iff fun _ => Iff.rfl).1 h₁
    obtain ⟨trailingSlash, h₂⟩ := (mayHold_iff fun _ => Iff.rfl).1 h₂
    obtain ⟨redirects, h₃⟩ := (mayHold_iff hredirects).1 h₃
    obtain ⟨rewrites, h₄⟩ := (mayHold_iff hrewrites).1 h₄
    obtain ⟨headers, h₅⟩ := (mayHold_iff hheaders).1 h₅
    exact ⟨⟨cleanUrls, trailingSlash, redirects, rewrites, headers⟩, es, rfl, h₁, h₂, h₃, h₄, h₅⟩
  · rintro ⟨c, es, rfl, h₁, h₂, h₃, h₄, h₅⟩
    exact ⟨es, rfl, (mayHold_iff fun _ => Iff.rfl).2 ⟨_, h₁⟩,
      (mayHold_iff fun _ => Iff.rfl).2 ⟨_, h₂⟩,
      (mayHold_iff hredirects).2 ⟨_, h₃⟩, (mayHold_iff hrewrites).2 ⟨_, h₄⟩,
      (mayHold_iff hheaders).2 ⟨_, h₅⟩⟩

/-! ### What is read is what is described -/

/-- Only a map has entries. -/
theorem entries_eq_ok_iff {subject : Subject} : entries subject v = .ok es ↔ v = .map es := by
  cases v <;> simp [entries]

/-- Nothing is present in a field that lacks. -/
theorem present?_eq_none_iff : present? es field = none ↔ Lacks es field := by
  unfold present? Lacks
  split
  · rename_i h
    simp [h]
  · rename_i h
    constructor
    · intro hnone w hw
      rw [hnone] at hw
      cases hw
    · intro hnull
      refine Option.eq_none_iff_forall_ne_some.2 fun w hw => h ?_
      rw [hw, hnull w hw]

/-- What is present in a field is what it holds. -/
theorem present?_eq_some_iff :
    present? es field = some v ↔ Value.lookup field.text es = some v ∧ v ≠ .null := by
  unfold present?
  split
  · rename_i h
    rw [h]
    constructor
    · intro hsome
      cases hsome
    · rintro ⟨hsome, hne⟩
      exact absurd (Option.some.inj hsome).symm hne
  · rename_i h
    constructor
    · intro hsome
      refine ⟨hsome, ?_⟩
      rintro rfl
      exact h hsome
    · exact And.left

/-- A text field is read as the text that it holds. -/
theorem textField_eq_ok_iff {subject : Subject} {t : Text} :
    textField subject es field = .ok t ↔ Holds es field (· = .text t) := by
  unfold textField Holds
  cases Value.lookup field.text es with
  | none => simp
  | some w => cases w <;> simp

/-- What an optional field says, by the reader that takes nothing for absent. -/
theorem says_iff (hnull : ∀ a, ¬R .null a) {a? : Option α} :
    Says es field R a? ↔ Option.Rel R (present? es field) a? := by
  cases a? with
  | none =>
    rw [Says, ← present?_eq_none_iff]
    cases present? es field <;> simp
  | some a =>
    rw [Says, Holds]
    constructor
    · rintro ⟨w, hw, ha⟩
      have hne : w ≠ .null := fun h => hnull a (h ▸ ha)
      rw [present?_eq_some_iff.2 ⟨hw, hne⟩]
      exact .some ha
    · intro h
      cases hp : present? es field with
      | none =>
        rw [hp] at h
        cases h
      | some w =>
        rw [hp] at h
        cases h with
        | some ha => exact ⟨w, (present?_eq_some_iff.1 hp).1, ha⟩

/-- A switch is read as the truth value that it says. -/
theorem readSwitch_eq_ok_iff {b? : Option Bool} :
    readSwitch es field = .ok b? ↔ Says es field (fun w b => w = .bool b) b? := by
  rw [says_iff nofun, readSwitch]
  cases present? es field with
  | none => cases b? <;> simp
  | some w => cases w <;> cases b? <;> simp

/-- Items are read as what each of them says. -/
theorem mapM_eq_ok_iff {read : Value → Except Error α} (hread : ∀ w a, read w = .ok a ↔ R w a)
    {items : List Value} {as : List α} : items.mapM read = .ok as ↔ Forall₂ R items as := by
  induction items generalizing as with
  | nil =>
    rw [List.mapM_nil, List.forall₂_nil_left_iff]
    exact ⟨fun h => (Except.ok.inj h).symm, fun h => h ▸ rfl⟩
  | cons w items ih =>
    rw [List.mapM_cons, Outcome.bind_eq_ok]
    constructor
    · rintro ⟨a, ha, h⟩
      obtain ⟨as', has, h⟩ := Outcome.bind_eq_ok.1 h
      cases h
      exact .cons ((hread w a).1 ha) (ih.1 has)
    · rintro (_ | ⟨ha, has⟩)
      exact ⟨_, (hread _ _).2 ha, Outcome.bind_eq_ok.2 ⟨_, ih.2 has, rfl⟩⟩

/-- A section is read as what its items say. -/
theorem readSection_eq_ok_iff {read : Value → Except Error α}
    (hread : ∀ w a, read w = .ok a ↔ R w a) {as? : Option (List α)} :
    readSection read es field = .ok as? ↔ Says es field (Lists R) as? := by
  rw [says_iff (by rintro as ⟨items, h, -⟩; cases h), readSection]
  cases present? es field with
  | none => cases as? <;> simp
  | some w =>
    cases w with
    | list items =>
      rw [Outcome.map_eq_ok]
      cases as? <;> simp [Lists, mapM_eq_ok_iff hread]
    | _ => cases as? <;> simp [Lists]

/-- What begins with two texts of a map. -/
theorem textPair_eq_ok_iff {subject : Subject} {f g : String}
    {next : List (Value × Value) → Text → Text → Except Error α} {a : α} :
    (do
      let es ← entries subject v
      let t ← textField subject es f
      let u ← textField subject es g
      next es t u) = .ok a ↔
    ∃ es t u, v = .map es ∧ Holds es f (· = .text t) ∧ Holds es g (· = .text u) ∧
      next es t u = .ok a := by
  simp only [Outcome.bind_eq_ok, entries_eq_ok_iff, textField_eq_ok_iff]
  constructor
  · rintro ⟨es, hv, t, ht, u, hu, h⟩
    exact ⟨es, t, u, hv, ht, hu, h⟩
  · rintro ⟨es, t, u, hv, ht, hu, h⟩
    exact ⟨es, hv, t, ht, u, hu, h⟩

/-- A redirect is read from the data that describe it. -/
theorem readRedirect_eq_ok_iff {r : Redirect} :
    readRedirect v = .ok r ↔ DescribesRedirect v r := by
  refine Iff.trans textPair_eq_ok_iff ?_
  constructor
  · rintro ⟨es, source, destination, rfl, hs, hd, h⟩
    refine ⟨es, rfl, ?_⟩
    split at h
    · rename_i hp
      cases h
      exact ⟨hs, hd, none, present?_eq_none_iff.1 hp, rfl⟩
    · rename_i n hp
      cases h
      exact ⟨hs, hd, some n, ⟨_, (present?_eq_some_iff.1 hp).1, rfl⟩, rfl⟩
    · cases h
  · rintro ⟨es, rfl, hs, hd, code, hcode, hstatus⟩
    obtain ⟨source, destination, status⟩ := r
    obtain rfl : status = code.elim .null .int := hstatus
    refine ⟨es, source, destination, rfl, hs, hd, ?_⟩
    cases code with
    | none =>
      rw [present?_eq_none_iff.2 hcode]
      rfl
    | some n =>
      obtain ⟨w, hw, rfl⟩ := hcode
      rw [present?_eq_some_iff.2 ⟨hw, nofun⟩]
      rfl

/-- A rewrite is read from the data that describe it. -/
theorem readRewrite_eq_ok_iff {r : Rewrite} : readRewrite v = .ok r ↔ DescribesRewrite v r := by
  refine Iff.trans textPair_eq_ok_iff ?_
  constructor
  · rintro ⟨es, source, destination, rfl, hs, hd, h⟩
    cases h
    exact ⟨es, rfl, hs, hd⟩
  · rintro ⟨es, rfl, hs, hd⟩
    exact ⟨es, r.source, r.destination, rfl, hs, hd, rfl⟩

/-- A header is read from the data that describe it. -/
theorem readHeader_eq_ok_iff {h : Text × Text} : readHeader v = .ok h ↔ DescribesHeader v h := by
  refine Iff.trans textPair_eq_ok_iff ?_
  constructor
  · rintro ⟨es, key, value, rfl, hk, hv, h⟩
    cases h
    exact ⟨es, rfl, hk, hv⟩
  · rintro ⟨es, rfl, hk, hv⟩
    exact ⟨es, h.1, h.2, rfl, hk, hv, rfl⟩

/-- A header rule is read from the data that describe it. -/
theorem readHeaderRule_eq_ok_iff {r : HeaderRule} :
    readHeaderRule v = .ok r ↔ DescribesHeaderRule v r := by
  have hitems : ∀ {items : List Value} {headers : List (Text × Text)},
      items.mapM readHeader = .ok headers ↔ Forall₂ DescribesHeader items headers :=
    mapM_eq_ok_iff fun _ _ => readHeader_eq_ok_iff
  constructor
  · intro h
    obtain ⟨es, hes, h⟩ := Outcome.bind_eq_ok.1 h
    obtain ⟨source, hs, h⟩ := Outcome.bind_eq_ok.1 h
    refine ⟨es, entries_eq_ok_iff.1 hes, ?_⟩
    split at h
    · cases h
    · rename_i items hp
      obtain ⟨headers, hheaders, h⟩ := Outcome.bind_eq_ok.1 h
      cases h
      exact ⟨textField_eq_ok_iff.1 hs, _, (present?_eq_some_iff.1 hp).1, items, rfl,
        hitems.1 hheaders⟩
    · cases h
  · rintro ⟨es, rfl, hs, w, hw, items, rfl, hheaders⟩
    refine Outcome.bind_eq_ok.2 ⟨es, rfl, Outcome.bind_eq_ok.2 ⟨r.source,
      textField_eq_ok_iff.2 hs, ?_⟩⟩
    rw [present?_eq_some_iff.2 ⟨hw, nofun⟩]
    exact Outcome.bind_eq_ok.2 ⟨r.headers, hitems.2 hheaders, rfl⟩

/-- **The configuration that is read is the one that the data describe.** -/
theorem readConfig_eq_ok_iff {c : Config} : readConfig v = .ok c ↔ DescribesConfig v c := by
  have hredirects {es} {rs : Option (List Redirect)} :
      readSection readRedirect es "redirects" = .ok rs ↔ _ :=
    readSection_eq_ok_iff fun _ _ => readRedirect_eq_ok_iff
  have hrewrites {es} {rs : Option (List Rewrite)} :
      readSection readRewrite es "rewrites" = .ok rs ↔ _ :=
    readSection_eq_ok_iff fun _ _ => readRewrite_eq_ok_iff
  have hheaders {es} {rs : Option (List HeaderRule)} :
      readSection readHeaderRule es "headers" = .ok rs ↔ _ :=
    readSection_eq_ok_iff fun _ _ => readHeaderRule_eq_ok_iff
  constructor
  · intro h
    cases v with
    | map es =>
      obtain ⟨cleanUrls, h₁, h⟩ := Outcome.bind_eq_ok.1 h
      obtain ⟨trailingSlash, h₂, h⟩ := Outcome.bind_eq_ok.1 h
      obtain ⟨redirects, h₃, h⟩ := Outcome.bind_eq_ok.1 h
      obtain ⟨rewrites, h₄, h⟩ := Outcome.bind_eq_ok.1 h
      obtain ⟨headers, h₅, h⟩ := Outcome.bind_eq_ok.1 h
      cases h
      exact ⟨es, rfl, readSwitch_eq_ok_iff.1 h₁, readSwitch_eq_ok_iff.1 h₂, hredirects.1 h₃,
        hrewrites.1 h₄, hheaders.1 h₅⟩
    | _ => cases h
  · rintro ⟨es, rfl, h₁, h₂, h₃, h₄, h₅⟩
    exact Outcome.bind_eq_ok.2 ⟨_, readSwitch_eq_ok_iff.2 h₁, Outcome.bind_eq_ok.2 ⟨_,
      readSwitch_eq_ok_iff.2 h₂, Outcome.bind_eq_ok.2 ⟨_, hredirects.2 h₃, Outcome.bind_eq_ok.2 ⟨_,
        hrewrites.2 h₄, Outcome.bind_eq_ok.2 ⟨_, hheaders.2 h₅, rfl⟩⟩⟩⟩⟩

end Rule
end RouteTable
