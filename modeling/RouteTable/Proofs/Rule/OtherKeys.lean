/-
# Keys that no reader looks at

Two values agree in fields (`Agree`) if they are one value, or two maps that hold in each of the
fields the same, up to agreement further down, or lack it both.  So a map agrees with what becomes
of it when any other of its entries is changed or added (`agree_assign`) or removed
(`agree_filter`), at whatever level of a configuration the map stands.

Each reader gives the same for values that agree in its fields, its errors included.
`readConfig_schema` says that of configurations, and of a change to another key in particular,
beside what is accepted, what it is read as, and that all else is refused.
-/

import RouteTable.Proofs.Rule.Schema

namespace RouteTable
namespace Rule

open List (Forall₂)

variable {α : Type} {es es' : List (Value × Value)} {field : String} {v w : Value}
  {R : Value → Value → Prop} {fields : List (String × (Value → Value → Prop))}

/-- Two values agree in fields, each of which is compared in its own way. -/
inductive Agree (fields : List (String × (Value → Value → Prop))) : Value → Value → Prop where
  | refl (v : Value) : Agree fields v v
  | maps {es es' : List (Value × Value)}
    (h : ∀ f ∈ fields, Option.Rel f.2 (Value.lookup f.1.text es) (Value.lookup f.1.text es')) :
    Agree fields (.map es) (.map es')

/-- Two values are one value, or lists that agree item by item. -/
inductive AgreeItems (R : Value → Value → Prop) : Value → Value → Prop where
  | refl (v : Value) : AgreeItems R v v
  | lists {vs ws : List Value} (h : Forall₂ R vs ws) : AgreeItems R (.list vs) (.list ws)

/-- Redirects that differ in other keys only. -/
def AgreeRedirect : Value → Value → Prop :=
  Agree [("source", Eq), ("destination", Eq), ("statusCode", Eq)]

/-- Rewrites that differ in other keys only. -/
def AgreeRewrite : Value → Value → Prop := Agree [("source", Eq), ("destination", Eq)]

/-- Headers that differ in other keys only. -/
def AgreeHeader : Value → Value → Prop := Agree [("key", Eq), ("value", Eq)]

/-- Header rules that differ in other keys only, or their headers do. -/
def AgreeHeaderRule : Value → Value → Prop :=
  Agree [("source", Eq), ("headers", AgreeItems AgreeHeader)]

/-- Two values that differ, at whatever level, in keys of no configuration and no rule only. -/
def AgreeConfig : Value → Value → Prop :=
  Agree [("cleanUrls", Eq), ("trailingSlash", Eq), ("redirects", AgreeItems AgreeRedirect),
    ("rewrites", AgreeItems AgreeRewrite), ("headers", AgreeItems AgreeHeaderRule)]

/-- The keys of a configuration. -/
def configKeys : List String := ["cleanUrls", "trailingSlash", "redirects", "rewrites", "headers"]

/-! ### What may become of other entries -/

/-- A text is the same key as itself only. -/
theorem eq_text_of_sameKey {t : Text} {key : Value} (h : Value.sameKey (.text t) key = true) :
    key = .text t := by
  cases key <;> simp_all [Value.sameKey, Value.asInt?]

/-- An assignment to another key changes no field. -/
theorem lookup_assign_of_ne {t : Text} {key : Value} (hkey : key ≠ .text t) (value : Value)
    (es : List (Value × Value)) :
    Value.lookup t (Value.assign key value es) = Value.lookup t es := by
  induction es with
  | nil => cases key <;> simp_all [Value.assign, Value.lookup]
  | cons e es ih =>
    obtain ⟨k, v⟩ := e
    rw [Value.assign]
    split
    · rename_i hsame
      cases k with
      | text u =>
        have hu : u ≠ t := by
          rintro rfl
          exact hkey (eq_text_of_sameKey hsame)
        simp [Value.lookup, hu]
      | _ => rfl
    · cases k <;> simp [Value.lookup, ih]

/-- A map agrees with the map in which another key is assigned. -/
theorem agree_assign {key : Value} (hkey : ∀ f ∈ fields, key ≠ .text f.1.text)
    (hrefl : ∀ f ∈ fields, ∀ v, f.2 v v) (value : Value) (es : List (Value × Value)) :
    Agree fields (.map es) (.map (Value.assign key value es)) := by
  refine .maps fun f hf => ?_
  rw [lookup_assign_of_ne (hkey f hf)]
  cases Value.lookup f.1.text es with
  | none => exact .none
  | some v => exact .some (hrefl f hf v)

/-- A field stays if it is not removed. -/
theorem lookup_filter {t : Text} {p : Value × Value → Bool}
    (h : ∀ e ∈ es, e.1 = .text t → p e = true) :
    Value.lookup t (es.filter p) = Value.lookup t es := by
  induction es with
  | nil => rfl
  | cons e es ih =>
    obtain ⟨k, v⟩ := e
    have htail := ih fun e he => h e (List.mem_cons_of_mem _ he)
    have hhead := h (k, v) List.mem_cons_self
    rw [List.filter_cons]
    split
    · cases k <;> simp [Value.lookup, htail]
    · rename_i hp
      cases k with
      | text u =>
        have hu : u ≠ t := by
          rintro rfl
          exact hp (hhead rfl)
        simp [Value.lookup, htail, hu]
      | _ => simp [Value.lookup, htail]

/-- A map agrees with what is left of it when only entries with other keys are removed. -/
theorem agree_filter {p : Value × Value → Bool}
    (h : ∀ f ∈ fields, ∀ e ∈ es, e.1 = .text f.1.text → p e = true)
    (hrefl : ∀ f ∈ fields, ∀ v, f.2 v v) :
    Agree fields (.map es) (.map (es.filter p)) := by
  refine .maps fun f hf => ?_
  rw [lookup_filter (h f hf)]
  cases Value.lookup f.1.text es with
  | none => exact .none
  | some v => exact .some (hrefl f hf v)

/-- A configuration agrees with the one in which another key is assigned. -/
theorem agreeConfig_assign {key : Value} (hkey : ∀ k ∈ configKeys, key ≠ .text k.text)
    (value : Value) (es : List (Value × Value)) :
    AgreeConfig (.map es) (.map (Value.assign key value es)) := by
  refine agree_assign ?_ ?_ value es
  · simpa [configKeys] using hkey
  · simp [AgreeItems.refl]

/-- A configuration agrees with what is left of it without some of its other entries. -/
theorem agreeConfig_filter {p : Value × Value → Bool}
    (h : ∀ k ∈ configKeys, ∀ e ∈ es, e.1 = .text k.text → p e = true) :
    AgreeConfig (.map es) (.map (es.filter p)) := by
  refine agree_filter ?_ ?_
  · simpa [configKeys] using h
  · simp [AgreeItems.refl]

/-! ### Readers give the same for what agrees -/

/-- Fields that are compared as they are hold the same. -/
theorem lookup_congr (h : Option.Rel Eq (Value.lookup field.text es)
    (Value.lookup field.text es')) :
    Value.lookup field.text es = Value.lookup field.text es' := by
  generalize Value.lookup field.text es = x, Value.lookup field.text es' = y at h
  cases h with
  | some h => rw [h]
  | none => rfl

theorem textField_congr (subject : Subject)
    (h : Value.lookup field.text es = Value.lookup field.text es') :
    textField subject es field = textField subject es' field := by
  rw [textField, h, textField]

theorem present?_congr (h : Value.lookup field.text es = Value.lookup field.text es') :
    present? es field = present? es' field := by
  rw [present?, h, present?]

/-- Fields whose items agree are the same to a reader, or lists of items that agree. -/
theorem present?_items (h : Option.Rel (AgreeItems R) (Value.lookup field.text es)
    (Value.lookup field.text es')) :
    present? es field = present? es' field ∨ ∃ vs ws, present? es field = some (.list vs) ∧
      present? es' field = some (.list ws) ∧ Forall₂ R vs ws := by
  unfold present?
  generalize Value.lookup field.text es = x, Value.lookup field.text es' = y at h
  cases h with
  | none => exact .inl rfl
  | some h =>
    cases h with
    | refl v => exact .inl rfl
    | lists h => exact .inr ⟨_, _, rfl, rfl, h⟩

/-- Items are read the same where each of them is. -/
theorem mapM_congr {read : Value → Except Error α} (hread : ∀ v w, R v w → read v = read w)
    {vs ws : List Value} (h : Forall₂ R vs ws) : vs.mapM read = ws.mapM read := by
  induction h with
  | nil => rfl
  | cons hvw _ ih => rw [List.mapM_cons, List.mapM_cons, hread _ _ hvw, ih]

theorem readSwitch_congr (h : Value.lookup field.text es = Value.lookup field.text es') :
    readSwitch es field = readSwitch es' field := by
  rw [readSwitch, present?_congr h, readSwitch]

/-- A section is read the same where its items agree. -/
theorem readSection_congr {read : Value → Except Error α} (hread : ∀ v w, R v w → read v = read w)
    (h : Option.Rel (AgreeItems R) (Value.lookup field.text es)
      (Value.lookup field.text es')) :
    readSection read es field = readSection read es' field := by
  rw [readSection, readSection]
  rcases present?_items h with heq | ⟨vs, ws, hvs, hws, hitems⟩
  · rw [heq]
  · simp only [hvs, hws, mapM_congr hread hitems]

/-- What begins with the entries of a map is the same for values that agree in fields, if the
rest is the same for entries that do. -/
theorem Agree.bind_congr {subject : Subject} {next : List (Value × Value) → Except Error α}
    (h : Agree fields v w)
    (hnext : ∀ es es', (∀ f ∈ fields, Option.Rel f.2 (Value.lookup f.1.text es)
      (Value.lookup f.1.text es')) → next es = next es') :
    (entries subject v >>= next) = (entries subject w >>= next) := by
  cases h with
  | refl => rfl
  | maps h => exact hnext _ _ h

theorem readRedirect_congr (v w : Value) (h : AgreeRedirect v w) :
    readRedirect v = readRedirect w := by
  refine h.bind_congr fun es es' hfields => ?_
  simp only [List.forall_mem_cons] at hfields
  obtain ⟨hs, hd, hcode, -⟩ := hfields
  simp only [textField_congr _ (lookup_congr hs), textField_congr _ (lookup_congr hd),
    present?_congr (lookup_congr hcode)]

theorem readRewrite_congr (v w : Value) (h : AgreeRewrite v w) :
    readRewrite v = readRewrite w := by
  refine h.bind_congr fun es es' hfields => ?_
  simp only [List.forall_mem_cons] at hfields
  obtain ⟨hs, hd, -⟩ := hfields
  simp only [textField_congr _ (lookup_congr hs), textField_congr _ (lookup_congr hd)]

theorem readHeader_congr (v w : Value) (h : AgreeHeader v w) : readHeader v = readHeader w := by
  refine h.bind_congr fun es es' hfields => ?_
  simp only [List.forall_mem_cons] at hfields
  obtain ⟨hk, hv, -⟩ := hfields
  simp only [textField_congr _ (lookup_congr hk), textField_congr _ (lookup_congr hv)]

/-- Header rules that agree are read the same. -/
theorem readHeaderRule_congr (v w : Value) (h : AgreeHeaderRule v w) :
    readHeaderRule v = readHeaderRule w := by
  refine h.bind_congr fun es es' hfields => ?_
  simp only [List.forall_mem_cons] at hfields
  obtain ⟨hs, hheaders, -⟩ := hfields
  rw [textField_congr _ (lookup_congr hs)]
  rcases present?_items hheaders with heq | ⟨vs, ws, hvs, hws, hitems⟩
  · rw [heq]
  · simp only [hvs, hws, mapM_congr readHeader_congr hitems]

/-- **Configurations that agree are read the same.** -/
theorem readConfig_congr (h : AgreeConfig v w) : readConfig v = readConfig w := by
  cases h with
  | refl => rfl
  | maps hfields =>
    simp only [List.forall_mem_cons] at hfields
    obtain ⟨h₁, h₂, h₃, h₄, h₅, -⟩ := hfields
    simp only [readConfig, readSwitch_congr (lookup_congr h₁), readSwitch_congr (lookup_congr h₂),
      readSection_congr readRedirect_congr h₃, readSection_congr readRewrite_congr h₄,
      readSection_congr readHeaderRule_congr h₅]

/-- **A configuration is read exactly from data of its schema.**  It is the one that the data
describe, any other data are refused with an error, and data that differ in other keys only, at
whatever level, are the same to the reader.  So it is the same to the reader if another key is
changed, added or removed. -/
theorem readConfig_schema (v : Value) :
    ((∃ c, readConfig v = .ok c) ↔ IsConfig v) ∧
      (∀ c, readConfig v = .ok c ↔ DescribesConfig v c) ∧
      (∀ w, AgreeConfig v w → readConfig w = readConfig v) ∧
      (∀ es, v = .map es →
        (∀ key value, (∀ k ∈ configKeys, key ≠ .text k.text) →
          readConfig (.map (Value.assign key value es)) = readConfig v) ∧
        ∀ p : Value × Value → Bool,
          (∀ k ∈ configKeys, ∀ e ∈ es, e.1 = .text k.text → p e = true) →
          readConfig (.map (es.filter p)) = readConfig v) ∧
      ((∃ e : Error, readConfig v = .error e) ↔ ¬IsConfig v) := by
  have hread : (∃ c, readConfig v = .ok c) ↔ IsConfig v := by
    simp only [readConfig_eq_ok_iff, isConfig_iff]
  refine ⟨hread, fun _ => readConfig_eq_ok_iff, fun w h => (readConfig_congr h).symm, ?_, ?_⟩
  · rintro es rfl
    exact ⟨fun key value hkey => (readConfig_congr (agreeConfig_assign hkey value es)).symm,
      fun p hp => (readConfig_congr (agreeConfig_filter hp)).symm⟩
  rw [← hread]
  cases readConfig v with
  | ok c => simp
  | error e => simp

/-- A configuration with a redirect, a header rule, and nothing for its rewrites. -/
def bareConfig : Value := .map [
  (.text "rewrites".text, .null),
  (.text "redirects".text, .list [.map [(.text "source".text, .text "/a".text),
    (.text "destination".text, .text "/b".text)]]),
  (.text "headers".text, .list [.map [(.text "source".text, .text "/c".text),
    (.text "headers".text, .list [.map [(.text "key".text, .text "k".text),
      (.text "value".text, .text "v".text)]])]])]

/-- The same with a key of its own in each of its maps. -/
def notedConfig : Value := .map [
  (.text "public".text, .text "dist".text),
  (.text "redirects".text, .list [.map [(.text "destination".text, .text "/b".text),
    (.text "permanent".text, .bool true), (.text "source".text, .text "/a".text)]]),
  (.text "rewrites".text, .null),
  (.text "headers".text, .list [.map [(.int 1, .null),
    (.text "source".text, .text "/c".text),
    (.text "headers".text, .list [.map [(.text "key".text, .text "k".text),
      (.text "value".text, .text "v".text), (.text "note".text, .list [])]])]])]

/-- Keys of its own, at each level, do not change what a configuration is. -/
theorem readConfig_schema_noted :
    AgreeConfig bareConfig notedConfig ∧ IsConfig bareConfig ∧
      readConfig notedConfig = readConfig bareConfig ∧
      readConfig notedConfig = .ok ⟨none, none, some [⟨"/a".text, "/b".text, .null⟩], none,
        some [⟨"/c".text, [("k".text, "v".text)]⟩]⟩ := by
  have hheader : AgreeHeader (.map [(.text "key".text, .text "k".text),
      (.text "value".text, .text "v".text)]) (.map [(.text "key".text, .text "k".text),
      (.text "value".text, .text "v".text), (.text "note".text, .list [])]) := by
    have hnote : ∀ f ∈ [("key", @Eq Value), ("value", @Eq Value)],
        Value.text "note".text ≠ .text f.1.text := by
      simp only [List.forall_mem_cons, ne_eq, Value.text.injEq]
      exact ⟨by decide, by decide, List.forall_mem_nil _⟩
    exact agree_assign hnote (by simp) (.list []) _
  have hagree : AgreeConfig bareConfig notedConfig := by
    refine .maps ?_
    simp only [List.forall_mem_cons]
    refine ⟨.none, .none, .some (.lists (.cons (.maps ?_) .nil)), .some (.refl _),
      .some (.lists (.cons (.maps ?_) .nil)), List.forall_mem_nil _⟩
    · simp only [List.forall_mem_cons]
      exact ⟨.some rfl, .some rfl, .none, List.forall_mem_nil _⟩
    · simp only [List.forall_mem_cons]
      exact ⟨.some rfl, .some (.lists (.cons hheader .nil)), List.forall_mem_nil _⟩
  obtain ⟨hschema, -, hsame, -⟩ := readConfig_schema bareConfig
  have hread : readConfig bareConfig = .ok ⟨none, none,
      some [⟨"/a".text, "/b".text, .null⟩], none,
      some [⟨"/c".text, [("k".text, "v".text)]⟩]⟩ := rfl
  exact ⟨hagree, hschema.1 ⟨_, hread⟩, hsame _ hagree, (hsame _ hagree).trans hread⟩

end Rule
end RouteTable
