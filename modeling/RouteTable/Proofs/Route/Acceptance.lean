/-
# What is accepted as a route

A map is accepted as a route in exactly these cases, whatever the order of its fields
(`Route.Describes`).

| fields | route |
| --- | --- |
| `handle`: the text `filesystem` | handle |
| `src`, `headers`, and `continue`: a truth value | headers |
| `src`, and `dest`: a text | rewrite |
| `src`, `dest`, and `check`: a truth value | rewrite |
| `src`, `headers` with a location, and `status`: that of a redirect | redirect |

Its `src` is a text that is not empty and that the engine accepts once it has its anchors, and
its `headers` are a map from texts to texts.  The reader comes to that by looking for one field
after the other; `Table.readAlone_map_eq_ok_iff` says that nothing else is accepted, and what
becomes of what is.
-/

import Mathlib.Data.List.Perm.Basic
import Mathlib.Data.Set.List
import RouteTable.Proofs.Route.Fields

namespace RouteTable
namespace Route

variable {engine : Regex.Engine} {fs : Fields} {r : Route} {src : Text}

/-- A source that the engine accepts once it has its anchors. -/
structure IsUsable (engine : Regex.Engine) (src : Text) : Prop where
  ne_nil : src ≠ []
  check : engine.check (withAnchors src) = .ok ()

/-- The entries of a map, in whatever order, describe a route. -/
inductive Describes (engine : Regex.Engine) (es : List (Value × Value)) : Route → Prop
  | handle (h : es.Perm [(.text "handle".text, .text "filesystem".text)]) :
    Describes engine es (.handle "filesystem".text)
  | headers {src : Text} {hs : Headers} {goOn : Bool}
    (h : es.Perm [(.text "src".text, .text src), (.text "headers".text, .map hs.toEntries),
      (.text "continue".text, .bool goOn)]) (hsrc : IsUsable engine src) :
    Describes engine es (.headers (withAnchors src) hs goOn)
  | rewrite {src dest : Text}
    (h : es.Perm [(.text "src".text, .text src), (.text "dest".text, .text dest)])
    (hsrc : IsUsable engine src) : Describes engine es (.rewrite (withAnchors src) dest false)
  | checkedRewrite {src dest : Text} {check : Bool}
    (h : es.Perm [(.text "src".text, .text src), (.text "dest".text, .text dest),
      (.text "check".text, .bool check)]) (hsrc : IsUsable engine src) :
    Describes engine es (.rewrite (withAnchors src) dest check)
  | redirect {src : Text} {hs : Headers} {status : Int}
    (h : es.Perm [(.text "src".text, .text src), (.text "headers".text, .map hs.toEntries),
      (.text "status".text, .int status)]) (hsrc : IsUsable engine src)
    (hlocation : ∃ header ∈ hs, header.1.map CodePoint.toLower = "location".text)
    (hstatus : status ∈ ([301, 302, 303, 307, 308] : List Int)) :
    Describes engine es (.redirect (withAnchors src) hs (.int status))

/-- A source that is read is a usable text, between anchors. -/
theorem exists_of_readSource {v : Value} (h : readSource engine v = .ok src) :
    ∃ t, v = .text t ∧ IsUsable engine t ∧ src = withAnchors t := by
  obtain ⟨t, rfl, hne, rfl, hcheck⟩ := readSource_eq_ok_iff.1 h
  rw [anchor_eq_withAnchors hne] at hcheck ⊢
  exact ⟨t, rfl, ⟨hne, hcheck⟩, rfl⟩

/-- A usable text is read, between anchors. -/
theorem IsUsable.readSource_eq (h : IsUsable engine src) :
    readSource engine (.text src) = .ok (withAnchors src) := by
  refine readSource_eq_ok_iff.2 ⟨src, rfl, h.ne_nil, ?_, h.check⟩
  rw [anchor_eq_withAnchors h.ne_nil]

/-- A header is a location, in whatever case it is written. -/
theorem any_isLocation_iff {hs : Headers} : hs.any (fun h => isLocation h.1) = true ↔
    ∃ header ∈ hs, header.1.map CodePoint.toLower = "location".text := by
  simp [isLocation]

/-- What is read is described. -/
theorem Shape.describes (h : Shape engine fs r) (hn : (fs.map (·.1)).Nodup)
    (hknown : ∀ f ∈ fs, f.1 ∈ fieldNames.map String.text) :
    Describes engine (fs.map Fields.entry) r := by
  have ordered : ∀ {names : List String} {row : Fields}, names.Nodup →
      (∀ f ∈ fs, f.1 ∈ names.map String.text) → fs.inOrder names = row →
      (fs.map Fields.entry).Perm (row.map Fields.entry) := by
    rintro names _ hnames hall rfl
    exact (Fields.perm_inOrder hn hnames hall).map _
  have hnames : fieldNames.Nodup := by decide
  cases h with
  | handle hmarker hr =>
    obtain ⟨hothers, rfl, rfl⟩ := exists_of_readHandle hr
    have hrow : fs.inOrder ["handle"] = [("handle".text, .text filesystemPhase)] := by
      simp only [Fields.inOrder_cons, Fields.inOrder_nil, hmarker, Option.elim]
    exact .handle (ordered (List.nodup_singleton _) (Fields.others_eq_nil_iff.1 hothers) hrow)
  | @headers _ goOn _ hs b hhandle hv hsrc hgoOn halone hhs hb =>
    obtain ⟨t, rfl, husable, rfl⟩ := exists_of_readSource hsrc
    obtain rfl := readSwitch_eq_ok_iff.1 hb
    have habsent := forbid_eq_ok_iff.1 halone
    simp only [List.forall_mem_cons] at habsent
    have hrow : fs.inOrder fieldNames = [("src".text, .text t),
        ("headers".text, .map hs.toEntries), ("continue".text, .bool b)] := by
      simp only [fieldNames, Fields.inOrder_cons, Fields.inOrder_nil, hhandle, hv, hgoOn,
        readHeaders_eq_ok_iff.1 hhs, habsent, Option.elim]
    exact .headers (ordered hnames hknown hrow) husable
  | @rewrite _ _ dest b hhandle hv hsrc hgoOn hdest halone hb =>
    obtain ⟨t, rfl, husable, rfl⟩ := exists_of_readSource hsrc
    have habsent := forbid_eq_ok_iff.1 halone
    simp only [List.forall_mem_cons] at habsent
    rcases readCheck_eq_ok_iff.1 hb with hcheck | ⟨hcheck, rfl⟩
    · have hrow : fs.inOrder fieldNames = [("src".text, .text t),
          ("dest".text, .text dest), ("check".text, .bool b)] := by
        simp only [fieldNames, Fields.inOrder_cons, Fields.inOrder_nil, hhandle, hv, hgoOn, hdest,
          hcheck, habsent, Option.elim]
      exact .checkedRewrite (ordered hnames hknown hrow) husable
    · have hrow : fs.inOrder fieldNames =
          [("src".text, .text t), ("dest".text, .text dest)] := by
        simp only [fieldNames, Fields.inOrder_cons, Fields.inOrder_nil, hhandle, hv, hgoOn, hdest,
          hcheck, habsent, Option.elim]
      exact .rewrite (ordered hnames hknown hrow) husable
  | @redirect _ _ _ hs n hhandle hv hsrc hgoOn hdest hstatus halone hhs hlocation hn' =>
    obtain ⟨t, rfl, husable, rfl⟩ := exists_of_readSource hsrc
    obtain ⟨rfl, hmem⟩ := exists_of_readStatus hn'
    have habsent := forbid_eq_ok_iff.1 halone
    simp only [List.forall_mem_cons] at habsent
    have hrow : fs.inOrder fieldNames = [("src".text, .text t),
        ("headers".text, .map hs.toEntries), ("status".text, .int n)] := by
      simp only [fieldNames, Fields.inOrder_cons, Fields.inOrder_nil, hhandle, hv, hgoOn, hdest,
        hstatus, readHeaders_eq_ok_iff.1 hhs, habsent, Option.elim]
    exact .redirect (ordered hnames hknown hrow) husable (any_isLocation_iff.1 hlocation) hmem

/-- A map with the fields of a row, in whatever order, is read as the row is. -/
theorem ofWire_of_perm (names : List String) (row : Fields) {es : List (Value × Value)}
    (hrow : row.map (·.1) = names.map String.text) (hnames : names.Nodup)
    (hknown : ∀ name ∈ names, name ∈ fieldNames) (h : es.Perm (row.map Fields.entry))
    (hshape : ∀ fs : Fields, fs.Perm row → (∀ name, fs.get? name = row.get? name) →
      Shape engine fs r) : ofWire engine es = .ok r := by
  have hn : (row.map (·.1)).Nodup := by
    rw [hrow]
    exact hnames.map fun _ _ => String.text_injective
  obtain ⟨fs, rfl⟩ : es ∈ Set.range (List.map Fields.entry) := by
    rw [Set.range_list_map]
    intro e he
    obtain ⟨f, -, rfl⟩ := List.mem_map.1 (h.mem_iff.1 he)
    exact ⟨f, rfl⟩
  have hperm : fs.Perm row := (List.map_perm_map_iff Fields.entry_injective).1 h
  refine ofWire_eq_ok_iff.2 ⟨fs, rfl, fun f hf => ?_, hshape fs hperm fun name => ?_⟩
  · have hmem : f.1 ∈ row.map (·.1) := List.mem_map_of_mem (hperm.mem_iff.1 hf)
    rw [hrow] at hmem
    obtain ⟨name, hname, heq⟩ := List.mem_map.1 hmem
    exact List.mem_map.2 ⟨name, hknown name hname, heq⟩
  · have hfs : (fs.map (·.1)).Nodup := (hperm.map _).nodup_iff.2 hn
    ext v
    rw [Fields.get?_eq_some_iff hfs, Fields.get?_eq_some_iff hn, hperm.mem_iff]

/-- What is described is read. -/
theorem Describes.ofWire_eq {es : List (Value × Value)} (h : Describes engine es r) :
    ofWire engine es = .ok r := by
  cases h with
  | handle h =>
    refine ofWire_of_perm ["handle"] [("handle".text, .text filesystemPhase)] rfl (by decide)
      (by decide) h fun fs hfs hget => .handle (hget _) ?_
    have halone : fs.others ["handle"] = [] := by
      refine Fields.others_eq_nil_iff.2 fun f hf => ?_
      rw [List.mem_singleton.1 (hfs.mem_iff.1 hf)]
      exact List.mem_singleton_self _
    rw [readHandle, halone]
    rfl
  | @headers src hs goOn h hsrc =>
    refine ofWire_of_perm ["src", "headers", "continue"] [("src".text, .text src),
      ("headers".text, .map hs.toEntries), ("continue".text, .bool goOn)] rfl (by decide)
      (by decide) h fun fs _ hget => ?_
    have habsent : ∀ name ∈ ["dest", "status", "check"], fs.get? name = none := by
      simp only [List.forall_mem_cons, hget]
      exact ⟨rfl, rfl, rfl, List.forall_mem_nil _⟩
    exact .headers (hget _) (hget _) hsrc.readSource_eq (hget _) (forbid_eq_ok_iff.2 habsent)
      (readHeaders_eq_ok_iff.2 (hget _)) rfl
  | @rewrite src dest h hsrc =>
    refine ofWire_of_perm ["src", "dest"] [("src".text, .text src), ("dest".text, .text dest)]
      rfl (by decide) (by decide) h fun fs _ hget => ?_
    have habsent : ∀ name ∈ ["status", "headers"], fs.get? name = none := by
      simp only [List.forall_mem_cons, hget]
      exact ⟨rfl, rfl, List.forall_mem_nil _⟩
    exact .rewrite (hget _) (hget _) hsrc.readSource_eq (hget _) (hget _)
      (forbid_eq_ok_iff.2 habsent) (readCheck_eq_ok_iff.2 (Or.inr ⟨hget _, rfl⟩))
  | @checkedRewrite src dest check h hsrc =>
    refine ofWire_of_perm ["src", "dest", "check"] [("src".text, .text src),
      ("dest".text, .text dest), ("check".text, .bool check)] rfl (by decide) (by decide) h
      fun fs _ hget => ?_
    have habsent : ∀ name ∈ ["status", "headers"], fs.get? name = none := by
      simp only [List.forall_mem_cons, hget]
      exact ⟨rfl, rfl, List.forall_mem_nil _⟩
    exact .rewrite (hget _) (hget _) hsrc.readSource_eq (hget _) (hget _)
      (forbid_eq_ok_iff.2 habsent) (readCheck_eq_ok_iff.2 (Or.inl (hget _)))
  | @redirect src hs status h hsrc hlocation hstatus =>
    refine ofWire_of_perm ["src", "headers", "status"] [("src".text, .text src),
      ("headers".text, .map hs.toEntries), ("status".text, .int status)] rfl (by decide)
      (by decide) h fun fs _ hget => ?_
    have habsent : ∀ name ∈ ["check"], fs.get? name = none := by
      simp only [List.forall_mem_cons, hget]
      exact ⟨rfl, List.forall_mem_nil _⟩
    exact .redirect (hget _) (hget _) hsrc.readSource_eq (hget _) (hget _) (hget _)
      (forbid_eq_ok_iff.2 habsent) (readHeaders_eq_ok_iff.2 (hget _))
      (any_isLocation_iff.2 hlocation) (readStatus_eq_ok_iff.2 ⟨hstatus, rfl⟩)

end Route

namespace Table

/-- **What is accepted as a route.**  A map is read as a route exactly if its entries describe
that route. -/
theorem readAlone_map_eq_ok_iff (engine : Regex.Engine) {es : List (Value × Value)}
    (hes : Value.IsMapping es) (r : Route) :
    readAlone engine (.map es) = .ok r ↔ Route.Describes engine es r := by
  rw [readAlone, Outcome.mapError_eq_ok]
  constructor
  · intro h
    obtain ⟨fs, rfl, hknown, hshape⟩ := Route.ofWire_eq_ok_iff.1 h
    exact hshape.describes (Route.Fields.isMapping_iff.1 hes) hknown
  · exact Route.Describes.ofWire_eq

/-- The fields of a redirect from `a` to `/b`, the source last. -/
def sourceLast : Route.Fields :=
  [("status".text, .int 301), ("headers".text, .map [(.text "LOCATION".text,
    .text "/b".text)]), ("src".text, .text "a".text)]

/-- The order of the fields does not matter. -/
theorem readAlone_map_eq_ok_iff_sourceLast :
    Value.IsMapping (sourceLast.map Route.Fields.entry) ∧
      Route.Describes (.backtracking .plain) (sourceLast.map Route.Fields.entry)
        (.redirect "^a$".text [("LOCATION".text, "/b".text)] (.int 301)) ∧
      readAlone (.backtracking .plain) (.map (sourceLast.map Route.Fields.entry)) =
        .ok (.redirect "^a$".text [("LOCATION".text, "/b".text)] (.int 301)) := by
  have hmapping : Value.IsMapping (sourceLast.map Route.Fields.entry) :=
    Route.Fields.isMapping_iff.2 (by decide)
  have hdescribes : Route.Describes (.backtracking .plain) (sourceLast.map Route.Fields.entry)
      (.redirect "^a$".text [("LOCATION".text, "/b".text)] (.int 301)) := by
    have hperm := (List.reverse_perm (sourceLast.map Route.Fields.entry)).symm
    exact @Route.Describes.redirect _ _ "a".text _ _ hperm ⟨by decide, rfl⟩
      ⟨_, List.mem_singleton_self _, rfl⟩ (by decide)
  exact ⟨hmapping, hdescribes,
    (readAlone_map_eq_ok_iff (.backtracking .plain) hmapping _).2 hdescribes⟩

end Table
end RouteTable
