/-
# Where the redirects of clean URLs lead

The location is a slash, what the group holds, and another slash if the trailing-slash switch
asks for one.  Without that slash it is the beginning of the path that was asked for, so that
a path without an empty segment leads to one without.  The same holds with the slash behind a
group that ends in another character.  A group that holds nothing or ends in a slash leaves an
empty segment: `/index` goes to `//`, which a browser reads as the beginning of a host.

`cleanUrlRoutes_target` says that these are all the paths that gain an empty segment.
-/

import RouteTable.Proofs.Site.Switches

namespace RouteTable
namespace Site

/-- Two slashes stand side by side. -/
def HasEmptySegment (t : Text) : Prop := [scalar '/', scalar '/'] <:+: t

instance (t : Text) : Decidable (HasEmptySegment t) :=
  inferInstanceAs (Decidable ([scalar '/', scalar '/'] <:+: t))

variable {edition : Regex.Backtracking.Edition} {path t u name : Text} {dir held : Option Text}
  {r : Route} {html slash : Bool}

theorem not_hasEmptySegment_of_prefix (h : ¬HasEmptySegment u) (htu : t <+: u) :
    ¬HasEmptySegment t := fun hpair => h (hpair.trans htu.isInfix)

/-- A slash at the end leaves an empty segment behind another one. -/
theorem hasEmptySegment_concat_iff :
    HasEmptySegment (t ++ [scalar '/']) ↔ HasEmptySegment t ∨ t.getLast? = some (scalar '/') := by
  have hends : [scalar '/', scalar '/'] <:+ t ++ [scalar '/'] ↔ t.getLast? = some (scalar '/') := by
    rw [List.getLast?_eq_some_iff]
    constructor
    · rintro ⟨s, hs⟩
      exact ⟨s, (List.append_cancel_right
        ((List.append_assoc s [scalar '/'] [scalar '/']).trans hs)).symm⟩
    · rintro ⟨s, rfl⟩
      exact ⟨s, (List.append_assoc s [scalar '/'] [scalar '/']).symm⟩
  rw [HasEmptySegment, List.infix_concat_iff, hends, or_comm]
  rfl

/-! ### The location of a group -/

/-- The location is a slash, what the group holds, and another slash or none. -/
theorem filled_cleanLocation (slash : Bool) (g : Text) :
    Route.filled g (cleanLocation slash).text = scalar '/' :: g ++
      optionally slash [scalar '/'] := by
  cases slash with
  | false => rfl
  | true => rfl

/-- **Where a group leads:** to what stands before the end of the path, with an empty segment
only where a slash is put behind a slash. -/
theorem target_of_group {src : String}
    (hheld : (redirectTo src (cleanLocation slash)).firstGroup? edition path = .ok (some held))
    (hpath : ¬HasEmptySegment path) (hbegins : scalar '/' :: held.getD [] <+: path) :
    ∃ target, (redirectTo src (cleanLocation slash)).target? edition path = .ok (some target) ∧
      target.head? = some (scalar '/') ∧ (HasEmptySegment target ↔
        slash = true ∧ (scalar '/' :: held.getD []).getLast? = some (scalar '/')) := by
  have hgroup := not_hasEmptySegment_of_prefix hpath hbegins
  refine ⟨_, Route.target?_of_firstGroup? hheld rfl, ?_, ?_⟩
  · rw [filled_cleanLocation]
    rfl
  · rw [filled_cleanLocation]
    cases slash with
    | false => simpa [optionally] using hgroup
    | true =>
      rw [optionally, if_pos rfl, hasEmptySegment_concat_iff, or_iff_right hgroup]
      exact (and_iff_right rfl).symm

/-! ### The two routes -/

/-- The group of an index file is at the beginning of its path. -/
theorem group_prefix_indexPath : scalar '/' :: dir.getD [] <+: indexPath dir html slash := by
  cases dir <;> simp [indexPath, directory]

/-- The group of a name is at the beginning of its path. -/
theorem group_prefix_htmlPath : scalar '/' :: name <+: htmlPath name slash := by
  simp [htmlPath]

/-- Only an index file in no directory is reached from behind a slash. -/
theorem group_indexPath_ends_iff (hpath : ¬HasEmptySegment (indexPath dir html slash)) :
    (scalar '/' :: dir.getD []).getLast? = some (scalar '/') ↔
      ∃ html' slash', indexPath dir html slash = indexPath none html' slash' := by
  constructor
  · intro hlast
    cases dir with
    | none => exact ⟨html, slash, rfl⟩
    | some d =>
      refine absurd (hasEmptySegment_concat_iff.2 (.inr hlast)) ?_
      refine not_hasEmptySegment_of_prefix hpath ?_
      simp [indexPath, directory]
  · rintro ⟨html', slash', hnone⟩
    rw [indexPath_inj hnone]
    rfl

/-- A name is reached from behind a slash if it ends in one, or is empty. -/
theorem group_htmlPath_ends_iff : (scalar '/' :: name).getLast? = some (scalar '/') ↔
    ∃ name' slash', htmlPath name slash = htmlPath name' slash' ∧
      (name' = [] ∨ name'.getLast? = some (scalar '/')) := by
  have hname : (scalar '/' :: name).getLast? = some (scalar '/') ↔ name = [] ∨
      name.getLast? = some (scalar '/') := by
    cases name with
    | nil => simp
    | cons c t => rw [List.getLast?_cons_cons, or_iff_right (List.cons_ne_nil c t)]
  rw [hname]
  constructor
  · exact fun h => ⟨name, slash, rfl, h⟩
  · rintro ⟨name', slash', hpath, h⟩
    rwa [htmlPath_inj hpath]

/-- **The redirects of clean URLs lead to paths.**  A path without an empty segment leads to one
that begins with a slash.  It has an empty segment if the switch for trailing slashes is on and
the group of the source holds nothing or ends in a slash, and not otherwise. -/
theorem cleanUrlRoutes_target (edition : Regex.Backtracking.Edition) (slash : Bool) :
    ∃ index html, cleanUrlRoutes true slash = [index, html] ∧
      ∀ path, scalar '\n' ∉ path → ¬HasEmptySegment path →
        (Matching.appliesTo edition index.toValue path = .ok true →
          ∃ target, index.target? edition path = .ok (some target) ∧
            target.head? = some (scalar '/') ∧
            (HasEmptySegment target ↔
              slash = true ∧ ∃ html slash', path = indexPath none html slash')) ∧
        (Matching.appliesTo edition html.toValue path = .ok true →
          ∃ target, html.target? edition path = .ok (some target) ∧
            target.head? = some (scalar '/') ∧
            (HasEmptySegment target ↔
              slash = true ∧ ∃ name slash', path = htmlPath name slash' ∧
                (name = [] ∨ name.getLast? = some (scalar '/')))) := by
  refine ⟨_, _, cleanUrlRoutes_true slash, fun path hline hpath => ⟨fun happlies => ?_,
    fun happlies => ?_⟩⟩
  · obtain ⟨dir, html, slash', hdir, rfl⟩ := (appliesIff_index _ hline).of_eq_true happlies
    rw [← group_indexPath_ends_iff hpath]
    exact target_of_group (firstGroup?_index _ hdir hline) hpath group_prefix_indexPath
  · obtain ⟨name, slash', rfl⟩ := (appliesIff_html _ hline).of_eq_true happlies
    rw [← group_htmlPath_ends_iff]
    exact target_of_group (firstGroup?_html _ hline) hpath group_prefix_htmlPath

/-- A file in a directory leads to a path without an empty segment. -/
theorem cleanUrlRoutes_target_file :
    ∃ index html, cleanUrlRoutes true true = [index, html] ∧
      ∃ target, html.target? .strict "/blog/post.html".text = .ok (some target) ∧
        target.head? = some (scalar '/') ∧ ¬HasEmptySegment target := by
  obtain ⟨index, html, hroutes, h⟩ := cleanUrlRoutes_target .strict true
  obtain ⟨-, hhtml⟩ := h "/blog/post.html".text (by decide) (by decide)
  have happlies : Matching.appliesTo .strict html.toValue "/blog/post.html".text = .ok true := by
    obtain ⟨-, rfl⟩ : index = _ ∧ html = redirectTo htmlSource (cleanLocation true) := by
      simpa [cleanUrlRoutes_true] using hroutes.symm
    exact (appliesIff_html _ (by decide)).eq_true ⟨"blog/post".text, false, rfl⟩
  obtain ⟨target, htarget, hhead, hempty⟩ := hhtml happlies
  refine ⟨index, html, hroutes, target, htarget, hhead, fun hpair => ?_⟩
  obtain ⟨-, name, slash, hname, hends⟩ := hempty.1 hpair
  have hpath : htmlPath "blog/post".text false = htmlPath name slash := hname
  obtain rfl := htmlPath_inj hpath
  exact absurd hends (by decide)

/-- The index of the site leads to an empty segment. -/
theorem index_target_hasEmptySegment :
    ∃ index html, cleanUrlRoutes true true = [index, html] ∧
      ¬HasEmptySegment "/index".text ∧
      Matching.appliesTo .strict index.toValue "/index".text = .ok true ∧
      index.target? .strict "/index".text = .ok (some "//".text) := by
  have hpath : scalar '\n' ∉ indexPath none false false := by decide
  have hheld : (redirectTo indexSource (cleanLocation true)).firstGroup? .strict "/index".text =
      .ok (some none) := firstGroup?_index _ (Option.some_ne_none _).symm hpath
  exact ⟨_, _, cleanUrlRoutes_true true, by decide, Route.appliesTo_of_firstGroup? hheld,
    Route.target?_of_firstGroup? hheld rfl⟩

end Site
end RouteTable
