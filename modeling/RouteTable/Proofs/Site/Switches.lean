/-
# What the switches match

The sources of the two switches have groups that hold a part of the path.

| source | matches | the group holds |
| --- | --- | --- |
| `indexSource` | `/`, a directory and its slash or none, `index` or `index.html` | the directory |
| `htmlSource` | `/`, a name, `.html` | the name |
| `unslashedSource` | `/` and a text that does not end in a slash | the text |
| `slashedSource` | `/`, a text, and a slash | the text |

In the first two a slash may stand behind it all.

A path of one line can be read in one of these ways only once, so that it does not matter
which way the matcher takes.  For clean URLs, `cleanUrlRoutes_match` says so, and that the
table of clean URLs lists for each file what its path is redirected to.  For trailing slashes,
`trailingSlashRoutes_inverse` says that one setting undoes the other.
-/

import RouteTable.Proofs.Route.Targets
import RouteTable.Site.Switches

namespace RouteTable
namespace Site

open Pattern Regex Regex.Backtracking

variable {edition : Edition}

/-! ### Lines in a group -/

/-- All characters but one. -/
def otherThan (c : CodePoint) : CharSet := ⟨true, [.code c.toNat], false, false⟩

/-- At least so many characters of a line. -/
def lineItem (least : Nat) : Item := .loop .greedy ⟨least, none⟩ (.set (otherThan '\n'))

/-- A group of at least so many characters of a line. -/
def lineGroup (least : Nat) : List Item := [.other (.group 1 (row [lineItem least]))]

/-- The texts of one line that are long enough. -/
def lines (least : Nat) : Language CodePoint := {t | least ≤ t.length ∧ scalar '\n' ∉ t}

/-- All characters but one are those that differ from it. -/
theorem contains_otherThan {c d : CodePoint} : (otherThan d).contains c = true ↔ c ≠ d := by
  rw [ne_eq, ← CodePoint.toNat_inj]
  simp [otherThan, CharSet.contains, SetItem.contains, SetItem.code]

theorem keep_line (least : Nat) : Ways.Keep (row [lineItem least]).ways :=
  (Ways.Keep.set _).loop Greed.noConfusion _ _

/-- A line is spelled by the texts that are long enough. -/
theorem spell_line (least : Nat) : SpellRow [lineItem least] (lines least) := by
  have loop : Ways.Spell (lineItem least).node.ways
      (repetitions (otherThan '\n').language least none) :=
    (Ways.Spell.set _).loop Greed.noConfusion (by simp)
  refine SpellRow.singleton (loop.congr ?_)
  ext t
  rw [mem_repetitions_set_iff]
  refine and_congr_right fun _ => ?_
  simp only [contains_otherThan]
  exact ⟨fun h hmem => h _ hmem rfl, fun h c hc hfeed => h (hfeed ▸ hc)⟩

theorem traces_line (least : Nat) :
    Traces (lineGroup least) fun t cs => t ∈ lines least ∧ cs = [(1, t)] :=
  .group 1 (keep_line least) (spell_line least)

/-! ### Texts that may be left out -/

/-- A text, or nothing. -/
def optionally (b : Bool) (t : Text) : Text := if b then t else []

/-- The items of a text that may be left out. -/
def optionalItems (t : Text) : List Item := [.modified (row (t.map Item.literal)) .optional]

/-- A text that may be left out captures nothing. -/
theorem traces_optional (t : Text) :
    Traces (optionalItems t) fun u cs => (∃ b, u = optionally b t) ∧ cs = [] := by
  refine (Traces.text t).optional.congr fun u cs => ?_
  simp [optionally, or_and_right, or_comm]

/-- A text behind a row that may be left out. -/
theorem traces_append_optional {is : List Item} {R : Text → List (Nat × Text) → Prop}
    (h : Traces is R) (t : Text) :
    Traces (is ++ optionalItems t) fun u cs => ∃ v b, u = v ++ optionally b t ∧ R v cs := by
  refine (h.append (traces_optional t)).congr fun u cs => ?_
  constructor
  · rintro ⟨v, _, cs, _, rfl, rfl, hv, ⟨b, rfl⟩, rfl⟩
    exact ⟨v, b, rfl, hv⟩
  · rintro ⟨v, b, rfl, hv⟩
    exact ⟨v, _, cs, [], rfl, rfl, hv, ⟨b, rfl⟩, rfl⟩

/-! ### The sources -/

/-- A directory with its slash, or nothing. -/
def directoryItems : List Item :=
  [.modified (row (lineGroup 1 ++ [scalar '/'].map Item.literal)) .optional]

/-- A slash, a directory or none, `index`, and what may stand behind it. -/
def indexItems : List Item :=
  [scalar '/'].map Item.literal ++ directoryItems ++ "index".text.map Item.literal ++
    optionalItems htmlEnding ++ optionalItems [scalar '/']

/-- A slash, a name, `.html`, and a slash that may stand behind it. -/
def htmlItems : List Item :=
  [scalar '/'].map Item.literal ++ lineGroup 0 ++ htmlEnding.map Item.literal ++
    optionalItems [scalar '/']

/-- A line that ends in no slash. -/
def unslashedLine : List Item := [lineItem 0] ++ [.other (.set (otherThan '/'))]

/-- A slash, and a group of a line that ends in no slash. -/
def unslashedItems : List Item :=
  [scalar '/'].map Item.literal ++ [.other (.group 1 (row unslashedLine))]

/-- A slash, the group of a line, and a slash. -/
def slashedItems : List Item :=
  [scalar '/'].map Item.literal ++ lineGroup 0 ++ [scalar '/'].map Item.literal

theorem parse_indexSource :
    Backtracking.parse edition indexSource.text = .ok (anchored indexItems) := by
  rfl

theorem parse_htmlSource :
    Backtracking.parse edition htmlSource.text = .ok (anchored htmlItems) := by
  rfl

theorem parse_unslashedSource :
    Backtracking.parse edition unslashedSource.text = .ok (anchored unslashedItems) := by
  rfl

theorem parse_slashedSource :
    Backtracking.parse edition slashedSource.text = .ok (anchored slashedItems) := by
  rfl

/-- A directory with its slash, or nothing. -/
def directory (dir : Option Text) : Text := (dir.map (· ++ [scalar '/'])).getD []

/-- The path of an index file, in a directory or in none. -/
def indexPath (dir : Option Text) (html slash : Bool) : Text :=
  scalar '/' :: (directory dir ++ "index".text ++ optionally html htmlEnding ++
    optionally slash [scalar '/'])

/-- The path of a name with `.html`. -/
def htmlPath (name : Text) (slash : Bool) : Text :=
  scalar '/' :: (name ++ htmlEnding ++ optionally slash [scalar '/'])

/-- What the group of a directory holds. -/
def directoryGroup (dir : Option Text) : List (Nat × Text) := (dir.map fun d => (1, d)).toList

/-- The group of a directory holds it, if there is one. -/
theorem traces_directory : Traces directoryItems fun t cs => ∃ dir : Option Text,
    (∀ d ∈ dir, d ∈ lines 1) ∧ t = directory dir ∧ cs = directoryGroup dir := by
  refine ((traces_line 1).append_text [scalar '/']).optional.congr fun t cs => ?_
  constructor
  · rintro (⟨d, rfl, hd, rfl⟩ | ⟨rfl, rfl⟩)
    · exact ⟨some d, by simpa using hd, rfl, rfl⟩
    · exact ⟨none, by simp, rfl, rfl⟩
  · rintro ⟨_ | d, hd, rfl, rfl⟩
    · exact .inr ⟨rfl, rfl⟩
    · exact .inl ⟨d, rfl, hd d rfl, rfl⟩

/-- The source for index files traces their paths, and holds the directory. -/
theorem traces_index : Traces indexItems fun t cs => ∃ dir html slash,
    (∀ d ∈ dir, d ∈ lines 1) ∧ t = indexPath dir html slash ∧ cs = directoryGroup dir := by
  have hindex := (traces_directory.text_append [scalar '/']).append_text "index".text
  have hhtml := traces_append_optional hindex htmlEnding
  refine (traces_append_optional hhtml [scalar '/']).congr fun t cs => ?_
  constructor
  · rintro ⟨_, slash, rfl, _, html, rfl, _, rfl, _, rfl, dir, hdir, rfl, rfl⟩
    exact ⟨dir, html, slash, hdir, rfl, rfl⟩
  · rintro ⟨dir, html, slash, hdir, rfl, rfl⟩
    exact ⟨_, slash, rfl, _, html, rfl, _, rfl, _, rfl, dir, hdir, rfl, rfl⟩

/-- The source for names traces their paths, and holds the name. -/
theorem traces_html : Traces htmlItems fun t cs => ∃ name slash,
    scalar '\n' ∉ name ∧ t = htmlPath name slash ∧ cs = [(1, name)] := by
  have hname := ((traces_line 0).text_append [scalar '/']).append_text htmlEnding
  refine (traces_append_optional hname [scalar '/']).congr fun t cs => ?_
  constructor
  · rintro ⟨_, slash, rfl, _, rfl, name, rfl, ⟨-, hline⟩, rfl⟩
    exact ⟨name, slash, hline, rfl, rfl⟩
  · rintro ⟨name, slash, hline, rfl, rfl⟩
    exact ⟨_, slash, rfl, _, rfl, name, rfl, ⟨Nat.zero_le _, hline⟩, rfl⟩

/-- The source for slashes holds what stands between the two. -/
theorem traces_slashed : Traces slashedItems fun t cs => ∃ a,
    scalar '\n' ∉ a ∧ t = scalar '/' :: (a ++ [scalar '/']) ∧ cs = [(1, a)] := by
  refine (((traces_line 0).text_append [scalar '/']).append_text [scalar '/']).congr fun t cs => ?_
  constructor
  · rintro ⟨_, rfl, a, rfl, ⟨-, hline⟩, rfl⟩
    exact ⟨a, hline, rfl, rfl⟩
  · rintro ⟨a, hline, rfl, rfl⟩
    exact ⟨_, rfl, a, rfl, ⟨Nat.zero_le _, hline⟩, rfl⟩

/-- The source without one holds all behind the first slash. -/
theorem traces_unslashed : Traces unslashedItems fun t cs => ∃ (a : Text) (c : CodePoint),
    scalar '\n' ∉ a ∧ c ≠ '/' ∧ t = scalar '/' :: (a ++ [c]) ∧ cs = [(1, a ++ [c])] := by
  have hkeep : Ways.Keep (row unslashedLine).ways := by
    rw [unslashedLine, ways_row_append]
    exact (keep_line 0).andThen (.set _)
  have hspell : SpellRow unslashedLine (lines 0 * (otherThan '/').language) :=
    (spell_line 0).append (.singleton (i := .other _) (Ways.Spell.set _))
  refine ((Traces.group 1 hkeep hspell).text_append [scalar '/']).congr fun t cs => ?_
  simp only [Language.mem_mul]
  constructor
  · rintro ⟨_, rfl, ⟨a, ⟨-, hline⟩, _, ⟨c, hc, rfl⟩, rfl⟩, rfl⟩
    exact ⟨a, c, hline, contains_otherThan.1 hc, rfl, rfl⟩
  · rintro ⟨a, c, hline, hc, rfl, rfl⟩
    exact ⟨_, rfl, ⟨a, ⟨Nat.zero_le _, hline⟩, _, ⟨c, contains_otherThan.2 hc, rfl⟩, rfl⟩, rfl⟩

/-! ### Reading a path in one way -/

/-- Before a slash that may be left out, a text that ends in none is known. -/
theorem eq_of_append_optionally {t u : Text} {b c : Bool} (ht : t.getLast? ≠ some (scalar '/'))
    (hu : u.getLast? ≠ some (scalar '/'))
      (h : t ++ optionally b [scalar '/'] = u ++ optionally c [scalar '/']) :
    t = u := by
  cases b <;> cases c
  · simpa [optionally] using h
  · refine absurd ?_ ht
    rw [show t = u ++ [scalar '/'] by simpa [optionally] using h, List.getLast?_concat]
  · refine absurd ?_ hu
    rw [show u = t ++ [scalar '/'] by simpa [optionally] using h.symm, List.getLast?_concat]
  · exact List.append_cancel_right h

/-- What has the ending ends in its last character. -/
theorem getLast?_append_htmlEnding (t : Text) : (t ++ htmlEnding).getLast? = some (scalar 'l') := by
  rw [List.getLast?_append]
  rfl

/-- A path has one name. -/
theorem htmlPath_inj {name name' : Text} {slash slash' : Bool}
    (h : htmlPath name slash = htmlPath name' slash') : name = name' := by
  have hlast : ∀ t : Text, (t ++ htmlEnding).getLast? ≠ some (scalar '/') := by
    intro t
    rw [getLast?_append_htmlEnding]
    decide
  exact List.append_cancel_right
    (eq_of_append_optionally (hlast name) (hlast name') (List.cons.inj h).2)

/-- A directory is told by its text. -/
theorem directory_inj {dir dir' : Option Text} (h : directory dir = directory dir') :
    dir = dir' := by
  cases dir <;> cases dir' <;> simp_all [directory]

/-- A path of an index file has one directory. -/
theorem indexPath_inj {dir dir' : Option Text} {html html' slash slash' : Bool}
    (h : indexPath dir html slash = indexPath dir' html' slash') : dir = dir' := by
  -- the last character of an index file tells whether it has the ending
  have hends : ∀ (t : Text) (b : Bool),
      (t ++ "index".text ++ optionally b htmlEnding).getLast? =
        some (if b then scalar 'l' else 'x') := by
    intro t b
    cases b with
    | false =>
      have hnone : optionally false htmlEnding = [] := rfl
      rw [hnone, List.append_nil, List.getLast?_append]
      rfl
    | true => exact getLast?_append_htmlEnding _
  have hlast : ∀ (t : Text) (b : Bool),
      (t ++ "index".text ++ optionally b htmlEnding).getLast? ≠ some (scalar '/') := by
    intro t b
    rw [hends]
    cases b <;> decide
  have hfile := eq_of_append_optionally (hlast _ _) (hlast _ _) (List.cons.inj h).2
  have hhtml : html = html' := by
    have hsame := congrArg List.getLast? hfile
    rw [hends, hends, Option.some_inj] at hsame
    revert hsame
    cases html <;> cases html' <;> decide
  rw [hhtml] at hfile
  exact directory_inj (List.append_cancel_right (List.append_cancel_right hfile))

/-! ### Clean URLs -/

section Redirected

variable {path : Text} {dir : Option Text} {name : Text} {html slash : Bool} (l : String)

/-- The directory of a path of one line is one line. -/
theorem mem_lines_of_indexPath (hdir : dir ≠ some [])
    (hline : scalar '\n' ∉ indexPath dir html slash) :
    ∀ d ∈ dir, d ∈ lines 1 := by
  intro d hd
  obtain rfl := Option.mem_def.1 hd
  refine ⟨List.length_pos_of_ne_nil fun hnil => hdir (hnil ▸ rfl), fun hfeed => hline ?_⟩
  simp [indexPath, directory, hfeed]

/-- The name of a path of one line is one line. -/
theorem notMem_of_htmlPath (hline : scalar '\n' ∉ htmlPath name slash) : scalar '\n' ∉ name := by
  intro hfeed
  exact hline (by simp [htmlPath, hfeed])

/-- The first route applies to the paths of index files. -/
theorem appliesIff_index (hline : scalar '\n' ∉ path) :
    (redirectTo indexSource l).AppliesIff edition path
    (∃ dir html slash, dir ≠ some [] ∧ path = indexPath dir html slash) := by
  refine (Route.appliesIff_of_traces rfl parse_indexSource traces_index hline).congr ?_
  constructor
  · rintro ⟨-, dir, html, slash, hdir, hpath, -⟩
    refine ⟨dir, html, slash, ?_, hpath⟩
    rintro rfl
    exact absurd (hdir [] rfl).1 (by simp)
  · rintro ⟨dir, html, slash, hdir, rfl⟩
    exact ⟨_, dir, html, slash, mem_lines_of_indexPath hdir hline, rfl, rfl⟩

/-- The group of the first route holds the directory. -/
theorem firstGroup?_index (hdir : dir ≠ some []) (hline : scalar '\n' ∉ indexPath dir html slash) :
    (redirectTo indexSource l).firstGroup? edition (indexPath dir html slash) = .ok (some dir) := by
  refine Route.firstGroup?_eq_some rfl parse_indexSource traces_index hline
    ⟨dir, html, slash, mem_lines_of_indexPath hdir hline, rfl, rfl⟩ ?_
  rintro _ ⟨dir', html', slash', -, hpath, rfl⟩
  obtain rfl := indexPath_inj hpath
  cases dir <;> rfl

/-- The second route applies to the paths of names with `.html`. -/
theorem appliesIff_html (hline : scalar '\n' ∉ path) :
    (redirectTo htmlSource l).AppliesIff edition path
    (∃ name slash, path = htmlPath name slash) := by
  refine (Route.appliesIff_of_traces rfl parse_htmlSource traces_html hline).congr ?_
  constructor
  · rintro ⟨-, name, slash, -, hpath, -⟩
    exact ⟨name, slash, hpath⟩
  · rintro ⟨name, slash, rfl⟩
    exact ⟨_, name, slash, notMem_of_htmlPath hline, rfl, rfl⟩

/-- The group of the second route holds the name. -/
theorem firstGroup?_html (hline : scalar '\n' ∉ htmlPath name slash) :
    (redirectTo htmlSource l).firstGroup? edition (htmlPath name slash) =
      .ok (some (some name)) := by
  refine Route.firstGroup?_eq_some rfl parse_htmlSource traces_html hline
    ⟨name, slash, notMem_of_htmlPath hline, rfl, rfl⟩ ?_
  rintro _ ⟨name', slash', -, hpath, rfl⟩
  obtain rfl := htmlPath_inj hpath
  rfl

end Redirected

/-- Where the redirects of clean URLs lead. -/
def cleanLocation (slash : Bool) : String := if slash then "/$1/" else "/$1"

theorem cleanUrlRoutes_true (slash : Bool) : cleanUrlRoutes true slash =
    [redirectTo indexSource (cleanLocation slash), redirectTo htmlSource (cleanLocation slash)] :=
  rfl

/-- A file whose path ends in `.html` is listed without the ending. -/
theorem cleanUrl?_eq_some_iff {file : Text} {u : CleanUrl} : cleanUrl? file = some u ↔
    ∃ name, file = name ++ htmlEnding ∧ u = ⟨scalar '/' :: file, scalar '/' :: name⟩ := by
  rw [cleanUrl?, Option.map_eq_some_iff]
  refine exists_congr fun name => ?_
  rw [Text.dropTrailing?_eq_some_iff, eq_comm (b := u)]

/-- A file is listed exactly if its path ends in `.html`. -/
theorem isSome_cleanUrl? (file : Text) :
    (cleanUrl? file).isSome = htmlEnding.isSuffixOf file := by
  rw [Bool.eq_iff_iff, Option.isSome_iff_exists, List.isSuffixOf_iff_suffix]
  simp only [cleanUrl?_eq_some_iff]
  constructor
  · rintro ⟨_, name, rfl, -⟩
    exact List.suffix_append name htmlEnding
  · rintro ⟨name, rfl⟩
    exact ⟨_, name, rfl, rfl⟩

/-- What is listed are the files whose paths end in `.html`, in order. -/
theorem forall₂_cleanUrls (files : List Text) :
    List.Forall₂ (fun file u => cleanUrl? file = some u)
      (files.filter fun file => htmlEnding.isSuffixOf file) (cleanUrls files) := by
  induction files with
  | nil => exact .nil
  | cons file files ih =>
    rw [cleanUrls, List.filterMap_cons, List.filter_cons, ← isSome_cleanUrl?]
    cases hfile : cleanUrl? file with
    | none => exact ih
    | some u => exact .cons hfile ih

/-- **The routes of clean URLs.**  One matches `/index` and `/index.html` behind a directory or
none, the other the paths that end in `.html`, both with a slash behind or not; the group of
the second holds what stands before `.html`.  The table lists, in order, the files whose paths
end in `.html`, each with what the group of its path holds. -/
theorem cleanUrlRoutes_match (edition : Edition) (slash : Bool) :
    ∃ index html, cleanUrlRoutes true slash = [index, html] ∧
      (∀ path, scalar '\n' ∉ path →
        index.AppliesIff edition path
          (∃ dir html slash, dir ≠ some [] ∧ path = indexPath dir html slash) ∧
        html.AppliesIff edition path (∃ name slash, path = htmlPath name slash) ∧
        ∀ name slash, path = htmlPath name slash →
          html.firstGroup? edition path = .ok (some (some name))) ∧
      ∀ files : List Text, (∀ file ∈ files, scalar '\n' ∉ file) →
        List.Forall₂ (fun file u => u.html = scalar '/' :: file ∧
          ∃ name, u.clean = scalar '/' :: name ∧
            html.firstGroup? edition u.html = .ok (some (some name)))
          (files.filter fun file => htmlEnding.isSuffixOf file) (cleanUrls files) := by
  refine ⟨_, _, cleanUrlRoutes_true slash, fun path hline => ?_, fun files hfiles => ?_⟩
  · refine ⟨appliesIff_index _ hline, appliesIff_html _ hline, ?_⟩
    rintro name slash rfl
    exact firstGroup?_html _ hline
  · have hlines : ∀ file ∈ files.filter fun file => htmlEnding.isSuffixOf file,
        scalar '\n' ∉ file :=
      fun file hfile => hfiles file (List.mem_of_mem_filter hfile)
    refine ((List.forall₂_and_left _ _).2 ⟨hlines, forall₂_cleanUrls files⟩).imp ?_
    rintro file u ⟨hline, hu⟩
    obtain ⟨name, rfl, rfl⟩ := cleanUrl?_eq_some_iff.1 hu
    have hpath : scalar '/' :: (name ++ htmlEnding) = htmlPath name false :=
      congrArg (List.cons (scalar '/')) (List.append_nil _).symm
    have hpathLine : scalar '\n' ∉ htmlPath name false := by
      rw [← hpath]
      exact List.not_mem_cons_of_ne_of_not_mem (by decide) hline
    exact ⟨rfl, name, rfl, hpath ▸ firstGroup?_html _ hpathLine⟩

/-- The index of a directory is matched whatever stands behind it, and a file of another type
is not listed. -/
theorem cleanUrlRoutes_match_index :
    ∃ index html, cleanUrlRoutes true false = [index, html] ∧
      index.AppliesIff .strict "/blog/index.html/".text True ∧
      html.firstGroup? .strict "/blog/index.html/".text = .ok (some (some "blog/index".text)) ∧
      List.Forall₂ (fun file u => u.html = scalar '/' :: file ∧
        ∃ name, u.clean = scalar '/' :: name ∧
          html.firstGroup? .strict u.html = .ok (some (some name)))
        ["index.html".text] (cleanUrls ["index.html".text, "logo.png".text]) := by
  obtain ⟨index, html, hroutes, hmatch, hfiles⟩ := cleanUrlRoutes_match .strict false
  obtain ⟨hindex, -, hheld⟩ := hmatch "/blog/index.html/".text (by decide)
  refine ⟨index, html, hroutes, hindex.congr ?_, hheld "blog/index".text true rfl, ?_⟩
  · exact iff_true_intro ⟨some "blog".text, true, true, by decide, rfl⟩
  · exact hfiles ["index.html".text, "logo.png".text] (by decide)

/-! ### Trailing slashes -/

section Slashes

variable {q : Text} (l : String)

/-- A text that ends in no slash has a last character that is none. -/
theorem unslashed_iff :
    (q ≠ [] ∧ q.getLast? ≠ some (scalar '/')) ↔ ∃ (a : Text) (c : CodePoint), c ≠ '/' ∧
      q = a ++ [c] := by
  constructor
  · rintro ⟨hne, hlast⟩
    obtain ⟨a, c, rfl⟩ := (List.eq_nil_or_concat' q).resolve_left hne
    exact ⟨a, c, by simpa using hlast, rfl⟩
  · rintro ⟨a, c, hc, rfl⟩
    exact ⟨List.concat_ne_nil c a, by simpa using hc⟩

/-- The enforcing route applies to what ends in no slash. -/
theorem appliesIff_unslashed (hline : scalar '\n' ∉ scalar '/' :: q) :
    (redirectTo unslashedSource l).AppliesIff edition (scalar '/' :: q)
      (q ≠ [] ∧ q.getLast? ≠ some (scalar '/')) := by
  refine (Route.appliesIff_of_traces rfl parse_unslashedSource traces_unslashed hline).congr ?_
  rw [unslashed_iff]
  constructor
  · rintro ⟨-, a, c, -, hc, hpath, -⟩
    exact ⟨a, c, hc, (List.cons.inj hpath).2⟩
  · rintro ⟨a, c, hc, rfl⟩
    exact ⟨_, a, c, fun hfeed => hline (by simp [hfeed]), hc, rfl, rfl⟩

/-- The group of the enforcing route holds what follows the first slash. -/
theorem firstGroup?_unslashed (hline : scalar '\n' ∉ scalar '/' :: q)
    (hq : q ≠ [] ∧ q.getLast? ≠ some (scalar '/')) :
    (redirectTo unslashedSource l).firstGroup? edition (scalar '/' :: q) = .ok (some (some q)) := by
  obtain ⟨a, c, hc, rfl⟩ := unslashed_iff.1 hq
  refine Route.firstGroup?_eq_some rfl parse_unslashedSource traces_unslashed hline
    ⟨a, c, fun hfeed => hline (by simp [hfeed]), hc, rfl, rfl⟩ ?_
  rintro _ ⟨a', c', -, -, hpath, rfl⟩
  rw [(List.cons.inj hpath).2]
  rfl

/-- The stripping route applies to what ends in a second slash. -/
theorem appliesIff_slashed (hline : scalar '\n' ∉ scalar '/' :: q) :
    (redirectTo slashedSource l).AppliesIff edition (scalar '/' :: q)
      (q.getLast? = some (scalar '/')) := by
  refine (Route.appliesIff_of_traces rfl parse_slashedSource traces_slashed hline).congr ?_
  rw [List.getLast?_eq_some_iff]
  constructor
  · rintro ⟨-, a, -, hpath, -⟩
    exact ⟨a, (List.cons.inj hpath).2⟩
  · rintro ⟨a, rfl⟩
    exact ⟨_, a, fun hfeed => hline (by simp [hfeed]), rfl, rfl⟩

/-- The group of the stripping route holds what stands between the slashes. -/
theorem firstGroup?_slashed (hline : scalar '\n' ∉ scalar '/' :: (q ++ [scalar '/'])) :
    (redirectTo slashedSource l).firstGroup? edition (scalar '/' :: (q ++ [scalar '/'])) =
      .ok (some (some q)) := by
  refine Route.firstGroup?_eq_some rfl parse_slashedSource traces_slashed hline
    ⟨q, fun hfeed => hline (by simp [hfeed]), rfl, rfl⟩ ?_
  rintro _ ⟨a, -, hpath, rfl⟩
  obtain rfl : q = a := List.append_cancel_right (List.cons.inj hpath).2
  rfl

end Slashes

/-- Where the redirect that strips a slash leads. -/
theorem filled_stripping (q : Text) : Route.filled q "/$1".text = scalar '/' :: q :=
  congrArg (List.cons (scalar '/')) (List.append_nil q)

/-- **One setting for trailing slashes undoes the other.**  The enforcing route matches the
paths that do not end in a slash and holds what follows the first slash; the stripping route
matches those that end in a second one and holds what stands between the two.  So each path
but `/` is matched by one of them.  Where the enforcing route leads it does not match again,
and the stripping route leads from there back. -/
theorem trailingSlashRoutes_inverse (edition : Edition) :
    ∃ enforce strip, trailingSlashRoutes true = [enforce] ∧ trailingSlashRoutes false = [strip] ∧
      ∀ q : Text, scalar '\n' ∉ scalar '/' :: q →
        enforce.AppliesIff edition (scalar '/' :: q) (q ≠ [] ∧ q.getLast? ≠ some (scalar '/')) ∧
        strip.AppliesIff edition (scalar '/' :: q) (q.getLast? = some (scalar '/')) ∧
        (q ≠ [] → ∃ b, Matching.appliesTo edition enforce.toValue (scalar '/' :: q) = .ok b ∧
          Matching.appliesTo edition strip.toValue (scalar '/' :: q) = .ok !b) ∧
        (q.getLast? = some (scalar '/') → strip.firstGroup? edition (scalar '/' :: q) =
          .ok (some (some q.dropLast))) ∧
        (q ≠ [] ∧ q.getLast? ≠ some (scalar '/') →
          enforce.firstGroup? edition (scalar '/' :: q) = .ok (some (some q)) ∧
          ∃ target, enforce.target? edition (scalar '/' :: q) = .ok (some target) ∧
            Matching.appliesTo edition enforce.toValue target = .ok false ∧
            Matching.appliesTo edition strip.toValue target = .ok true ∧
            strip.target? edition target = .ok (some (scalar '/' :: q))) := by
  refine ⟨_, _, rfl, rfl, fun q hline => ?_⟩
  have henforce : (redirectTo unslashedSource "/$1/").AppliesIff edition (scalar '/' :: q) _ :=
    appliesIff_unslashed _ hline
  have hstrip : (redirectTo slashedSource "/$1").AppliesIff edition (scalar '/' :: q) _ :=
    appliesIff_slashed _ hline
  refine ⟨henforce, hstrip, fun hne => ?_, fun hlast => ?_, fun hq => ?_⟩
  · by_cases hlast : q.getLast? = some (scalar '/')
    · exact ⟨false, henforce.eq_false fun hq => hq.2 hlast, hstrip.eq_true hlast⟩
    · exact ⟨true, henforce.eq_true ⟨hne, hlast⟩, hstrip.eq_false hlast⟩
  · obtain ⟨a, rfl⟩ := List.getLast?_eq_some_iff.1 hlast
    rw [List.dropLast_concat]
    exact firstGroup?_slashed _ hline
  · have hlineTarget : scalar '\n' ∉ scalar '/' :: (q ++ [scalar '/']) := by
      simpa using hline
    have hheld : (redirectTo unslashedSource "/$1/").firstGroup? edition _ = _ :=
      firstGroup?_unslashed _ hline hq
    have hback : (redirectTo slashedSource "/$1").firstGroup? edition _ = _ :=
      firstGroup?_slashed _ hlineTarget
    refine ⟨hheld, _, Route.target?_of_firstGroup? hheld rfl, ?_, ?_, ?_⟩
    · refine (appliesIff_unslashed "/$1/" hlineTarget).eq_false fun hends => hends.2 ?_
      exact List.getLast?_concat
    · exact Route.appliesTo_of_firstGroup? hback
    · refine (Route.target?_of_firstGroup? hback rfl).trans ?_
      rw [Option.getD_some, filled_stripping]

/-- A path of two slashes is stripped of one; a name gets a slash and loses it again. -/
theorem trailingSlashRoutes_inverse_about :
    ∃ enforce strip, trailingSlashRoutes true = [enforce] ∧ trailingSlashRoutes false = [strip] ∧
      strip.firstGroup? .strict "//".text = .ok (some (some [])) ∧
      enforce.firstGroup? .strict "/about".text = .ok (some (some "about".text)) ∧
      ∃ target, enforce.target? .strict "/about".text = .ok (some target) ∧
        strip.target? .strict target = .ok (some "/about".text) := by
  obtain ⟨enforce, strip, henforce, hstrip, h⟩ := trailingSlashRoutes_inverse .strict
  obtain ⟨-, -, -, hslash, -⟩ := h [scalar '/'] (by decide)
  obtain ⟨-, -, -, -, hname⟩ := h "about".text (by decide)
  obtain ⟨hheld, target, htarget, -, -, hback⟩ := hname (by decide)
  exact ⟨enforce, strip, henforce, hstrip, hslash rfl, hheld, target, htarget, hback⟩

end Site
end RouteTable
