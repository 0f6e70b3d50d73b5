import Mathlib.Data.List.Nodup
import Mathlib.Data.List.Perm.Subperm
import Mathlib.Data.List.Permutation
import MarkupAssist.Proofs.Lines
import MarkupAssist.Proofs.SkeletonFindings

/-!
# How a skeleton is nested

The lines of a skeleton are read here with a stack, as somebody who knows the catalogue and nothing
else of the skeleton would read them.

* `Nesting`: the elements that are open at a line, and the elements that are still due inside each
  of them. `Nesting.Step` is the reading of one line: it opens the next element that is due, with
  all that belongs inside it; or it holds this element whole; or it closes the innermost element, of
  which nothing is due any more. Only an element that is not yet open is opened.
* `Nesting.run_expand`: the lines laid out from the tree of a tag are read as the one tag that is
  due, and the stack is behind them what it was before. The induction is that of
  `Catalogue.expand`, with an inner one along the children.
* `Nesting.Sound`: no element is open twice, and all open elements are known. Each step keeps this
  (`Nesting.Step.sound`), so at most as many are open as there are (`Nesting.Sound.depth_le`).

`skeleton_wellNested` puts this together with the cut of the text into lines.
-/

namespace MarkupAssist

open Text SkeletonLine

/-! ### Reading lines with a stack -/

/-- Where the reading of a skeleton stands. -/
structure Nesting where
  /-- The elements that come next, before the innermost open element is closed. -/
  due : List String
  /-- The open elements, innermost first, each with the elements that come behind it. -/
  opened : List (String × List String)

namespace Nesting

/-- The tags of the open elements, innermost first. -/
def path (s : Nesting) : List String :=
  s.opened.map Prod.fst

/-- The number of open elements. -/
def depth (s : Nesting) : Nat :=
  s.opened.length

/-- One tag is due, and nothing is open. -/
def start (tag : String) : Nesting :=
  ⟨[tag], []⟩

/-- Nothing is due, and nothing is open. -/
def done : Nesting :=
  ⟨[], []⟩

variable (catalogue : Catalogue) (settings : Settings)

/-- **One line.** -/
inductive Step : Nesting → List Char → Nesting → Prop
  /-- The next element is opened. It is not open yet, and its subtags are due in it. -/
  | opening {tag : String} {due : List String} {opened : List (String × List String)}
      {element : Element} {stops : List (String × Nat)}
      (known : catalogue.element? tag = some element) (fresh : tag ∉ opened.map Prod.fst)
      (inside : element.subtags ≠ []) (complete : stops.map Prod.fst = element.requiredNames) :
      Step ⟨tag :: due, opened⟩
        (List.replicate (opened.length * settings.indentSize.toNat) ' ' ++
          '<' :: (tag.toList ++ stops.flatMap (renderStop settings) ++ ['>']))
        ⟨element.subtags, (tag, due) :: opened⟩
  /-- The innermost element is closed when nothing is due in it. -/
  | closing {tag : String} {due : List String} {opened : List (String × List String)} :
      Step ⟨[], (tag, due) :: opened⟩
        (List.replicate (opened.length * settings.indentSize.toNat) ' ' ++
          '<' :: '/' :: (tag.toList ++ ['>']))
        ⟨due, opened⟩
  /-- The next element is opened and closed: there is nothing to be put into it, or it is open
  already. -/
  | whole {tag : String} {due : List String} {opened : List (String × List String)}
      {stops : List (String × Nat)}
      (leaf : ∀ element, catalogue.element? tag = some element →
        element.subtags = [] ∨ tag ∈ opened.map Prod.fst)
      (complete : stops.map Prod.fst = (catalogue.element? tag).elim [] Element.requiredNames) :
      Step ⟨tag :: due, opened⟩
        (List.replicate (opened.length * settings.indentSize.toNat) ' ' ++
          '<' :: (tag.toList ++ stops.flatMap (renderStop settings) ++ ['>']) ++
            '<' :: '/' :: (tag.toList ++ ['>']))
        ⟨due, opened⟩

/-- Some lines, one by one. -/
inductive Run : Nesting → List (List Char) → Nesting → Prop
  | nil {s : Nesting} : Run s [] s
  | cons {s t u : Nesting} {line : List Char} {lines : List (List Char)}
      (step : Step catalogue settings s line t) (run : Run t lines u) : Run s (line :: lines) u

variable {catalogue settings}

theorem Run.append {s t u : Nesting} {front back : List (List Char)}
    (hfront : Run catalogue settings s front t) (hback : Run catalogue settings t back u) :
    Run catalogue settings s (front ++ back) u := by
  induction hfront with
  | nil => exact hback
  | cons step _ ih => exact .cons step (ih hback)

/-- A run passes through a state at each of its lines. -/
theorem Run.exists_step {s u : Nesting} {front back : List (List Char)} {line : List Char}
    (h : Run catalogue settings s (front ++ line :: back) u) :
    ∃ t t', Run catalogue settings s front t ∧ Step catalogue settings t line t' ∧
      Run catalogue settings t' back u := by
  induction front generalizing s with
  | nil =>
    cases h with
    | cons step run => exact ⟨s, _, .nil, step, run⟩
  | cons first front ih =>
    cases h with
    | cons step run =>
      obtain ⟨t, t', hfront, hline, hback⟩ := ih run
      exact ⟨t, t', .cons step hfront, hline, hback⟩

/-! ### The lines of a tree -/

/-- The lines of the children are read as the subtags, one after the other. -/
theorem run_childLines {tags : List String} {opened : List (String × List String)}
    {tree : String → Expansion}
    (htree : ∀ tag due used, Run catalogue settings ⟨tag :: due, opened⟩
      (((tree tag).lines opened.length used).map (render settings)) ⟨due, opened⟩) (used : Nat) :
    Run catalogue settings ⟨tags, opened⟩
      ((Expansion.childLines opened.length used (tags.map tree)).map (render settings))
      ⟨[], opened⟩ := by
  induction tags generalizing used with
  | nil =>
    rw [List.map_nil, Expansion.childLines_nil]
    exact .nil
  | cons tag tags ih =>
    rw [List.map_cons, Expansion.childLines_cons, List.map_append]
    exact (htree tag tags used).append (ih _)

/-- An element without children takes one line. -/
theorem run_leaf {tag : String} {opened : List (String × List String)} {required : List String}
    (hleaf : ∀ element, catalogue.element? tag = some element →
      element.subtags = [] ∨ tag ∈ opened.map Prod.fst)
    (hrequired : required = (catalogue.element? tag).elim [] Element.requiredNames)
    (due : List String) (used : Nat) :
    Run catalogue settings ⟨tag :: due, opened⟩
      (((Expansion.node tag required []).lines opened.length used).map (render settings))
      ⟨due, opened⟩ := by
  rw [Expansion.lines_leaf]
  refine .cons (.whole hleaf ?_) .nil
  rw [List.zipIdx_map_fst, hrequired]

/-- **The lines of a tag are read as this tag.** The stack is left as it was. -/
theorem run_expand (path : List String) (tag : String) (due : List String)
    {opened : List (String × List String)} (hpath : opened.map Prod.fst = path) (used : Nat) :
    Run catalogue settings ⟨tag :: due, opened⟩
      (((catalogue.expand path tag).lines opened.length used).map (render settings))
      ⟨due, opened⟩ := by
  induction path, tag using Catalogue.expand.induct catalogue
    generalizing due opened used with
  | case1 path tag hnone =>
    rw [Catalogue.expand_of_unknown hnone]
    refine run_leaf ?_ ?_ due used
    · intro element hknown
      rw [hnone] at hknown
      cases hknown
    · rw [hnone, Option.elim_none]
  | case2 path tag element hknown hfresh ih =>
    have hnotMem : tag ∉ path := by simpa using hfresh
    rw [Catalogue.expand_of_known hknown, if_neg hnotMem]
    cases hsubtags : element.subtags with
    | nil =>
      refine run_leaf ?_ ?_ due used
      · intro element' hknown'
        rw [hknown] at hknown'
        obtain rfl := Option.some.inj hknown'
        exact .inl hsubtags
      · rw [hknown, Option.elim_some]
    | cons subtag subtags =>
      -- the subtags are due on a stack with the element on top, and leave it there
      have hopen : Step catalogue settings ⟨tag :: due, opened⟩
          (render settings (.opening opened.length tag (element.requiredNames.zipIdx (used + 1))))
          ⟨subtag :: subtags, (tag, due) :: opened⟩ := by
        rw [← hsubtags]
        refine .opening hknown (hpath ▸ hnotMem) ?_ (List.zipIdx_map_fst _ _)
        rw [hsubtags]
        exact List.cons_ne_nil _ _
      have hinside : Run catalogue settings ⟨subtag :: subtags, (tag, due) :: opened⟩
          ((Expansion.childLines (opened.length + 1) (used + element.requiredNames.length)
            ((subtag :: subtags).map (catalogue.expand (tag :: path)))).map (render settings))
          ⟨[], (tag, due) :: opened⟩ := by
        apply run_childLines
        intro child due' used'
        have hpath' : ((tag, due) :: opened).map Prod.fst = tag :: path := congrArg (tag :: ·) hpath
        exact ih child due' hpath' used'
      have hclose : Step catalogue settings ⟨[], (tag, due) :: opened⟩
          (render settings (.closing opened.length tag)) ⟨due, opened⟩ := .closing
      rw [List.map_cons, Expansion.lines_node, List.map_cons, List.map_append]
      exact .cons hopen (hinside.append (.cons hclose .nil))
  | case3 path tag element hknown hfresh =>
    have hmem : tag ∈ path := by simpa using hfresh
    rw [Catalogue.expand_of_known hknown, if_pos hmem]
    refine run_leaf ?_ ?_ due used
    · intro _ _
      exact .inr (hpath ▸ hmem)
    · rw [hknown, Option.elim_some]

/-! ### What a run keeps -/

/-- No element is open twice, and all open elements are known. -/
structure Sound (catalogue : Catalogue) (s : Nesting) : Prop where
  nodup : s.path.Nodup
  known : ∀ tag ∈ s.path, catalogue.isKnown tag = true

theorem sound_start (tag : String) : Sound catalogue (start tag) :=
  ⟨List.nodup_nil, fun _ h => absurd h List.not_mem_nil⟩

theorem Step.sound {s t : Nesting} {line : List Char} (h : Step catalogue settings s line t)
    (hs : Sound catalogue s) : Sound catalogue t := by
  obtain ⟨hnodup, hknown⟩ := hs
  cases h with
  | opening known fresh _ _ =>
    refine ⟨List.nodup_cons.mpr ⟨fresh, hnodup⟩, ?_⟩
    intro tag htag
    rcases List.mem_cons.mp htag with rfl | htag
    · exact Catalogue.isKnown_iff.mpr ⟨_, known⟩
    · exact hknown tag htag
  | closing => exact ⟨(List.nodup_cons.mp hnodup).2, fun tag h => hknown tag (.tail _ h)⟩
  | whole => exact ⟨hnodup, hknown⟩

theorem Run.sound {s t : Nesting} {lines : List (List Char)} (h : Run catalogue settings s lines t)
    (hs : Sound catalogue s) : Sound catalogue t := by
  induction h with
  | nil => exact hs
  | cons step _ ih => exact ih (step.sound hs)

/-- **The depth is bounded by the number of elements.** -/
theorem Sound.depth_le {s : Nesting} (hs : Sound catalogue s) :
    s.depth ≤ catalogue.elements.length := by
  have hsubset : s.path ⊆ catalogue.elements.names := by
    intro tag htag
    obtain ⟨element, helement⟩ := Catalogue.isKnown_iff.mp (hs.known tag htag)
    exact List.mem_map_of_mem (Entries.mem_of_get? helement)
  calc s.depth = s.path.length := (List.length_map _).symm
    _ ≤ catalogue.elements.names.length := (hs.nodup.subperm hsubset).length_le
    _ = catalogue.elements.length := List.length_map _

/-- A line is indented by the elements that are open both before and behind it. -/
theorem Step.exists_indent {s t : Nesting} {line : List Char}
    (h : Step catalogue settings s line t) :
    ∃ rest, line =
      List.replicate (min s.depth t.depth * settings.indentSize.toNat) ' ' ++ '<' :: rest := by
  cases h with
  | @opening tag due opened element stops =>
    have hmin : min (depth ⟨tag :: due, opened⟩) (depth ⟨element.subtags, (tag, due) :: opened⟩) =
        opened.length := Nat.min_eq_left (Nat.le_succ _)
    rw [hmin]
    exact ⟨_, rfl⟩
  | @closing tag due opened =>
    have hmin : min (depth ⟨[], (tag, due) :: opened⟩) (depth ⟨due, opened⟩) = opened.length :=
      Nat.min_eq_right (Nat.le_succ _)
    rw [hmin]
    exact ⟨_, rfl⟩
  | @whole tag due opened stops =>
    have hmin : min (depth ⟨tag :: due, opened⟩) (depth ⟨due, opened⟩) = opened.length :=
      Nat.min_self _
    rw [hmin, List.append_assoc]
    exact ⟨_, rfl⟩

/-! ### Lines without line feeds -/

/-- The elements that are due or open have tags without a line feed. -/
structure OneLine (s : Nesting) : Prop where
  due : ∀ tag ∈ s.due, '\n' ∉ tag.toList
  opened : ∀ e ∈ s.opened, '\n' ∉ e.1.toList ∧ ∀ tag ∈ e.2, '\n' ∉ tag.toList

end Nesting

/-- No tag and no attribute of a catalogue has a line feed in its name. -/
structure Catalogue.OneLineNames (catalogue : Catalogue) : Prop where
  tags : ∀ e ∈ catalogue.elements, '\n' ∉ e.1.toList
  attributes : ∀ e ∈ catalogue.elements, ∀ name ∈ e.2.attributes.names, '\n' ∉ name.toList

/-- The attributes of an opening tag stand on its line. -/
theorem newline_notMem_stops {settings : Settings} {stops : List (String × Nat)}
    (hstops : ∀ s ∈ stops, '\n' ∉ s.1.toList) :
    '\n' ∉ stops.flatMap (renderStop settings) := by
  intro hmem
  obtain ⟨stop, hstop, hmem⟩ := List.mem_flatMap.mp hmem
  have hquote : '\n' ≠ settings.quotes.char := by
    cases settings.quotes <;> decide
  have hdigits : '\n' ∉ Nat.toDigits 10 stop.2 := notMem_toDigits rfl stop.2
  simp [renderStop, hstops stop hstop, hquote, hdigits] at hmem

section OneLine

variable {catalogue : Catalogue} (hnames : catalogue.OneLineNames) (hclosed : catalogue.Closed)
  {settings : Settings}

include hnames

theorem Catalogue.OneLineNames.tag {tag : String} (htag : catalogue.isKnown tag = true) :
    '\n' ∉ tag.toList := by
  obtain ⟨element, helement⟩ := Catalogue.isKnown_iff.mp htag
  exact hnames.tags _ (Entries.mem_of_get? helement)

theorem Catalogue.OneLineNames.stops (tag : String) {stops : List (String × Nat)}
    (hcomplete : stops.map Prod.fst = (catalogue.element? tag).elim [] Element.requiredNames) :
    '\n' ∉ stops.flatMap (renderStop settings) := by
  apply newline_notMem_stops
  intro stop hstop
  have hmem : stop.1 ∈ stops.map Prod.fst := List.mem_map_of_mem hstop
  rw [hcomplete] at hmem
  cases hknown : catalogue.element? tag with
  | none =>
    rw [hknown] at hmem
    cases hmem
  | some element =>
    rw [hknown, Option.elim_some] at hmem
    exact hnames.attributes _ (Entries.mem_of_get? hknown) _
      ((List.filter_sublist.map _).subset hmem)

include hclosed

namespace Nesting

theorem Step.oneLine {s t : Nesting} {line : List Char} (h : Step catalogue settings s line t)
    (hs : OneLine s) : '\n' ∉ line ∧ OneLine t := by
  obtain ⟨hdue, hopened⟩ := hs
  have hindent : ∀ n, '\n' ∉ List.replicate n ' ' := by
    intro n hmem
    exact absurd (List.eq_of_mem_replicate hmem) (by decide)
  cases h with
  | @opening tag due opened element stops known fresh inside complete =>
    have hstops : '\n' ∉ stops.flatMap (renderStop settings) :=
      hnames.stops tag (by rw [complete, known, Option.elim_some])
    obtain ⟨htag, hdue⟩ := List.forall_mem_cons.mp hdue
    refine ⟨by simp [hindent, htag, hstops], ?_, ?_⟩
    · intro subtag hsubtag
      exact hnames.tag (hclosed _ (Entries.mem_of_get? known) subtag hsubtag)
    · exact List.forall_mem_cons.mpr ⟨⟨htag, hdue⟩, hopened⟩
  | @closing tag due opened =>
    obtain ⟨⟨htag, hdue⟩, hopened⟩ := List.forall_mem_cons.mp hopened
    exact ⟨by simp [hindent, htag], hdue, hopened⟩
  | @whole tag due opened stops leaf complete =>
    have hstops : '\n' ∉ stops.flatMap (renderStop settings) := hnames.stops tag complete
    obtain ⟨htag, hdue⟩ := List.forall_mem_cons.mp hdue
    exact ⟨by simp [hindent, htag, hstops], hdue, hopened⟩

theorem Run.oneLine {s t : Nesting} {lines : List (List Char)}
    (h : Run catalogue settings s lines t) (hs : OneLine s) : ∀ line ∈ lines, '\n' ∉ line := by
  induction h with
  | nil => exact fun line hline => absurd hline List.not_mem_nil
  | cons step _ ih =>
    obtain ⟨hline, ht⟩ := step.oneLine hnames hclosed hs
    exact List.forall_mem_cons.mpr ⟨hline, ih ht⟩

end Nesting

end OneLine

/-- A text that is joined from lines has just these lines. -/
theorem Document.rawLines_intercalate {doc : Document} {lines : List (List Char)}
    (hne : lines ≠ []) (hlines : ∀ line ∈ lines, '\n' ∉ line)
    (hchars : doc.chars = List.intercalate ['\n'] lines) : doc.rawLines = lines := by
  have hjoin : ∀ (above : List (List Char)) (last : List Char),
      List.intercalate ['\n'] (above ++ [last]) = unlines above ++ last := by
    intro above last
    induction above with
    | nil => exact List.intercalate_singleton
    | cons line above ih =>
      have hcons : List.intercalate ['\n'] (line :: (above ++ [last])) =
          line ++ '\n' :: List.intercalate ['\n'] (above ++ [last]) := by
        cases above <;> simp [List.intercalate_cons_cons]
      rw [List.cons_append, hcons, ih, unlines_cons, List.append_assoc, List.cons_append]
  obtain rfl | ⟨above, last, rfl⟩ := List.eq_nil_or_concat lines
  · exact absurd rfl hne
  · rw [List.concat_eq_append] at hchars hlines ⊢
    obtain ⟨habove, hlast⟩ := List.forall_mem_append.mp hlines
    exact rawLines_eq (hchars.trans (hjoin above last)) habove (hlast last List.mem_cons_self)

/-! ### Skeletons -/

/-- **A skeleton is well nested, however the elements refer to each other.** It consists of lines,
which are the lines of its text unless its own tag has a line feed. Read with a stack, they start
with the tag, open and close each element under its name, and have in each element that is opened
its subtags in order. At each line the open elements are known and no one is open twice, so there
are at most as many as the catalogue has elements. An element that is open already is not opened
again. Each line is indented by the number of elements around it. -/
theorem skeleton_wellNested {sources : List (String × String)} {catalogue : Catalogue}
    (hload : Catalogue.load sources = .ok catalogue) (hnames : catalogue.OneLineNames)
    (tag : String) (settings : Settings) :
    let text := '<' :: (catalogue.skeleton tag settings).toList
    ∃ lines : List (List Char), text = List.intercalate ['\n'] lines ∧
      ('\n' ∉ tag.toList → ∀ language, (⟨text, language⟩ : Document).rawLines = lines) ∧
      Nesting.Run catalogue settings (.start tag) lines .done ∧
      ∀ front line back, lines = front ++ line :: back →
        ∃ s t, Nesting.Run catalogue settings (.start tag) front s ∧
          Nesting.Step catalogue settings s line t ∧
          Nesting.Run catalogue settings t back .done ∧
          s.Sound catalogue ∧ t.Sound catalogue ∧
          s.depth ≤ catalogue.elements.length ∧ t.depth ≤ catalogue.elements.length ∧
          ∃ rest, line = List.replicate (min s.depth t.depth * settings.indentSize.toNat) ' ' ++
            '<' :: rest := by
  intro text
  set lines := ((catalogue.expand [] tag).lines 0 0).map (render settings) with hlines
  have hrun : Nesting.Run catalogue settings (.start tag) lines .done :=
    Nesting.run_expand [] tag [] rfl 0
  have htext : text = List.intercalate ['\n'] lines := cons_skeleton catalogue tag settings
  refine ⟨lines, htext, ?_, hrun, ?_⟩
  · intro htag language
    have hclosed : catalogue.Closed := fun e he subtag hsubtag =>
      Catalogue.isKnown_of_subtag hload he hsubtag
    have hstart : (Nesting.start tag).OneLine :=
      ⟨List.forall_mem_singleton.mpr htag, fun e he => absurd he List.not_mem_nil⟩
    have hne : lines ≠ [] := by
      intro hnil
      rw [hnil] at hrun
      cases hrun
    exact Document.rawLines_intercalate hne (hrun.oneLine hnames hclosed hstart) htext
  · intro front line back hsplit
    rw [hsplit] at hrun
    obtain ⟨s, t, hfront, hstep, hback⟩ := hrun.exists_step
    have hs : s.Sound catalogue := hfront.sound (Nesting.sound_start tag)
    have ht : t.Sound catalogue := hstep.sound hs
    exact ⟨s, t, hfront, hstep, hback, hs, ht, hs.depth_le, ht.depth_le, hstep.exists_indent⟩

/-- A source with an element that has another one twice inside it, and is inside that one. -/
def menuSource : String :=
  "\x7b\"f-menu\": \x7b\"subtags\": [\"f-item\", \"f-item\"]\x7d, " ++
    "\"f-item\": \x7b\"subtags\": [\"f-menu\"], \"attributes\": \x7b" ++
      "\"label\": \x7b\"isRequired\": true\x7d\x7d\x7d\x7d"

/-- The catalogue of `menuSource`. -/
def menuCatalogue : Catalogue where
  elements :=
    [("f-menu", { subtags := ["f-item", "f-item"] }),
     ("f-item", { subtags := ["f-menu"], attributes := [("label", { isRequired := true })] })]

/-- The lines of a skeleton of `menuCatalogue`. -/
def menuLines : List String :=
  ["<f-menu>",
   "   <f-item label=\"$1\">",
   "      <f-menu></f-menu>",
   "   </f-item>",
   "   <f-item label=\"$2\">",
   "      <f-menu></f-menu>",
   "   </f-item>",
   "</f-menu>"]

/-- An element is opened twice on one level, and the one around it is not opened again. -/
theorem skeleton_wellNested_menu :
    Catalogue.load [("menu.json", menuSource)] = .ok menuCatalogue ∧
      menuCatalogue.OneLineNames ∧
      Nesting.Run menuCatalogue { indentSize := 3 } (.start "f-menu")
        (menuLines.map String.toList) .done := by
  have hload : Catalogue.load [("menu.json", menuSource)] = .ok menuCatalogue := by cbv
  have hnames : menuCatalogue.OneLineNames := by
    constructor <;> simp [menuCatalogue, Entries.names]
  obtain ⟨lines, -, hraw, hrun, -⟩ :=
    skeleton_wellNested hload hnames "f-menu" { indentSize := 3 }
  have hlines : (⟨'<' :: (menuCatalogue.skeleton "f-menu" { indentSize := 3 }).toList,
      "html"⟩ : Document).rawLines = menuLines.map String.toList := by
    rw [cons_skeleton]
    cbv
  rw [← hlines, hraw (by decide)]
  exact ⟨hload, hnames, hrun⟩

end MarkupAssist
