import MarkupAssist.Proofs.LoadCriterion
import MarkupAssist.Proofs.SkeletonNesting

/-!
# The tab stops of a skeleton

An editor knows nothing of the tree behind a skeleton. It reads the text and takes every dollar
sign with the digits behind it for a tab stop (`tabStops`). What it finds is described here by the
elements that the text is about, without the tree.

* `WrittenIn`: a text consists of the opening tags of instances, in order, and of other text that
  has no dollar sign. So all tab stops stand in the opening tags (`WrittenIn.tabStops_eq`).

The lines of a skeleton are such a text, one written below the other (`writtenIn_linesText`). Which
instances they are about (`Catalogue.unfolds_expand`) and that the numbers have no gap
(`Expansion.numbers_lines`) is known from the layout. `skeleton_stops_numbered` puts this together.
-/

namespace MarkupAssist

open Text SkeletonLine

/-! ### Reading tab stops -/

/-- The tab stops of a text from left to right: the digits behind each dollar sign. -/
def tabStops : List Char → List (List Char)
  | [] => []
  | c :: cs => if c = '$' then cs.takeWhile Char.isDigit :: tabStops cs else tabStops cs

theorem tabStops_of_notMem {front : List Char} (hfront : '$' ∉ front) (cs : List Char) :
    tabStops (front ++ cs) = tabStops cs := by
  induction front with
  | nil => rfl
  | cons c front ih =>
    rw [List.mem_cons, not_or] at hfront
    rw [List.cons_append, tabStops, if_neg (Ne.symm hfront.1), ih hfront.2]

theorem tabStops_eq_nil {cs : List Char} (hcs : '$' ∉ cs) : tabStops cs = [] := by
  have h : tabStops (cs ++ []) = tabStops [] := tabStops_of_notMem hcs []
  rwa [List.append_nil] at h

section Stops

variable {settings : Settings}

/-- An attribute with a tab stop. The quote behind the number ends it. -/
theorem tabStops_renderStop {stop : String × Nat} (hname : '$' ∉ stop.1.toList) (cs : List Char) :
    tabStops (renderStop settings stop ++ cs) = Nat.toDigits 10 stop.2 :: tabStops cs := by
  -- the one dollar sign stands between the opening quote and the number
  have hfront : '$' ∉ ' ' :: (stop.1.toList ++ ['=', settings.quotes.char]) := by
    simp [hname, dollar_ne_char]
  have hback : '$' ∉ Nat.toDigits 10 stop.2 ++ [settings.quotes.char] := by
    rw [List.mem_append, List.mem_singleton, not_or]
    exact ⟨notMem_toDigits rfl stop.2, dollar_ne_char _⟩
  have hsplit : renderStop settings stop ++ cs =
      (' ' :: (stop.1.toList ++ ['=', settings.quotes.char])) ++
        '$' :: ((Nat.toDigits 10 stop.2 ++ [settings.quotes.char]) ++ cs) := by
    simp [renderStop]
  have hdigits : ((Nat.toDigits 10 stop.2 ++ [settings.quotes.char]) ++ cs).takeWhile Char.isDigit =
      Nat.toDigits 10 stop.2 := by
    rw [List.append_assoc]
    exact takeWhile_toDigits _ (isDigit_char settings.quotes)
  rw [hsplit, tabStops_of_notMem hfront, tabStops, if_pos rfl, hdigits, tabStops_of_notMem hback]

theorem tabStops_stops {stops : List (String × Nat)} (hstops : ∀ s ∈ stops, '$' ∉ s.1.toList)
    (cs : List Char) :
    tabStops (stops.flatMap (renderStop settings) ++ cs) =
      stops.map (fun s => Nat.toDigits 10 s.2) ++ tabStops cs := by
  induction stops with
  | nil => rfl
  | cons stop stops ih =>
    obtain ⟨hstop, hstops⟩ := List.forall_mem_cons.mp hstops
    rw [List.flatMap_cons, List.append_assoc, tabStops_renderStop hstop, ih hstops, List.map_cons,
      List.cons_append]

end Stops

/-! ### Texts with tab stops -/

/-- A text consists of the opening tags of instances, in order, and has no dollar sign outside of
them. -/
inductive WrittenIn (settings : Settings) : List TagInstance → List Char → Prop
  | rest {cs : List Char} (plain : '$' ∉ cs) : WrittenIn settings [] cs
  | opening {front cs : List Char} {tag : String} {stops : List (String × Nat)}
      {more : List TagInstance} (plain : '$' ∉ front) (behind : WrittenIn settings more cs) :
      WrittenIn settings (⟨tag, stops⟩ :: more)
        (front ++ '<' :: (tag.toList ++ stops.flatMap (renderStop settings) ++ '>' :: cs))

namespace WrittenIn

variable {settings : Settings} {instances : List TagInstance} {cs : List Char}

theorem append_left (h : WrittenIn settings instances cs) {front : List Char}
    (hfront : '$' ∉ front) : WrittenIn settings instances (front ++ cs) := by
  cases h with
  | rest plain => exact .rest (List.not_mem_append hfront plain)
  | opening plain behind =>
    rw [← List.append_assoc]
    exact .opening (List.not_mem_append hfront plain) behind

/-- **The tab stops of a text are those of the instances in it.** -/
theorem tabStops_eq (h : WrittenIn settings instances cs)
    (htags : ∀ i ∈ instances, '$' ∉ i.tag.toList)
    (hstops : ∀ i ∈ instances, ∀ s ∈ i.stops, '$' ∉ s.1.toList) :
    tabStops cs = (instances.flatMap (·.stops)).map fun s => Nat.toDigits 10 s.2 := by
  induction h with
  | rest plain => exact tabStops_eq_nil plain
  | @opening front cs tag stops more plain _ ih =>
    obtain ⟨htag, htags⟩ := List.forall_mem_cons.mp htags
    obtain ⟨hstop, hstops⟩ := List.forall_mem_cons.mp hstops
    have hname : '$' ∉ '<' :: tag.toList := by simpa using htag
    have hend : '$' ∉ ['>'] := by decide
    calc tabStops (front ++ '<' :: (tag.toList ++ stops.flatMap (renderStop settings) ++ '>' :: cs))
        = tabStops (('<' :: tag.toList) ++ (stops.flatMap (renderStop settings) ++
            (['>'] ++ cs))) := by
          rw [tabStops_of_notMem plain]
          simp
      _ = stops.map (fun s => Nat.toDigits 10 s.2) ++ tabStops (['>'] ++ cs) := by
          rw [tabStops_of_notMem hname, tabStops_stops hstop]
      _ = _ := by
          rw [tabStops_of_notMem hend, ih htags hstops, List.flatMap_cons, List.map_append]

end WrittenIn

namespace Catalogue

/-- No tag and no attribute of a catalogue has a dollar sign in its name. -/
structure DollarFree (catalogue : Catalogue) : Prop where
  tags : ∀ e ∈ catalogue.elements, '$' ∉ e.1.toList
  attributes : ∀ e ∈ catalogue.elements, ∀ name ∈ e.2.attributes.names, '$' ∉ name.toList

instance (catalogue : Catalogue) : Decidable catalogue.DollarFree :=
  decidable_of_iff
    ((∀ e ∈ catalogue.elements, '$' ∉ e.1.toList) ∧
      ∀ e ∈ catalogue.elements, ∀ name ∈ e.2.attributes.names, '$' ∉ name.toList)
    ⟨fun h => ⟨h.1, h.2⟩, fun h => ⟨h.tags, h.attributes⟩⟩

end Catalogue

/-! ### The lines of a skeleton -/

namespace SkeletonLine

/-- The tag of a line. -/
def tag : SkeletonLine → String
  | opening _ tag _ => tag
  | closing _ tag => tag
  | whole _ tag _ => tag

theorem tag_of_mem_instances {line : SkeletonLine} {i : TagInstance} (h : i ∈ line.instances) :
    i.tag = line.tag := by
  cases line with
  | opening depth tag stops => rw [List.mem_singleton.mp h, SkeletonLine.tag]
  | closing depth tag => cases h
  | whole depth tag stops => rw [List.mem_singleton.mp h, SkeletonLine.tag]

end SkeletonLine

theorem numbers_eq (lines : List SkeletonLine) :
    Expansion.numbers lines =
      ((lines.flatMap SkeletonLine.instances).flatMap (·.stops)).map Prod.snd := by
  rw [Expansion.numbers, List.flatMap_assoc]
  simp only [SkeletonLine.stops_instances]

section Written

variable {settings : Settings}

/-- A line adds its instance in front of what is written below it. -/
theorem writtenIn_render {line : SkeletonLine} (htag : '$' ∉ line.tag.toList)
    {instances : List TagInstance} {cs : List Char} (h : WrittenIn settings instances cs) :
    WrittenIn settings (line.instances ++ instances) (line.render settings ++ cs) := by
  have hindent : ∀ depth, '$' ∉ indent settings depth := by
    intro depth hmem
    exact absurd (List.eq_of_mem_replicate hmem) (by decide)
  have hclosing : '$' ∉ renderClosing line.tag := by
    simpa [renderClosing] using htag
  cases line with
  | opening depth tag stops =>
    have hopening : WrittenIn settings (⟨tag, stops⟩ :: instances) _ := .opening (hindent depth) h
    simpa [render, renderOpening, SkeletonLine.instances] using hopening
  | closing depth tag =>
    exact h.append_left (List.not_mem_append (hindent depth) hclosing)
  | whole depth tag stops =>
    -- the closing tag belongs to the text behind the opening tag
    have hwhole : WrittenIn settings (⟨tag, stops⟩ :: instances) _ :=
      .opening (hindent depth) (h.append_left hclosing)
    simpa [render, renderOpening, SkeletonLine.instances, SkeletonLine.tag] using hwhole

theorem writtenIn_linesText {lines : List SkeletonLine}
    (htags : ∀ line ∈ lines, '$' ∉ line.tag.toList) :
    WrittenIn settings (lines.flatMap SkeletonLine.instances) (linesText settings lines) := by
  induction lines with
  | nil => exact .rest List.not_mem_nil
  | cons line lines ih =>
    obtain ⟨htag, htags⟩ := List.forall_mem_cons.mp htags
    rw [List.flatMap_cons]
    cases lines with
    | nil =>
      have hend : WrittenIn settings [] [] := .rest List.not_mem_nil
      rw [linesText_singleton]
      simpa using writtenIn_render htag hend
    | cons next lines =>
      have hbreak : '$' ∉ ['\n'] := by decide
      rw [linesText_cons_cons]
      exact writtenIn_render htag ((ih htags).append_left hbreak)

end Written

namespace Catalogue

variable {catalogue : Catalogue}

/-- Every line of a skeleton is about a tag without a dollar sign, and an instance has a tab stop
for each attribute that it requires. -/
theorem stops_of_mem_lines {sources : List (String × String)}
    (hload : load sources = .ok catalogue) (hnames : catalogue.DollarFree) {tag : String}
    (htag : catalogue.isKnown tag = false → '$' ∉ tag.toList) :
    ∀ line ∈ (catalogue.expand [] tag).lines 0 0, '$' ∉ line.tag.toList ∧
      ∀ i ∈ line.instances, i.stops.map Prod.fst = catalogue.requiredNames i.tag := by
  intro line hline
  cases hknown : catalogue.isKnown tag with
  | true =>
    -- a catalogue that loads knows all subtags, so each line is about one of its elements
    have hdollar : ∀ {t element}, catalogue.element? t = some element → '$' ∉ t.toList :=
      fun h => hnames.tags _ (Entries.mem_of_get? h)
    cases conforms_skeleton hload hknown line hline with
    | opening known complete =>
      rw [← requiredNames_of_known known] at complete
      exact ⟨hdollar known, List.forall_mem_singleton.mpr complete⟩
    | closing known => exact ⟨hdollar known, fun i hi => absurd hi List.not_mem_nil⟩
    | whole known complete =>
      rw [← requiredNames_of_known known] at complete
      exact ⟨hdollar known, List.forall_mem_singleton.mpr complete⟩
  | false =>
    -- the only line is that of the tag itself
    have hnone : catalogue.element? tag = none := by
      rw [Option.eq_none_iff_forall_ne_some]
      intro element helement
      rw [isKnown_iff.mpr ⟨element, helement⟩] at hknown
      cases hknown
    rw [expand_of_unknown hnone, Expansion.lines_leaf, List.mem_singleton] at hline
    rw [hline]
    refine ⟨htag hknown, List.forall_mem_singleton.mpr ?_⟩
    rw [requiredNames, hnone]
    rfl

theorem DollarFree.of_mem_requiredNames (hnames : catalogue.DollarFree) {tag name : String}
    (h : name ∈ catalogue.requiredNames tag) : '$' ∉ name.toList := by
  rw [requiredNames] at h
  cases hknown : catalogue.element? tag with
  | none =>
    rw [hknown] at h
    cases h
  | some element =>
    rw [hknown, Option.elim_some] at h
    exact hnames.attributes _ (Entries.mem_of_get? hknown) _
      ((List.filter_sublist.map _).subset h)

/-- The required attributes are found by their definition. -/
theorem mem_requiredNames_iff {sources : List (String × String)}
    (hload : load sources = .ok catalogue) {tag name : String} :
    name ∈ catalogue.requiredNames tag ↔
      ∃ attr, catalogue.attribute? tag name = some attr ∧ attr.isRequired = true := by
  rw [requiredNames]
  cases hknown : catalogue.element? tag with
  | none => simp [attribute?, hknown]
  | some element =>
    have hnodup := nodup_attributes_of_load hload (Entries.mem_of_get? hknown)
    -- the names are distinct, so a lookup finds each declaration and not only the first of a name
    have hattribute : ∀ attr, catalogue.attribute? tag name = some attr ↔
        (name, attr) ∈ element.attributes := by
      intro attr
      rw [attribute?, hknown, Option.bind_some, Entries.get?_eq_some_iff hnodup]
    simp only [hattribute, Option.elim_some, Element.requiredNames, Element.required,
      Entries.names, List.mem_map, List.mem_filter]
    constructor
    · rintro ⟨⟨_, attr⟩, h, rfl⟩
      exact ⟨attr, h⟩
    · rintro ⟨attr, h⟩
      exact ⟨(name, attr), h, rfl⟩

end Catalogue

/-- **Tab stops are numbered from 1 on, without a gap and without repetition.** The catalogue is any
that loads and has no dollar sign in its names. Its elements may refer to each other in cycles. The
tag is any of its tags, or an unknown one without a dollar sign. Its skeleton is written with the
instances in its expansion, and all tab stops stand in their opening tags. An instance has one tab
stop for each attribute that its element requires, in the order of declaration, and none for any
other attribute. From left to right the tab stops are numbered from 1 to the number of attributes
that all the instances require. -/
theorem skeleton_stops_numbered {sources : List (String × String)} {catalogue : Catalogue}
    (hload : Catalogue.load sources = .ok catalogue) (hnames : catalogue.DollarFree) {tag : String}
    (htag : catalogue.isKnown tag = false → '$' ∉ tag.toList) (settings : Settings) :
    ∃ instances : List TagInstance,
      catalogue.Unfolds [] [tag] (instances.map (·.tag)) ∧
      WrittenIn settings instances ('<' :: (catalogue.skeleton tag settings).toList) ∧
      (∀ i ∈ instances, i.stops.map Prod.fst = catalogue.requiredNames i.tag ∧
        ∀ name, name ∈ i.stops.map Prod.fst ↔
          ∃ attr, catalogue.attribute? i.tag name = some attr ∧ attr.isRequired = true) ∧
      (let count := ((instances.map (·.tag)).flatMap catalogue.requiredNames).length
       (instances.flatMap (·.stops)).map Prod.snd = List.range' 1 count ∧
       tabStops (catalogue.skeleton tag settings).toList =
         (List.range' 1 count).map (Nat.toDigits 10)) := by
  set lines := (catalogue.expand [] tag).lines 0 0 with hlines
  have hline := Catalogue.stops_of_mem_lines hload hnames htag
  have hinstance : ∀ i ∈ lines.flatMap SkeletonLine.instances,
      '$' ∉ i.tag.toList ∧ i.stops.map Prod.fst = catalogue.requiredNames i.tag := by
    intro i hi
    obtain ⟨line, hmem, hi⟩ := List.mem_flatMap.mp hi
    refine ⟨?_, (hline line hmem).2 i hi⟩
    rw [tag_of_mem_instances hi]
    exact (hline line hmem).1
  have hwritten : WrittenIn settings (lines.flatMap SkeletonLine.instances)
      ('<' :: (catalogue.skeleton tag settings).toList) := by
    rw [cons_skeleton]
    exact writtenIn_linesText fun line h => (hline line h).1
  refine ⟨_, Catalogue.unfolds_expand [] tag 0 0, hwritten, ?_, ?_⟩
  · intro i hi
    refine ⟨(hinstance i hi).2, fun name => ?_⟩
    rw [(hinstance i hi).2, Catalogue.mem_requiredNames_iff hload]
  · intro count
    have hnumbers : ((lines.flatMap SkeletonLine.instances).flatMap (·.stops)).map Prod.snd =
        List.range' 1 (catalogue.expand [] tag).stopCount := by
      rw [← numbers_eq, Expansion.numbers_lines]
    -- each instance has as many tab stops as its tag has required attributes
    have hrequired : ((lines.flatMap SkeletonLine.instances).map (·.tag)).flatMap
        catalogue.requiredNames =
          ((lines.flatMap SkeletonLine.instances).flatMap (·.stops)).map Prod.fst := by
      rw [List.flatMap_map, List.map_flatMap]
      exact List.flatMap_congr fun i hi => (hinstance i hi).2.symm
    have hcount : (catalogue.expand [] tag).stopCount = count := by
      have hlength := congrArg List.length hnumbers
      rw [List.length_map, List.length_range'] at hlength
      rw [← hlength, ← List.length_map Prod.fst, ← hrequired]
    rw [hcount] at hnumbers
    refine ⟨hnumbers, ?_⟩
    have hfree : ∀ i ∈ lines.flatMap SkeletonLine.instances, ∀ s ∈ i.stops, '$' ∉ s.1.toList := by
      intro i hi s hs
      have hname : s.1 ∈ catalogue.requiredNames i.tag := by
        rw [← (hinstance i hi).2]
        exact List.mem_map_of_mem hs
      exact hnames.of_mem_requiredNames hname
    have hstops := hwritten.tabStops_eq (fun i hi => (hinstance i hi).1) hfree
    rw [tabStops, if_neg (by decide)] at hstops
    rw [hstops, ← hnumbers, List.map_map]
    rfl

/-- A source with a list whose items hold lists. The list requires two of its attributes, and the
one between them is a default. -/
def listSource : String :=
  "\x7b\"f-ul\":\x7b\"subtags\":[\"f-li\",\"f-li\"],\"defaults\":[\"gap\"],\"attributes\":\x7b" ++
    "\"id\":\x7b\"isRequired\":true\x7d,\"gap\":\x7b\x7d," ++
      "\"role\":\x7b\"isRequired\":true\x7d\x7d\x7d,\"f-li\":\x7b\"subtags\":[\"f-ul\"]\x7d\x7d"

/-- The catalogue of `listSource`. -/
def listCatalogue : Catalogue where
  elements :=
    [("f-ul", { subtags := ["f-li", "f-li"], defaults := ["gap"],
                attributes := [("id", { isRequired := true }), ("gap", {}),
                               ("role", { isRequired := true })] }),
     ("f-li", { subtags := ["f-ul"] })]

/-- The lists inside the list are not expanded, but have their tab stops. -/
theorem skeleton_stops_numbered_list :
    Catalogue.load [("list.json", listSource)] = .ok listCatalogue ∧ listCatalogue.DollarFree ∧
      listCatalogue.Unfolds [] ["f-ul"] ["f-ul", "f-li", "f-ul", "f-li", "f-ul"] ∧
      tabStops (listCatalogue.skeleton "f-ul" {}).toList =
        [['1'], ['2'], ['3'], ['4'], ['5'], ['6']] := by
  have hload : Catalogue.load [("list.json", listSource)] = .ok listCatalogue := by cbv
  have hnames : listCatalogue.DollarFree := by decide
  have htag : listCatalogue.isKnown "f-ul" = false → '$' ∉ "f-ul".toList := fun _ => by decide
  have hinner : listCatalogue.Unfolds ["f-li", "f-ul"] ["f-ul"] ["f-ul"] :=
    .alone (.inr (by decide)) .nil
  have hfresh : "f-li" ∉ ["f-ul"] := by decide
  have hitem : listCatalogue.Unfolds ["f-ul"] ["f-li"] ["f-li", "f-ul"] :=
    @Catalogue.Unfolds.expanded _ _ [] ["f-ul"] [] _ _ rfl hfresh hinner .nil
  have hitems : listCatalogue.Unfolds ["f-ul"] ["f-li", "f-li"] ["f-li", "f-ul", "f-li", "f-ul"] :=
    @Catalogue.Unfolds.expanded _ _ _ ["f-ul"] _ _ _ rfl hfresh hinner hitem
  have hlist : listCatalogue.Unfolds [] ["f-ul"] ["f-ul", "f-li", "f-ul", "f-li", "f-ul"] :=
    @Catalogue.Unfolds.expanded _ _ [] ["f-li", "f-ul", "f-li", "f-ul"] [] _ _ rfl
      List.not_mem_nil hitems .nil
  refine ⟨hload, hnames, hlist, ?_⟩
  obtain ⟨instances, hunfolds, -, -, -, hstops⟩ :=
    skeleton_stops_numbered hload hnames htag {}
  rw [hunfolds.unique hlist] at hstops
  exact hstops

end MarkupAssist
