import Mathlib.Data.List.Permutation
import MarkupAssist.Proofs.FilledSkeleton

/-!
# Findings in a filled skeleton

Every attribute of a skeleton has a tab stop, so the findings in a filled
skeleton can be read off its tab stops. A `StopSite` is a tab stop with the text
in front of it; `lineSites` and `allSites` list the sites of a layout from left
to right. The main equation is `findings_lines`: scanning a filled layout gives,
site by site, a finding for a value that is left blank and nothing else. Its
proof runs along the lines and rests on two facts about one opening tag:

* its attributes are the sites of its line (`attributes_opening`), so a required
  attribute is never missing;
* required attributes that are all there are judged one by one
  (`filterMap_fault?`).

Both halves of `skeleton_findings` are this equation. For values that are not
blank it has no finding on its right; for empty values it has one finding for
every site, and the sites are numbered from left to right (`numbers_lines`).
-/

namespace MarkupAssist

open Text Markup SkeletonLine

/-! ### Sites -/

/-- A tab stop of a layout: the text before the attribute that holds it, the name
of the attribute, and the number of the tab stop. -/
structure StopSite where
  before : List Char
  name : String
  number : Nat

namespace StopSite

/-- The range of the attribute of a site in the filled document. -/
def range (site : StopSite) (doc : Document) (fill : Nat → List Char) : Range :=
  let start := (fillStops fill site.before).length + 1
  doc.rangeBetween start (start + (site.name.toList.length + (fill site.number).length + 3))

/-- The attribute of a site in the filled document. -/
def occurrence (site : StopSite) (doc : Document) (fill : Nat → List Char) (settings : Settings) :
    AttributeOccurrence :=
  ⟨site.name,
    String.ofList (quotedAttribute site.name.toList settings.quotes.char (fill site.number)),
    some (String.ofList (fill site.number)), site.range doc fill⟩

/-- The finding at a site: its attribute is there, but it may be blank. -/
def finding? (site : StopSite) (doc : Document) (fill : Nat → List Char) : Option Diagnostic :=
  if (fill site.number).all isBlank then some (.blank (site.range doc fill) site.name) else none

end StopSite

/-- The sites of the tab stops of one tag, behind the text `before`. -/
def stopSites (settings : Settings) (before : List Char) : List (String × Nat) → List StopSite
  | [] => []
  | stop :: stops =>
    ⟨before, stop.1, stop.2⟩ :: stopSites settings (before ++ renderStop settings stop) stops

/-- The sites of a line behind the text `before`. -/
def lineSites (settings : Settings) (before : List Char) : SkeletonLine → List StopSite
  | .opening depth tag stops | .whole depth tag stops =>
    stopSites settings (before ++ indent settings depth ++ '<' :: tag.toList) stops
  | .closing _ _ => []

/-- The sites of some lines behind the text `before`. -/
def allSites (settings : Settings) (before : List Char) : List SkeletonLine → List StopSite
  | [] => []
  | line :: lines =>
    lineSites settings before line ++
      allSites settings (before ++ line.render settings ++ ['\n']) lines

/-! ### One tag -/

section Tag

variable {fill : Nat → List Char} {settings : Settings}

theorem map_name_stopSites (before : List Char) (stops : List (String × Nat)) :
    (stopSites settings before stops).map (·.name) = stops.map Prod.fst := by
  induction stops generalizing before with
  | nil => rfl
  | cons stop stops ih => rw [stopSites, List.map_cons, ih, List.map_cons]

theorem map_number_stopSites (before : List Char) (stops : List (String × Nat)) :
    (stopSites settings before stops).map (·.number) = stops.map Prod.snd := by
  induction stops generalizing before with
  | nil => rfl
  | cons stop stops ih => rw [stopSites, List.map_cons, ih, List.map_cons]

/-- The attributes found in a filled body are its sites. `base` and `offset` add
up to the place where the body starts in the document. -/
theorem filterMap_attributeMatches (doc : Document) (base : Nat) {stops : List (String × Nat)}
    (hstops : ∀ s ∈ stops, PlainName s.1.toList) (hfill : ∀ k, settings.quotes.char ∉ fill k)
    (before : List Char) (offset : Nat) (hbase : base + offset = (fillStops fill before).length) :
    (attributeMatches offset (filledBody fill settings stops)).filterMap
        (doc.attributeOccurrence? base) =
      (stopSites settings before stops).map (·.occurrence doc fill settings) := by
  induction stops generalizing before offset with
  | nil =>
    have hend : attributeMatches offset ['>'] = attributeMatches (offset + 1) [] :=
      attributeMatches_pass (by decide) offset []
    rw [filledBody, List.flatMap_nil, List.nil_append, hend, attributeMatches.eq_def]
    rfl
  | cons stop stops ih =>
    have hname := hstops stop List.mem_cons_self
    have hcons : filledBody fill settings (stop :: stops) =
        ' ' :: (quotedAttribute stop.1.toList settings.quotes.char (fill stop.2) ++
          filledBody fill settings stops) := by
      simp [filledBody, filledStop]
    -- the blank and the attribute take the scan to where the next site starts
    have hnext : base + (offset + 1 +
        (quotedAttribute stop.1.toList settings.quotes.char (fill stop.2)).length) =
          (fillStops fill (before ++ renderStop settings stop)).length := by
      rw [fillStops_append _ (by rfl), fillStops_renderStop hname, List.length_append, ← hbase,
        filledStop, List.length_cons]
      omega
    have hfirst : doc.attributeOccurrence? base ⟨offset + 1, stop.1.toList,
        quotedAttribute stop.1.toList settings.quotes.char (fill stop.2), some (fill stop.2)⟩ =
          some (StopSite.occurrence ⟨before, stop.1, stop.2⟩ doc fill settings) := by
      rw [Document.attributeOccurrence?, dropValueBinding_eq_self hname.unmarked,
        if_neg (by simpa using hname.ne_nil)]
      simp only [StopSite.occurrence, StopSite.range, length_quotedAttribute, ← hbase,
        String.ofList_toList, Option.map_some, Nat.add_assoc]
    rw [hcons, attributeMatches_pass (by decide),
      attributeMatches_quoted (isQuote_char _) hname.ne_nil hname.chars (hfill _),
      List.filterMap_cons_some hfirst,
      ih (fun s hs => hstops s (List.mem_cons_of_mem _ hs)) _ _ hnext, stopSites, List.map_cons]

/-- **The attributes of a filled tag are the sites of its tab stops.** -/
theorem attributes_opening (doc : Document) (tag : String) {stops : List (String × Nat)}
    (hstops : ∀ s ∈ stops, PlainName s.1.toList) (hnodup : (stops.map Prod.fst).Nodup)
    (hfill : ∀ k, settings.quotes.char ∉ fill k) {before : List Char} {offset : Nat}
    (hoffset : offset + 1 + tag.toList.length = (fillStops fill before).length) :
    (doc.occurrence ⟨offset, tag.toList, filledBody fill settings stops⟩).attributes =
      (stopSites settings before stops).map (·.occurrence doc fill settings) := by
  rw [Document.occurrence]
  change keepLast ((attributeMatches 0 (filledBody fill settings stops)).filterMap
    (doc.attributeOccurrence? (offset + 1 + tag.toList.length))) = _
  rw [filterMap_attributeMatches doc (offset + 1 + tag.toList.length) hstops hfill before 0 hoffset]
  -- no attribute is written twice, so `keepLast` drops none
  refine keepLast_eq_self ?_
  rw [List.map_map]
  change ((stopSites settings before stops).map (·.name)).Nodup
  rw [map_name_stopSites]
  exact hnodup

theorem attribute?_of_mem {o : Occurrence} (hnodup : (o.attributes.map (·.name)).Nodup)
    {a : AttributeOccurrence} (ha : a ∈ o.attributes) : o.attribute? a.name = some a := by
  rw [Occurrence.attribute?]
  generalize o.attributes = attributes at hnodup ha
  induction attributes with
  | nil => cases ha
  | cons b attributes ih =>
    rw [List.map_cons, List.nodup_cons] at hnodup
    rcases List.mem_cons.mp ha with rfl | ha
    · exact List.find?_cons_of_pos (by simp)
    · have hne : b.name ≠ a.name := fun h => hnodup.1 (h ▸ List.mem_map_of_mem ha)
      rw [List.find?_cons_of_neg (by simpa using hne)]
      exact ih hnodup.2 ha

/-- What is wrong with a required attribute that may not stand without a value: this depends on its
name alone. -/
def Occurrence.verdict? (o : Occurrence) (name : String) : Option Diagnostic :=
  (o.attribute? name).elim (some (.missing o.range name)) fun a =>
    if a.isBlank then some (.blank a.range name) else none

/-- Required attributes that are all written, with values, are judged one by
one. -/
theorem filterMap_fault? {o : Occurrence} {required : Entries Attribute}
    (hnames : o.attributes.map (·.name) = required.names) (hnodup : required.names.Nodup)
    (hvalues : ∀ a ∈ o.attributes, a.value.isSome = true) :
    required.filterMap o.fault? =
      o.attributes.filterMap fun a =>
        if a.isBlank then some (.blank a.range a.name) else none := by
  -- a flag may be written without a value, but here every attribute has one
  have hfault : ∀ r ∈ required, o.fault? r = o.verdict? r.1 := by
    intro r _
    rw [Occurrence.fault?, Occurrence.verdict?]
    cases ha : o.attribute? r.1 with
    | none => rfl
    | some a =>
      have hvalue : a.value.isNone = false := by
        rw [Option.isNone_eq_false_iff]
        exact hvalues a (List.mem_of_find?_eq_some ha)
      simp only [hvalue, Bool.and_false, Bool.false_eq_true, if_false, Option.elim_some]
  calc required.filterMap o.fault?
      = required.names.filterMap o.verdict? := by
        rw [List.filterMap_congr hfault, Entries.names, List.filterMap_map]
        rfl
    _ = o.attributes.filterMap (o.verdict? ∘ (·.name)) := by
        rw [← hnames, List.filterMap_map]
    _ = _ := by
        refine List.filterMap_congr fun a ha => ?_
        have hfound := attribute?_of_mem (hnames ▸ hnodup) ha
        rw [Function.comp_apply, Occurrence.verdict?, hfound, Option.elim_some]

/-- **The findings in a filled opening tag.** -/
theorem faults_opening {catalogue : Catalogue} (doc : Document) {tag : String} {element : Element}
    (hknown : catalogue.element? tag = some element) {stops : List (String × Nat)}
    (hcomplete : stops.map Prod.fst = element.requiredNames)
    (hnodup : element.attributes.names.Nodup) (hstops : ∀ s ∈ stops, PlainName s.1.toList)
    (hfill : ∀ k, settings.quotes.char ∉ fill k) {before : List Char} {offset : Nat}
    (hoffset : offset + 1 + tag.toList.length = (fillStops fill before).length) :
    catalogue.faults (doc.occurrence ⟨offset, tag.toList, filledBody fill settings stops⟩) =
      (stopSites settings before stops).filterMap (·.finding? doc fill) := by
  have hrequired : element.required.names.Nodup :=
    hnodup.sublist (List.filter_sublist.map _)
  have hattributes := attributes_opening doc tag hstops (hcomplete ▸ hrequired) hfill hoffset
  -- from here on only the name and the attributes of the occurrence matter
  generalize ho : doc.occurrence ⟨offset, tag.toList, filledBody fill settings stops⟩ = o
    at hattributes
  have hname : o.name = tag := by
    rw [← ho]
    exact String.ofList_toList
  have hnames : o.attributes.map (·.name) = element.required.names := by
    rw [hattributes, List.map_map]
    exact (map_name_stopSites before stops).trans hcomplete
  have hvalues : ∀ a ∈ o.attributes, a.value.isSome = true := by
    intro a ha
    rw [hattributes] at ha
    obtain ⟨site, -, rfl⟩ := List.mem_map.mp ha
    rfl
  rw [Catalogue.faults, hname, hknown]
  change element.required.filterMap o.fault? = _
  rw [filterMap_fault? hnames hrequired hvalues, hattributes, List.filterMap_map]
  refine List.filterMap_congr fun site _ => ?_
  simp [StopSite.occurrence, StopSite.finding?, AttributeOccurrence.isBlank]

end Tag

/-! ### The lines of a layout -/

section Lines

variable {fill : Nat → List Char} {settings : Settings} {catalogue : Catalogue}

/-- The findings in the part `cs` of a document that stands behind `offset`
characters. -/
def findingsFrom (catalogue : Catalogue) (doc : Document) (offset : Nat) (cs : List Char) :
    List Diagnostic :=
  (((tagMatches offset cs).filter fun m => catalogue.isKnown (String.ofList m.name)).map
    doc.occurrence).flatMap catalogue.faults

/-- A text that holds no tag adds no finding. -/
theorem findingsFrom_of_notMem {front : List Char} (hfront : '<' ∉ front) (doc : Document)
    (offset : Nat) (cs : List Char) :
    findingsFrom catalogue doc offset (front ++ cs) =
      findingsFrom catalogue doc (offset + front.length) cs := by
  rw [findingsFrom, tagMatches_of_notMem hfront, findingsFrom]

/-- What a filled opening tag adds to the findings. -/
theorem findingsFrom_opening (hnames : catalogue.MarkupNames)
    (hnodup : ∀ e ∈ catalogue.elements, e.2.attributes.names.Nodup)
    (hfill : ∀ k, settings.quotes.char ∉ fill k) (doc : Document) {tag : String}
    {element : Element} (hknown : catalogue.element? tag = some element)
    {stops : List (String × Nat)} (hcomplete : stops.map Prod.fst = element.requiredNames)
    (before cs : List Char) :
    findingsFrom catalogue doc (fillStops fill before).length
        (fillStops fill (renderOpening settings tag stops) ++ cs) =
      (stopSites settings (before ++ '<' :: tag.toList) stops).filterMap (·.finding? doc fill) ++
        findingsFrom catalogue doc
          (fillStops fill (before ++ renderOpening settings tag stops)).length cs := by
  have htag := hnames.customName hknown
  have hstops := hnames.plainName hknown hcomplete
  have hoffset : (fillStops fill before).length + 1 + tag.toList.length =
      (fillStops fill (before ++ '<' :: tag.toList)).length := by
    have hfree : '$' ∉ '<' :: tag.toList := by
      simp [htag.notMem (c := '$') (by decide)]
    rw [fillStops_append before (by rfl), fillStops_eq_self hfree, List.length_append,
      List.length_cons]
    omega
  have hisKnown : catalogue.isKnown (String.ofList tag.toList) = true := by
    rw [String.ofList_toList]
    exact Catalogue.isKnown_iff.mpr ⟨element, hknown⟩
  rw [fillStops_append before (by rfl), List.length_append, fillStops_renderOpening htag hstops,
    findingsFrom, tagMatches_opening htag hstops hfill, List.filter_cons, if_pos hisKnown,
    List.map_cons, List.flatMap_cons,
    faults_opening doc hknown hcomplete (hnodup _ (Entries.mem_of_get? hknown)) hstops hfill
      hoffset]
  rfl

theorem findingsFrom_closing {tag : String} (htag : CustomName tag.toList) (doc : Document)
    (before cs : List Char) :
    findingsFrom catalogue doc (fillStops fill before).length
        (fillStops fill (renderClosing tag) ++ cs) =
      findingsFrom catalogue doc (fillStops fill (before ++ renderClosing tag)).length cs := by
  have hfree : '$' ∉ renderClosing tag := by
    simp [renderClosing, htag.notMem (c := '$') (by decide)]
  rw [fillStops_append before (by rfl), fillStops_eq_self hfree, List.length_append, findingsFrom,
    tagMatches_closing htag, findingsFrom]

theorem findingsFrom_indent (depth : Nat) (doc : Document) (before cs : List Char) :
    findingsFrom catalogue doc (fillStops fill before).length
        (fillStops fill (indent settings depth) ++ cs) =
      findingsFrom catalogue doc (fillStops fill (before ++ indent settings depth)).length cs := by
  have hfree : ∀ c, c ≠ ' ' → c ∉ indent settings depth := fun c hc h =>
    hc (List.eq_of_mem_replicate h)
  have hdigit : NoDigitFirst (indent settings depth) := by
    rw [NoDigitFirst, indent]
    cases depth * settings.indentSize.toNat <;> rfl
  rw [fillStops_append before hdigit, fillStops_eq_self (hfree '$' (by decide)),
    List.length_append, findingsFrom_of_notMem (hfree '<' (by decide))]

/-- What a filled line adds to the findings. -/
theorem findings_line (hnames : catalogue.MarkupNames)
    (hnodup : ∀ e ∈ catalogue.elements, e.2.attributes.names.Nodup)
    (hfill : ∀ k, settings.quotes.char ∉ fill k) (doc : Document) {line : SkeletonLine}
    (hline : line.Conforms catalogue) (before cs : List Char) :
    findingsFrom catalogue doc (fillStops fill before).length
        (fillStops fill (line.render settings) ++ cs) =
      (lineSites settings before line).filterMap (·.finding? doc fill) ++
        findingsFrom catalogue doc (fillStops fill (before ++ line.render settings)).length cs := by
  cases hline with
  | @opening depth tag stops element known complete =>
    rw [render, fillStops_append _ (by rfl), List.append_assoc, findingsFrom_indent,
      findingsFrom_opening hnames hnodup hfill doc known complete, ← List.append_assoc before]
    rfl
  | @closing depth tag element known =>
    rw [render, fillStops_append _ (by rfl), List.append_assoc, findingsFrom_indent,
      findingsFrom_closing (hnames.customName known), ← List.append_assoc before]
    rfl
  | @whole depth tag stops element known complete =>
    rw [render, fillStops_append _ (by rfl), fillStops_append _ (by rfl), List.append_assoc,
      List.append_assoc, findingsFrom_indent,
      findingsFrom_opening hnames hnodup hfill doc known complete,
      findingsFrom_closing (hnames.customName known), ← List.append_assoc before,
      ← List.append_assoc before]
    rfl

/-- The text of some lines. -/
def linesText (settings : Settings) (lines : List SkeletonLine) : List Char :=
  List.intercalate ['\n'] (lines.map (·.render settings))

theorem linesText_singleton (line : SkeletonLine) :
    linesText settings [line] = line.render settings :=
  List.intercalate_singleton

theorem linesText_cons_cons (line next : SkeletonLine) (lines : List SkeletonLine) :
    linesText settings (line :: next :: lines) =
      line.render settings ++ '\n' :: linesText settings (next :: lines) := by
  simp [linesText, List.intercalate_cons_cons]

/-- **The findings in a filled layout are those at its sites.** -/
theorem findings_lines (hnames : catalogue.MarkupNames)
    (hnodup : ∀ e ∈ catalogue.elements, e.2.attributes.names.Nodup)
    (hfill : ∀ k, settings.quotes.char ∉ fill k) (doc : Document) {lines : List SkeletonLine}
    (hlines : ∀ line ∈ lines, line.Conforms catalogue) (before : List Char) :
    findingsFrom catalogue doc (fillStops fill before).length
        (fillStops fill (linesText settings lines)) =
      (allSites settings before lines).filterMap (·.finding? doc fill) := by
  induction lines generalizing before with
  | nil =>
    rw [linesText, List.map_nil, List.intercalate_nil, fillStops_nil, findingsFrom, tagMatches]
    rfl
  | cons line lines ih =>
    have hline := hlines line List.mem_cons_self
    have hrest : ∀ l ∈ lines, l.Conforms catalogue := fun l hl =>
      hlines l (List.mem_cons_of_mem _ hl)
    rw [allSites, List.filterMap_append, ← ih hrest]
    -- the last line has no line break behind it
    cases lines with
    | nil =>
      rw [linesText_singleton, ← List.append_nil (fillStops fill (line.render settings)),
        findings_line hnames hnodup hfill doc hline]
      rw [linesText, List.map_nil, List.intercalate_nil, fillStops_nil, findingsFrom, findingsFrom,
        tagMatches, tagMatches]
    | cons next lines =>
      have hbreak : fillStops fill ('\n' :: linesText settings (next :: lines)) =
          ['\n'] ++ fillStops fill (linesText settings (next :: lines)) := by
        rw [← List.singleton_append, fillStops_of_notMem (by decide)]
      have hbefore : (fillStops fill (before ++ line.render settings ++ ['\n'])).length =
          (fillStops fill (before ++ line.render settings)).length + ['\n'].length := by
        have hnewline : fillStops fill ['\n'] = ['\n'] := fillStops_eq_self (by decide)
        rw [fillStops_append _ (by rfl), hnewline, List.length_append]
      rw [linesText_cons_cons, fillStops_append _ (by rfl), hbreak,
        findings_line hnames hnodup hfill doc hline, findingsFrom_of_notMem (by decide), hbefore]

end Lines

/-! ### Sites and tab stops -/

section Sites

variable {settings : Settings}

/-- A site tells where its tab stop stands in a text. -/
def StopSite.StandsIn (site : StopSite) (settings : Settings) (text : List Char) : Prop :=
  ∃ after, text = site.before ++ (renderStop settings (site.name, site.number) ++ after)

theorem StopSite.StandsIn.append {site : StopSite} {text : List Char}
    (h : site.StandsIn settings text) (more : List Char) :
    site.StandsIn settings (text ++ more) := by
  obtain ⟨after, rfl⟩ := h
  exact ⟨after ++ more, by simp⟩

theorem standsIn_stopSites {before : List Char} {stops : List (String × Nat)} {site : StopSite}
    (h : site ∈ stopSites settings before stops) :
    site.StandsIn settings (before ++ stops.flatMap (renderStop settings)) := by
  induction stops generalizing before with
  | nil => cases h
  | cons stop stops ih =>
    rw [stopSites] at h
    rcases List.mem_cons.mp h with rfl | h
    · exact ⟨stops.flatMap (renderStop settings), by simp⟩
    · simpa using ih h

theorem standsIn_lineSites {before : List Char} {line : SkeletonLine} {site : StopSite}
    (h : site ∈ lineSites settings before line) :
    site.StandsIn settings (before ++ line.render settings) := by
  cases line with
  | opening depth tag stops =>
    simpa [render, renderOpening] using (standsIn_stopSites h).append ['>']
  | closing depth tag => cases h
  | whole depth tag stops =>
    simpa [render, renderOpening] using
      ((standsIn_stopSites h).append ['>']).append (renderClosing tag)

theorem standsIn_allSites {before : List Char} {lines : List SkeletonLine} {site : StopSite}
    (h : site ∈ allSites settings before lines) :
    site.StandsIn settings (before ++ linesText settings lines) := by
  induction lines generalizing before with
  | nil => cases h
  | cons line lines ih =>
    rw [allSites] at h
    cases lines with
    | nil =>
      have hline : site ∈ lineSites settings before line := by simpa [allSites] using h
      rw [linesText_singleton]
      exact standsIn_lineSites hline
    | cons next lines =>
      rw [linesText_cons_cons]
      rcases List.mem_append.mp h with h | h
      · simpa using (standsIn_lineSites h).append ('\n' :: linesText settings (next :: lines))
      · simpa using ih h

theorem map_number_lineSites (before : List Char) (line : SkeletonLine) :
    (lineSites settings before line).map (·.number) = line.stops.map Prod.snd := by
  cases line with
  | opening depth tag stops => exact map_number_stopSites _ stops
  | closing depth tag => rfl
  | whole depth tag stops => exact map_number_stopSites _ stops

theorem map_number_allSites (before : List Char) (lines : List SkeletonLine) :
    (allSites settings before lines).map (·.number) = Expansion.numbers lines := by
  induction lines generalizing before with
  | nil => rfl
  | cons line lines ih =>
    rw [allSites, List.map_append, map_number_lineSites, ih, Expansion.numbers_cons]

theorem map_name_lineSites (before : List Char) (line : SkeletonLine) :
    (lineSites settings before line).map (·.name) = line.stops.map Prod.fst := by
  cases line with
  | opening depth tag stops => exact map_name_stopSites _ stops
  | closing depth tag => rfl
  | whole depth tag stops => exact map_name_stopSites _ stops

theorem map_name_allSites (before : List Char) (lines : List SkeletonLine) :
    (allSites settings before lines).map (·.name) =
      (lines.flatMap SkeletonLine.stops).map Prod.fst := by
  induction lines generalizing before with
  | nil => rfl
  | cons line lines ih =>
    rw [allSites, List.map_append, map_name_lineSites, ih, List.flatMap_cons, List.map_append]

/-- The attribute of a site has a plain name. -/
theorem plainName_of_mem_lineSites {catalogue : Catalogue} (hnames : catalogue.MarkupNames)
    {line : SkeletonLine} (hline : line.Conforms catalogue) {before : List Char}
    {site : StopSite} (h : site ∈ lineSites settings before line) : PlainName site.name.toList := by
  have hstops : ∀ {before stops}, (∀ s ∈ stops, PlainName (Prod.fst s : String).toList) →
      site ∈ stopSites settings before stops → PlainName site.name.toList := by
    intro before stops hplain hsite
    have hname : site.name ∈ stops.map Prod.fst := by
      rw [← map_name_stopSites before stops]
      exact List.mem_map_of_mem hsite
    obtain ⟨stop, hstop, heq⟩ := List.mem_map.mp hname
    exact heq ▸ hplain stop hstop
  cases hline with
  | opening known complete => exact hstops (hnames.plainName known complete) h
  | closing known => cases h
  | whole known complete => exact hstops (hnames.plainName known complete) h

theorem plainName_of_mem_allSites {catalogue : Catalogue} (hnames : catalogue.MarkupNames)
    {lines : List SkeletonLine} (hlines : ∀ line ∈ lines, line.Conforms catalogue)
    {before : List Char} {site : StopSite} (h : site ∈ allSites settings before lines) :
    PlainName site.name.toList := by
  induction lines generalizing before with
  | nil => cases h
  | cons line lines ih =>
    rw [allSites] at h
    rcases List.mem_append.mp h with h | h
    · exact plainName_of_mem_lineSites hnames (hlines line List.mem_cons_self) h
    · exact ih (fun l hl => hlines l (List.mem_cons_of_mem _ hl)) h

theorem length_allSites (before : List Char) (lines : List SkeletonLine) :
    (allSites settings before lines).length = (Expansion.numbers lines).length := by
  have h : ((allSites settings before lines).map (·.number)).length = _ :=
    congrArg List.length (map_number_allSites before lines)
  rwa [List.length_map] at h

theorem count_renderStop {stop : String × Nat} (hname : PlainName stop.1.toList) :
    (renderStop settings stop).count '$' = 1 := by
  have hdigits : (Nat.toDigits 10 stop.2).count '$' = 0 :=
    List.count_eq_zero.mpr (notMem_toDigits rfl stop.2)
  have hquote : (settings.quotes.char == '$') = false := by
    simpa using (dollar_ne_char settings.quotes).symm
  simp [renderStop, List.count_append, List.count_cons, List.count_eq_zero.mpr hname.no_dollar,
    hdigits, hquote]

theorem count_renderOpening {tag : String} (htag : CustomName tag.toList)
    {stops : List (String × Nat)} (hstops : ∀ s ∈ stops, PlainName s.1.toList) :
    (renderOpening settings tag stops).count '$' = stops.length := by
  have hcount : (stops.flatMap (renderStop settings)).count '$' = stops.length := by
    induction stops with
    | nil => rfl
    | cons stop stops ih =>
      rw [List.flatMap_cons, List.count_append, count_renderStop (hstops stop List.mem_cons_self),
        ih fun s hs => hstops s (List.mem_cons_of_mem _ hs), List.length_cons, Nat.add_comm]
  simp [renderOpening, List.count_append, hcount,
    List.count_eq_zero.mpr (htag.notMem (c := '$') (by decide))]

theorem count_render {catalogue : Catalogue} (hnames : catalogue.MarkupNames)
    {line : SkeletonLine} (hline : line.Conforms catalogue) :
    (line.render settings).count '$' = line.stops.length := by
  have hindent : ∀ depth, (indent settings depth).count '$' = 0 := fun depth =>
    List.count_eq_zero.mpr fun h => absurd (List.eq_of_mem_replicate h) (by decide)
  have hclosing : ∀ {tag : String}, CustomName tag.toList → (renderClosing tag).count '$' = 0 := by
    intro tag htag
    exact List.count_eq_zero.mpr (by simp [renderClosing, htag.notMem (c := '$') (by decide)])
  cases hline with
  | opening known complete =>
    rw [render, List.count_append, hindent, Nat.zero_add,
      count_renderOpening (hnames.customName known) (hnames.plainName known complete)]
    rfl
  | closing known =>
    rw [render, List.count_append, hindent, hclosing (hnames.customName known)]
    rfl
  | whole known complete =>
    rw [render, List.count_append, List.count_append, hindent, Nat.zero_add,
      count_renderOpening (hnames.customName known) (hnames.plainName known complete),
      hclosing (hnames.customName known)]
    rfl

/-- The tab stops of a layout are its dollar signs. -/
theorem count_linesText {catalogue : Catalogue} (hnames : catalogue.MarkupNames)
    {lines : List SkeletonLine} (hlines : ∀ line ∈ lines, line.Conforms catalogue) :
    (linesText settings lines).count '$' = (Expansion.numbers lines).length := by
  induction lines with
  | nil => rfl
  | cons line lines ih =>
    have hline : (line.render settings).count '$' = line.stops.length :=
      count_render hnames (hlines line List.mem_cons_self)
    have hrest := ih fun l hl => hlines l (List.mem_cons_of_mem _ hl)
    rw [Expansion.numbers_cons, List.length_append, List.length_map, ← hline, ← hrest]
    cases lines with
    | nil =>
      rw [linesText_singleton]
      rfl
    | cons next lines =>
      rw [linesText_cons_cons, List.count_append, List.count_cons_of_ne (by decide)]

end Sites

/-! ### Skeletons -/

/-- The snippet of a tag completes a `<` to the lines of its tree. -/
theorem cons_skeleton (catalogue : Catalogue) (tag : String) (settings : Settings) :
    '<' :: (catalogue.skeleton tag settings).toList =
      linesText settings ((catalogue.expand [] tag).lines 0 0) := by
  have hfirst : ∃ rest, linesText settings ((catalogue.expand [] tag).lines 0 0) = '<' :: rest := by
    cases catalogue.expand [] tag with
    | node tag required children =>
      cases children <;>
        simp [Expansion.lines_leaf, Expansion.lines_node, linesText, render, indent, renderOpening]
  obtain ⟨rest, hrest⟩ := hfirst
  rw [Catalogue.skeleton, String.toList_ofList]
  change '<' :: (linesText settings ((catalogue.expand [] tag).lines 0 0)).tail = _
  rw [hrest, List.tail_cons]

section Loaded

variable {sources : List (String × String)} {catalogue : Catalogue}
  (hload : Catalogue.load sources = .ok catalogue) {tag : String}
  (htag : catalogue.isKnown tag = true)

include hload htag

/-- Every line of a skeleton is about an element of the catalogue, however the elements refer to
each other. -/
theorem conforms_skeleton :
    ∀ line ∈ (catalogue.expand [] tag).lines 0 0, line.Conforms catalogue := by
  have hclosed : catalogue.Closed := fun e he subtag hsubtag =>
    Catalogue.isKnown_of_subtag hload he hsubtag
  exact Expansion.conforms_lines (Catalogue.conforms_expand hclosed [] tag htag) 0 0

/-- **The findings in a filled skeleton are those at the sites of its tab stops.** -/
theorem validate_filled (hnames : catalogue.MarkupNames) {settings : Settings}
    {fill : Nat → List Char} (hfill : ∀ k, settings.quotes.char ∉ fill k) {doc : Document}
    (hdoc : doc.chars = fillStops fill ('<' :: (catalogue.skeleton tag settings).toList)) :
    catalogue.validate doc =
      (allSites settings [] ((catalogue.expand [] tag).lines 0 0)).filterMap
        (·.finding? doc fill) := by
  have hnodup : ∀ e ∈ catalogue.elements, e.2.attributes.names.Nodup := fun e he =>
    Catalogue.nodup_attributes_of_load hload he
  have h := findings_lines hnames hnodup hfill doc (conforms_skeleton hload htag) []
  rw [fillStops_nil, ← cons_skeleton, ← hdoc] at h
  exact h

/-- A skeleton has as many sites as tab stops. -/
theorem count_skeleton (hnames : catalogue.MarkupNames) (settings : Settings) :
    ('<' :: (catalogue.skeleton tag settings).toList).count '$' =
      (allSites settings [] ((catalogue.expand [] tag).lines 0 0)).length := by
  rw [cons_skeleton, count_linesText hnames (conforms_skeleton hload htag), length_allSites]

end Loaded

/-- Sites are counted from 0, tab stops are numbered from 1. -/
theorem number_of_getElem?_allSites {e : Expansion} {settings : Settings} {k : Nat}
    {site : StopSite} (h : (allSites settings [] (e.lines 0 0))[k]? = some site) :
    site.number = k + 1 := by
  have hnumber : ((allSites settings [] (e.lines 0 0)).map (·.number))[k]? = some site.number := by
    rw [List.getElem?_map, h]
    rfl
  rw [map_number_allSites, Expansion.numbers_lines] at hnumber
  obtain ⟨hk, hvalue⟩ := List.getElem?_eq_some_iff.mp hnumber
  rw [List.getElem_range'] at hvalue
  omega

/-- **Filled skeletons satisfy the validator.** The catalogue is any that loads
and whose names can be written in markup; its elements may refer to each other in
cycles. A skeleton whose tab stops are filled with text that is not blank has no
finding. It has one tab stop for each attribute that the instances of elements in
it require. With all tab stops left empty it has one finding for each of them,
and the one with number `k` is about the attribute that holds `$k`, which is the
one with number `k` among those required. -/
theorem skeleton_findings {sources : List (String × String)} {catalogue : Catalogue}
    (hload : Catalogue.load sources = .ok catalogue) (hnames : catalogue.MarkupNames)
    {tag : String} (htag : catalogue.isKnown tag = true) (settings : Settings)
    (language : String) :
    let text := '<' :: (catalogue.skeleton tag settings).toList
    (∀ fill : Nat → List Char,
      (∀ k, settings.quotes.char ∉ fill k ∧ ∃ c ∈ fill k, isBlank c = false) →
        catalogue.validate ⟨fillStops fill text, language⟩ = []) ∧
    ∃ tags, catalogue.Unfolds [] [tag] tags ∧
      (let names := tags.flatMap catalogue.requiredNames
      let empty : Nat → List Char := fun _ => []
      let doc : Document := ⟨fillStops empty text, language⟩
      text.count '$' = names.length ∧
      (catalogue.validate doc).length = text.count '$' ∧
      ∀ k < text.count '$', ∃ before name after, names[k]? = some name ∧
        text = before ++ (renderStop settings (name, k + 1) ++ after) ∧ PlainName name.toList ∧
          let start := (fillStops empty before).length + 1
          (catalogue.validate doc)[k]? =
            some (.blank (doc.rangeBetween start (start + (name.toList.length + 3))) name)) := by
  intro text
  have hlines := conforms_skeleton hload htag
  refine ⟨fun fill hfill => ?_, _, Catalogue.unfolds_expand [] tag 0 0, ?_⟩
  · rw [validate_filled hload htag hnames (fun k => (hfill k).1) rfl, List.filterMap_eq_nil_iff]
    intro site _
    refine if_neg fun hall => ?_
    obtain ⟨c, hc, hblank⟩ := (hfill site.number).2
    rw [List.all_eq_true.mp hall c hc] at hblank
    cases hblank
  · intro names empty doc
    set sites := allSites settings [] ((catalogue.expand [] tag).lines 0 0) with hsites
    have hrequired : sites.map (·.name) = names :=
      (map_name_allSites [] _).trans (Catalogue.names_lines hlines)
    -- a tab stop that is left empty is blank, so every site has a finding
    have hfindings : catalogue.validate doc =
        sites.map fun site => .blank (site.range doc empty) site.name := by
      have hempty : ∀ k, settings.quotes.char ∉ empty k := fun _ => List.not_mem_nil
      rw [validate_filled hload htag hnames hempty rfl, ← List.filterMap_eq_map]
      rfl
    have hcount : text.count '$' = sites.length := count_skeleton hload htag hnames settings
    refine ⟨by rw [hcount, ← hrequired, List.length_map],
      by rw [hfindings, List.length_map, hcount], fun k hk => ?_⟩
    obtain ⟨site, hsite⟩ : ∃ site, sites[k]? = some site :=
      ⟨_, List.getElem?_eq_getElem (hcount ▸ hk)⟩
    have hmem := List.mem_of_getElem? hsite
    obtain ⟨after, hafter⟩ := standsIn_allSites hmem
    refine ⟨site.before, site.name, after, ?_, ?_, plainName_of_mem_allSites hnames hlines hmem, ?_⟩
    · rw [← hrequired, List.getElem?_map, hsite]
      rfl
    · rw [← number_of_getElem?_allSites hsite]
      exact (cons_skeleton catalogue tag settings).trans hafter
    · rw [hfindings, List.getElem?_map, hsite]
      rfl

/-- A source with two elements that contain each other. -/
def cyclicSource : String :=
  "\x7b\"f-list\": \x7b\"subtags\": [\"f-item\"], \"attributes\": \x7b" ++
      "\"label\": \x7b\"isRequired\": true\x7d\x7d\x7d, " ++
    "\"f-item\": \x7b\"subtags\": [\"f-list\", \"f-item\"], \"attributes\": \x7b" ++
      "\"wide\": \x7b\"isRequired\": true, \"type\": \"flag\"\x7d\x7d\x7d\x7d"

/-- The catalogue of `cyclicSource`. -/
def cyclicCatalogue : Catalogue where
  elements :=
    [("f-list", { subtags := ["f-item"], attributes := [("label", { isRequired := true })] }),
     ("f-item", { subtags := ["f-list", "f-item"],
                  attributes := [("wide", { isRequired := true, type := .flag })] })]

theorem markupNames_cyclicCatalogue : cyclicCatalogue.MarkupNames := by
  refine ⟨?_, ?_⟩
  · intro e he
    simp only [cyclicCatalogue, List.mem_cons, List.not_mem_nil, or_false] at he
    rcases he with rfl | rfl
    · exact ⟨'f', [], "list".toList, rfl, rfl, List.all_eq_true.mp rfl, List.all_eq_true.mp rfl⟩
    · exact ⟨'f', [], "item".toList, rfl, rfl, List.all_eq_true.mp rfl, List.all_eq_true.mp rfl⟩
  · intro e he name hname
    simp only [cyclicCatalogue, List.mem_cons, List.not_mem_nil, or_false] at he
    rcases he with rfl | rfl
    · obtain rfl : name = "label" := List.mem_singleton.mp hname
      exact ⟨by decide, List.all_eq_true.mp rfl, by decide, by decide, by decide⟩
    · obtain rfl : name = "wide" := List.mem_singleton.mp hname
      exact ⟨by decide, List.all_eq_true.mp rfl, by decide, by decide, by decide⟩

/-- The skeleton of a cyclic source, filled with text that looks like markup. Both elements occur
twice in it, the second time without what is inside them. -/
theorem skeleton_findings_of_cycle :
    Catalogue.load [("cycle.json", cyclicSource)] = .ok cyclicCatalogue ∧
      cyclicCatalogue.validate ⟨fillStops (fun _ => "'>\x7b<f-item>".toList)
        ('<' :: (cyclicCatalogue.skeleton "f-list" {}).toList), "vue"⟩ = [] ∧
      ('<' :: (cyclicCatalogue.skeleton "f-list" {}).toList).count '$' = 4 ∧
      (cyclicCatalogue.validate ⟨fillStops (fun _ => [])
        ('<' :: (cyclicCatalogue.skeleton "f-list" {}).toList), "vue"⟩).length = 4 ∧
      ∀ k < 4, ∃ range name, ["label", "wide", "label", "wide"][k]? = some name ∧
        (cyclicCatalogue.validate ⟨fillStops (fun _ => [])
          ('<' :: (cyclicCatalogue.skeleton "f-list" {}).toList), "vue"⟩)[k]? =
            some (.blank range name) := by
  have hload : Catalogue.load [("cycle.json", cyclicSource)] = .ok cyclicCatalogue := by cbv
  have hknown : cyclicCatalogue.isKnown "f-list" = true := rfl
  have hleaves : cyclicCatalogue.Unfolds ["f-item", "f-list"] ["f-list", "f-item"]
      ["f-list", "f-item"] :=
    .alone (.inr (by decide)) (.alone (.inr (by decide)) .nil)
  have hitem : cyclicCatalogue.Unfolds ["f-list"] ["f-item"] ["f-item", "f-list", "f-item"] :=
    @Catalogue.Unfolds.expanded _ _ [] ["f-list", "f-item"] [] _ _ rfl (by decide) hleaves .nil
  have hlist : cyclicCatalogue.Unfolds [] ["f-list"] ["f-list", "f-item", "f-list", "f-item"] :=
    @Catalogue.Unfolds.expanded _ _ [] ["f-item", "f-list", "f-item"] [] _ _ rfl
      List.not_mem_nil hitem .nil
  obtain ⟨hfilled, tags, htags, hcount, hlength, hfindings⟩ :=
    skeleton_findings hload markupNames_cyclicCatalogue hknown {} "vue"
  obtain rfl := htags.unique hlist
  have hfour : ('<' :: (cyclicCatalogue.skeleton "f-list" {}).toList).count '$' = 4 :=
    hcount.trans (by decide)
  refine ⟨hload, hfilled _ fun k => ⟨by decide, '>', by decide, rfl⟩, hfour,
    hlength.trans hfour, ?_⟩
  intro k hk
  obtain ⟨before, name, after, hname, -, -, hfinding⟩ := hfindings k (hfour ▸ hk)
  exact ⟨_, name, hname, hfinding⟩

end MarkupAssist
