import Mathlib.Data.List.Induction
import MarkupAssist.Proofs.LoadedCatalogue
import MarkupAssist.Proofs.WrittenTag

/-!
# What is found in a tag

The findings in a tag are made in three steps. The attributes of its body lose the marks of value
bindings, of those with one name only the last is kept, and the required attributes are looked up
among the rest. Here the findings are read off the body at once.

* `Markup.AttributeMatch.Bears`: an attribute bears the name that is left of it without its marks,
  and there is only one such name (`stripsTo_iff`). Marks alone are no name.
* `Markup.TagMatch.lastBearing?`: the last attribute of the body that bears a name. This is what the
  lookup finds (`attribute?_occurrence`), since nothing else of that name is kept
  (`Markup.find?_keepLast`).
* `fault?_occurrence`: so a finding depends on this attribute only, and on its value.

`findings_exact` states all findings of a document in terms of the bodies of its tags.
-/

namespace MarkupAssist

open Text Markup

/-! ### Names without marks -/

theorem dropRepeated_replicate (first : Char) (more : List Char) (n : Nat) {tail : List Char}
    (htail : ¬ first :: more <+: tail) :
    dropRepeated first more ((List.replicate n (first :: more)).flatten ++ tail) = tail := by
  induction n with
  | zero =>
    cases tail with
    | nil => simp [dropRepeated]
    | cons c tail =>
      rw [List.replicate_zero, List.flatten_nil, List.nil_append, dropRepeated, if_neg]
      rw [Bool.and_eq_true, beq_iff_eq, List.isPrefixOf_iff_prefix]
      rintro ⟨rfl, hmore⟩
      exact htail (List.cons_prefix_cons.mpr ⟨rfl, hmore⟩)
  | succ n ih =>
    rw [List.replicate_succ, List.flatten_cons, List.append_assoc, List.cons_append, dropRepeated,
      if_pos (by simp), List.drop_left, ih]

/-- What is left of a name without its marks is determined by the name. -/
theorem stripsTo_iff {name rest : List Char} :
    StripsTo name rest ↔ dropValueBinding name = rest := by
  constructor
  · rintro ⟨binds, colons, rfl, hbind, hcolon⟩
    have hrest : rest.dropWhile (· == ':') = rest := by
      cases rest with
      | nil => rfl
      | cons c rest =>
        refine List.dropWhile_cons_of_neg ?_
        rw [beq_iff_eq]
        rintro rfl
        exact hcolon ⟨rest, rfl⟩
    have hcolons : ∀ c ∈ List.replicate colons ':', (c == ':') = true := by
      intro c hc
      rw [List.eq_of_mem_replicate hc]
      rfl
    have hbinds : dropRepeated 'v' "-bind:".toList
        ((List.replicate binds "v-bind:".toList).flatten ++ (List.replicate colons ':' ++ rest)) =
          List.replicate colons ':' ++ rest :=
      dropRepeated_replicate 'v' "-bind:".toList binds hbind
    rw [dropValueBinding, hbinds, List.dropWhile_append_of_pos hcolons, hrest]
  · rintro rfl
    exact stripsTo_dropValueBinding name

namespace Markup

/-- An attribute bears a name if that is what is left of its own without the marks of a value
binding. An attribute with marks only bears no name. -/
def AttributeMatch.Bears (a : AttributeMatch) (name : String) : Prop :=
  name ≠ "" ∧ StripsTo a.name name.toList

theorem AttributeMatch.bears_iff {a : AttributeMatch} {name : String} :
    a.Bears name ↔ name ≠ "" ∧ dropValueBinding a.name = name.toList := by
  rw [Bears, stripsTo_iff]

instance (a : AttributeMatch) (name : String) : Decidable (a.Bears name) :=
  decidable_of_iff _ AttributeMatch.bears_iff.symm

/-- The last attribute of a tag that bears a name. -/
def TagMatch.lastBearing? (m : TagMatch) (name : String) : Option AttributeMatch :=
  (attributeMatches 0 m.body).reverse.find? fun a => a.Bears name

theorem TagMatch.lastBearing?_eq_none_iff {m : TagMatch} {name : String} :
    m.lastBearing? name = none ↔ ∀ a ∈ attributeMatches 0 m.body, ¬ a.Bears name := by
  simp [lastBearing?]

theorem TagMatch.lastBearing?_eq_some_iff {m : TagMatch} {name : String} {a : AttributeMatch} :
    m.lastBearing? name = some a ↔ ∃ before after,
      attributeMatches 0 m.body = before ++ a :: after ∧ a.Bears name ∧
        ∀ b ∈ after, ¬ b.Bears name := by
  rw [lastBearing?, List.find?_eq_some_iff_append]
  constructor
  · rintro ⟨ha, after, before, hsplit, hafter⟩
    refine ⟨before.reverse, after.reverse, ?_, by simpa using ha, by simpa using hafter⟩
    simpa using congrArg List.reverse hsplit
  · rintro ⟨before, after, hsplit, ha, hafter⟩
    exact ⟨by simpa using ha, after.reverse, before.reverse, by simp [hsplit],
      by simpa using hafter⟩

/-- Looking up a name where no name is repeated finds the last that was written. -/
theorem find?_keepLast (attributes : List AttributeOccurrence) (name : String) :
    (keepLast attributes).find? (·.name == name) = attributes.reverse.find? (·.name == name) := by
  induction attributes using List.reverseRecOn with
  | nil => rfl
  | append_singleton attributes a ih =>
    have hstep : keepLast (attributes ++ [a]) =
        (keepLast attributes).filter (·.name != a.name) ++ [a] := by
      rw [keepLast, List.foldl_append]
      rfl
    rw [hstep, List.find?_append, List.reverse_append, List.reverse_singleton,
      List.singleton_append]
    by_cases hname : a.name = name
    · -- nothing of this name is kept from before
      have hnone : ((keepLast attributes).filter (·.name != a.name)).find? (·.name == name) =
          none := by
        rw [List.find?_eq_none]
        intro b hb
        simpa [hname] using (List.mem_filter.mp hb).2
      rw [hnone, List.find?_cons_of_pos (by simpa using hname),
        List.find?_cons_of_pos (by simpa using hname)]
      rfl
    · have hsame : ((keepLast attributes).filter (·.name != a.name)).find? (·.name == name) =
          (keepLast attributes).find? (·.name == name) := by
        rw [List.find?_filter]
        congr 1
        funext b
        by_cases hb : b.name = name
        · simp [hb, Ne.symm hname]
        · simp [hb]
      rw [hsame, ih, List.find?_cons_of_neg (by simpa using hname),
        List.find?_cons_of_neg (by simpa using hname), List.find?_nil, Option.or_none]

end Markup

/-! ### One required attribute -/

/-- The range of an attribute in the body of a tag. -/
def Document.attributeRange (doc : Document) (m : TagMatch) (a : AttributeMatch) : Range :=
  let start := m.offset + 1 + m.name.length + a.offset
  doc.rangeBetween start (start + a.text.length)

theorem attributeOccurrence?_of_bears {a : AttributeMatch} {name : String} (ha : a.Bears name)
    (doc : Document) (base : Nat) :
    doc.attributeOccurrence? base a = some ⟨name, String.ofList a.text, a.value.map String.ofList,
      doc.rangeBetween (base + a.offset) (base + a.offset + a.text.length)⟩ := by
  obtain ⟨hne, hname⟩ := AttributeMatch.bears_iff.mp ha
  have hnonempty : (dropValueBinding a.name).isEmpty = false := by
    rw [hname, List.isEmpty_eq_false_iff]
    exact fun hnil => hne (String.toList_eq_nil_iff.mp hnil)
  rw [Document.attributeOccurrence?, hnonempty, hname, String.ofList_toList]
  rfl

/-- The name under which an attribute is looked up is the one that it bears. -/
theorem any_attributeOccurrence? (doc : Document) (base : Nat) (a : AttributeMatch)
    (name : String) :
    (doc.attributeOccurrence? base a).any (·.name == name) = decide (a.Bears name) := by
  rw [Bool.eq_iff_iff, decide_eq_true_eq]
  constructor
  · intro h
    rw [Document.attributeOccurrence?] at h
    split at h
    · cases h
    · next hempty =>
      obtain rfl : String.ofList (dropValueBinding a.name) = name := by simpa using h
      refine AttributeMatch.bears_iff.mpr ⟨fun hnil => hempty ?_, String.toList_ofList.symm⟩
      simpa using congrArg String.toList hnil
  · intro ha
    rw [attributeOccurrence?_of_bears ha]
    exact beq_self_eq_true name

/-- **A lookup finds the last attribute that bears the name.** -/
theorem attribute?_occurrence (doc : Document) (m : TagMatch) (name : String) :
    (doc.occurrence m).attribute? name = (m.lastBearing? name).map fun a =>
      ⟨name, String.ofList a.text, a.value.map String.ofList, doc.attributeRange m a⟩ := by
  have hlookup : (doc.occurrence m).attribute? name =
      (m.lastBearing? name).bind (doc.attributeOccurrence? (m.offset + 1 + m.name.length)) := by
    show (keepLast _).find? _ = _
    rw [find?_keepLast, ← List.filterMap_reverse, List.find?_filterMap, TagMatch.lastBearing?]
    simp only [any_attributeOccurrence?]
  rw [hlookup]
  cases hlast : m.lastBearing? name with
  | none => rfl
  | some a =>
    obtain ⟨-, -, -, ha, -⟩ := TagMatch.lastBearing?_eq_some_iff.mp hlast
    exact attributeOccurrence?_of_bears ha doc _

/-- Whether an attribute leaves blank what is required of a type: its value is blank, or it has none
and is no flag. -/
def Markup.AttributeMatch.leavesBlank (a : AttributeMatch) (type : AttributeType) : Bool :=
  match a.value with
  | some value => value.all isBlank
  | none => type != .flag

theorem Markup.AttributeMatch.leavesBlank_iff {a : AttributeMatch} {type : AttributeType} :
    a.leavesBlank type = true ↔
      (∃ value, a.value = some value ∧ ∀ c ∈ value, isBlank c = true) ∨
        a.value = none ∧ type ≠ .flag := by
  rw [leavesBlank]
  cases a.value <;> simp

/-- **What is wrong with a required attribute** is read off the last attribute that bears its
name. -/
theorem fault?_occurrence (doc : Document) (m : TagMatch) (required : String × Attribute) :
    (doc.occurrence m).fault? required =
      (m.lastBearing? required.1).elim (some (.missing (doc.occurrence m).range required.1))
        fun a =>
          if a.leavesBlank required.2.type then some (.blank (doc.attributeRange m a) required.1)
          else none := by
  rw [Occurrence.fault?, attribute?_occurrence]
  cases m.lastBearing? required.1 with
  | none => rfl
  | some a =>
    obtain ⟨offset, written, text, value⟩ := a
    simp only [Option.map_some, Option.elim_some, AttributeMatch.leavesBlank,
      AttributeOccurrence.isBlank]
    cases value with
    | none => by_cases hflag : required.2.type = .flag <;> simp [hflag]
    | some value => simp

namespace Diagnostic

theorem missing_ne_blank (r s : Range) (name other : String) : missing r name ≠ blank s other := by
  have hcode : missingCode ≠ blankCode := by decide
  exact fun h => hcode (congrArg Diagnostic.code h)

theorem missing_inj {r s : Range} {name other : String} (h : missing r name = missing s other) :
    r = s ∧ name = other := by
  have hmessage : name ++ " is required" = other ++ " is required" :=
    congrArg Diagnostic.message h
  exact ⟨congrArg Diagnostic.range h, (String.append_left_inj _).mp hmessage⟩

end Diagnostic

section Fault

variable (doc : Document) (m : TagMatch) (required : String × Attribute)

theorem fault?_eq_missing_iff :
    (doc.occurrence m).fault? required = some (.missing (doc.occurrence m).range required.1) ↔
      ∀ a ∈ attributeMatches 0 m.body, ¬ a.Bears required.1 := by
  rw [fault?_occurrence, ← TagMatch.lastBearing?_eq_none_iff]
  cases m.lastBearing? required.1 with
  | none => simp
  | some a =>
    have hne := (Diagnostic.missing_ne_blank (doc.occurrence m).range (doc.attributeRange m a)
      required.1 required.1).symm
    rw [Option.elim_some]
    split <;> simp [hne]

theorem fault?_eq_blank_iff (range : Range) :
    (doc.occurrence m).fault? required = some (.blank range required.1) ↔
      ∃ a, m.lastBearing? required.1 = some a ∧ range = doc.attributeRange m a ∧
        a.leavesBlank required.2.type = true := by
  rw [fault?_occurrence]
  cases m.lastBearing? required.1 with
  | none => simp [Diagnostic.missing_ne_blank]
  | some a =>
    rw [Option.elim_some]
    constructor
    · intro h
      split at h
      · next hblank =>
        exact ⟨a, rfl, (congrArg Diagnostic.range (Option.some.inj h)).symm, hblank⟩
      · cases h
    · rintro ⟨a', ha', rfl, hblank⟩
      obtain rfl := Option.some.inj ha'
      rw [if_pos hblank]

theorem fault?_cases {d : Diagnostic} (h : (doc.occurrence m).fault? required = some d) :
    d = .missing (doc.occurrence m).range required.1 ∨ ∃ range, d = .blank range required.1 := by
  rw [fault?_occurrence] at h
  cases hlast : m.lastBearing? required.1 with
  | none =>
    rw [hlast] at h
    exact .inl (Option.some.inj h).symm
  | some a =>
    rw [hlast, Option.elim_some] at h
    split at h
    · exact .inr ⟨_, (Option.some.inj h).symm⟩
    · cases h

end Fault

/-! ### All findings -/

/-- **The findings are exact.** They are those of the tags of known elements, in the order of the
document, and for each tag those of the required attributes, in the order of their declaration. A
required attribute is missing, at the range of the tag, if no attribute of the body bears its name.
It is blank, at the range of the last attribute that bears its name, if this has a blank value, or
none and the required attribute is no flag. There is nothing else to be found. -/
theorem findings_exact (catalogue : Catalogue) (doc : Document) :
    catalogue.validate doc =
      ((tagMatches 0 doc.chars).filter fun m => catalogue.isKnown (String.ofList m.name)).flatMap
        (fun m => match catalogue.element? (String.ofList m.name) with
          | some element =>
            (element.attributes.filter (·.2.isRequired)).filterMap (doc.occurrence m).fault?
          | none => []) ∧
    ∀ (m : TagMatch) (required : String × Attribute),
      ((doc.occurrence m).fault? required =
          some (.missing (doc.rangeBetween m.offset (m.offset + m.text.length)) required.1) ↔
        ∀ a ∈ attributeMatches 0 m.body, ¬ a.Bears required.1) ∧
      (∀ range, (doc.occurrence m).fault? required = some (.blank range required.1) ↔
        ∃ before a after, attributeMatches 0 m.body = before ++ a :: after ∧
          a.Bears required.1 ∧ (∀ b ∈ after, ¬ b.Bears required.1) ∧
          range = doc.attributeRange m a ∧
          ((∃ value, a.value = some value ∧ ∀ c ∈ value, isBlank c = true) ∨
            a.value = none ∧ required.2.type ≠ .flag)) ∧
      (∀ d, (doc.occurrence m).fault? required = some d →
        d = .missing (doc.rangeBetween m.offset (m.offset + m.text.length)) required.1 ∨
          ∃ range, d = .blank range required.1) ∧
      ∀ a ∈ attributeMatches 0 m.body, AttributeText a.name a.text a.value := by
  refine ⟨?_, fun m required => ⟨fault?_eq_missing_iff doc m required, fun range => ?_,
    fun d => fault?_cases doc m required, fun a ha => (attributeText_of_mem ha).2.2⟩⟩
  · rw [Catalogue.validate, Document.occurrences, List.flatMap_map]
    rfl
  · rw [fault?_eq_blank_iff]
    constructor
    · rintro ⟨a, ha, hrange, hblank⟩
      obtain ⟨before, after, hsplit, hbears, hafter⟩ := TagMatch.lastBearing?_eq_some_iff.mp ha
      exact ⟨before, a, after, hsplit, hbears, hafter, hrange,
        AttributeMatch.leavesBlank_iff.mp hblank⟩
    · rintro ⟨before, a, after, hsplit, hbears, hafter, hrange, hblank⟩
      exact ⟨a, TagMatch.lastBearing?_eq_some_iff.mpr ⟨before, after, hsplit, hbears, hafter⟩,
        hrange, AttributeMatch.leavesBlank_iff.mpr hblank⟩

/-- A catalogue with one element, which requires an attribute without a name. -/
def namelessCatalogue : Catalogue where
  elements := [("f-row", { attributes := [("", { isRequired := true })] })]

/-- Marks alone do not count as an attribute. Nothing is left of the one in this tag without its
mark, and still the attribute without a name is missing. -/
theorem missing_despite_marks :
    let doc : Document := ⟨"<f-row :>".toList, "html"⟩
    let m : TagMatch := ⟨0, "f-row".toList, " :>".toList⟩
    tagMatches 0 doc.chars = [m] ∧ (∃ a ∈ attributeMatches 0 m.body, StripsTo a.name "".toList) ∧
      namelessCatalogue.validate doc = [.missing (.onLine 0 0 9) ""] := by
  intro doc m
  refine ⟨by decide +kernel, ⟨⟨1, [':'], [':'], none⟩, by decide +kernel, ?_⟩, by decide +kernel⟩
  exact stripsTo_iff.mpr (by decide +kernel)

/-- A catalogue with one element, which requires a flag between two other attributes. -/
def mixedCatalogue : Catalogue where
  elements := [("f-row", {
    attributes :=
      [("kind", { isRequired := true }), ("wide", { isRequired := true, type := .flag }),
       ("label", { isRequired := true })] })]

/-- A tag with one attribute twice: once bound, and then blank. -/
def relabelledRow : Document :=
  ⟨"<f-row :label='1' wide label=' '>".toList, "vue"⟩

/-- Of the two values the last one counts. The flag needs none. -/
theorem findings_exact_relabelledRow :
    let m : TagMatch := ⟨0, "f-row".toList, " :label='1' wide label=' '>".toList⟩
    tagMatches 0 relabelledRow.chars = [m] ∧
    mixedCatalogue.validate relabelledRow =
      [.missing (.onLine 0 0 33) "kind", .blank (.onLine 0 23 32) "label"] ∧
    (relabelledRow.occurrence m).fault? ("kind", { isRequired := true }) =
      some (.missing (.onLine 0 0 33) "kind") ∧
    (relabelledRow.occurrence m).fault? ("label", { isRequired := true }) =
      some (.blank (.onLine 0 23 32) "label") := by
  intro m
  have hmatches : tagMatches 0 relabelledRow.chars = [m] := by decide +kernel
  obtain ⟨hvalidate, hfaults⟩ := findings_exact mixedCatalogue relabelledRow
  have hkind := (hfaults m ("kind", { isRequired := true })).1.mpr (by decide +kernel)
  have hlabel := ((hfaults m ("label", { isRequired := true })).2.1 (.onLine 0 23 32)).mpr
    ⟨[⟨1, ":label".toList, ":label='1'".toList, some ['1']⟩,
      ⟨12, "wide".toList, "wide".toList, none⟩],
      ⟨17, "label".toList, "label=' '".toList, some [' ']⟩, [], by decide +kernel,
      by decide +kernel, by decide, by decide +kernel,
      .inl ⟨[' '], rfl, List.forall_mem_singleton.mpr (by decide)⟩⟩
  refine ⟨hmatches, ?_, hkind, hlabel⟩
  rw [hvalidate, hmatches]
  decide +kernel

end MarkupAssist
