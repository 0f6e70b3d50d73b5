import MarkupAssist.Proofs.LoadCriterion
import MarkupAssist.Proofs.ReplacedValue

/-!
# What one list of items holds

At a position one kind of thing is offered, and each thing once. The first part follows from the
dispatch on the context; the second one needs that no name is declared twice, at any depth of a
schema.

* `Attribute.Distinct`: the options of an attribute have distinct names, and so have its words and
  the options of each word, and so on. Whatever decodes is so, also from an object with repeated
  keys (`Attribute.distinct_of_decode?`): a dictionary keeps one value for each key.
* `Completion.Uniform`: the items of a list are of one kind, and their labels come from one place of
  the catalogue. Each branch of the dispatch gives such a list (`Completion.uniform_complete`).
* `Completion.Uniform.nodup`: at each of these places the names are distinct.

`complete_uniform` puts this together.
-/

namespace MarkupAssist

/-! ### Names that are declared once -/

/-- The options of an attribute have distinct names, or the words of its value have, and then the
same holds of each word. -/
inductive Attribute.Distinct : Attribute → Prop
  | unlisted {attr : Attribute} (values : attr.values = none) : Distinct attr
  | options {attr : Attribute} {entries : Entries (Option String)}
      (values : attr.values = some (.options entries)) (nodup : entries.names.Nodup) :
      Distinct attr
  | slots {attr : Attribute} {entries : Entries Attribute}
      (values : attr.values = some (.slots entries)) (nodup : entries.names.Nodup)
      (words : ∀ e ∈ entries, Distinct e.2) : Distinct attr

/-- A field that may be missing has its value from a decoder. -/
theorem Json.exists_of_optionalField? {α : Type} {decode : Json → Option α} {field : Option Json}
    {x : α} (h : Json.optionalField? decode field = some (some x)) :
    ∃ value, decode value = some x := by
  cases field with
  | none => cases h
  | some value =>
    change Json.optional? decode value = some (some x) at h
    rw [Json.optional?.eq_def] at h
    split at h
    · cases h
    · obtain ⟨y, hy, heq⟩ := Option.map_eq_some_iff.mp h
      exact ⟨value, hy.trans heq⟩

namespace Attribute

theorem Distinct.nodup_options {attr : Attribute} (h : attr.Distinct)
    {entries : Entries (Option String)} (hentries : attr.options? = some entries) :
    entries.names.Nodup := by
  cases h with
  | unlisted values =>
    rw [options?, values] at hentries
    cases hentries
  | options values nodup =>
    rw [options?, values] at hentries
    rwa [← Option.some.inj hentries]
  | slots values _ _ =>
    rw [options?, values] at hentries
    cases hentries

theorem Distinct.word {attr : Attribute} (h : attr.Distinct) {entries : Entries Attribute}
    (hentries : attr.slots? = some entries) {e : String × Attribute} (he : e ∈ entries) :
    e.2.Distinct := by
  cases h with
  | unlisted values =>
    rw [slots?, values] at hentries
    cases hentries
  | options values _ =>
    rw [slots?, values] at hentries
    cases hentries
  | slots values _ words =>
    rw [slots?, values] at hentries
    rw [← Option.some.inj hentries] at he
    exact words e he

/-- The values of an attribute are its dictionary, read as options or as words. -/
theorem values_of_decodeWith? {decodeValues : Json → Option (Entries Attribute)} {value : Json}
    {attr : Attribute} (h : decodeWith? decodeValues value = some attr) :
    attr.values = none ∨ ∃ v entries multiValues, decodeValues v = some entries ∧
      attr.values = some (valueSet multiValues entries) := by
  rw [decodeWith?] at h
  obtain ⟨fields, -, h⟩ := Option.bind_eq_some_iff.mp h
  split at h
  · simp only [Option.bind_eq_bind, Option.bind_eq_some_iff] at h
    obtain ⟨multiValues, -, read, hread, _, -, _, -, _, -, _, -, heq⟩ := h
    have hvalues : attr.values = read.map (valueSet multiValues) := by
      cases heq
      rfl
    cases read with
    | none => exact .inl hvalues
    | some entries =>
      obtain ⟨v, hv⟩ := Json.exists_of_optionalField? hread
      exact .inr ⟨v, entries, multiValues, hv, hvalues⟩
  · cases h

/-- **One step down.** An attribute has distinct names if its dictionary has, in both readings. -/
theorem distinct_of_decodeWith? {decodeValues : Json → Option (Entries Attribute)}
    (hvalues : ∀ v entries, decodeValues v = some entries →
      entries.names.Nodup ∧ ∀ e ∈ entries, e.2.Distinct)
    {value : Json} {attr : Attribute} (h : decodeWith? decodeValues value = some attr) :
    attr.Distinct := by
  rcases values_of_decodeWith? h with hnone | ⟨v, entries, multiValues, hv, hset⟩
  · exact .unlisted hnone
  · obtain ⟨hnodup, hwords⟩ := hvalues v entries hv
    cases multiValues with
    | true => exact .slots hset hnodup hwords
    | false =>
      -- of an option the description is kept, and its name
      refine .options hset ?_
      rw [Entries.names, List.map_map]
      exact hnodup

/-- **Whatever decodes has distinct names at every depth.** -/
theorem distinct_of_decode? {levels : Nat} {value : Json} {attr : Attribute}
    (h : decode? levels value = some attr) : attr.Distinct := by
  -- an attribute inside another is two levels down: in the dictionary, which is in the attribute
  induction levels using Nat.strongRecOn generalizing value attr with
  | _ levels ih =>
    match levels with
    | 0 => cases h
    | 1 => exact distinct_of_decodeWith? (fun _ _ hv => by cases hv) h
    | levels + 2 =>
      refine distinct_of_decodeWith? (fun v entries hv => ⟨?_, fun e he => ?_⟩) h
      · exact Catalogue.nodup_names_of_entries? hv
      · obtain ⟨w, hw⟩ := Catalogue.exists_of_mem_entries? hv he
        exact ih levels (by omega) hw

end Attribute

namespace Catalogue

variable {sources : List (String × String)} {catalogue : Catalogue}

theorem nodup_elements_of_load (hload : load sources = .ok catalogue) :
    catalogue.elements.names.Nodup := by
  have houtcome := (loadWith_eq_iff readsDictionaries_decodeSource?).mp hload
  cases houtcome with
  | loaded addable _ => exact nodup_definitions readsDictionaries_decodeSource? addable

theorem distinct_of_attribute? (hload : load sources = .ok catalogue) {tag name : String}
    {attr : Attribute} (h : catalogue.attribute? tag name = some attr) : attr.Distinct := by
  obtain ⟨element, hknown, hattr⟩ := Option.bind_eq_some_iff.mp h
  obtain ⟨levels, value, hdecode⟩ := exists_decode?_of_load hload (Entries.mem_of_get? hknown)
  have hmem := Entries.mem_of_get? hattr
  rcases attributes_of_decode? hdecode with hnil | ⟨v, hv⟩
  · rw [hnil] at hmem
    cases hmem
  · obtain ⟨w, hw⟩ := exists_of_mem_entries? hv hmem
    exact Attribute.distinct_of_decode? hw

/-- A definition that the catalogue gives values for: an attribute of a known element, or a word of
the composed value of one. -/
inductive Describes (catalogue : Catalogue) : Attribute → Prop
  | named {tag name : String} {attr : Attribute}
      (declared : catalogue.attribute? tag name = some attr) : Describes catalogue attr
  | word {tag name word : String} {attr slot : Attribute} {slots : Entries Attribute}
      (declared : catalogue.attribute? tag name = some attr) (composed : attr.slots? = some slots)
      (mem : (word, slot) ∈ slots) : Describes catalogue slot

theorem Describes.distinct (hload : load sources = .ok catalogue) {attr : Attribute}
    (h : catalogue.Describes attr) : attr.Distinct := by
  cases h with
  | named declared => exact distinct_of_attribute? hload declared
  | word declared composed mem => exact (distinct_of_attribute? hload declared).word composed mem

end Catalogue

/-! ### Lists of one kind -/

namespace Completion

/-- The items of a list are of one kind, and their labels come from one place of the catalogue.
Where tags are not accepted there are no elements. -/
inductive Uniform (catalogue : Catalogue) (tagsAllowed : Bool) (items : List CompletionItem) : Prop
  | nothing (empty : items = [])
  /-- All elements, in the order of the catalogue. -/
  | elements (allowed : tagsAllowed = true)
      (labels : items.map (·.label) = catalogue.elements.names)
      (kinds : ∀ item ∈ items, item.kind = .element)
  /-- Attributes of one element, in the order of their declaration. -/
  | attributes {tag : String} {element : Element} (known : catalogue.element? tag = some element)
      (labels : (items.map (·.label)).Sublist element.attributes.names)
      (kinds : ∀ item ∈ items, ∃ attr, catalogue.attribute? tag item.label = some attr ∧
        item.kind = if attr.type = .method then .method else .attribute)
  /-- The options of one attribute, or of one word of a composed value. -/
  | options {attr : Attribute} {entries : Entries (Option String)}
      (described : catalogue.Describes attr) (listed : attr.options? = some entries)
      (labels : items.map (·.label) = entries.names) (kinds : ∀ item ∈ items, item.kind = .value)
  /-- The two truth values. -/
  | truthValues {attr : Attribute} (described : catalogue.Describes attr)
      (unlisted : attr.options? = none) (boolean : attr.type = .boolean)
      (labels : items.map (·.label) = ["true", "false"])
      (kinds : ∀ item ∈ items, item.kind = .value)

section Uniform

variable {sources : List (String × String)} {catalogue : Catalogue} {tagsAllowed : Bool}

/-- **The labels of a list of one kind are distinct.** -/
theorem Uniform.nodup (hload : Catalogue.load sources = .ok catalogue)
    {items : List CompletionItem} (h : Uniform catalogue tagsAllowed items) :
    (items.map (·.label)).Nodup := by
  cases h with
  | nothing empty =>
    rw [empty]
    exact List.nodup_nil
  | elements _ labels _ =>
    rw [labels]
    exact Catalogue.nodup_elements_of_load hload
  | attributes known labels _ =>
    exact (Catalogue.nodup_attributes_of_load hload (Entries.mem_of_get? known)).sublist labels
  | options described listed labels _ =>
    rw [labels]
    exact (described.distinct hload).nodup_options listed
  | truthValues _ _ _ labels _ =>
    rw [labels]
    decide

theorem Uniform.allowed {items : List CompletionItem} (h : Uniform catalogue tagsAllowed items)
    {item : CompletionItem} (hitem : item ∈ items) (hkind : item.kind = .element) :
    tagsAllowed = true := by
  cases h with
  | nothing empty =>
    rw [empty] at hitem
    cases hitem
  | elements allowed _ _ => exact allowed
  | attributes _ _ kinds =>
    obtain ⟨attr, -, hattr⟩ := kinds item hitem
    rw [hkind] at hattr
    split at hattr <;> cases hattr
  | options _ _ _ kinds =>
    rw [kinds item hitem] at hkind
    cases hkind
  | truthValues _ _ _ _ kinds =>
    rw [kinds item hitem] at hkind
    cases hkind

theorem uniform_valueItems {attr : Attribute} (h : catalogue.Describes attr)
    (range : Option Range) : Uniform catalogue tagsAllowed (valueItems attr range) := by
  have hkinds : ∀ item ∈ valueItems attr range, item.kind = .value :=
    fun item hitem => (mem_valueItems hitem).1
  have hlabels : (valueItems attr range).map (·.label) = (optionsOf attr).map Prod.fst := by
    rw [valueItems, List.map_map]
    rfl
  cases hoptions : attr.options? with
  | some entries =>
    refine .options h hoptions ?_ hkinds
    rw [hlabels, optionsOf, hoptions, List.map_map]
    rfl
  | none =>
    by_cases hboolean : attr.type = .boolean
    · refine .truthValues h hoptions hboolean ?_ hkinds
      rw [hlabels, optionsOf, hoptions, hboolean]
      rfl
    · refine .nothing ?_
      have hempty : optionsOf attr = [] := by
        simp only [optionsOf, hoptions, beq_iff_eq, hboolean, ↓reduceIte]
      rw [valueItems, hempty, List.map_nil]

theorem uniform_completeValues (doc : Document) (p : Position) (tag name : String) :
    Uniform catalogue tagsAllowed (catalogue.completeValues doc p tag name) := by
  unfold Catalogue.completeValues
  split
  · next attr opened hattr _ =>
    dsimp only
    split
    · exact uniform_valueItems (.named hattr) _
    · next slots hslots =>
      split
      · exact .nothing rfl
      · next word slot hslot =>
        exact uniform_valueItems (.word hattr hslots (List.mem_of_getElem? hslot)) _
  · exact .nothing rfl

theorem uniform_completeAttributes (hload : Catalogue.load sources = .ok catalogue)
    (doc : Document) (p : Position) (tag : String) (settings : Settings) :
    Uniform catalogue tagsAllowed (catalogue.completeAttributes doc p tag settings) := by
  unfold Catalogue.completeAttributes
  split
  · exact .nothing rfl
  · next element hknown =>
    have hnodup := Catalogue.nodup_attributes_of_load hload (Entries.mem_of_get? hknown)
    refine .attributes hknown ?_ ?_
    · -- attributes are left out, for their name or for the mark in front, but none is moved
      rw [List.map_map]
      exact (List.filter_sublist.trans List.filter_sublist).map _
    · intro item hitem
      obtain ⟨⟨name, attr⟩, hmem, rfl⟩ := List.mem_map.mp hitem
      have hdeclared : (name, attr) ∈ element.attributes :=
        List.mem_of_mem_filter (List.mem_of_mem_filter hmem)
      refine ⟨attr, ?_, ?_⟩
      · rw [Catalogue.attribute?, hknown, Option.bind_some]
        exact (Entries.get?_eq_some_iff hnodup).mpr hdeclared
      · simp [attributeItem, CompletionItem.ofLabel, Attribute.isMethod]

theorem uniform_completeElements (settings : Settings) :
    Uniform catalogue true (catalogue.completeElements settings) := by
  refine .elements rfl ?_ fun item hitem => ?_
  · calc (catalogue.elements.zipIdx.map (catalogue.elementItem settings)).map (·.label)
        = (catalogue.elements.zipIdx.map Prod.fst).map Prod.fst := by
          rw [List.map_map, List.map_map]
          rfl
      _ = catalogue.elements.names := by
          rw [List.zipIdx_map_fst]
          rfl
  · obtain ⟨⟨⟨tag, element⟩, place⟩, -, rfl⟩ := List.mem_map.mp hitem
    rfl

/-- **Each branch of the dispatch gives items of one kind.** -/
theorem uniform_complete (hload : Catalogue.load sources = .ok catalogue) (doc : Document)
    (cursor : Position) (settings : Settings) :
    Uniform catalogue (doc.tagsAllowed (doc.clamp cursor))
      (catalogue.complete doc cursor settings) := by
  unfold Catalogue.complete
  dsimp only
  split
  · exact uniform_completeValues doc _ _ _
  · exact uniform_completeAttributes hload doc _ _ settings
  · split
    · next hallowed =>
      rw [hallowed]
      exact uniform_completeElements settings
    · exact .nothing rfl
  · exact .nothing rfl

end Uniform

end Completion

/-- Whether tags are accepted depends on the line only, and past the last line it is the same as on
it. -/
theorem Document.tagsAllowed_clamp (doc : Document) (cursor : Position) :
    doc.tagsAllowed (doc.clamp cursor) = doc.tagsAllowed cursor := by
  have hlines : doc.rawLines.take ((doc.clamp cursor).line + 1) =
      doc.rawLines.take (cursor.line + 1) := by
    cases hline : doc.line? cursor.line with
    | some line => rw [clamp, hline]
    | none =>
      -- past the last line all lines are taken, as they are at the end of the text
      have hpast : doc.rawLines.length ≤ cursor.line := line?_eq_none_iff.mp hline
      have hend : doc.endPosition.line + 1 = doc.rawLines.length := by
        rw [endPosition, Position.line_advanceOver, ← lineCount, lineCount_eq]
        exact congrArg (· + 1) (Nat.zero_add _)
      rw [clamp, hline, hend, List.take_length, List.take_of_length_le (by omega)]
  rw [tagsAllowed, tagsAllowed, inScript, inScript, hlines]

/-- **What is offered is of one kind and without repetition.** The catalogue is loaded from any
sources, also with repeated keys. The labels at a position are distinct. Either they are all
elements in their order, or attributes of one element with methods told apart, or the options of one
attribute or of one word, or the two truth values of a boolean that lists no options; or there is
none. Elements are offered only where tags are accepted. -/
theorem complete_uniform {sources : List (String × String)} {catalogue : Catalogue}
    (hload : Catalogue.load sources = .ok catalogue) (doc : Document) (cursor : Position)
    (settings : Settings) :
    let items := catalogue.complete doc cursor settings
    (items.map (·.label)).Nodup ∧
      Completion.Uniform catalogue (doc.tagsAllowed cursor) items ∧
      ∀ item ∈ items, item.kind = .element → doc.tagsAllowed cursor = true := by
  intro items
  have huniform : Completion.Uniform catalogue (doc.tagsAllowed cursor) items := by
    rw [← doc.tagsAllowed_clamp]
    exact Completion.uniform_complete hload doc cursor settings
  exact ⟨huniform.nodup hload, huniform, fun item hitem hkind => huniform.allowed hitem hkind⟩

/-- A source that repeats the key of an element, of an attribute, of a word and of an option. -/
def doubledSource : String :=
  "\x7b\"f-box\": \x7b\x7d, \"f-row\": \x7b\x7d, \"f-box\": \x7b\"attributes\": \x7b" ++
    "\"border\": \x7b\x7d, \"click\": \x7b\"type\": \"method\"\x7d, " ++
    "\"border\": \x7b\"multiValues\": true, \"values\": \x7b\"width\": \x7b\x7d, " ++
      "\"width\": \x7b\"values\": \x7b\"thin\": \x7b\x7d, \"thick\": \x7b\x7d, " ++
        "\"thin\": \x7b\x7d\x7d\x7d\x7d\x7d\x7d\x7d\x7d"

/-- A tag with an empty value and room for an attribute, and the start of another tag. -/
def doubledPage : Document :=
  ⟨"<f-box border=\"\" \n<".toList, "html"⟩

/-- In the value the options of its word are offered, behind it the attributes, and at the start of
the other tag the elements, each of them once. -/
theorem complete_uniform_doubled :
    ∃ catalogue, Catalogue.load [("box.json", doubledSource)] = .ok catalogue ∧
      ([⟨0, 15⟩, ⟨0, 17⟩, ⟨1, 1⟩].map fun cursor =>
        (catalogue.complete doubledPage cursor {}).map fun item => (item.label, item.kind)) =
          [[("thin", .value), ("thick", .value)], [("border", .attribute), ("click", .method)],
           [("f-box", .element), ("f-row", .element)]] ∧
      ∀ cursor, ((catalogue.complete doubledPage cursor {}).map (·.label)).Nodup := by
  have hoffers : (Catalogue.load [("box.json", doubledSource)]).toOption.map (fun catalogue =>
      [⟨0, 15⟩, ⟨0, 17⟩, ⟨1, 1⟩].map fun cursor =>
        (catalogue.complete doubledPage cursor {}).map fun item => (item.label, item.kind)) =
          some [[("thin", .value), ("thick", .value)], [("border", .attribute), ("click", .method)],
            [("f-box", .element), ("f-row", .element)]] := by
    decide +kernel
  cases hload : Catalogue.load [("box.json", doubledSource)] with
  | error e =>
    rw [hload] at hoffers
    cases hoffers
  | ok catalogue =>
    rw [hload] at hoffers
    refine ⟨catalogue, rfl, Option.some.inj hoffers, fun cursor => ?_⟩
    exact (complete_uniform hload doubledPage cursor {}).1

end MarkupAssist
