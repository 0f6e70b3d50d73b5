import Mathlib.Data.List.Basic
import MarkupAssist.Schema.Catalogue

/-!
# What loading guarantees

A catalogue that has been loaded is more than a list of elements. Its elements
are those of its sources, one source after the other
(`elements_of_foldlM_addSource`), every subtag it mentions is one of its tags
(`isKnown_of_subtag`), and no element declares an attribute twice
(`nodup_attributes_of_load`). The first two hold whatever the decoder is; the
last one comes from the decoder, which reads a dictionary by `Entries.ofList`.
-/

namespace MarkupAssist

namespace Entries

variable {α : Type}

theorem mem_put {entries : Entries α} {name : String} {value : α} {e : String × α}
    (he : e ∈ entries.put name value) : e = (name, value) ∨ e ∈ entries := by
  induction entries with
  | nil => exact Or.inl (List.mem_singleton.mp he)
  | cons d rest ih =>
    rw [put] at he
    split at he
    · rcases List.mem_cons.mp he with rfl | he
      · exact Or.inl rfl
      · exact Or.inr (List.mem_cons_of_mem _ he)
    · rcases List.mem_cons.mp he with rfl | he
      · exact Or.inr List.mem_cons_self
      · exact (ih he).imp id (List.mem_cons_of_mem _)

/-- Every entry was in the list. -/
theorem mem_of_mem_ofList {list : List (String × α)} {e : String × α} (he : e ∈ ofList list) :
    e ∈ list := by
  -- generalised over the entries that have been put so far
  suffices h : ∀ entries : Entries α,
      e ∈ list.foldl (fun entries e => entries.put e.1 e.2) entries → e ∈ entries ∨ e ∈ list from
    (h [] he).resolve_left List.not_mem_nil
  clear he
  induction list with
  | nil => exact fun entries he => Or.inl he
  | cons d rest ih =>
    intro entries he
    rcases ih _ he with he | he
    · rcases mem_put he with rfl | he
      · exact Or.inr List.mem_cons_self
      · exact Or.inl he
    · exact Or.inr (List.mem_cons_of_mem _ he)

theorem has_eq_isSome_get? (entries : Entries α) (name : String) :
    entries.has name = (entries.get? name).isSome := by
  rw [has, get?, Option.isSome_map, Bool.eq_iff_iff, List.find?_isSome, List.any_eq_true]

/-- What a name stands for is one of the entries. -/
theorem mem_of_get? {entries : Entries α} {name : String} {value : α}
    (h : entries.get? name = some value) : (name, value) ∈ entries := by
  obtain ⟨e, he, rfl⟩ := Option.map_eq_some_iff.mp h
  obtain rfl : e.1 = name := by simpa using List.find?_some he
  exact List.mem_of_find?_eq_some he

end Entries

namespace Catalogue

/-! ### Elements -/

theorem isKnown_iff {catalogue : Catalogue} {tag : String} :
    catalogue.isKnown tag = true ↔ ∃ element, catalogue.element? tag = some element := by
  rw [isKnown, Entries.has_eq_isSome_get?, Option.isSome_iff_exists, element?]

theorem elements_of_foldlM_addElement {entries : Entries Element} {c c' : Catalogue}
    (h : entries.foldlM addElement c = .ok c') : c'.elements = c.elements ++ entries := by
  induction entries generalizing c with
  | nil =>
    obtain rfl : c = c' := by simpa [pure, Except.pure] using h
    rw [List.append_nil]
  | cons e rest ih =>
    rw [List.foldlM_cons, addElement] at h
    split at h
    · cases h
    · rw [ih h, List.append_assoc, List.singleton_append]

/-- **The elements are those of the sources, in their order.** -/
theorem elements_of_foldlM_addSource {decode : String → Option (Entries Element)}
    {sources : List (String × String)} {c c' : Catalogue}
    (h : sources.foldlM (addSource decode) c = .ok c') :
    ∃ parts : List (Entries Element), sources.mapM (fun s => decode s.2) = some parts ∧
      c'.elements = c.elements ++ parts.flatten := by
  induction sources generalizing c with
  | nil =>
    obtain rfl : c = c' := by simpa [pure, Except.pure] using h
    exact ⟨[], rfl, by simp⟩
  | cons s rest ih =>
    rw [List.foldlM_cons] at h
    cases hdecode : decode s.2 with
    | none =>
      rw [addSource, hdecode] at h
      cases h
    | some entries =>
      cases hadd : addSource decode c s with
      | error e => rw [hadd] at h; cases h
      | ok c₁ =>
        rw [hadd] at h
        obtain ⟨parts, hparts, helements⟩ := ih h
        rw [addSource, hdecode] at hadd
        refine ⟨entries :: parts, ?_, ?_⟩
        · rw [List.mapM_cons, hdecode, hparts]
          rfl
        · rw [helements, elements_of_foldlM_addElement hadd, List.append_assoc,
            List.flatten_cons]

theorem checkReferences_eq_ok {c c' : Catalogue} (h : c.checkReferences = .ok c') :
    c = c' ∧ ∀ e ∈ c.elements, c.brokenReference? e = none := by
  rw [checkReferences] at h
  split at h
  · cases h
  · next hnone => exact ⟨by simpa using h, List.findSome?_eq_none_iff.mp hnone⟩

theorem loadWith_eq_ok {decode : String → Option (Entries Element)}
    {sources : List (String × String)} {catalogue : Catalogue}
    (h : loadWith decode sources = .ok catalogue) :
    sources.foldlM (addSource decode) {} = .ok catalogue ∧
      ∀ e ∈ catalogue.elements, catalogue.brokenReference? e = none := by
  rw [loadWith] at h
  cases hfold : sources.foldlM (addSource decode) {} with
  | error e => rw [hfold] at h; cases h
  | ok c =>
    rw [hfold] at h
    obtain ⟨rfl, href⟩ := checkReferences_eq_ok h
    exact ⟨rfl, href⟩

/-- **Every subtag is a tag of the catalogue.** -/
theorem isKnown_of_subtag {decode : String → Option (Entries Element)}
    {sources : List (String × String)} {catalogue : Catalogue}
    (h : loadWith decode sources = .ok catalogue) {e : String × Element}
    (he : e ∈ catalogue.elements) {tag : String} (htag : tag ∈ e.2.subtags) :
    catalogue.isKnown tag = true := by
  have href := (loadWith_eq_ok h).2 e he
  rw [brokenReference?] at href
  split at href
  · cases href
  · rw [Option.map_eq_none_iff, List.find?_eq_none] at href
    simpa using href tag htag

/-! ### Attributes -/

theorem nodup_names_of_entries? {α : Type} {decode : Json → Option α} {value : Json}
    {entries : Entries α} (h : value.entries? decode = some entries) : entries.names.Nodup := by
  cases value with
  | object members =>
    rw [Json.entries?] at h
    obtain ⟨list, -, hlist⟩ := Option.bind_eq_some_iff.mp h
    obtain rfl : Entries.ofList list = entries := by simpa using hlist
    exact Entries.nodup_names_ofList list
  | _ => cases h

/-- The attributes of an element are read as a dictionary, if it has any. -/
theorem attributes_of_decode? {levels : Nat} {value : Json} {element : Element}
    (h : Element.decode? levels value = some element) :
    element.attributes = [] ∨
      ∃ v : Json, v.entries? (Attribute.decode? levels) = some element.attributes := by
  rw [Element.decode?] at h
  obtain ⟨fields, -, h⟩ := Option.bind_eq_some_iff.mp h
  split at h
  · simp only [Option.bind_eq_bind, Option.bind_eq_some_iff] at h
    obtain ⟨_, -, _, -, _, -, _, -, _, -, _, -, attributes, hattributes, heq⟩ := h
    obtain rfl : attributes = element.attributes := by
      cases heq
      rfl
    -- the field may be missing, and then there are no attributes
    rw [Json.withDefault?.eq_def] at hattributes
    split at hattributes
    · exact .inl (Option.some.inj hattributes).symm
    · exact .inr ⟨_, hattributes⟩
  · cases h

theorem nodup_attributes_of_decode? {levels : Nat} {value : Json} {element : Element}
    (h : Element.decode? levels value = some element) : element.attributes.names.Nodup := by
  rcases attributes_of_decode? h with hnil | ⟨v, hv⟩
  · rw [hnil]
    exact List.nodup_nil
  · exact nodup_names_of_entries? hv

theorem exists_of_mem_mapM {α β : Type} {f : α → Option β} {xs : List α} {ys : List β}
    (h : xs.mapM f = some ys) {y : β} (hy : y ∈ ys) : ∃ x ∈ xs, f x = some y := by
  induction xs generalizing ys with
  | nil =>
    cases h
    cases hy
  | cons a xs ih =>
    rw [List.mapM_cons] at h
    obtain ⟨b, hb, h⟩ := Option.bind_eq_some_iff.mp h
    obtain ⟨bs, hbs, h⟩ := Option.bind_eq_some_iff.mp h
    obtain rfl : b :: bs = ys := by simpa using h
    rcases List.mem_cons.mp hy with rfl | hy
    · exact ⟨a, List.mem_cons_self, hb⟩
    · obtain ⟨x, hx, hfx⟩ := ih hbs hy
      exact ⟨x, List.mem_cons_of_mem _ hx, hfx⟩

theorem exists_of_mem_entries? {α : Type} {decode : Json → Option α} {value : Json}
    {entries : Entries α} (h : value.entries? decode = some entries) {e : String × α}
    (he : e ∈ entries) :
    ∃ v, decode v = some e.2 := by
  cases value with
  | object members =>
    rw [Json.entries?] at h
    obtain ⟨list, hmap, hlist⟩ := Option.bind_eq_some_iff.mp h
    obtain rfl : Entries.ofList list = entries := by simpa using hlist
    obtain ⟨⟨key, v⟩, -, hv⟩ := exists_of_mem_mapM hmap (Entries.mem_of_mem_ofList he)
    obtain ⟨k, -, hv⟩ := Option.bind_eq_some_iff.mp hv
    obtain ⟨a, ha, heq⟩ := Option.bind_eq_some_iff.mp hv
    obtain rfl : (k, a) = e := by simpa using heq
    exact ⟨v, ha⟩
  | _ => cases h

/-- An element of a source is decoded from a value in it. -/
theorem exists_decode?_of_decodeSource? {text : String} {entries : Entries Element}
    (h : Element.decodeSource? text = some entries) {e : String × Element} (he : e ∈ entries) :
    ∃ levels value, Element.decode? levels value = some e.2 := by
  obtain ⟨value, -, hvalue⟩ := Option.bind_eq_some_iff.mp h
  exact ⟨_, exists_of_mem_entries? hvalue he⟩

theorem nodup_attributes_of_decodeSource? {text : String} {entries : Entries Element}
    (h : Element.decodeSource? text = some entries) {e : String × Element} (he : e ∈ entries) :
    e.2.attributes.names.Nodup := by
  obtain ⟨levels, value, hvalue⟩ := exists_decode?_of_decodeSource? h he
  exact nodup_attributes_of_decode? hvalue

/-- An element of a loaded catalogue is decoded from a value in one of its sources. -/
theorem exists_decode?_of_load {sources : List (String × String)} {catalogue : Catalogue}
    (h : load sources = .ok catalogue) {e : String × Element} (he : e ∈ catalogue.elements) :
    ∃ levels value, Element.decode? levels value = some e.2 := by
  obtain ⟨parts, hparts, helements⟩ := elements_of_foldlM_addSource (loadWith_eq_ok h).1
  rw [helements, List.nil_append] at he
  obtain ⟨entries, hentries, he⟩ := List.mem_flatten.mp he
  obtain ⟨source, -, hdecode⟩ := exists_of_mem_mapM hparts hentries
  exact exists_decode?_of_decodeSource? hdecode he

/-- **No element declares an attribute twice.** -/
theorem nodup_attributes_of_load {sources : List (String × String)} {catalogue : Catalogue}
    (h : load sources = .ok catalogue) {e : String × Element} (he : e ∈ catalogue.elements) :
    e.2.attributes.names.Nodup := by
  obtain ⟨levels, value, hvalue⟩ := exists_decode?_of_load h he
  exact nodup_attributes_of_decode? hvalue

end Catalogue

end MarkupAssist
