import Mathlib.Data.List.Induction
import Mathlib.Data.List.Nodup
import Mathlib.Data.List.Perm.Basic
import MarkupAssist.Proofs.LoadedCatalogue

/-!
# When sources load

Sources are added one after the other, and the references of their elements are checked when all
have been added. What comes of it can be said without following the load:

* `Catalogue.Addable`: every source decodes, and no tag is defined by two of them. Sources are
  addable one by one (`Catalogue.addable_concat`), and exactly then they are all added
  (`Catalogue.foldlM_addSource_of_addable`).
* `Catalogue.Resolved`: the references of an element lead to its own attributes and to tags of any
  source, before or behind its own.
* `Catalogue.LoadOutcome`: the catalogue or the error that sources lead to, one constructor for
  each. Sources have an outcome (`Catalogue.exists_outcome`), and it is what the load gives
  (`Catalogue.loadWith_of_outcome`), so there is only one.

`load_criterion` states the criterion and what follows from it. A decoder of one source is given.
All that is asked of it is that it reads dictionaries (`Catalogue.ReadsDictionaries`), as the
decoder of the library does (`Catalogue.readsDictionaries_decodeSource?`).
-/

namespace MarkupAssist

/-- The first element of a list that lacks a property. -/
theorem exists_first_not {α : Type} {p : α → Prop} {xs : List α} (h : ¬ ∀ x ∈ xs, p x) :
    ∃ before x after, xs = before ++ x :: after ∧ (∀ y ∈ before, p y) ∧ ¬ p x := by
  induction xs with
  | nil => exact absurd (fun _ hx => absurd hx List.not_mem_nil) h
  | cons x xs ih =>
    by_cases hx : p x
    · have hrest : ¬ ∀ y ∈ xs, p y := fun hall => h (List.forall_mem_cons.mpr ⟨hx, hall⟩)
      obtain ⟨before, y, after, rfl, hbefore, hy⟩ := ih hrest
      exact ⟨x :: before, y, after, rfl, List.forall_mem_cons.mpr ⟨hx, hbefore⟩, hy⟩
    · exact ⟨[], x, xs, rfl, fun _ hy => absurd hy List.not_mem_nil, hx⟩

namespace Entries

variable {α : Type}

theorem has_iff {entries : Entries α} {name : String} :
    entries.has name = true ↔ name ∈ entries.names := by
  simp only [has, names, List.any_eq_true, beq_iff_eq, List.mem_map]

/-- Where no name is repeated, a name stands for each of its entries. -/
theorem get?_eq_some_iff {entries : Entries α} (hnodup : entries.names.Nodup) {name : String}
    {value : α} : entries.get? name = some value ↔ (name, value) ∈ entries := by
  refine ⟨mem_of_get?, fun hmem => ?_⟩
  have hdeclared : entries.has name = true := has_iff.mpr (List.mem_map_of_mem hmem)
  rw [has_eq_isSome_get?, Option.isSome_iff_exists] at hdeclared
  obtain ⟨other, hother⟩ := hdeclared
  have hsame := List.inj_on_of_nodup_map hnodup (mem_of_get? hother) hmem rfl
  rw [hother, (Prod.mk.inj hsame).2]

end Entries

namespace Catalogue

section Spec

variable (decode : String → Option (Entries Element))

/-- A decoder gives dictionaries: no tag is repeated in a source, and no attribute in an element. -/
structure ReadsDictionaries : Prop where
  tags : ∀ {text entries}, decode text = some entries → entries.names.Nodup
  attributes : ∀ {text entries}, decode text = some entries →
    ∀ e ∈ entries, e.2.attributes.names.Nodup

/-- A source, given by its file name and its text, defines a tag. -/
def Defines (source : String × String) (tag : String) : Prop :=
  ∃ entries, decode source.2 = some entries ∧ tag ∈ entries.names

/-- One of the sources defines a tag. -/
def Known (sources : List (String × String)) (tag : String) : Prop :=
  ∃ source ∈ sources, Defines decode source tag

/-- The elements of the sources, one source after the other. -/
def definitions (sources : List (String × String)) : Entries Element :=
  sources.flatMap fun source => (decode source.2).getD []

/-- Every source decodes, and no tag is defined by two different sources. -/
structure Addable (sources : List (String × String)) : Prop where
  decodes : ∀ source ∈ sources, ∃ entries, decode source.2 = some entries
  disjoint : sources.Pairwise fun s s' => ∀ tag, ¬ (Defines decode s tag ∧ Defines decode s' tag)

/-- Every default of an element is one of its attributes, and every subtag is a tag of some
source. -/
structure Resolved (sources : List (String × String)) (element : Element) : Prop where
  defaults : ∀ name ∈ element.defaults, name ∈ element.attributes.names
  subtags : ∀ tag ∈ element.subtags, Known decode sources tag

/-- What sources lead to. -/
inductive LoadOutcome (sources : List (String × String)) : Except LoadError Catalogue → Prop
  /-- All sources can be added and all references lead somewhere. -/
  | loaded (addable : Addable decode sources)
      (resolved : ∀ e ∈ definitions decode sources, Resolved decode sources e.2) :
      LoadOutcome sources (.ok ⟨definitions decode sources⟩)
  /-- The first source that cannot be added does not decode. -/
  | parse {front rest : List (String × String)} {file text : String}
      (split : sources = front ++ (file, text) :: rest) (addable : Addable decode front)
      (broken : decode text = none) : LoadOutcome sources (.error (.parse file))
  /-- The first source that cannot be added defines a tag again. Its first such tag is reported. -/
  | duplicate {front rest : List (String × String)} {source : String × String}
      {before after : Entries Element} {tag : String} {element : Element}
      (split : sources = front ++ source :: rest) (addable : Addable decode front)
      (decoded : decode source.2 = some (before ++ (tag, element) :: after))
      (first : ∀ e ∈ before, ¬ Known decode front e.1) (again : Known decode front tag) :
      LoadOutcome sources (.error (.duplicateElement tag))
  /-- All sources can be added. The first element with a bad reference has a bad default, and the
  first one is reported. -/
  | unknownDefault {before after : Entries Element} {tag name : String} {element : Element}
      {names more : List String} (addable : Addable decode sources)
      (split : definitions decode sources = before ++ (tag, element) :: after)
      (resolved : ∀ e ∈ before, Resolved decode sources e.2)
      (defaults : element.defaults = names ++ name :: more)
      (first : ∀ other ∈ names, other ∈ element.attributes.names)
      (unknown : name ∉ element.attributes.names) :
      LoadOutcome sources (.error (.unknownDefault tag name))
  /-- All sources can be added. The first element with a bad reference has good defaults and a bad
  subtag, and the first one is reported. -/
  | unknownSubtag {before after : Entries Element} {tag subtag : String} {element : Element}
      {tags more : List String} (addable : Addable decode sources)
      (split : definitions decode sources = before ++ (tag, element) :: after)
      (resolved : ∀ e ∈ before, Resolved decode sources e.2)
      (defaults : ∀ name ∈ element.defaults, name ∈ element.attributes.names)
      (subtags : element.subtags = tags ++ subtag :: more)
      (first : ∀ other ∈ tags, Known decode sources other)
      (unknown : ¬ Known decode sources subtag) :
      LoadOutcome sources (.error (.unknownSubtag tag subtag))

end Spec

variable {decode : String → Option (Entries Element)} {sources front : List (String × String)}

/-! ### Sources that can be added -/

theorem defines_iff {source : String × String} {tag : String} :
    Defines decode source tag ↔ tag ∈ Entries.names ((decode source.2).getD []) := by
  unfold Defines
  cases decode source.2 with
  | none => simp [Entries.names]
  | some entries => simp

theorem names_definitions (sources : List (String × String)) :
    (definitions decode sources).names =
      sources.flatMap fun source => Entries.names ((decode source.2).getD []) :=
  List.map_flatMap

theorem known_iff {tag : String} :
    Known decode sources tag ↔ tag ∈ (definitions decode sources).names := by
  rw [names_definitions, List.mem_flatMap]
  simp only [Known, defines_iff]

theorem isKnown_definitions {tag : String} :
    (Catalogue.mk (definitions decode sources)).isKnown tag = true ↔ Known decode sources tag := by
  rw [known_iff]
  exact Entries.has_iff

/-- **Sources are addable one by one.** -/
theorem addable_concat {source : String × String} :
    Addable decode (front ++ [source]) ↔ Addable decode front ∧
      ∃ entries, decode source.2 = some entries ∧ ∀ e ∈ entries, ¬ Known decode front e.1 := by
  constructor
  · rintro ⟨hdecodes, hdisjoint⟩
    rw [List.pairwise_append] at hdisjoint
    obtain ⟨hfront, -, hacross⟩ := hdisjoint
    obtain ⟨entries, hentries⟩ := hdecodes source (by simp)
    refine ⟨⟨fun s hs => hdecodes s (List.mem_append_left _ hs), hfront⟩, entries, hentries, ?_⟩
    rintro e he ⟨s, hs, hdefines⟩
    have hagain : Defines decode source e.1 := ⟨entries, hentries, List.mem_map_of_mem he⟩
    exact hacross s hs source List.mem_cons_self e.1 ⟨hdefines, hagain⟩
  · rintro ⟨hfront, entries, hentries, hnew⟩
    constructor
    · intro s hs
      rcases List.mem_append.mp hs with hs | hs
      · exact hfront.decodes s hs
      · rw [List.mem_singleton.mp hs]
        exact ⟨entries, hentries⟩
    · rw [List.pairwise_append]
      refine ⟨hfront.disjoint, List.pairwise_singleton _ _, ?_⟩
      rintro s hs s' hs' tag ⟨hdefines, entries', hentries', htag⟩
      rw [List.mem_singleton.mp hs', hentries] at hentries'
      obtain rfl := Option.some.inj hentries'
      obtain ⟨e, he, rfl⟩ := List.mem_map.mp htag
      exact hnew e he ⟨s, hs, hdefines⟩

/-- Sources that cannot all be added have a first one that cannot. -/
theorem exists_first_not_addable (h : ¬ Addable decode sources) :
    ∃ front source rest, sources = front ++ source :: rest ∧ Addable decode front ∧
      ¬ Addable decode (front ++ [source]) := by
  induction sources using List.reverseRecOn with
  | nil => exact absurd ⟨by simp, .nil⟩ h
  | append_singleton sources source ih =>
    by_cases hsources : Addable decode sources
    · exact ⟨sources, source, [], rfl, hsources, h⟩
    · obtain ⟨front, first, rest, rfl, hfront, hfirst⟩ := ih hsources
      exact ⟨front, first, rest ++ [source], by simp, hfront, hfirst⟩

theorem nodup_definitions (hdecode : ReadsDictionaries decode) (h : Addable decode sources) :
    (definitions decode sources).names.Nodup := by
  rw [names_definitions, List.nodup_flatMap]
  constructor
  · intro source hsource
    obtain ⟨entries, hentries⟩ := h.decodes source hsource
    rw [hentries]
    exact hdecode.tags hentries
  · refine h.disjoint.imp fun hdisjoint tag htag htag' => ?_
    exact hdisjoint tag ⟨defines_iff.mpr htag, defines_iff.mpr htag'⟩

/-! ### Adding -/

theorem foldlM_addElement_of_new {c : Catalogue} {entries : Entries Element}
    (hnodup : entries.names.Nodup) (hnew : ∀ e ∈ entries, c.isKnown e.1 = false) :
    entries.foldlM addElement c = .ok ⟨c.elements ++ entries⟩ := by
  induction entries generalizing c with
  | nil =>
    rw [List.foldlM_nil, List.append_nil]
    rfl
  | cons e rest ih =>
    obtain ⟨hfirst, hrest⟩ := List.nodup_cons.mp hnodup
    have hadd : addElement c e = .ok ⟨c.elements ++ [e]⟩ := by
      rw [addElement, hnew e List.mem_cons_self]
      rfl
    have hnew' : ∀ d ∈ rest, Catalogue.isKnown ⟨c.elements ++ [e]⟩ d.1 = false := by
      intro d hd
      have hc := hnew d (List.mem_cons_of_mem _ hd)
      have hne : e.1 ≠ d.1 := by
        intro heq
        apply hfirst
        show e.1 ∈ Entries.names rest
        rw [heq]
        exact List.mem_map_of_mem hd
      rw [isKnown, Entries.has] at hc ⊢
      simpa [hc] using hne
    rw [List.foldlM_cons, hadd]
    show rest.foldlM addElement ⟨c.elements ++ [e]⟩ = _
    rw [ih hrest hnew', List.append_assoc, List.singleton_append]

/-- **Sources that can be added are added.** -/
theorem foldlM_addSource_of_addable (hdecode : ReadsDictionaries decode)
    (h : Addable decode sources) :
    sources.foldlM (addSource decode) {} = .ok ⟨definitions decode sources⟩ := by
  induction sources using List.reverseRecOn with
  | nil => rfl
  | append_singleton front source ih =>
    obtain ⟨hfront, entries, hentries, hnew⟩ := addable_concat.mp h
    have hnew' : ∀ e ∈ entries, Catalogue.isKnown ⟨definitions decode front⟩ e.1 = false := by
      intro e he
      rw [Bool.eq_false_iff]
      exact fun hknown => hnew e he (isKnown_definitions.mp hknown)
    have hadded : definitions decode (front ++ [source]) = definitions decode front ++ entries := by
      rw [definitions, List.flatMap_append, List.flatMap_singleton, hentries]
      rfl
    rw [List.foldlM_append, ih hfront, hadded]
    show List.foldlM (addSource decode) _ [source] = _
    rw [List.foldlM_cons, addSource, hentries]
    show (entries.foldlM addElement _ >>= pure) = _
    rw [bind_pure]
    exact foldlM_addElement_of_new (hdecode.tags hentries) hnew'

/-- An error in a source is the error of the load, if the sources in front of it can be added. -/
theorem loadWith_of_error (hdecode : ReadsDictionaries decode) (hfront : Addable decode front)
    {source : String × String} {error : LoadError}
    (herror : addSource decode ⟨definitions decode front⟩ source = .error error)
    (rest : List (String × String)) :
    loadWith decode (front ++ source :: rest) = .error error := by
  rw [loadWith, List.foldlM_append, foldlM_addSource_of_addable hdecode hfront]
  show ((source :: rest).foldlM (addSource decode) _ >>= checkReferences) = _
  rw [List.foldlM_cons, herror]
  rfl

/-- A tag that is defined again is the error of its source. -/
theorem addSource_of_again {source : String × String} {before after : Entries Element}
    {tag : String} {element : Element} (hdecode : ReadsDictionaries decode)
    (hentries : decode source.2 = some (before ++ (tag, element) :: after))
    (hfirst : ∀ e ∈ before, ¬ Known decode front e.1) (hagain : Known decode front tag) :
    addSource decode ⟨definitions decode front⟩ source = .error (.duplicateElement tag) := by
  have hnodup : Entries.names before |>.Nodup := by
    have hall := hdecode.tags hentries
    rw [Entries.names, List.map_append] at hall
    exact List.Nodup.of_append_left hall
  have hnew : ∀ e ∈ before, Catalogue.isKnown ⟨definitions decode front⟩ e.1 = false := by
    intro e he
    rw [Bool.eq_false_iff]
    exact fun hknown => hfirst e he (isKnown_definitions.mp hknown)
  -- the tag stays known when the elements before it have been added
  have hknown : Catalogue.isKnown ⟨definitions decode front ++ before⟩ tag = true := by
    rw [isKnown, Entries.has, List.any_append, Bool.or_eq_true]
    exact .inl (isKnown_definitions.mpr hagain)
  rw [addSource, hentries]
  show List.foldlM addElement _ (before ++ (tag, element) :: after) = _
  rw [List.foldlM_append, foldlM_addElement_of_new hnodup hnew]
  show List.foldlM addElement _ ((tag, element) :: after) = _
  rw [List.foldlM_cons, addElement, if_pos hknown]
  rfl

/-! ### References -/

theorem find?_default_eq_none {element : Element} :
    (element.defaults.find? fun name => !element.attributes.has name) = none ↔
      ∀ name ∈ element.defaults, name ∈ element.attributes.names := by
  simp only [List.find?_eq_none, Bool.not_eq_true, Bool.not_eq_false', Entries.has_iff]

theorem find?_subtag_eq_none {element : Element} :
    (element.subtags.find? fun tag =>
        !(Catalogue.mk (definitions decode sources)).isKnown tag) = none ↔
      ∀ tag ∈ element.subtags, Known decode sources tag := by
  simp only [List.find?_eq_none, Bool.not_eq_true, Bool.not_eq_false', isKnown_definitions]

/-- An element without a broken reference is one whose references are resolved. -/
theorem brokenReference?_eq_none {e : String × Element} :
    (Catalogue.mk (definitions decode sources)).brokenReference? e = none ↔
      Resolved decode sources e.2 := by
  constructor
  · intro h
    rw [brokenReference?] at h
    split at h
    · cases h
    · next hdefaults =>
      rw [Option.map_eq_none_iff] at h
      exact ⟨find?_default_eq_none.mp hdefaults, find?_subtag_eq_none.mp h⟩
  · rintro ⟨hdefaults, hsubtags⟩
    rw [brokenReference?, find?_default_eq_none.mpr hdefaults, find?_subtag_eq_none.mpr hsubtags]
    rfl

/-- The first broken reference is the error of the load, if all sources can be added. -/
theorem loadWith_of_broken (hdecode : ReadsDictionaries decode) (h : Addable decode sources)
    {before after : Entries Element} {e : String × Element} {error : LoadError}
    (hsplit : definitions decode sources = before ++ e :: after)
    (hbefore : ∀ d ∈ before, Resolved decode sources d.2)
    (hbroken : (Catalogue.mk (definitions decode sources)).brokenReference? e = some error) :
    loadWith decode sources = .error error := by
  have hfirst : (definitions decode sources).findSome?
      (Catalogue.mk (definitions decode sources)).brokenReference? = some error := by
    rw [List.findSome?_eq_some_iff]
    exact ⟨before, e, after, hsplit, hbroken,
      fun d hd => brokenReference?_eq_none.mpr (hbefore d hd)⟩
  rw [loadWith, foldlM_addSource_of_addable hdecode h]
  show checkReferences ⟨definitions decode sources⟩ = _
  rw [checkReferences, hfirst]

/-! ### Outcomes -/

/-- **The load gives the outcome.** -/
theorem loadWith_of_outcome (hdecode : ReadsDictionaries decode)
    {result : Except LoadError Catalogue} (h : LoadOutcome decode sources result) :
    loadWith decode sources = result := by
  cases h with
  | loaded haddable hresolved =>
    have hnone : (definitions decode sources).findSome?
        (Catalogue.mk (definitions decode sources)).brokenReference? = none := by
      rw [List.findSome?_eq_none_iff]
      exact fun e he => brokenReference?_eq_none.mpr (hresolved e he)
    rw [loadWith, foldlM_addSource_of_addable hdecode haddable]
    show checkReferences ⟨definitions decode sources⟩ = _
    rw [checkReferences, hnone]
  | parse hsplit haddable hbroken =>
    rw [hsplit]
    refine loadWith_of_error hdecode haddable ?_ _
    rw [addSource, hbroken]
  | duplicate hsplit haddable hdecoded hfirst hagain =>
    rw [hsplit]
    exact loadWith_of_error hdecode haddable (addSource_of_again hdecode hdecoded hfirst hagain) _
  | @unknownDefault before after tag name element names more haddable hsplit hresolved hdefaults
      hfirst hunknown =>
    refine loadWith_of_broken hdecode haddable hsplit hresolved ?_
    have hfind : (element.defaults.find? fun name => !element.attributes.has name) = some name := by
      rw [List.find?_eq_some_iff_append]
      refine ⟨?_, names, more, hdefaults, fun other hother => ?_⟩
      · rw [Bool.not_eq_true', Bool.eq_false_iff]
        exact fun hhas => hunknown (Entries.has_iff.mp hhas)
      · rw [Bool.not_not]
        exact Entries.has_iff.mpr (hfirst other hother)
    rw [brokenReference?, hfind]
  | @unknownSubtag before after tag subtag element tags more haddable hsplit hresolved hdefaults
      hsubtags hfirst hunknown =>
    refine loadWith_of_broken hdecode haddable hsplit hresolved ?_
    have hfind : (element.subtags.find? fun tag =>
        !(Catalogue.mk (definitions decode sources)).isKnown tag) = some subtag := by
      rw [List.find?_eq_some_iff_append]
      refine ⟨?_, tags, more, hsubtags, fun other hother => ?_⟩
      · rw [Bool.not_eq_true', Bool.eq_false_iff]
        exact fun hknown => hunknown (isKnown_definitions.mp hknown)
      · rw [Bool.not_not]
        exact isKnown_definitions.mpr (hfirst other hother)
    rw [brokenReference?, find?_default_eq_none.mpr hdefaults, hfind]
    rfl

/-- Sources always have an outcome. -/
theorem exists_outcome (decode : String → Option (Entries Element))
    (sources : List (String × String)) : ∃ result, LoadOutcome decode sources result := by
  by_cases haddable : Addable decode sources
  · by_cases hresolved : ∀ e ∈ definitions decode sources, Resolved decode sources e.2
    · exact ⟨_, .loaded haddable hresolved⟩
    · obtain ⟨before, ⟨tag, element⟩, after, hsplit, hbefore, hbad⟩ := exists_first_not hresolved
      by_cases hdefaults : ∀ name ∈ element.defaults, name ∈ element.attributes.names
      · have hsubtags : ¬ ∀ subtag ∈ element.subtags, Known decode sources subtag :=
          fun hall => hbad ⟨hdefaults, hall⟩
        obtain ⟨tags, subtag, more, hsubtags, hfirst, hunknown⟩ := exists_first_not hsubtags
        exact ⟨_, .unknownSubtag haddable hsplit hbefore hdefaults hsubtags hfirst hunknown⟩
      · obtain ⟨names, name, more, hdefaults, hfirst, hunknown⟩ := exists_first_not hdefaults
        exact ⟨_, .unknownDefault haddable hsplit hbefore hdefaults hfirst hunknown⟩
  · obtain ⟨front, ⟨file, text⟩, rest, hsplit, hfront, hbad⟩ := exists_first_not_addable haddable
    rw [addable_concat, not_and] at hbad
    cases htext : decode text with
    | none => exact ⟨_, .parse hsplit hfront htext⟩
    | some entries =>
      -- it decodes, so a tag of it is known already
      have hagain : ¬ ∀ e ∈ entries, ¬ Known decode front e.1 :=
        fun hnew => hbad hfront ⟨entries, htext, hnew⟩
      obtain ⟨before, ⟨tag, element⟩, after, rfl, hfirst, hknown⟩ := exists_first_not hagain
      exact ⟨_, .duplicate hsplit hfront htext hfirst (not_not.mp hknown)⟩

theorem loadWith_eq_iff (hdecode : ReadsDictionaries decode)
    {result : Except LoadError Catalogue} :
    loadWith decode sources = result ↔ LoadOutcome decode sources result := by
  refine ⟨?_, loadWith_of_outcome hdecode⟩
  rintro rfl
  obtain ⟨result, houtcome⟩ := exists_outcome decode sources
  rwa [loadWith_of_outcome hdecode houtcome]

theorem loads_iff (hdecode : ReadsDictionaries decode) :
    (∃ catalogue, loadWith decode sources = .ok catalogue) ↔
      Addable decode sources ∧ ∀ e ∈ definitions decode sources, Resolved decode sources e.2 := by
  simp only [loadWith_eq_iff hdecode]
  constructor
  · rintro ⟨catalogue, houtcome⟩
    cases houtcome with
    | loaded haddable hresolved => exact ⟨haddable, hresolved⟩
  · rintro ⟨haddable, hresolved⟩
    exact ⟨_, .loaded haddable hresolved⟩

/-- The criterion does not depend on the order of the sources. -/
theorem criterion_perm {sources' : List (String × String)} (hperm : sources.Perm sources')
    (h : Addable decode sources ∧
      ∀ e ∈ definitions decode sources, Resolved decode sources e.2) :
    Addable decode sources' ∧ ∀ e ∈ definitions decode sources', Resolved decode sources' e.2 := by
  obtain ⟨⟨hdecodes, hdisjoint⟩, hresolved⟩ := h
  refine ⟨⟨fun source hsource => hdecodes source (hperm.mem_iff.mpr hsource), ?_⟩, fun e he => ?_⟩
  · refine (hperm.pairwise_iff ?_).mp hdisjoint
    exact fun hdisjoint tag htag => hdisjoint tag htag.symm
  · obtain ⟨hdefaults, hsubtags⟩ := hresolved e ((hperm.flatMap_right _).mem_iff.mpr he)
    refine ⟨hdefaults, fun tag htag => ?_⟩
    obtain ⟨source, hsource, hdefines⟩ := hsubtags tag htag
    exact ⟨source, hperm.mem_iff.mp hsource, hdefines⟩

/-- The decoder of the library reads dictionaries. -/
theorem readsDictionaries_decodeSource? : ReadsDictionaries Element.decodeSource? := by
  constructor
  · intro text entries hentries
    obtain ⟨value, -, hvalue⟩ := Option.bind_eq_some_iff.mp hentries
    exact nodup_names_of_entries? hvalue
  · intro text entries hentries e he
    exact nodup_attributes_of_decodeSource? hentries he

end Catalogue

open Catalogue

/-- **Exactly when sources load, and to what.** Let a decoder of one source be given. Sources load
if and only if every source decodes, no tag is defined by two of them, and the references of all
elements are resolved, in whatever order the sources stand. The catalogue then has the elements of
the sources in their order, and what it says about a tag or an attribute is what they say. In every
case the result of the load is the one outcome of its sources. -/
theorem load_criterion {decode : String → Option (Entries Element)}
    (hdecode : ReadsDictionaries decode) (sources : List (String × String)) :
    ((∃ catalogue, loadWith decode sources = .ok catalogue) ↔
      Addable decode sources ∧ ∀ e ∈ definitions decode sources, Resolved decode sources e.2) ∧
    (∀ sources', sources.Perm sources' →
      ((∃ catalogue, loadWith decode sources = .ok catalogue) ↔
        ∃ catalogue, loadWith decode sources' = .ok catalogue)) ∧
    (∀ catalogue, loadWith decode sources = .ok catalogue →
      catalogue.elements = definitions decode sources ∧
      (∀ tag element, catalogue.element? tag = some element ↔
        (tag, element) ∈ definitions decode sources) ∧
      (∀ tag name a, catalogue.attribute? tag name = some a ↔
        ∃ element, (tag, element) ∈ definitions decode sources ∧ (name, a) ∈ element.attributes) ∧
      (∀ tag, catalogue.isKnown tag = true ↔ tag ∈ (definitions decode sources).names)) ∧
    (∀ result, loadWith decode sources = result ↔ LoadOutcome decode sources result) := by
  refine ⟨loads_iff hdecode, fun sources' hperm => ?_, fun catalogue hload => ?_,
    fun result => loadWith_eq_iff hdecode⟩
  · rw [loads_iff hdecode, loads_iff hdecode]
    exact ⟨criterion_perm hperm, criterion_perm hperm.symm⟩
  · have houtcome := (loadWith_eq_iff hdecode).mp hload
    cases houtcome with
    | loaded haddable hresolved =>
      have hnodup := nodup_definitions hdecode haddable
      have helement : ∀ tag element,
          Entries.get? (definitions decode sources) tag = some element ↔
            (tag, element) ∈ definitions decode sources :=
        fun tag element => Entries.get?_eq_some_iff hnodup
      refine ⟨rfl, helement, fun tag name a => ?_, fun tag => Entries.has_iff⟩
      rw [Catalogue.attribute?, Option.bind_eq_some_iff]
      refine exists_congr fun element => ?_
      rw [Catalogue.element?, helement]
      refine and_congr_right fun hmem => Entries.get?_eq_some_iff ?_
      -- an element of the sources comes from one of them
      obtain ⟨source, hsource, he⟩ := List.mem_flatMap.mp hmem
      obtain ⟨entries, hentries⟩ := haddable.decodes source hsource
      rw [hentries] at he
      exact hdecode.attributes hentries _ he

/-- Two sources, of which the first refers to the second and the second to itself. -/
def rowSources : List (String × String) :=
  [("row.json", "\x7b\"f-row\": \x7b\"subtags\": [\"f-col\"], \"defaults\": [\"gap\"], " ++
      "\"attributes\": \x7b\"gap\": \x7b\x7d\x7d\x7d\x7d"),
   ("col.json", "\x7b\"f-col\": \x7b\"subtags\": [\"f-col\"]\x7d\x7d")]

/-- The same sources, one that defines two of their tags again and one that does not decode. -/
def repeatedSources : List (String × String) :=
  rowSources ++
    [("again.json", "\x7b\"f-new\": \x7b\x7d, \"f-col\": \x7b\x7d, \"f-row\": \x7b\x7d\x7d"),
     ("bad.json", "f-bad")]

/-- The two sources load, also in the other order. Of the faults of the others the first one is
reported: the tag that stands first in its source. -/
theorem load_criterion_rowSources :
    (∃ catalogue, load rowSources = .ok catalogue ∧
      catalogue.elements = definitions Element.decodeSource? rowSources) ∧
    Addable Element.decodeSource? rowSources ∧
    (∃ catalogue, load rowSources.reverse = .ok catalogue) ∧
    LoadOutcome Element.decodeSource? repeatedSources (.error (.duplicateElement "f-col")) := by
  obtain ⟨hcriterion, hperm, hloaded, -⟩ :=
    load_criterion readsDictionaries_decodeSource? rowSources
  obtain ⟨-, -, -, houtcome⟩ := load_criterion readsDictionaries_decodeSource? repeatedSources
  have hload : ∃ catalogue, load rowSources = .ok catalogue := by
    have hsome : (load rowSources).toOption.isSome = true := by decide +kernel
    cases hresult : load rowSources with
    | error e =>
      rw [hresult] at hsome
      cases hsome
    | ok catalogue => exact ⟨catalogue, rfl⟩
  have herror : load repeatedSources = .error (.duplicateElement "f-col") := by
    have hsome : (match load repeatedSources with
        | .error e => some e
        | .ok _ => none) = some (.duplicateElement "f-col") := by decide +kernel
    cases hresult : load repeatedSources with
    | error e =>
      rw [hresult] at hsome
      rw [Option.some.inj hsome]
    | ok catalogue =>
      rw [hresult] at hsome
      cases hsome
  refine ⟨?_, (hcriterion.mp hload).1, ?_, (houtcome _).mp herror⟩
  · obtain ⟨catalogue, hcatalogue⟩ := hload
    exact ⟨catalogue, hcatalogue, (hloaded catalogue hcatalogue).1⟩
  · exact (hperm rowSources.reverse (List.reverse_perm _).symm).mp hload

end MarkupAssist
