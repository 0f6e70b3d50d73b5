import Mathlib.Data.List.Permutation
import MarkupAssist.Proofs.Concatenation
import MarkupAssist.Proofs.ExactFindings
import MarkupAssist.Proofs.OccurrenceRanges

/-!
# Adding a missing attribute

A finding that an attribute is missing is answered by writing the attribute behind the name of the
tag. The document around it may be malformed: a string in front of the tag may have no end, so that
the new quotes stand inside of it.

* `Markup.Neutral`: a text that a body can take at any place, also in a string or in a brace group,
  and is in the same state behind it. A quoted attribute is neutral (`Markup.neutral_quoted`): its
  quotes are two, and what is between them opens nothing.
* `Markup.tagMatches_insert`: so no `<` that started no tag starts one, and of the tags of the text
  only the body of one changes.
* `Markup.attributeMatches_added`: in this body the new attribute comes first and the others follow.
* `gist_fault?`: a finding, apart from its place, is read off the value of the attribute that bears
  the name. The values of all other names stay (`Markup.value_lastBearing?_added`), so their
  findings do, and the new attribute is not blank.
-/

namespace MarkupAssist

open Text Markup

namespace Markup

/-! ### Neutral text -/

theorem map_extendBody (front text : List Char) (found : Option (List Char × List Char)) :
    (found.map (extendBody text)).map (extendBody front) =
      found.map (extendBody (front ++ text)) := by
  cases found <;> simp [extendBody]

/-- What does not close an enclosed part is read as a part of it. -/
theorem body?_within {close : Char} {inner : List Char} (hinner : close ∉ inner) (cs : List Char) :
    body? (some close) (inner ++ cs) = (body? (some close) cs).map (extendBody inner) := by
  induction inner with
  | nil =>
    rw [List.nil_append]
    cases body? (some close) cs <;> rfl
  | cons c inner ih =>
    obtain ⟨hc, hinner⟩ := List.ne_and_not_mem_of_not_mem_cons hinner
    rw [List.cons_append, body?, if_neg (by simpa using hc.symm), ih hinner]
    exact map_extendBody [c] inner _

/-- A text that the body of a tag can take at any place: in a string, in a brace group and outside
of them it is read as a part of the body, and what follows is read as without it. -/
def Neutral (text : List Char) : Prop :=
  ∀ opened : Option Char, (∀ close ∈ opened, ∃ opener, Encloses opener close) →
    ∀ cs, body? opened (text ++ cs) = (body? opened cs).map (extendBody text)

/-- A character that neither ends the body of a tag nor opens or closes anything in it. -/
structure Bland (c : Char) : Prop where
  ne_end : c ≠ '>'
  ne_pair : ∀ {opener close : Char}, Encloses opener close → c ≠ opener ∧ c ≠ close

theorem Bland.token {c : Char} (h : Bland c) : BodyToken [c] :=
  .single h.ne_end fun _ hpair => (h.ne_pair hpair).1 rfl

theorem close_notMem_of_bland {text : List Char} (htext : ∀ c ∈ text, Bland c)
    {opener close : Char} (hpair : Encloses opener close) : close ∉ text :=
  fun hmem => ((htext close hmem).ne_pair hpair).2 rfl

/-- The characters of a class are bland if it has none of the five that are not. -/
theorem bland_of_class {p : Char → Bool}
    (hp : ['>', '"', '\'', '\x7b', '\x7d'].any p = false) {c : Char} (hc : p c = true) :
    Bland c := by
  have hne : ∀ d ∈ ['>', '"', '\'', '\x7b', '\x7d'], c ≠ d := by
    rintro d hd rfl
    exact List.any_eq_false.mp hp c hd hc
  refine ⟨hne _ (by decide), fun hpair => ?_⟩
  cases hpair <;> exact ⟨hne _ (by decide), hne _ (by decide)⟩

/-- A quoted string is neutral with bland text in it and in front of it. In a string of the same
quotes its first quote ends the string, what it quotes stands outside, and its second quote starts a
string again. -/
theorem neutral_of_bland {start value : List Char} (hstart : ∀ c ∈ start, Bland c)
    (hvalue : ∀ c ∈ value, Bland c) : Neutral (start ++ '"' :: (value ++ ['"'])) := by
  intro opened hopened cs
  rw [List.append_assoc]
  cases opened with
  | none =>
    have hquoted : BodyToken ('"' :: (value ++ ['"'])) :=
      .enclosed .doubleQuote (close_notMem_of_bland hvalue .doubleQuote)
    rw [body?_singles (fun c hc => (hstart c hc).token), body?_token hquoted, map_extendBody]
  | some close =>
    obtain ⟨opener, hpair⟩ := hopened close rfl
    cases hpair with
    | doubleQuote =>
      have hopen : body? none ('"' :: cs) = (body? (some '"') cs).map (extendBody ['"']) := rfl
      rw [List.cons_append, List.append_assoc,
        body?_enclosed (close_notMem_of_bland hstart .doubleQuote),
        body?_singles (fun c hc => (hvalue c hc).token), List.singleton_append, hopen,
        map_extendBody, map_extendBody]
      simp
    | singleQuote =>
      rw [← List.append_assoc]
      refine body?_within ?_ cs
      simp [close_notMem_of_bland hstart .singleQuote,
        close_notMem_of_bland hvalue .singleQuote]
    | brace =>
      rw [← List.append_assoc]
      refine body?_within ?_ cs
      simp [close_notMem_of_bland hstart .brace, close_notMem_of_bland hvalue .brace]

/-- **A quoted attribute is neutral**, with a blank in front of it. -/
theorem neutral_quoted {name value : List Char} (hname : ∀ c ∈ name, isAttributeChar c = true)
    (hvalue : ∀ c ∈ value, isWord c = true) : Neutral (' ' :: quotedAttribute name '"' value) := by
  have hstart : ∀ c ∈ ' ' :: (name ++ ['=']), Bland c := by
    intro c hc
    simp only [List.mem_cons, List.mem_append, List.not_mem_nil, or_false] at hc
    rcases hc with rfl | hc | rfl
    · exact bland_of_class (p := isBlank) (by decide) (by decide)
    · exact bland_of_class (by decide) (hname c hc)
    · exact bland_of_class (p := (· == '=')) (by decide) (by decide)
  have htext : ' ' :: quotedAttribute name '"' value =
      ' ' :: (name ++ ['=']) ++ '"' :: (value ++ ['"']) := by
    simp [quotedAttribute]
  rw [htext]
  exact neutral_of_bland hstart fun c hc =>
    bland_of_class (p := isWord) (by decide) (hvalue c hc)

/-- A body that has no end has none with a neutral text in it. -/
theorem Neutral.body?_eq_none {text : List Char} (htext : Neutral text) {opened : Option Char}
    (hopened : ∀ close ∈ opened, ∃ opener, Encloses opener close) {front cs : List Char}
    (hnone : body? opened (front ++ cs) = none) : body? opened (front ++ (text ++ cs)) = none := by
  induction front generalizing opened with
  | nil => rw [List.nil_append, htext opened hopened, ← List.nil_append cs, hnone]; rfl
  | cons c front ih =>
    rw [List.cons_append] at hnone ⊢
    cases opened with
    | none =>
      rw [body?] at hnone ⊢
      split at hnone
      · cases hnone
      · next hend =>
        rw [if_neg hend, ih (fun close h => ⟨c, closer?_eq_some_iff.mp h⟩)
          (Option.map_eq_none_iff.mp hnone)]
        rfl
    | some close =>
      rw [body?] at hnone ⊢
      have hnext : ∀ d ∈ (if c == close then none else some close),
          ∃ opener, Encloses opener d := by
        intro d hd
        split at hd
        · cases hd
        · exact hopened d hd
      rw [ih hnext (Option.map_eq_none_iff.mp hnone)]
      rfl

/-- A `<` that starts no tag starts none with a neutral text behind a later `<` and a name. -/
theorem Neutral.tag?_eq_none {text : List Char} (htext : Neutral text) {cs name tail : List Char}
    (hnone : tag? (cs ++ '<' :: (name ++ tail)) = none) :
    tag? (cs ++ '<' :: (name ++ (text ++ tail))) = none := by
  -- the second `<` ends the name of the first one
  have hstop : ∀ ds : List Char, ('<' :: ds).head?.any isNameChar = false := fun _ => by
    simp only [List.head?_cons, Option.any_some]
    decide
  rw [tag?, takeWhile_append_stop _ (hstop _), dropWhile_append_stop _ (hstop _)] at hnone ⊢
  split at hnone
  · next hname =>
    rw [if_pos hname]
    rw [← List.cons_append, ← List.append_assoc] at hnone ⊢
    rw [htext.body?_eq_none (by simp) (Option.map_eq_none_iff.mp hnone)]
    rfl
  · next hname => rw [if_neg hname]

/-! ### Tags -/

/-- **A neutral text behind the name of a tag changes this tag only.** The tags in front of it stay,
this one has the text in its body, and the tags behind it are moved. -/
theorem tagMatches_insert {text : List Char} (htext : Neutral text)
    (hstop : ∀ cs, (text ++ cs).head?.any isNameChar = false) {front name body rest : List Char}
    (htag : tag? (name ++ (body ++ rest)) = some (name, body, rest))
    (hcut : CutsNoTag 0 front ('<' :: (name ++ (body ++ rest)))) :
    ∃ n, tagMatches 0 (front ++ '<' :: (name ++ (body ++ rest))) =
        tagMatches 0 front ++ ⟨front.length, name, body⟩ :: tagMatches n rest ∧
      tagMatches 0 (front ++ '<' :: (name ++ (text ++ (body ++ rest)))) =
        tagMatches 0 front ++ ⟨front.length, name, text ++ body⟩ ::
          (tagMatches n rest).map (TagMatch.behind text.length) := by
  refine ⟨front.length + 1 + name.length + body.length, ?_, ?_⟩
  · rw [tagMatches_append hcut, Nat.zero_add, tagMatches_of_tag? htag]
  · obtain ⟨ts, hshape, hbody, -⟩ := tagShape_of_tag? htag
    have hfound : body? none (body ++ rest) = some (body, rest) := by
      refine body?_eq_some_iff.mpr ⟨ts, hshape.tokens_ok, hbody, ?_⟩
      rw [hbody, List.append_assoc, List.singleton_append]
    have hadded : body? none (text ++ (body ++ rest)) = some (text ++ body, rest) := by
      rw [htext none (by simp), hfound]
      rfl
    have hoffset : front.length + 1 + name.length + (text ++ body).length =
        text.length + (front.length + 1 + name.length + body.length) := by
      rw [List.length_append]
      omega
    rw [tagMatches_append_of hcut fun cs => htext.tag?_eq_none, Nat.zero_add,
      tagMatches_of_tag? (tag?_of_body? hshape.name_ok (hstop _) hadded), hoffset,
      tagMatches_behind]

/-- No tag is cut where a tag starts. -/
theorem cutsNoTag_of_mem {front back : List Char} {m : TagMatch}
    (hm : m ∈ tagMatches 0 (front ++ back)) (hoffset : m.offset = front.length) :
    CutsNoTag 0 front back := by
  rintro k hk ⟨hstart, hend⟩
  rw [Nat.zero_add, ← hoffset] at hstart hend
  have := end_le_of_offset_lt hk hm hstart
  omega

/-! ### Attributes -/

/-- An attribute when `n` characters are put in front of its body. -/
def AttributeMatch.behind (n : Nat) (a : AttributeMatch) : AttributeMatch :=
  { a with offset := n + a.offset }

theorem attributeMatches_behind (n offset : Nat) (cs : List Char) :
    attributeMatches (n + offset) cs =
      (attributeMatches offset cs).map (AttributeMatch.behind n) := by
  induction offset, cs using attributes_induction with
  | nil offset =>
    have hnil : ∀ k, attributeMatches k [] = [] := fun k => by rw [attributeMatches.eq_def]
    rw [hnil, hnil, List.map_nil]
  | assigned offset name front value rest hne hname hfront hvalue ih =>
    rw [attributeMatches_assigned hne hname hfront hvalue,
      attributeMatches_assigned hne hname hfront hvalue, Nat.add_assoc, ih]
    rfl
  | bare offset name rest hne hname hrest hvalue ih =>
    rw [attributeMatches_bare hne hname hrest hvalue, attributeMatches_bare hne hname hrest hvalue,
      Nat.add_assoc, ih]
    rfl
  | pass offset c cs hc ih =>
    rw [attributeMatches_pass hc, attributeMatches_pass hc, Nat.add_assoc, ih]

/-- The attributes of a body with a quoted attribute in front: this one, and those of the body. -/
theorem attributeMatches_added {name value : List Char} (hne : name ≠ [])
    (hname : ∀ c ∈ name, isAttributeChar c = true) (hvalue : '"' ∉ value) (body : List Char) :
    ∃ n, attributeMatches 0 (' ' :: quotedAttribute name '"' value ++ body) =
      ⟨1, name, quotedAttribute name '"' value, some value⟩ ::
        (attributeMatches 0 body).map (AttributeMatch.behind n) := by
  refine ⟨1 + (quotedAttribute name '"' value).length, ?_⟩
  rw [List.cons_append, attributeMatches_pass (by decide), Nat.zero_add,
    attributeMatches_quoted (by decide) hne hname hvalue, ← attributeMatches_behind, Nat.add_zero]

/-- A name that an attribute without marks bears is its own. -/
theorem AttributeMatch.bears_unmarked {a : AttributeMatch} (hmarks : Unmarked a.name)
    (hne : a.name ≠ []) {name : String} : a.Bears name ↔ a.name = name.toList := by
  rw [bears_iff, dropValueBinding_eq_self hmarks]
  refine and_iff_right_of_imp fun hname hempty => hne ?_
  rw [hname, hempty]
  rfl

section Added

variable {m added : TagMatch} {written : AttributeMatch} {n : Nat}
  (hadded : attributeMatches 0 added.body =
    written :: (attributeMatches 0 m.body).map (AttributeMatch.behind n))

include hadded

/-- The attribute written first counts if no other bears its name. -/
theorem lastBearing?_written {name : String} (hname : written.Bears name)
    (hnone : m.lastBearing? name = none) : added.lastBearing? name = some written := by
  rw [TagMatch.lastBearing?_eq_none_iff] at hnone
  refine TagMatch.lastBearing?_eq_some_iff.mpr ⟨[], _, hadded, hname, ?_⟩
  intro b hb
  obtain ⟨a, ha, rfl⟩ := List.mem_map.mp hb
  exact hnone a ha

/-- It makes no difference to other names. -/
theorem value_lastBearing?_added {name : String} (hname : ¬ written.Bears name) :
    (added.lastBearing? name).map (·.value) = (m.lastBearing? name).map (·.value) := by
  have hbears : (fun a : AttributeMatch => decide (a.Bears name)) ∘ AttributeMatch.behind n =
      fun a => decide (a.Bears name) := rfl
  rw [TagMatch.lastBearing?, hadded, List.reverse_cons, List.find?_append, ← List.map_reverse,
    List.find?_map, hbears, List.find?_singleton, if_neg (by simpa using hname), Option.or_none,
    Option.map_map]
  rfl

end Added

end Markup

/-! ### Findings without their places -/

/-- What a finding says, apart from its place. -/
def Diagnostic.gist (d : Diagnostic) : String × String :=
  (d.code, d.message)

/-- **What is said of a required attribute** depends on the value of the attribute that bears its
name, and on nothing else of the tag. -/
theorem gist_fault? {doc doc' : Document} {m m' : TagMatch} {required : String × Attribute}
    (hvalue : (m'.lastBearing? required.1).map (·.value) =
      (m.lastBearing? required.1).map (·.value)) :
    ((doc'.occurrence m').fault? required).map Diagnostic.gist =
      ((doc.occurrence m).fault? required).map Diagnostic.gist := by
  rw [fault?_occurrence, fault?_occurrence]
  cases hlast : m.lastBearing? required.1 with
  | none =>
    rw [hlast, Option.map_none, Option.map_eq_none_iff] at hvalue
    rw [hvalue]
    rfl
  | some a =>
    rw [hlast, Option.map_some] at hvalue
    obtain ⟨a', ha', hvalue⟩ := Option.map_eq_some_iff.mp hvalue
    have hblank : a'.leavesBlank required.2.type = a.leavesBlank required.2.type := by
      rw [AttributeMatch.leavesBlank, hvalue, AttributeMatch.leavesBlank]
    rw [ha', Option.elim_some, Option.elim_some, hblank]
    split <;> rfl

theorem gists_filterMap {doc doc' : Document} {m m' : TagMatch}
    {list : List (String × Attribute)}
    (hvalues : ∀ required ∈ list, (m'.lastBearing? required.1).map (·.value) =
      (m.lastBearing? required.1).map (·.value)) :
    (list.filterMap (doc'.occurrence m').fault?).map Diagnostic.gist =
      (list.filterMap (doc.occurrence m).fault?).map Diagnostic.gist := by
  rw [List.map_filterMap, List.map_filterMap]
  exact List.filterMap_congr fun required hrequired => gist_fault? (hvalues required hrequired)

/-- The findings in some tags of a document. -/
def Catalogue.findingsIn (catalogue : Catalogue) (doc : Document) (tags : List TagMatch) :
    List Diagnostic :=
  (tags.filter fun m => catalogue.isKnown (String.ofList m.name)).flatMap fun m =>
    catalogue.faults (doc.occurrence m)

namespace Catalogue

variable (catalogue : Catalogue) (doc : Document)

theorem faults_occurrence (m : TagMatch) :
    catalogue.faults (doc.occurrence m) =
      (catalogue.element? (String.ofList m.name)).elim [] fun element =>
        element.required.filterMap (doc.occurrence m).fault? := by
  rw [faults, show (doc.occurrence m).name = String.ofList m.name from rfl]
  cases catalogue.element? (String.ofList m.name) <;> rfl

theorem validate_eq_findingsIn :
    catalogue.validate doc = catalogue.findingsIn doc (tagMatches 0 doc.chars) := by
  rw [validate, Document.occurrences, List.flatMap_map]
  rfl

theorem findingsIn_append (tags more : List TagMatch) :
    catalogue.findingsIn doc (tags ++ more) =
      catalogue.findingsIn doc tags ++ catalogue.findingsIn doc more := by
  rw [findingsIn, List.filter_append, List.flatMap_append]
  rfl

theorem findingsIn_cons {m : TagMatch} (hknown : catalogue.isKnown (String.ofList m.name) = true)
    (tags : List TagMatch) :
    catalogue.findingsIn doc (m :: tags) =
      catalogue.faults (doc.occurrence m) ++ catalogue.findingsIn doc tags := by
  rw [findingsIn, List.filter_cons_of_pos (by simpa using hknown), List.flatMap_cons]
  rfl

/-- What is said of tags does not depend on their place, nor on the document around them. -/
theorem gists_findingsIn_behind (doc' : Document) (n : Nat) (tags : List TagMatch) :
    (catalogue.findingsIn doc' (tags.map (TagMatch.behind n))).map Diagnostic.gist =
      (catalogue.findingsIn doc tags).map Diagnostic.gist := by
  have hfaults : ∀ m : TagMatch,
      (catalogue.faults (doc'.occurrence (m.behind n))).map Diagnostic.gist =
        (catalogue.faults (doc.occurrence m)).map Diagnostic.gist := by
    intro m
    rw [faults_occurrence, faults_occurrence, show (m.behind n).name = m.name from rfl]
    cases catalogue.element? (String.ofList m.name) with
    | none => rfl
    | some element =>
      simp only [Option.elim_some]
      exact gists_filterMap fun required _ => rfl
  rw [findingsIn, findingsIn, List.filter_map, List.flatMap_map, List.map_flatMap,
    List.map_flatMap]
  exact List.flatMap_congr fun m _ => hfaults m

theorem gists_findingsIn (doc' : Document) (tags : List TagMatch) :
    (catalogue.findingsIn doc' tags).map Diagnostic.gist =
      (catalogue.findingsIn doc tags).map Diagnostic.gist := by
  have hsame : TagMatch.behind 0 = id := by
    funext m
    rw [TagMatch.behind, Nat.zero_add]
    rfl
  have h := catalogue.gists_findingsIn_behind doc doc' 0 tags
  rwa [hsame, List.map_id] at h

end Catalogue

/-! ### The tag that is completed -/

/-- Where an attribute is found to be missing, none bears its name. -/
theorem of_fault?_eq_missing {doc : Document} {m : TagMatch} {required : String × Attribute}
    {range : Range} {name : String}
    (h : (doc.occurrence m).fault? required = some (.missing range name)) :
    range = (doc.occurrence m).range ∧ required.1 = name ∧ m.lastBearing? name = none := by
  obtain hmissing | ⟨r, hblank⟩ := fault?_cases doc m required h
  · obtain ⟨rfl, rfl⟩ := Diagnostic.missing_inj hmissing
    exact ⟨rfl, rfl,
      TagMatch.lastBearing?_eq_none_iff.mpr ((fault?_eq_missing_iff doc m required).mp h)⟩
  · exact (Diagnostic.missing_ne_blank _ _ _ _ hblank).elim

theorem range_of_missing_mem_faults {catalogue : Catalogue} {doc : Document} {m : TagMatch}
    {range : Range} {name : String}
    (h : Diagnostic.missing range name ∈ catalogue.faults (doc.occurrence m)) :
    range = (doc.occurrence m).range := by
  rw [Catalogue.faults] at h
  split at h
  · obtain ⟨required, -, hfault⟩ := List.mem_filterMap.mp h
    exact (of_fault?_eq_missing hfault).1
  · cases h

/-- **The findings of a tag with the missing attribute in front.** One of them is gone, and the
others say what they said. -/
theorem gists_faults_added {catalogue : Catalogue} {element : Element} {m added : TagMatch}
    (hknown : catalogue.element? (String.ofList m.name) = some element)
    (hnodup : element.attributes.names.Nodup) (hsame : added.name = m.name)
    {written : AttributeMatch} {n : Nat}
    (hadded : attributeMatches 0 added.body =
      written :: (attributeMatches 0 m.body).map (AttributeMatch.behind n))
    {name : String} (hbears : ∀ other, written.Bears other ↔ other = name)
    (hfilled : ∀ type, written.leavesBlank type = false) {doc doc' : Document} {range : Range}
    (hmissing : Diagnostic.missing range name ∈ catalogue.faults (doc.occurrence m)) :
    (catalogue.faults (doc'.occurrence added)).map Diagnostic.gist =
      ((catalogue.faults (doc.occurrence m)).erase (.missing range name)).map
        Diagnostic.gist := by
  have hfaults : catalogue.faults (doc.occurrence m) =
      element.required.filterMap (doc.occurrence m).fault? := by
    rw [Catalogue.faults_occurrence, hknown, Option.elim_some]
  have hfaults' : catalogue.faults (doc'.occurrence added) =
      element.required.filterMap (doc'.occurrence added).fault? := by
    rw [Catalogue.faults_occurrence, hsame, hknown, Option.elim_some]
  rw [hfaults] at hmissing ⊢
  obtain ⟨required, hrequired, hfault⟩ := List.mem_filterMap.mp hmissing
  obtain ⟨-, rfl, hnone⟩ := of_fault?_eq_missing hfault
  obtain ⟨before, after, hsplit⟩ := List.append_of_mem hrequired
  -- no other required attribute has this name
  have hother : ∀ other ∈ before ++ after, other.1 ≠ required.1 := by
    have hnames : (element.required.map Prod.fst).Nodup :=
      hnodup.sublist (List.filter_sublist.map Prod.fst)
    rw [hsplit, List.map_append, List.map_cons, List.nodup_middle, ← List.map_append,
      List.nodup_cons] at hnames
    intro other hmem heq
    exact hnames.1 (heq ▸ List.mem_map_of_mem hmem)
  have hvalues : ∀ other ∈ before ++ after, (added.lastBearing? other.1).map (·.value) =
      (m.lastBearing? other.1).map (·.value) := fun other hmem =>
    value_lastBearing?_added hadded fun h => hother other hmem ((hbears _).mp h)
  have hnothing : (doc'.occurrence added).fault? required = none := by
    rw [fault?_occurrence, lastBearing?_written hadded ((hbears _).mpr rfl) hnone,
      Option.elim_some, hfilled]
    rfl
  have hfirst : Diagnostic.missing range required.1 ∉
      before.filterMap (doc.occurrence m).fault? := by
    intro hmem
    obtain ⟨other, hother', hfault'⟩ := List.mem_filterMap.mp hmem
    exact hother other (List.mem_append_left _ hother') (of_fault?_eq_missing hfault').2.1
  rw [hfaults', hsplit, List.filterMap_append, List.filterMap_append,
    List.filterMap_cons_none hnothing, List.filterMap_cons_some hfault,
    List.erase_append_right _ hfirst, List.erase_cons_head, ← List.filterMap_append,
    ← List.filterMap_append]
  exact gists_filterMap hvalues

/-! ### The document -/

/-- Tags whose ranges start at the same position start at the same place. -/
theorem offset_eq_of_start_eq {doc : Document} {m k : TagMatch} (hm : m ∈ tagMatches 0 doc.chars)
    (hk : k ∈ tagMatches 0 doc.chars)
    (hstart : (doc.occurrence m).range.start = (doc.occurrence k).range.start) :
    m.offset = k.offset := by
  have hpositions : doc.positionAt m.offset = doc.positionAt k.offset := hstart
  have hm := end_le_of_mem_tagMatches hm
  have hk := end_le_of_mem_tagMatches hk
  rcases Nat.lt_trichotomy m.offset k.offset with hlt | heq | hlt
  · have hless := Document.positionAt_lt hlt (Nat.le_of_add_right_le hk)
    rw [hpositions] at hless
    exact (Position.not_lt.mpr (Position.le_of_lt hless) hless).elim
  · exact heq
  · have hless := Document.positionAt_lt hlt (Nat.le_of_add_right_le hm)
    rw [hpositions] at hless
    exact (Position.not_lt.mpr (Position.le_of_lt hless) hless).elim

/-- An attribute that a tag lacks is not found missing in other tags at the range of this one. -/
theorem missing_notMem_findingsIn (catalogue : Catalogue) {doc : Document} {m : TagMatch}
    (hm : m ∈ tagMatches 0 doc.chars) {tags : List TagMatch}
    (htags : ∀ k ∈ tags, k ∈ tagMatches 0 doc.chars ∧ k.offset ≠ m.offset) (name : String) :
    Diagnostic.missing (doc.occurrence m).range name ∉ catalogue.findingsIn doc tags := by
  intro hmem
  obtain ⟨k, hk, hfault⟩ := List.mem_flatMap.mp hmem
  obtain ⟨hfound, hne⟩ := htags k (List.mem_filter.mp hk).1
  have hrange := range_of_missing_mem_faults hfault
  exact hne (offset_eq_of_start_eq hfound hm (congrArg Range.start hrange.symm))

/-- The findings without the one that an attribute of a tag is missing: it is one of this tag. -/
theorem erase_missing_validate {catalogue : Catalogue} {doc : Document} {m : TagMatch}
    (hknown : catalogue.isKnown (String.ofList m.name) = true) {before after : List TagMatch}
    (htags : tagMatches 0 doc.chars = before ++ m :: after) {name : String}
    (hmissing : Diagnostic.missing (doc.occurrence m).range name ∈ catalogue.validate doc) :
    Diagnostic.missing (doc.occurrence m).range name ∈ catalogue.faults (doc.occurrence m) ∧
      (catalogue.validate doc).erase (.missing (doc.occurrence m).range name) =
        catalogue.findingsIn doc before ++
          ((catalogue.faults (doc.occurrence m)).erase (.missing (doc.occurrence m).range name) ++
            catalogue.findingsIn doc after) := by
  have hfound : ∀ k, k ∈ before ∨ k = m ∨ k ∈ after → k ∈ tagMatches 0 doc.chars := by
    intro k hk
    rw [htags]
    simpa using hk
  have hm := hfound m (.inr (.inl rfl))
  have hpos : ∀ k : TagMatch, 0 < k.text.length := fun k => by simp [TagMatch.text]
  -- the other tags start elsewhere
  have hordered := pairwise_tagMatches 0 doc.chars
  rw [htags, List.pairwise_append, List.pairwise_cons] at hordered
  obtain ⟨-, ⟨hbehind, -⟩, hfront⟩ := hordered
  have hbefore : Diagnostic.missing (doc.occurrence m).range name ∉
      catalogue.findingsIn doc before := by
    refine missing_notMem_findingsIn catalogue hm (fun k hk => ⟨hfound k (.inl hk), ?_⟩) name
    have hend := hfront k hk m List.mem_cons_self
    have hlength := hpos k
    omega
  have hafter : Diagnostic.missing (doc.occurrence m).range name ∉
      catalogue.findingsIn doc after := by
    refine missing_notMem_findingsIn catalogue hm (fun k hk => ⟨hfound k (.inr (.inr hk)), ?_⟩) name
    have hend := hbehind k hk
    have hlength := hpos m
    omega
  have hvalidate : catalogue.validate doc = catalogue.findingsIn doc before ++
      (catalogue.faults (doc.occurrence m) ++ catalogue.findingsIn doc after) := by
    rw [catalogue.validate_eq_findingsIn, htags, catalogue.findingsIn_append,
      catalogue.findingsIn_cons doc hknown]
  rw [hvalidate] at hmissing ⊢
  have hmem : Diagnostic.missing (doc.occurrence m).range name ∈
      catalogue.faults (doc.occurrence m) := by
    simpa [hbefore, hafter] using hmissing
  exact ⟨hmem, by rw [List.erase_append_right _ hbefore, List.erase_append_left _ hmem]⟩

/-- The tags of a document with a neutral text behind the name of one of them. -/
theorem Document.tagMatches_insertAt {doc : Document} {m : TagMatch}
    (hm : m ∈ tagMatches 0 doc.chars) {text : List Char} (htext : Neutral text)
    (hstop : ∀ cs, (text ++ cs).head?.any isNameChar = false) :
    ∃ before after, tagMatches 0 doc.chars = before ++ m :: after ∧
      tagMatches 0 (doc.insertAt (doc.offsetAt (doc.occurrence m).nameEnd) text).chars =
        before ++ { m with body := text ++ m.body } ::
          after.map (TagMatch.behind text.length) := by
  obtain ⟨front, rest, hchars, hoffset, htag⟩ := mem_tagMatches hm
  obtain ⟨ts, hshape, hbody, -⟩ := tagShape_of_tag? htag
  rw [Nat.zero_add] at hoffset
  have hwhole : doc.chars = front ++ '<' :: (m.name ++ (m.body ++ rest)) := by
    rw [hchars, TagMatch.text, List.cons_append, List.append_assoc]
  have hfront : doc.chars = (front ++ '<' :: m.name) ++ (m.body ++ rest) := by
    rw [hwhole, List.append_assoc, List.cons_append]
  have hplace : doc.offsetAt (doc.occurrence m).nameEnd = (front ++ '<' :: m.name).length := by
    have htokens : doc.chars = front ++ '<' :: (m.name ++ ts.flatten ++ '>' :: rest) := by
      rw [hwhole, hbody]
      simp
    rw [offsetAt_nameEnd hshape.name_ok hoffset htokens, hoffset, List.length_append]
  have hcut : CutsNoTag 0 front ('<' :: (m.name ++ (m.body ++ rest))) := by
    rw [hwhole] at hm
    exact cutsNoTag_of_mem hm hoffset
  obtain ⟨n, htags, htags'⟩ := tagMatches_insert htext hstop htag hcut
  rw [← hwhole, ← hoffset] at htags
  rw [← hoffset] at htags'
  refine ⟨_, _, htags, ?_⟩
  rw [hplace, chars_insertAt hfront, List.append_assoc, List.cons_append]
  exact htags'

/-- **Adding a missing attribute removes its finding and no other.** Let an attribute be found
missing in a tag, in any document. Written with quotes behind the name of the tag, with a value of
word characters, it leaves what all other findings say as it was. -/
theorem findings_of_added {sources : List (String × String)} {catalogue : Catalogue}
    (hload : Catalogue.load sources = .ok catalogue) {doc : Document} {o : Occurrence}
    (ho : o ∈ doc.occurrences catalogue) {name : String}
    (hmissing : Diagnostic.missing o.range name ∈ catalogue.validate doc) (hne : name ≠ "")
    (hname : ∀ c ∈ name.toList, isAttributeChar c = true) (hmarks : Unmarked name.toList)
    {value : List Char} (hfilled : value ≠ []) (hvalue : ∀ c ∈ value, isWord c = true) :
    (catalogue.validate (doc.insertAt (doc.offsetAt o.nameEnd)
        (' ' :: quotedAttribute name.toList '"' value))).map (fun d => (d.code, d.message)) =
      ((catalogue.validate doc).erase (.missing o.range name)).map
        (fun d => (d.code, d.message)) := by
  obtain ⟨m, hm, rfl⟩ := List.mem_map.mp ho
  obtain ⟨hm, hknown⟩ := List.mem_filter.mp hm
  obtain ⟨element, helement⟩ := Catalogue.isKnown_iff.mp hknown
  have hnonempty : name.toList ≠ [] := fun hnil => hne (String.toList_eq_nil_iff.mp hnil)
  have hquote : '"' ∉ value := fun hmem => absurd (hvalue _ hmem) (by decide)
  obtain ⟨before, after, htags, htags'⟩ := Document.tagMatches_insertAt hm
    (neutral_quoted hname hvalue) fun cs => by
      simp only [List.cons_append, List.head?_cons, Option.any_some]
      decide
  obtain ⟨hfault, herase⟩ := erase_missing_validate hknown htags hmissing
  obtain ⟨n, hattributes⟩ := attributeMatches_added hnonempty hname hquote m.body
  -- the new attribute bears this name only, and is not blank
  have hbears : ∀ other, AttributeMatch.Bears ⟨1, name.toList,
      quotedAttribute name.toList '"' value, some value⟩ other ↔ other = name := by
    intro other
    rw [AttributeMatch.bears_unmarked hmarks hnonempty, String.toList_inj, eq_comm]
  have hnotBlank : ∀ type, AttributeMatch.leavesBlank ⟨1, name.toList,
      quotedAttribute name.toList '"' value, some value⟩ type = false := by
    intro type
    obtain ⟨c, hc⟩ := List.exists_mem_of_ne_nil value hfilled
    refine List.all_eq_false.mpr ⟨c, hc, ?_⟩
    simp [isBlank_of_isNameChar (isNameChar_of_isWord (hvalue c hc))]
  set doc' := doc.insertAt (doc.offsetAt (doc.occurrence m).nameEnd)
    (' ' :: quotedAttribute name.toList '"' value)
  set added : TagMatch :=
    { m with body := ' ' :: quotedAttribute name.toList '"' value ++ m.body }
  have hcompleted : (catalogue.faults (doc'.occurrence added)).map Diagnostic.gist =
      ((catalogue.faults (doc.occurrence m)).erase
        (.missing (doc.occurrence m).range name)).map Diagnostic.gist :=
    gists_faults_added helement
      (Catalogue.nodup_attributes_of_load hload (Entries.mem_of_get? helement))
      (show added.name = m.name from rfl) hattributes hbears hnotBlank hfault
  have hknown' : catalogue.isKnown (String.ofList added.name) = true := hknown
  change List.map Diagnostic.gist _ = List.map Diagnostic.gist _
  rw [herase, catalogue.validate_eq_findingsIn, htags', catalogue.findingsIn_append,
    catalogue.findingsIn_cons doc' hknown', List.map_append, List.map_append, List.map_append,
    List.map_append, catalogue.gists_findingsIn doc, catalogue.gists_findingsIn_behind doc,
    hcompleted]

/-- A catalogue with one element, which requires two attributes. -/
def pairCatalogue : Catalogue where
  elements := [("f-row", {
    attributes := [("kind", { isRequired := true }), ("label", { isRequired := true })] })]

/-- A source of `pairCatalogue`. -/
def pairSource : String :=
  "\x7b\"f-row\":\x7b\"attributes\":\x7b\"kind\":\x7b\"isRequired\":true\x7d," ++
    "\"label\":\x7b\"isRequired\":true\x7d\x7d\x7d\x7d"

/-- A text whose first `<` starts no tag, since its second string has no end. Its first string
reaches into the tag behind it. -/
def brokenPage : Document :=
  ⟨"<f-row \"<f-row x=\"1\"\n kind=''>\n<f-row>".toList, "vue"⟩

/-- The first tag of `brokenPage`. -/
def brokenRow : Occurrence :=
  ⟨"f-row", "<f-row x=\"1\"\n kind=''>", ⟨⟨0, 8⟩, ⟨1, 9⟩⟩,
    [⟨"x", "x=\"1\"", some "1", .onLine 0 15 20⟩, ⟨"kind", "kind=''", some "", .onLine 1 1 8⟩]⟩

/-- The new quotes stand in the string that reaches into the tag. The tag on the last line lacks the
same attribute, and is found to lack it still. -/
theorem findings_of_added_brokenPage :
    Catalogue.load [("row.json", pairSource)] = .ok pairCatalogue ∧
    brokenRow ∈ brokenPage.occurrences pairCatalogue ∧
    pairCatalogue.validate brokenPage =
      [.blank (.onLine 1 1 8) "kind", .missing brokenRow.range "label",
        .missing (.onLine 2 0 7) "kind", .missing (.onLine 2 0 7) "label"] ∧
    (pairCatalogue.validate
        ⟨"<f-row \"<f-row label=\"été\" x=\"1\"\n kind=''>\n<f-row>".toList, "vue"⟩).map
      (fun d => (d.code, d.message)) =
      [("blank-attribute", "kind cannot be blank"), ("missing-attribute", "kind is required"),
        ("missing-attribute", "label is required")] := by
  have hload : Catalogue.load [("row.json", pairSource)] = .ok pairCatalogue := by cbv
  have ho : brokenRow ∈ brokenPage.occurrences pairCatalogue := by decide +kernel
  have hfindings : pairCatalogue.validate brokenPage =
      [.blank (.onLine 1 1 8) "kind", .missing brokenRow.range "label",
        .missing (.onLine 2 0 7) "kind", .missing (.onLine 2 0 7) "label"] := by
    decide +kernel
  have hdoc : brokenPage.insertAt (brokenPage.offsetAt brokenRow.nameEnd)
        (' ' :: quotedAttribute "label".toList '"' "été".toList) =
      ⟨"<f-row \"<f-row label=\"été\" x=\"1\"\n kind=''>\n<f-row>".toList, "vue"⟩ := by
    decide +kernel
  have hadded := findings_of_added hload ho (by simp [hfindings]) (by decide)
    (List.all_eq_true.mp (show "label".toList.all isAttributeChar = true by decide +kernel))
    ⟨by decide, by decide⟩ (show "été".toList ≠ [] by decide)
    (List.all_eq_true.mp (show "été".toList.all isWord = true by decide +kernel))
  rw [hdoc, hfindings] at hadded
  exact ⟨hload, ho, hfindings, hadded.trans (by decide +kernel)⟩

end MarkupAssist
