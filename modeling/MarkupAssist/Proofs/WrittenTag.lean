import Mathlib.Data.List.Pairwise
import MarkupAssist.Proofs.AttributeScan
import MarkupAssist.Proofs.TagGrammar

/-!
# Reading back a written tag

A tag is written from a list of attributes, each with the blanks in front of it,
its name and perhaps a value in quotes or braces. Two scanners read the tag
back. `body?` looks for the `>` that ends it, `attributeMatches` for the
attributes, and they cut the text differently: the first one knows no names, the
second one knows no end. On a written tag they agree, whatever stands in the
values.

* `WrittenAttribute`: an attribute as it is written; its value holds anything
  but the character that ends it.
* `body?_attributes`: to the first scanner a written attribute is a number of
  tokens, of which only the value is longer than one character.
* `attributeMatches_written`: to the second one it is one match. A name alone is
  not continued by what follows it (`EndsAttribute`), since neither the name of
  the next attribute nor the end of the tag starts with an equals sign.
* `keepLast_eq_pwFilter`: of the entries with one name the last one is kept, in
  its place.

`occurrences_written` puts them together.
-/

namespace MarkupAssist

open Text Markup

/-! ### Written attributes -/

/-- A value with the characters around it. -/
structure WrittenValue where
  opener : Char
  closer : Char
  text : List Char
  encloses : Encloses opener closer
  closer_notMem : closer ∉ text

/-- An attribute as it is written in a tag, with the blanks in front of it. -/
structure WrittenAttribute where
  gap : List Char
  name : List Char
  value : Option WrittenValue
  gap_ne : gap ≠ []
  gap_blank : ∀ c ∈ gap, isBlank c = true
  name_ne : name ≠ []
  name_chars : ∀ c ∈ name, isAttributeChar c = true

/-- The value as text. -/
def WrittenValue.render (v : WrittenValue) : List Char :=
  v.opener :: (v.text ++ [v.closer])

namespace WrittenAttribute

/-- What stands behind the name of an attribute. -/
def assignment (a : WrittenAttribute) : List Char :=
  a.value.elim [] fun v => '=' :: v.render

/-- The attribute as text, without the blanks. -/
def render (a : WrittenAttribute) : List Char :=
  a.name ++ a.assignment

/-- The name and the value that are to be read back; none if the name consists of the marks of a
binding only. -/
def entry? (a : WrittenAttribute) : Option (String × Option String) :=
  let name := dropValueBinding a.name
  if name.isEmpty then none
  else some (String.ofList name, a.value.map fun v => String.ofList v.text)

/-- The match that the scan of a body makes of the attribute behind `offset` characters. -/
def toMatch (a : WrittenAttribute) (offset : Nat) : AttributeMatch :=
  ⟨offset + a.gap.length, a.name, a.render, a.value.map WrittenValue.text⟩

end WrittenAttribute

/-- Attributes as text. -/
def renderAttributes (attributes : List WrittenAttribute) : List Char :=
  attributes.flatMap fun a => a.gap ++ a.render

/-- The matches of attributes behind `offset` characters. -/
def writtenMatches (offset : Nat) : List WrittenAttribute → List AttributeMatch
  | [] => []
  | a :: attributes =>
    a.toMatch offset :: writtenMatches (offset + (a.gap ++ a.render).length) attributes

/-- The end of a tag: blanks, perhaps a slash, and the `>`. -/
def TagEnd (cs : List Char) : Prop :=
  ∃ gap close, cs = gap ++ close ∧ (∀ c ∈ gap, isBlank c = true) ∧
    (close = ['>'] ∨ close = ['/', '>'])

/-! ### The end of the tag -/

theorem body?_gap {gap : List Char} (hgap : ∀ c ∈ gap, isBlank c = true) (cs : List Char) :
    body? none (gap ++ cs) = (body? none cs).map (extendBody gap) :=
  body?_singles (fun c hc => .of_isBlank (hgap c hc)) cs

theorem WrittenAttribute.body?_render (a : WrittenAttribute) (cs : List Char) :
    body? none (a.render ++ cs) = (body? none cs).map (extendBody a.render) := by
  have hname : ∀ c ∈ a.name, BodyToken [c] := fun c hc => .of_isAttributeChar (a.name_chars c hc)
  rw [render, List.append_assoc, body?_singles hname, assignment]
  cases a.value with
  | none => rw [Option.elim_none, List.nil_append, List.append_nil]
  | some v =>
    -- the equals sign is a token of its own, and the value is one token
    have hequals : BodyToken ['='] := .of_ne (by decide) (by decide) (by decide) (by decide)
    rw [Option.elim_some, List.cons_append, ← List.singleton_append, body?_token hequals,
      body?_token (t := v.render) (.enclosed v.encloses v.closer_notMem)]
    cases body? none cs <;> simp [extendBody]

/-- **To the scan for its end, a written tag goes on until its last character.** -/
theorem body?_attributes (attributes : List WrittenAttribute) {close : List Char}
    (hclose : TagEnd close) (rest : List Char) :
    body? none (renderAttributes attributes ++ (close ++ rest)) =
      some (renderAttributes attributes ++ close, rest) := by
  induction attributes with
  | nil =>
    obtain ⟨gap, close, rfl, hgap, rfl | rfl⟩ := hclose
    · rw [renderAttributes, List.flatMap_nil, List.nil_append, List.append_assoc, body?_gap hgap]
      rfl
    · rw [renderAttributes, List.flatMap_nil, List.nil_append, List.append_assoc, body?_gap hgap]
      rfl
  | cons a attributes ih =>
    have hcons : renderAttributes (a :: attributes) =
        a.gap ++ (a.render ++ renderAttributes attributes) := by
      simp [renderAttributes]
    rw [hcons, List.append_assoc, List.append_assoc, body?_gap a.gap_blank, a.body?_render, ih]
    simp [extendBody]

/-! ### The attributes -/

/-- What stands behind an attribute does not prolong it: it goes on with blanks or ends the tag, and
no equals sign follows the blanks. -/
def EndsAttribute (cs : List Char) : Prop :=
  cs.takeWhile isAttributeChar = [] ∧ assigned? cs = none

theorem endsAttribute_gap {gap cs : List Char} {c : Char} (hgap : ∀ d ∈ gap, isBlank d = true)
    (hstart : gap = [] → isAttributeChar c = false) (hblank : isBlank c = false) (hc : c ≠ '=') :
    EndsAttribute (gap ++ c :: cs) := by
  refine ⟨?_, assigned?_of_ne hc (dropWhile_append_cons hgap hblank)⟩
  cases gap with
  | nil => exact List.takeWhile_cons_of_neg (by simp [hstart rfl])
  | cons d gap =>
    exact List.takeWhile_cons_of_neg (by simp [isAttributeChar, hgap d List.mem_cons_self])

/-- An attribute is followed by the next one or by the end of the tag. -/
theorem endsAttribute_render (attributes : List WrittenAttribute) {close : List Char}
    (hclose : TagEnd close) : EndsAttribute (renderAttributes attributes ++ close) := by
  cases attributes with
  | nil =>
    obtain ⟨gap, close, rfl, hgap, rfl | rfl⟩ := hclose
    · exact endsAttribute_gap hgap (fun _ => by decide) (by decide) (by decide)
    · exact endsAttribute_gap hgap (fun _ => by decide) (by decide) (by decide)
  | cons a attributes =>
    obtain ⟨c, name, hname⟩ := List.exists_cons_of_ne_nil a.name_ne
    have hc : isAttributeChar c = true := a.name_chars c (hname ▸ List.mem_cons_self)
    have hcons : renderAttributes (a :: attributes) ++ close =
        a.gap ++ c :: (name ++ (a.assignment ++ (renderAttributes attributes ++ close))) := by
      simp [renderAttributes, WrittenAttribute.render, hname]
    rw [hcons]
    refine endsAttribute_gap a.gap_blank (fun hnil => absurd hnil a.gap_ne)
      (isBlank_of_isAttributeChar hc) ?_
    rintro rfl
    exact absurd hc (by decide)

theorem WrittenValue.value?_render (v : WrittenValue) (rest : List Char) :
    value? (v.render ++ rest) = some (v.text, rest) := by
  have hdelimited : delimited? v.closer (v.text ++ [v.closer] ++ rest) = some (v.text, rest) := by
    rw [List.append_assoc, List.singleton_append, delimited?_append v.closer_notMem]
  obtain ⟨opener, closer, text, hpair, hfree⟩ := v
  rw [render, List.cons_append]
  cases hpair with
  | doubleQuote => exact hdelimited
  | singleQuote => exact hdelimited
  | brace =>
    -- a brace may start a value without quotes, but this one is closed
    change (delimited? '\x7d' _).or _ = _
    rw [hdelimited]
    rfl

/-- **To the scan for attributes, a written attribute is one match.** -/
theorem WrittenAttribute.attributeMatches_render (a : WrittenAttribute) {rest : List Char}
    (hrest : EndsAttribute rest) (offset : Nat) :
    attributeMatches offset (a.gap ++ (a.render ++ rest)) =
      a.toMatch offset :: attributeMatches (offset + (a.gap ++ a.render).length) rest := by
  have hgap : ∀ c ∈ a.gap, isAttributeChar c = false := by
    intro c hc
    simp [isAttributeChar, a.gap_blank c hc]
  rw [attributeMatches_passAll hgap, render, List.append_assoc, toMatch, render, assignment,
    List.length_append, ← Nat.add_assoc]
  cases hvalue : a.value with
  | none =>
    rw [Option.elim_none, List.append_nil, List.nil_append,
      attributeMatches_bare a.name_ne a.name_chars hrest.1 hrest.2]
    rfl
  | some v =>
    have hassigned : assigned? ('=' :: v.render ++ rest) = some (v.text, rest) := by
      have hequals : ('=' :: v.render ++ rest).dropWhile isBlank = '=' :: (v.render ++ rest) := rfl
      have hdrop : (v.render ++ rest).dropWhile isBlank = v.render ++ rest := by
        rw [WrittenValue.render, List.cons_append,
          List.dropWhile_cons_of_neg (by simp [v.encloses.isBlank_opener])]
      rw [assigned?_of_equals hequals, hdrop, v.value?_render]
    rw [Option.elim_some, attributeMatches_assigned a.name_ne a.name_chars
      (List.takeWhile_cons_of_neg (by decide)) hassigned]
    rfl

theorem attributeMatches_written (attributes : List WrittenAttribute) {close : List Char}
    (hclose : TagEnd close) (offset : Nat) :
    attributeMatches offset (renderAttributes attributes ++ close) =
      writtenMatches offset attributes := by
  induction attributes generalizing offset with
  | nil =>
    obtain ⟨gap, close, rfl, hgap, hclose⟩ := hclose
    have hnone : ∀ c ∈ gap ++ close, isAttributeChar c = false := by
      intro c hc
      rcases List.mem_append.mp hc with hc | hc
      · simp [isAttributeChar, hgap c hc]
      · rcases hclose with rfl | rfl
        · rw [List.mem_singleton.mp hc]
          decide
        · have hmem : c = '/' ∨ c = '>' := by simpa using hc
          rcases hmem with rfl | rfl <;> decide
    have hpass := attributeMatches_passAll hnone offset []
    rw [List.append_nil] at hpass
    rw [renderAttributes, List.flatMap_nil, List.nil_append, hpass, attributeMatches.eq_def]
    rfl
  | cons a attributes ih =>
    have hcons : renderAttributes (a :: attributes) ++ close =
        a.gap ++ (a.render ++ (renderAttributes attributes ++ close)) := by
      simp [renderAttributes]
    rw [hcons, a.attributeMatches_render (endsAttribute_render attributes hclose), ih]
    rfl

/-! ### Names and values -/

/-- `rest` is what is left of `name` without its marks of a value binding: `v-bind:` is taken away
as often as it stands in front, and then every colon. -/
def StripsTo (name rest : List Char) : Prop :=
  ∃ binds colons : Nat,
    name = (List.replicate binds "v-bind:".toList).flatten ++ (List.replicate colons ':' ++ rest) ∧
      ¬ "v-bind:".toList <+: List.replicate colons ':' ++ rest ∧ ¬ [':'] <+: rest

/-- Repeated marks are taken away as long as there is one. -/
theorem exists_replicate_dropRepeated (first : Char) (more name : List Char) :
    ∃ n, name = (List.replicate n (first :: more)).flatten ++ dropRepeated first more name ∧
      ¬ first :: more <+: dropRepeated first more name := by
  fun_induction dropRepeated first more name with
  | case1 => exact ⟨0, rfl, by simp⟩
  | case2 c rest hmark ih =>
    rw [Bool.and_eq_true, beq_iff_eq, List.isPrefixOf_iff_prefix] at hmark
    obtain ⟨rfl, tail, rfl⟩ := hmark
    rw [List.drop_left] at ih ⊢
    obtain ⟨n, htail, hfree⟩ := ih
    refine ⟨n + 1, ?_, hfree⟩
    rw [List.replicate_succ, List.flatten_cons, List.append_assoc, ← htail, List.cons_append]
  | case3 c rest hmark =>
    refine ⟨0, rfl, fun hstarts => hmark ?_⟩
    rw [List.cons_prefix_cons] at hstarts
    rw [Bool.and_eq_true, beq_iff_eq, List.isPrefixOf_iff_prefix]
    exact ⟨hstarts.1.symm, hstarts.2⟩

theorem stripsTo_dropValueBinding (name : List Char) : StripsTo name (dropValueBinding name) := by
  obtain ⟨binds, hname, hfree⟩ := exists_replicate_dropRepeated 'v' "-bind:".toList name
  set unbound := dropRepeated 'v' "-bind:".toList name with hunbound
  have hcolons : unbound = List.replicate (unbound.takeWhile (· == ':')).length ':' ++
      dropValueBinding name := by
    have hrun : unbound.takeWhile (· == ':') =
        List.replicate (unbound.takeWhile (· == ':')).length ':' := by
      rw [List.eq_replicate_iff]
      refine ⟨rfl, fun c hc => ?_⟩
      exact beq_iff_eq.mp (List.mem_takeWhile_imp (p := (· == ':')) hc)
    rw [← hrun, dropValueBinding, ← hunbound, List.takeWhile_append_dropWhile]
  refine ⟨binds, (unbound.takeWhile (· == ':')).length, ?_, ?_, ?_⟩
  · rw [← hcolons]
    exact hname
  · rw [← hcolons]
    exact hfree
  · rintro ⟨tail, htail⟩
    have hhead := head?_dropWhile (· == ':') unbound
    rw [hunbound, ← dropValueBinding, ← htail] at hhead
    cases hhead

/-- The names and values found in a tag are those of the attributes it was written from. -/
theorem map_attributeOccurrence?_written (doc : Document) (base offset : Nat)
    (attributes : List WrittenAttribute) :
    ((writtenMatches offset attributes).filterMap (doc.attributeOccurrence? base)).map
        (fun a => (a.name, a.value)) =
      attributes.filterMap WrittenAttribute.entry? := by
  induction attributes generalizing offset with
  | nil => rfl
  | cons a attributes ih =>
    rw [writtenMatches, List.filterMap_cons, List.filterMap_cons, WrittenAttribute.entry?,
      Document.attributeOccurrence?, WrittenAttribute.toMatch]
    by_cases hempty : (dropValueBinding a.name).isEmpty = true
    · simp only [hempty, if_true]
      exact ih _
    · simp only [hempty, Bool.false_eq_true, if_false, List.map_cons, ih, Option.map_map]
      rfl

/-- The entries of a list of which no later entry has the same name. -/
def lastEntries (entries : List (String × Option String)) : List (String × Option String) :=
  entries.pwFilter fun e later => e.1 ≠ later.1

theorem map_keepLast (attributes : List AttributeOccurrence) :
    (keepLast attributes).map (fun a => (a.name, a.value)) =
      lastEntries (attributes.map fun a => (a.name, a.value)) := by
  rw [keepLast_eq_pwFilter, lastEntries, List.pwFilter_map]

/-! ### The tag -/

/-- The name of a written tag ends at a blank, at the slash or at the `>`. -/
theorem head?_written (attributes : List WrittenAttribute) {close : List Char}
    (hclose : TagEnd close) (post : List Char) :
    (renderAttributes attributes ++ (close ++ post)).head?.any isNameChar = false := by
  have hblank : ∀ {gap : List Char} (cs : List Char), gap ≠ [] → (∀ c ∈ gap, isBlank c = true) →
      (gap ++ cs).head?.any isNameChar = false := by
    intro gap cs hne hgap
    obtain ⟨c, gap, rfl⟩ := List.exists_cons_of_ne_nil hne
    exact isNameChar_of_isBlank (hgap c List.mem_cons_self)
  cases attributes with
  | nil =>
    obtain ⟨gap, close, rfl, hgap, hends⟩ := hclose
    by_cases hne : gap = []
    · subst hne
      rcases hends with rfl | rfl
      · exact (by decide : isNameChar '>' = false)
      · exact (by decide : isNameChar '/' = false)
    · rw [renderAttributes, List.flatMap_nil, List.nil_append, List.append_assoc]
      exact hblank _ hne hgap
  | cons a attributes =>
    rw [renderAttributes, List.flatMap_cons, List.append_assoc, List.append_assoc]
    exact hblank _ a.gap_ne a.gap_blank

/-- **A tag is read back as it was written.** Text without a `<` is followed by the tag of a known
element and any other text. The first occurrence that is found is this tag, with its text, and its
attributes are those it was written with: each under its name without the marks of a value binding,
with the value between its delimiters or with none, and only the last one of each name. -/
theorem occurrences_written (catalogue : Catalogue) {tag : List Char} (htag : CustomName tag)
    (hknown : catalogue.isKnown (String.ofList tag) = true) {pre : List Char} (hpre : '<' ∉ pre)
    (attributes : List WrittenAttribute) {gap close : List Char}
    (hgap : ∀ c ∈ gap, isBlank c = true) (hclose : close = ['>'] ∨ close = ['/', '>'])
    (post : List Char) (language : String) :
    let raw := '<' :: (tag ++ (renderAttributes attributes ++ (gap ++ close)))
    let doc : Document := ⟨pre ++ (raw ++ post), language⟩
    (∃ o later, doc.occurrences catalogue = o :: later ∧ o.name = String.ofList tag ∧
      o.rawText = String.ofList raw ∧
      o.attributes.map (fun a => (a.name, a.value)) =
        lastEntries (attributes.filterMap WrittenAttribute.entry?)) ∧
    ∀ a ∈ attributes, StripsTo a.name (dropValueBinding a.name) := by
  intro raw doc
  refine ⟨?_, fun a _ => stripsTo_dropValueBinding a.name⟩
  have hend : TagEnd (gap ++ close) := ⟨gap, close, rfl, hgap, hclose⟩
  have htag? := tag?_of_body? htag (head?_written attributes hend post)
    (body?_attributes attributes hend post)
  have hchars : doc.chars =
      pre ++ '<' :: (tag ++ (renderAttributes attributes ++ (gap ++ close ++ post))) := by
    simp [doc, raw]
  -- nothing in front of the tag is a match, so the tag is the first one
  obtain ⟨later, hmatches⟩ : ∃ later, tagMatches 0 doc.chars =
      ⟨pre.length, tag, renderAttributes attributes ++ (gap ++ close)⟩ :: later := by
    rw [hchars, tagMatches_of_notMem hpre, tagMatches_of_tag? htag?, Nat.zero_add]
    exact ⟨_, rfl⟩
  have hfirst : ∃ more, doc.occurrences catalogue =
      doc.occurrence ⟨pre.length, tag, renderAttributes attributes ++ (gap ++ close)⟩ :: more := by
    rw [Document.occurrences, hmatches, List.filter_cons, if_pos hknown, List.map_cons]
    exact ⟨_, rfl⟩
  obtain ⟨more, hfirst⟩ := hfirst
  refine ⟨_, more, hfirst, rfl, rfl, ?_⟩
  change (keepLast ((attributeMatches 0 (renderAttributes attributes ++ (gap ++ close))).filterMap
    (doc.attributeOccurrence? _))).map _ = _
  rw [map_keepLast, attributeMatches_written attributes hend, map_attributeOccurrence?_written]

/-- A bound attribute on a line of its own, with a `>` in its value. -/
def boundLabel : WrittenAttribute where
  gap := "\n\t".toList
  name := "v-bind:label".toList
  value := some ⟨'"', '"', "a > b".toList, .doubleQuote, by decide⟩
  gap_ne := by decide
  gap_blank := List.all_eq_true.mp rfl
  name_ne := by decide
  name_chars := List.all_eq_true.mp rfl

/-- A flag. -/
def wideFlag : WrittenAttribute where
  gap := [' ']
  name := "wide".toList
  value := none
  gap_ne := by decide
  gap_blank := List.all_eq_true.mp rfl
  name_ne := by decide
  name_chars := List.all_eq_true.mp rfl

/-- An attribute with a tag between braces. -/
def bracedLabel : WrittenAttribute where
  gap := [' ']
  name := ":label".toList
  value := some ⟨'\x7b', '\x7d', "<f-row>".toList, .brace, by decide⟩
  gap_ne := by decide
  gap_blank := List.all_eq_true.mp rfl
  name_ne := by decide
  name_chars := List.all_eq_true.mp rfl

/-- A tag that names one attribute twice, in a text full of other marks. -/
theorem occurrences_written_label :
    ∃ o later, (⟨("a > '" ++ "<f-row\n\tv-bind:label=\"a > b\" wide :label=\x7b<f-row>\x7d />" ++
        "\"</f-row>").toList, "vue"⟩ : Document).occurrences
          { elements := [("f-row", { category := "layout" })] } = o :: later ∧
      o.name = "f-row" ∧
      o.rawText = "<f-row\n\tv-bind:label=\"a > b\" wide :label=\x7b<f-row>\x7d />" ∧
      o.attributes.map (fun a => (a.name, a.value)) =
        [("wide", none), ("label", some "<f-row>")] := by
  have htag : CustomName "f-row".toList :=
    ⟨'f', [], "row".toList, rfl, rfl, List.all_eq_true.mp rfl, List.all_eq_true.mp rfl⟩
  have hentries : lastEntries ([boundLabel, wideFlag, bracedLabel].filterMap
      WrittenAttribute.entry?) = [("wide", none), ("label", some "<f-row>")] := by
    cbv
  have hpre : '<' ∉ "a > '".toList := by decide
  have hgap : ∀ c ∈ [' '], isBlank c = true := List.all_eq_true.mp rfl
  rw [← hentries]
  exact (occurrences_written { elements := [("f-row", { category := "layout" })] } htag rfl hpre
    [boundLabel, wideFlag, bracedLabel] hgap (Or.inr rfl) "\"</f-row>".toList "vue").1

end MarkupAssist
