import Mathlib.Data.List.Nodup
import Mathlib.Data.List.Permutation
import MarkupAssist.Completion.Attributes
import MarkupAssist.Proofs.CharacterClass
import MarkupAssist.Proofs.Cut
import MarkupAssist.Proofs.LoadedCatalogue

/-!
# Which attributes are offered

What is offered for the name of an attribute depends on the text in front of the cursor. A string
at its end is dropped, the last token is cut off, the token loses its first mark wherever it
stands, and what is left of it is compared with the names. For a token that is a mark in front of a
plain text all this comes down to the two parts of the token.

* `Completion.TypedAt`: the text in front of the cursor ends with such a token. The cuts find it
  (`lastToken_typed`), and its parts decide about the name and about the kind of the attribute
  (`typedName_append`, `ofToken_append`).
* `Completion.Fits`: an attribute is one that is asked for. The attributes are filtered by just this
  (`offeredNames_typed`, `fits_iff`).
* `Completion.Interleaves`: one list is made of two others, each in its own order. A list is made of
  the elements that pass a filter and those that do not (`interleaves_filter`); methods and other
  attributes are such a pair.

`attributes_offered` states the rule, and what follows for the same text behind different marks.
-/

namespace MarkupAssist

open Text

namespace Completion

/-! ### The token before the cursor -/

/-- The marks that the name of an attribute is typed with. -/
def bindingMarks : List (List Char) :=
  [[], [':'], ['@']]

/-- A character of a plain text, which parts no tokens and marks no binding. -/
def IsPlain (c : Char) : Prop :=
  isBlank c = false ∧ c ≠ '(' ∧ isQuote c = false ∧ isBindingMark c = false

instance (c : Char) : Decidable (IsPlain c) :=
  inferInstanceAs (Decidable (_ ∧ _))

/-- Before the cursor a mark and a plain text have been typed, at the start of the line or behind a
blank or a parenthesis. -/
structure TypedAt (doc : Document) (p : Position) (mark typed : List Char) : Prop where
  mark_mem : mark ∈ bindingMarks
  plain : ∀ c ∈ typed, IsPlain c
  before : ∃ front, doc.textBefore p = front ++ (mark ++ typed) ∧
    ∀ c, front.getLast? = some c → isBlank c = true ∨ c = '('

/-- The characters of the marks are marks. -/
theorem isBindingMark_of_mem {mark : List Char} (hmark : mark ∈ bindingMarks) {c : Char}
    (hc : c ∈ mark) : isBindingMark c = true := by
  have hall : bindingMarks.all (·.all isBindingMark) = true := by decide
  exact List.all_eq_true.mp (List.all_eq_true.mp hall mark hmark) c hc

/-- No character of the token parts it or ends a string. -/
theorem mem_token {mark typed : List Char} (hmark : mark ∈ bindingMarks)
    (hplain : ∀ c ∈ typed, IsPlain c) {c : Char} (hc : c ∈ mark ++ typed) :
    isBlank c = false ∧ c ≠ '(' ∧ isQuote c = false := by
  rcases List.mem_append.mp hc with hc | hc
  · have hcases : c = ':' ∨ c = '@' := by
      simpa [isBindingMark] using isBindingMark_of_mem hmark hc
    rcases hcases with rfl | rfl <;> decide
  · obtain ⟨hblank, hparen, hquote, -⟩ := hplain c hc
    exact ⟨hblank, hparen, hquote⟩

/-- A text that does not end with a quote has no string at its end. -/
theorem dropQuotedTail_eq_self {cs : List Char}
    (hcs : ∀ c, cs.getLast? = some c → isQuote c = false) : dropQuotedTail cs = cs := by
  unfold dropQuotedTail
  cases hlast : cs.getLast? with
  | none => rfl
  | some c =>
    show (if isQuote c = true then _ else cs) = cs
    rw [hcs c hlast, if_neg Bool.false_ne_true]

/-- **The last token is the mark and the plain text.** -/
theorem lastToken_typed {doc : Document} {p : Position} {mark typed : List Char}
    (h : TypedAt doc p mark typed) :
    lastToken (dropQuotedTail (doc.textBefore p)) = mark ++ typed := by
  obtain ⟨front, hbefore, hfront⟩ := h.before
  have htoken : ∀ c ∈ mark ++ typed, isBlank c = false ∧ c ≠ '(' ∧ isQuote c = false :=
    fun c hc => mem_token h.mark_mem h.plain hc
  -- the text ends with a character of the token, or with what stands in front of an empty one
  have hlast : ∀ c, (front ++ (mark ++ typed)).getLast? = some c → isQuote c = false := by
    intro c hc
    rw [List.getLast?_append] at hc
    rcases Option.or_eq_some_iff.mp hc with hc | ⟨-, hc⟩
    · exact (htoken c (List.mem_of_getLast? hc)).2.2
    · rcases hfront c hc with hblank | rfl
      · exact isQuote_eq_false (by decide) (by decide) hblank
      · decide
  rw [hbefore, dropQuotedTail_eq_self hlast]
  unfold lastToken
  apply takeEndWhile_append
  · intro c hc
    obtain ⟨hblank, hparen, -⟩ := htoken c hc
    simp [hblank, hparen]
  · rw [Option.any_eq_false]
    intro c hc
    rcases hfront c hc with hblank | rfl
    · simp [hblank]
    · simp

/-- Without its mark the token is the plain text. -/
theorem typedName_append {mark typed : List Char} (hmark : mark ∈ bindingMarks)
    (hplain : ∀ c ∈ typed, IsPlain c) : typedName (mark ++ typed) = typed := by
  unfold typedName
  simp only [bindingMarks, List.mem_cons, List.not_mem_nil, or_false] at hmark
  rcases hmark with rfl | rfl | rfl
  · rw [List.nil_append, List.eraseP_of_forall_not]
    intro c hc
    rw [(hplain c hc).2.2.2]
    exact Bool.false_ne_true
  · exact List.eraseP_cons_of_pos (by decide)
  · exact List.eraseP_cons_of_pos (by decide)

/-- The kind of the attribute is decided by the mark. -/
theorem ofToken_append {mark typed : List Char} (hmark : mark ∈ bindingMarks)
    (hplain : ∀ c ∈ typed, IsPlain c) :
    Binding.ofToken (mark ++ typed) = Binding.ofToken mark := by
  simp only [bindingMarks, List.mem_cons, List.not_mem_nil, or_false] at hmark
  rcases hmark with rfl | rfl | rfl
  · -- a plain text does not start with a mark
    rw [List.nil_append]
    cases typed with
    | nil => rfl
    | cons c typed =>
      have hc := (hplain c List.mem_cons_self).2.2.2
      unfold Binding.ofToken
      split
      · next heq =>
        obtain rfl := Option.some.inj heq
        cases hc
      · next heq =>
        obtain rfl := Option.some.inj heq
        cases hc
      · rfl
  · rfl
  · rfl

/-! ### The attributes -/

/-- An attribute fits a plain text that has been typed behind a mark. If something has been typed,
it starts with a character from `A` to `z` that is, but for its case, the first of the name. Behind
`@` the attribute is a method, and behind `:` it is none. -/
structure Fits (mark typed : List Char) (name : String) (attr : Attribute) : Prop where
  first : ∀ c, typed.head? = some c → ('A' ≤ c ∧ c ≤ 'z') ∧
    ∃ d, name.toList.head? = some d ∧ lowerCase d = lowerCase c
  event : mark = ['@'] → attr.isMethod = true
  value : mark = [':'] → attr.isMethod = false

theorem matchesTyped_iff {typed : List Char} (hplain : ∀ c ∈ typed, IsPlain c) (name : String) :
    matchesTyped typed name = true ↔ ∀ c, typed.head? = some c → ('A' ≤ c ∧ c ≤ 'z') ∧
      ∃ d, name.toList.head? = some d ∧ lowerCase d = lowerCase c := by
  unfold matchesTyped
  cases typed with
  | nil => simp
  | cons c typed =>
    have hmark := (hplain c List.mem_cons_self).2.2.2
    cases name.toList with
    | nil => simp
    | cons d name => simp [startsTypedName, hmark]

theorem accepts_ofToken_iff {mark : List Char} (hmark : mark ∈ bindingMarks) (attr : Attribute) :
    (Binding.ofToken mark).accepts attr = true ↔
      (mark = ['@'] → attr.isMethod = true) ∧ (mark = [':'] → attr.isMethod = false) := by
  simp only [bindingMarks, List.mem_cons, List.not_mem_nil, or_false] at hmark
  rcases hmark with rfl | rfl | rfl <;> simp [Binding.ofToken, Binding.accepts]

theorem fits_iff {mark typed : List Char} (hmark : mark ∈ bindingMarks)
    (hplain : ∀ c ∈ typed, IsPlain c) {name : String} {attr : Attribute} :
    Fits mark typed name attr ↔
      matchesTyped typed name = true ∧ (Binding.ofToken mark).accepts attr = true := by
  rw [matchesTyped_iff hplain, accepts_ofToken_iff hmark]
  constructor
  · intro h
    exact ⟨h.first, h.event, h.value⟩
  · rintro ⟨hfirst, hevent, hvalue⟩
    exact ⟨hfirst, hevent, hvalue⟩

/-- The names that are offered at a position. -/
def offeredNames (catalogue : Catalogue) (tag : String) (settings : Settings) (doc : Document)
    (p : Position) : List String :=
  (catalogue.completeAttributes doc p tag settings).map (·.label)

/-- The attributes of an element that are asked for, in the order of their declaration. -/
def asked (element : Element) (mark typed : List Char) : Entries Attribute :=
  (element.attributes.filter fun e => matchesTyped typed e.1).filter fun e =>
    (Binding.ofToken mark).accepts e.2

/-- **What is offered are the attributes that are asked for.** -/
theorem offeredNames_typed {catalogue : Catalogue} {tag : String} {element : Element}
    (hknown : catalogue.element? tag = some element) {doc : Document} {p : Position}
    {mark typed : List Char} (h : TypedAt doc p mark typed) (settings : Settings) :
    offeredNames catalogue tag settings doc p = (asked element mark typed).names := by
  unfold offeredNames Catalogue.completeAttributes
  simp only [hknown, lastToken_typed h, typedName_append h.mark_mem h.plain,
    ofToken_append h.mark_mem h.plain, List.map_map]
  rfl

theorem mem_names_asked {element : Element} {mark typed : List Char} (hmark : mark ∈ bindingMarks)
    (hplain : ∀ c ∈ typed, IsPlain c) {name : String} :
    name ∈ (asked element mark typed).names ↔
      ∃ attr, (name, attr) ∈ element.attributes ∧ Fits mark typed name attr := by
  have hentry : ∀ attr, (name, attr) ∈ asked element mark typed ↔
      (name, attr) ∈ element.attributes ∧ Fits mark typed name attr := by
    intro attr
    unfold asked
    rw [List.mem_filter, List.mem_filter, fits_iff hmark hplain, and_assoc]
  constructor
  · intro hname
    obtain ⟨⟨_, attr⟩, he, rfl⟩ := List.mem_map.mp hname
    exact ⟨attr, (hentry attr).mp he⟩
  · rintro ⟨attr, he⟩
    exact List.mem_map_of_mem ((hentry attr).mpr he)

theorem names_asked_sublist (element : Element) (mark typed : List Char) :
    (asked element mark typed).names.Sublist element.attributes.names :=
  (List.filter_sublist.trans List.filter_sublist).map _

/-! ### Methods and other attributes -/

/-- A list is made of two others: each element comes from one of them, in the order of that list. -/
inductive Interleaves {α : Type} : List α → List α → List α → Prop
  | nil : Interleaves [] [] []
  | left {x : α} {xs ys zs : List α} (h : Interleaves xs ys zs) :
      Interleaves (x :: xs) ys (x :: zs)
  | right {y : α} {xs ys zs : List α} (h : Interleaves xs ys zs) :
      Interleaves xs (y :: ys) (y :: zs)

/-- The elements that do not pass a filter and those that do make up the list. -/
theorem interleaves_filter {α β : Type} (f : α → β) (p : α → Bool) (xs : List α) :
    Interleaves ((xs.filter fun x => !p x).map f) ((xs.filter p).map f) (xs.map f) := by
  induction xs with
  | nil => exact .nil
  | cons x xs ih =>
    cases hx : p x with
    | true =>
      rw [List.filter_cons_of_neg (by simp [hx]), List.filter_cons_of_pos hx]
      exact .right ih
    | false =>
      rw [List.filter_cons_of_pos (by simp [hx]), List.filter_cons_of_neg (by simp [hx])]
      exact .left ih

/-- Behind the two marks stand the two halves of what is offered without one. -/
theorem interleaves_asked (element : Element) (typed : List Char) :
    Interleaves (asked element [':'] typed).names (asked element ['@'] typed).names
      (asked element [] typed).names := by
  have hall : asked element [] typed = element.attributes.filter fun e => matchesTyped typed e.1 :=
    List.filter_eq_self.mpr fun _ _ => rfl
  rw [hall]
  exact interleaves_filter Prod.fst (fun e : String × Attribute => e.2.isMethod) _

/-- An attribute with one name has one definition, so it cannot fit both marks. -/
theorem disjoint_asked {element : Element} (hnodup : element.attributes.names.Nodup)
    {typed : List Char} (hplain : ∀ c ∈ typed, IsPlain c) :
    (asked element [':'] typed).names.Disjoint (asked element ['@'] typed).names := by
  intro name hvalue hevent
  obtain ⟨attr, hattr, hfits⟩ := (mem_names_asked (by decide) hplain).mp hvalue
  obtain ⟨attr', hattr', hfits'⟩ := (mem_names_asked (by decide) hplain).mp hevent
  have hsame : (name, attr) = (name, attr') := List.inj_on_of_nodup_map hnodup hattr hattr' rfl
  have hmethod : attr'.isMethod = true := hfits'.event rfl
  rw [← (Prod.mk.inj hsame).2, hfits.value rfl] at hmethod
  cases hmethod

end Completion

open Completion

/-- **Exactly the attributes that fit are offered.** The labels are names of attributes of the
element, in the order of their declaration and without repetition, and they are those of the
attributes that fit what has been typed behind a mark. So for one text the offers behind `:` and
behind `@` have no name in common, and without a mark they are put together in the order of
declaration. -/
theorem attributes_offered {sources : List (String × String)} {catalogue : Catalogue}
    (hload : Catalogue.load sources = .ok catalogue) {tag : String} {element : Element}
    (hknown : catalogue.element? tag = some element) (settings : Settings) :
    let labels := offeredNames catalogue tag settings
    (∀ doc p mark typed, TypedAt doc p mark typed →
      (labels doc p).Sublist element.attributes.names ∧ (labels doc p).Nodup ∧
        ∀ name, name ∈ labels doc p ↔
          ∃ attr, (name, attr) ∈ element.attributes ∧ Fits mark typed name attr) ∧
    ∀ typed docValue pValue docEvent pEvent doc p, TypedAt docValue pValue [':'] typed →
      TypedAt docEvent pEvent ['@'] typed → TypedAt doc p [] typed →
        (labels docValue pValue).Disjoint (labels docEvent pEvent) ∧
          Interleaves (labels docValue pValue) (labels docEvent pEvent) (labels doc p) := by
  intro labels
  have hnodup : element.attributes.names.Nodup :=
    Catalogue.nodup_attributes_of_load hload (Entries.mem_of_get? hknown)
  have hlabels : ∀ {doc p mark typed}, TypedAt doc p mark typed →
      labels doc p = (asked element mark typed).names := by
    intro doc p mark typed h
    exact offeredNames_typed hknown h settings
  refine ⟨?_, ?_⟩
  · intro doc p mark typed h
    have hsublist := names_asked_sublist element mark typed
    rw [hlabels h]
    exact ⟨hsublist, hnodup.sublist hsublist, fun name => mem_names_asked h.mark_mem h.plain⟩
  · intro typed docValue pValue docEvent pEvent doc p hvalue hevent hnone
    rw [hlabels hvalue, hlabels hevent, hlabels hnone]
    exact ⟨disjoint_asked hnodup hnone.plain, interleaves_asked element typed⟩

/-- A source with an element that has a method between other attributes. -/
def keySource : String :=
  "\x7b\"f-key\": \x7b\"attributes\": \x7b\"color\": \x7b\x7d, " ++
    "\"click\": \x7b\"isRequired\": true, \"type\": \"method\"\x7d, " ++
      "\"size\": \x7b\x7d, \"Caption\": \x7b\"isRequired\": true\x7d\x7d\x7d\x7d"

/-- The element of `keySource`. -/
def keyElement : Element where
  attributes :=
    [("color", {}), ("click", { isRequired := true, type := .method }), ("size", {}),
     ("Caption", { isRequired := true })]

/-- The catalogue of `keySource`. -/
def keyCatalogue : Catalogue where
  elements := [("f-key", keyElement)]

theorem load_keySource : Catalogue.load [("key.json", keySource)] = .ok keyCatalogue := by
  cbv

/-- The same letter behind a parenthesis and a colon, behind a string and an at sign, and alone on
its line. -/
def keyPage : Document :=
  ⟨"<f-key (:c\n<f-key x='@'\t@c\nc".toList, "vue"⟩

/-- Two names that differ in case fit the same letter. What fits it alone is put together from what
fits behind the two marks. -/
theorem attributes_offered_keyPage :
    Catalogue.load [("key.json", keySource)] = .ok keyCatalogue ∧
      offeredNames keyCatalogue "f-key" {} keyPage ⟨0, 10⟩ = ["color", "Caption"] ∧
      offeredNames keyCatalogue "f-key" {} keyPage ⟨1, 15⟩ = ["click"] ∧
      Fits ['@'] ['c'] "click" { isRequired := true, type := .method } ∧
      Interleaves ["color", "Caption"] ["click"]
        (offeredNames keyCatalogue "f-key" {} keyPage ⟨2, 1⟩) := by
  have hknown : keyCatalogue.element? "f-key" = some keyElement := rfl
  obtain ⟨hone, htwo⟩ := attributes_offered load_keySource hknown {}
  have hplain : ∀ c ∈ ['c'], IsPlain c := List.forall_mem_singleton.mpr (by decide)
  have hvalue : TypedAt keyPage ⟨0, 10⟩ [':'] ['c'] :=
    ⟨by decide, hplain, "<f-key (".toList, by decide, fun c hc => .inr (Option.some.inj hc).symm⟩
  have hevent : TypedAt keyPage ⟨1, 15⟩ ['@'] ['c'] := by
    refine ⟨by decide, hplain, "<f-key x='@'\t".toList, by decide, fun c hc => .inl ?_⟩
    obtain rfl : '\t' = c := Option.some.inj hc
    decide
  have hnone : TypedAt keyPage ⟨2, 1⟩ [] ['c'] :=
    ⟨by decide, hplain, [], by decide, fun c hc => nomatch hc⟩
  have hlabels : offeredNames keyCatalogue "f-key" {} keyPage ⟨0, 10⟩ = ["color", "Caption"] := by
    decide
  have hlabels' : offeredNames keyCatalogue "f-key" {} keyPage ⟨1, 15⟩ = ["click"] := by decide
  refine ⟨load_keySource, hlabels, hlabels', ?_, ?_⟩
  · -- the only attribute of this name is the one in the catalogue
    obtain ⟨attr, hattr, hfits⟩ := ((hone _ _ _ _ hevent).2.2 "click").mp
      (hlabels' ▸ List.mem_cons_self)
    obtain rfl : attr = { isRequired := true, type := .method } := by
      simpa [keyElement] using hattr
    exact hfits
  · have h := (htwo _ _ _ _ _ _ _ hvalue hevent hnone).2
    rwa [hlabels, hlabels'] at h

end MarkupAssist
