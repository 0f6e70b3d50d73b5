import Mathlib.Data.List.TakeWhile
import MarkupAssist.Proofs.AttributeScan
import MarkupAssist.Proofs.SkeletonTree
import MarkupAssist.Proofs.TagGrammar

/-!
# Filled skeletons

A skeleton is a text with tab stops. Filled with values it is a document, and
the scanner that reads documents knows nothing about skeletons. This module
connects the two for a single tag:

* `fillStops` replaces the tab stops of any text; a cut that parts no tab stop
  may be made before or after filling (`fillStops_append`);
* `MarkupNames` is what the names of a catalogue must be like to be written in
  markup at all;
* a filled opening tag is one tag for the scanner (`tagMatches_opening`):
  between its quotes a value may hold anything but the quote, so a `>` or a brace
  in it is enclosed. A closing tag is none (`tagMatches_closing`).
-/

namespace MarkupAssist

open Text Markup SkeletonLine

/-! ### Filling tab stops -/

/-- A text with every tab stop `$k` replaced by `fill k`. The number of a tab
stop is the longest run of digits behind the dollar sign. -/
def fillStops (fill : Nat → List Char) : List Char → List Char
  | [] => []
  | c :: cs =>
    if c == '$' && cs.head?.any Char.isDigit then
      fill (Nat.ofDigitChars 10 (cs.takeWhile Char.isDigit) 0) ++
        fillStops fill (cs.dropWhile Char.isDigit)
    else c :: fillStops fill cs
termination_by cs => cs.length
decreasing_by
  · exact Nat.lt_succ_of_le (dropWhile_length _ _)
  · exact Nat.lt_succ_self _

section Filling

variable {fill : Nat → List Char}

@[simp] theorem fillStops_nil : fillStops fill [] = [] := by
  rw [fillStops]

theorem fillStops_of_notMem {front : List Char} (hfront : '$' ∉ front) (cs : List Char) :
    fillStops fill (front ++ cs) = front ++ fillStops fill cs := by
  induction front with
  | nil => rfl
  | cons c front ih =>
    have hc : (c == '$') = false := by
      simpa using fun h : c = '$' => hfront (h ▸ List.mem_cons_self)
    rw [List.cons_append, fillStops, hc, Bool.false_and, if_neg (by simp),
      ih fun h => hfront (List.mem_cons_of_mem _ h), List.cons_append]

theorem fillStops_eq_self {cs : List Char} (hcs : '$' ∉ cs) : fillStops fill cs = cs := by
  have h : fillStops fill (cs ++ []) = cs ++ fillStops fill [] := fillStops_of_notMem hcs []
  rwa [List.append_nil, fillStops_nil, List.append_nil] at h

/-- A text does not start with a digit. -/
def NoDigitFirst (cs : List Char) : Prop :=
  cs.head?.any Char.isDigit = false

/-- A cut that parts no tab stop parts the filling. -/
theorem fillStops_append (cs : List Char) {ds : List Char} (hds : NoDigitFirst ds) :
    fillStops fill (cs ++ ds) = fillStops fill cs ++ fillStops fill ds := by
  induction hn : cs.length using Nat.strongRecOn generalizing cs with
  | _ n ih =>
    cases cs with
    | nil => simp
    | cons c cs =>
      have hhead : (cs ++ ds).head?.any Char.isDigit = cs.head?.any Char.isDigit := by
        cases cs with
        | nil => exact hds
        | cons d cs => rfl
      rw [List.cons_append, fillStops, fillStops, hhead]
      split
      · -- the digits of the tab stop all stand in `cs`
        have hlen : (cs.dropWhile Char.isDigit).length < n := by
          rw [← hn]
          exact Nat.lt_succ_of_le (dropWhile_length _ _)
        rw [takeWhile_append_stop cs hds, dropWhile_append_stop cs hds, ih _ hlen _ rfl,
          List.append_assoc]
      · rw [ih _ (by rw [← hn]; exact Nat.lt_succ_self _) cs rfl, List.cons_append]

/-- Only digits are among the digits of a number. -/
theorem notMem_toDigits {c : Char} (hc : c.isDigit = false) (k : Nat) : c ∉ Nat.toDigits 10 k := by
  intro hmem
  rw [Nat.isDigit_of_mem_toDigits (by decide) (by decide) hmem] at hc
  cases hc

/-- A number at the start of a text is the run of digits there. -/
theorem takeWhile_toDigits (k : Nat) {cs : List Char} (hcs : NoDigitFirst cs) :
    (Nat.toDigits 10 k ++ cs).takeWhile Char.isDigit = Nat.toDigits 10 k := by
  rw [takeWhile_append_stop _ hcs, List.takeWhile_eq_self_iff]
  exact fun c hc => Nat.isDigit_of_mem_toDigits (by decide) (by decide) hc

/-- A tab stop is replaced. -/
theorem fillStops_stop (k : Nat) {cs : List Char} (hcs : NoDigitFirst cs) :
    fillStops fill ('$' :: (Nat.toDigits 10 k ++ cs)) = fill k ++ fillStops fill cs := by
  have hdigits : ∀ c ∈ Nat.toDigits 10 k, c.isDigit = true := fun c hc =>
    Nat.isDigit_of_mem_toDigits (by decide) (by decide) hc
  have hhead : (Nat.toDigits 10 k ++ cs).head?.any Char.isDigit = true := by
    cases hk : Nat.toDigits 10 k with
    | nil => exact absurd hk Nat.toDigits_ne_nil
    | cons d ds => exact hdigits d (by rw [hk]; exact List.mem_cons_self)
  have hdrop : (Nat.toDigits 10 k ++ cs).dropWhile Char.isDigit = cs := by
    rw [dropWhile_append_stop _ hcs, List.dropWhile_eq_nil_iff.mpr hdigits, List.nil_append]
  rw [fillStops, hhead, if_pos (by rfl), takeWhile_toDigits k hcs, hdrop,
    Nat.ofDigitChars_ten_toDigits]

end Filling

/-! ### Names that can be written -/

/-- The name of an attribute as markup reads it: no punctuation, no dollar sign
and no mark of a value binding. -/
structure PlainName (name : List Char) : Prop where
  ne_nil : name ≠ []
  chars : ∀ c ∈ name, isAttributeChar c = true
  no_dollar : '$' ∉ name
  unmarked : Unmarked name

/-- All tags of a catalogue are custom names, and all required attributes have
plain names. -/
structure Catalogue.MarkupNames (catalogue : Catalogue) : Prop where
  tags : ∀ e ∈ catalogue.elements, CustomName e.1.toList
  attributes : ∀ e ∈ catalogue.elements, ∀ name ∈ e.2.requiredNames, PlainName name.toList

section Names

variable {catalogue : Catalogue} (hnames : catalogue.MarkupNames) {tag : String}
  {element : Element} (hknown : catalogue.element? tag = some element)

include hnames hknown

theorem Catalogue.MarkupNames.customName : CustomName tag.toList :=
  hnames.tags _ (Entries.mem_of_get? hknown)

theorem Catalogue.MarkupNames.plainName {stops : List (String × Nat)}
    (hcomplete : stops.map Prod.fst = element.requiredNames) :
    ∀ s ∈ stops, PlainName s.1.toList := by
  intro s hs
  refine hnames.attributes _ (Entries.mem_of_get? hknown) _ ?_
  change s.1 ∈ element.requiredNames
  rw [← hcomplete]
  exact List.mem_map_of_mem hs

end Names

theorem isQuote_char (quotes : QuoteStyle) : isQuote quotes.char = true := by
  cases quotes <;> rfl

theorem isDigit_char (quotes : QuoteStyle) : quotes.char.isDigit = false := by
  cases quotes <;> rfl

theorem dollar_ne_char (quotes : QuoteStyle) : '$' ≠ quotes.char := by
  cases quotes <;> decide

/-! ### Filled tags -/

section Tags

variable {fill : Nat → List Char} {settings : Settings}

/-- An attribute whose tab stop has been filled. -/
def filledStop (fill : Nat → List Char) (settings : Settings) (stop : String × Nat) : List Char :=
  ' ' :: quotedAttribute stop.1.toList settings.quotes.char (fill stop.2)

/-- The body of a tag whose tab stops have been filled. -/
def filledBody (fill : Nat → List Char) (settings : Settings) (stops : List (String × Nat)) :
    List Char :=
  stops.flatMap (filledStop fill settings) ++ ['>']

theorem fillStops_renderStop {stop : String × Nat} (hname : PlainName stop.1.toList) :
    fillStops fill (renderStop settings stop) = filledStop fill settings stop := by
  have hfront : '$' ∉ ' ' :: (stop.1.toList ++ ['=', settings.quotes.char]) := by
    simp [hname.no_dollar, dollar_ne_char]
  have hsplit : renderStop settings stop =
      (' ' :: (stop.1.toList ++ ['=', settings.quotes.char])) ++
        '$' :: (Nat.toDigits 10 stop.2 ++ [settings.quotes.char]) := by
    simp [renderStop]
  have hquote : fillStops fill [settings.quotes.char] = [settings.quotes.char] :=
    fillStops_eq_self (by simp [dollar_ne_char])
  have hdigit : NoDigitFirst [settings.quotes.char] := isDigit_char _
  rw [hsplit, fillStops_of_notMem hfront, fillStops_stop _ hdigit, hquote]
  simp [filledStop, quotedAttribute]

theorem noDigitFirst_stops (stops : List (String × Nat)) {cs : List Char} (hcs : NoDigitFirst cs) :
    NoDigitFirst (stops.flatMap (renderStop settings) ++ cs) := by
  cases stops with
  | nil => exact hcs
  | cons stop stops => rfl

theorem fillStops_stops {stops : List (String × Nat)} (hstops : ∀ s ∈ stops, PlainName s.1.toList)
    {cs : List Char} (hcs : NoDigitFirst cs) :
    fillStops fill (stops.flatMap (renderStop settings) ++ cs) =
      stops.flatMap (filledStop fill settings) ++ fillStops fill cs := by
  induction stops with
  | nil => rfl
  | cons stop stops ih =>
    rw [List.flatMap_cons, List.append_assoc, fillStops_append _ (noDigitFirst_stops _ hcs),
      fillStops_renderStop (hstops stop List.mem_cons_self),
      ih fun s hs => hstops s (List.mem_cons_of_mem _ hs), List.flatMap_cons, List.append_assoc]

theorem fillStops_renderOpening {tag : String} (htag : CustomName tag.toList)
    {stops : List (String × Nat)} (hstops : ∀ s ∈ stops, PlainName s.1.toList) :
    fillStops fill (renderOpening settings tag stops) =
      '<' :: (tag.toList ++ filledBody fill settings stops) := by
  have hfront : '$' ∉ '<' :: tag.toList := by
    simp [htag.notMem (c := '$') (by decide)]
  have hsplit : renderOpening settings tag stops =
      ('<' :: tag.toList) ++ (stops.flatMap (renderStop settings) ++ ['>']) := by
    simp [renderOpening]
  rw [hsplit, fillStops_of_notMem hfront, fillStops_stops hstops (by rfl),
    fillStops_eq_self (by decide)]
  rfl

/-- The tokens of a filled attribute. Everything but the value is a token of one
character. -/
theorem body?_filledStop {stop : String × Nat} (hname : PlainName stop.1.toList)
    (hfill : settings.quotes.char ∉ fill stop.2) (cs : List Char) :
    body? none (filledStop fill settings stop ++ cs) =
      (body? none cs).map (extendBody (filledStop fill settings stop)) := by
  have hfront : ∀ c ∈ ' ' :: (stop.1.toList ++ ['=']), BodyToken [c] := by
    intro c hc
    simp only [List.mem_cons, List.mem_append, List.not_mem_nil, or_false] at hc
    rcases hc with rfl | hc | rfl
    · exact .of_isBlank (by decide)
    · exact .of_isAttributeChar (hname.chars c hc)
    · exact .of_ne (by decide) (by decide) (by decide) (by decide)
  have hvalue : BodyToken (settings.quotes.char :: (fill stop.2 ++ [settings.quotes.char])) := by
    refine .enclosed ?_ hfill
    cases settings.quotes
    · exact .singleQuote
    · exact .doubleQuote
  have hsplit : filledStop fill settings stop = (' ' :: (stop.1.toList ++ ['='])) ++
      settings.quotes.char :: (fill stop.2 ++ [settings.quotes.char]) := by
    simp [filledStop, quotedAttribute]
  rw [hsplit, List.append_assoc, body?_singles hfront, body?_token hvalue]
  cases body? none cs <;> simp [extendBody]

theorem body?_filledBody {stops : List (String × Nat)} (hstops : ∀ s ∈ stops, PlainName s.1.toList)
    (hfill : ∀ k, settings.quotes.char ∉ fill k) (cs : List Char) :
    body? none (filledBody fill settings stops ++ cs) =
      some (filledBody fill settings stops, cs) := by
  induction stops with
  | nil => rfl
  | cons stop stops ih =>
    have hcons : filledBody fill settings (stop :: stops) =
        filledStop fill settings stop ++ filledBody fill settings stops := by
      simp [filledBody]
    rw [hcons, List.append_assoc, body?_filledStop (hstops stop List.mem_cons_self) (hfill _),
      ih fun s hs => hstops s (List.mem_cons_of_mem _ hs)]
    rfl

/-- **A filled opening tag is one tag for the scanner.** -/
theorem tagMatches_opening {tag : String} (htag : CustomName tag.toList)
    {stops : List (String × Nat)} (hstops : ∀ s ∈ stops, PlainName s.1.toList)
    (hfill : ∀ k, settings.quotes.char ∉ fill k) (offset : Nat) (cs : List Char) :
    tagMatches offset ('<' :: (tag.toList ++ filledBody fill settings stops) ++ cs) =
      ⟨offset, tag.toList, filledBody fill settings stops⟩ ::
        tagMatches (offset + ('<' :: (tag.toList ++ filledBody fill settings stops)).length)
          cs := by
  -- the name ends at the blank in front of an attribute, or at the end of the tag
  have hstop : (filledBody fill settings stops ++ cs).head?.any isNameChar = false := by
    cases stops with
    | nil => exact (by decide : isNameChar '>' = false)
    | cons stop stops => exact (by decide : isNameChar ' ' = false)
  have htag? := tag?_of_body? htag hstop (body?_filledBody hstops hfill cs)
  rw [List.cons_append, List.append_assoc, tagMatches_of_tag? htag?, List.length_cons,
    List.length_append]
  congr 2
  omega

theorem tagMatches_closing {tag : String} (htag : CustomName tag.toList) (offset : Nat)
    (cs : List Char) :
    tagMatches offset (renderClosing tag ++ cs) =
      tagMatches (offset + (renderClosing tag).length) cs := by
  -- a slash starts no name, and no other `<` follows in the closing tag
  have hnone : tag? ('/' :: (tag.toList ++ ['>']) ++ cs) = none := rfl
  have hfree : '<' ∉ '/' :: (tag.toList ++ ['>']) := by
    simp [htag.notMem (c := '<') (by decide)]
  rw [renderClosing, List.cons_append, tagMatches_of_none hnone, tagMatches_of_notMem hfree]
  congr 1
  simp only [List.length_cons, List.length_append, List.length_nil]
  omega

end Tags

end MarkupAssist
