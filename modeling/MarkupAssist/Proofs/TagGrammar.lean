import Mathlib.Data.List.Basic
import Mathlib.Data.List.TakeWhile
import MarkupAssist.Diagnostic
import MarkupAssist.Proofs.CharacterClass
import MarkupAssist.Proofs.Cut

/-!
# The grammar of custom tags

`tagMatches` reads a text once, from left to right, and never goes back. The
grammar it is meant for is the one a person would write down:

* `CustomName` — a Latin letter, word characters, a hyphen, and any number of
  word characters and hyphens;
* `BodyToken` — one character other than `>`, a quote and an opening brace; a
  quoted string; a brace group. What is enclosed ends at the first closing
  character;
* `TagShape` — a `<`, a custom name, a list of body tokens and a `>`.

Nothing in the grammar says where the name ends, how the body is cut into tokens
or which `>` is the last one. That these questions have one answer is proved
here: tokens form a prefix code (`BodyToken.eq_of_append`), so the cut of a body
is unique (`tokens_unique`), and `body?` finds it (`body?_eq_some_iff`). A name
that stops early leaves name characters to the body, where each of them is a
token, so `tag?`, which takes the longest name, finds a tag wherever there is one
(`tagShape_of_tag?`, `TagShape.exists_tag?`).

The scan itself is described by `mem_tagMatches` (what a match says about the
text), `pairwise_tagMatches` (matches do not overlap) and
`exists_mem_tagMatches` (no shape outside the earlier matches is missed). The
last one is an induction along the scan: a position behind the first match lies
in the text that is left.
-/

namespace MarkupAssist.Markup

open Text

/-! ### Grammar -/

/-- The name of a custom element. -/
def CustomName (name : List Char) : Prop :=
  ∃ first word tail, name = first :: (word ++ '-' :: tail) ∧ first.isAlpha = true ∧
    (∀ c ∈ word, isWord c = true) ∧ ∀ c ∈ tail, isNameChar c = true

/-- What opens and what closes an enclosed part of a tag body. -/
inductive Encloses : Char → Char → Prop
  | doubleQuote : Encloses '"' '"'
  | singleQuote : Encloses '\'' '\''
  | brace : Encloses '\x7b' '\x7d'

/-- A token of a tag body. -/
inductive BodyToken : List Char → Prop
  /-- One character that neither ends the tag nor opens anything. -/
  | single {c : Char} (hend : c ≠ '>') (hopen : ∀ close, ¬ Encloses c close) : BodyToken [c]
  /-- A quoted string or a brace group, up to the first closing character. -/
  | enclosed {opener close : Char} {inner : List Char} (h : Encloses opener close)
      (hinner : close ∉ inner) : BodyToken (opener :: (inner ++ [close]))

/-- `cs` starts with a custom tag of a given name and given body tokens, and
`rest` stands behind the tag. -/
structure TagShape (cs name : List Char) (tokens : List (List Char)) (rest : List Char) :
    Prop where
  /-- The name is one of a custom element. -/
  name_ok : CustomName name
  /-- The body consists of tokens. -/
  tokens_ok : ∀ t ∈ tokens, BodyToken t
  /-- The text is the tag and what stands behind it. -/
  text_eq : cs = '<' :: (name ++ (tokens.flatten ++ '>' :: rest))

/-! ### Tokens form a prefix code -/

theorem Encloses.unique {c d e : Char} (hd : Encloses c d) (he : Encloses c e) : d = e := by
  cases hd <;> cases he <;> rfl

theorem closer?_eq_some_iff {c close : Char} : closer? c = some close ↔ Encloses c close := by
  constructor
  · intro h
    unfold closer? at h
    split at h
    · next hc => cases h; rw [beq_iff_eq.mp hc]; exact .doubleQuote
    · split at h
      · next hc => cases h; rw [beq_iff_eq.mp hc]; exact .singleQuote
      · split at h
        · next hc => cases h; rw [beq_iff_eq.mp hc]; exact .brace
        · cases h
  · intro h
    cases h <;> rfl

theorem closer?_eq_none {c : Char} (h : ∀ close, ¬ Encloses c close) : closer? c = none := by
  cases hc : closer? c with
  | none => rfl
  | some close => exact absurd (closer?_eq_some_iff.mp hc) (h close)

/-- An opening character does not end the tag. -/
theorem Encloses.ne_end {c close : Char} (h : Encloses c close) : c ≠ '>' := by
  cases h <;> decide

theorem Encloses.isBlank_opener {c close : Char} (h : Encloses c close) : isBlank c = false := by
  cases h <;> decide

theorem BodyToken.ne_nil {t : List Char} (ht : BodyToken t) : t ≠ [] := by
  cases ht <;> simp

theorem BodyToken.of_ne {c : Char} (hend : c ≠ '>') (hdouble : c ≠ '"') (hsingle : c ≠ '\'')
    (hbrace : c ≠ '\x7b') : BodyToken [c] := by
  refine .single hend fun close hpair => ?_
  cases hpair
  · exact hdouble rfl
  · exact hsingle rfl
  · exact hbrace rfl

/-- Each character of an attribute name is a token. -/
theorem BodyToken.of_isAttributeChar {c : Char} (hc : isAttributeChar c = true) :
    BodyToken [c] := by
  refine .of_ne ?_ ?_ ?_ ?_ <;>
  · rintro rfl
    exact absurd hc (by decide)

theorem BodyToken.of_isBlank {c : Char} (hc : isBlank c = true) : BodyToken [c] := by
  refine .of_ne ?_ ?_ ?_ ?_ <;>
  · rintro rfl
    exact absurd hc (by decide)

/-- No token starts with the character that ends the tag. -/
theorem BodyToken.head_ne {t cs ds : List Char} (ht : BodyToken t) : t ++ cs ≠ '>' :: ds := by
  intro h
  cases ht with
  | single hend hopen => exact hend (List.cons.inj h).1
  | enclosed hpair hinner => exact hpair.ne_end (List.cons.inj h).1

/-- **Tokens form a prefix code.** Two tokens at the start of one text are the
same token. -/
theorem BodyToken.eq_of_append {t u cs ds : List Char} (ht : BodyToken t) (hu : BodyToken u)
    (h : t ++ cs = u ++ ds) : t = u := by
  cases ht with
  | single hend hopen =>
    cases hu with
    | single hend' hopen' => rw [(List.cons.inj h).1]
    | enclosed hpair hinner =>
      rw [(List.cons.inj h).1] at hopen
      exact absurd hpair (hopen _)
  | enclosed hpair hinner =>
    cases hu with
    | single hend' hopen' =>
      rw [← (List.cons.inj h).1] at hopen'
      exact absurd hpair (hopen' _)
    | enclosed hpair' hinner' =>
      obtain ⟨rfl, htail⟩ := List.cons.inj h
      obtain rfl := hpair.unique hpair'
      change (_ ++ [_]) ++ cs = (_ ++ [_]) ++ ds at htail
      rw [List.append_assoc, List.append_assoc] at htail
      rw [(append_cons_unique hinner hinner' htail).1]

/-- **The cut of a body into tokens is unique.** -/
theorem tokens_unique {ts us : List (List Char)} {rest rest' : List Char}
    (hts : ∀ t ∈ ts, BodyToken t) (hus : ∀ u ∈ us, BodyToken u)
    (h : ts.flatten ++ '>' :: rest = us.flatten ++ '>' :: rest') : ts = us ∧ rest = rest' := by
  induction ts generalizing us with
  | nil =>
    cases us with
    | nil => exact ⟨rfl, (List.cons.inj h).2⟩
    | cons u us =>
      rw [List.flatten_cons, List.append_assoc] at h
      exact absurd h.symm ((hus u List.mem_cons_self).head_ne)
  | cons t ts ih =>
    rw [List.flatten_cons, List.append_assoc] at h
    cases us with
    | nil => exact absurd h ((hts t List.mem_cons_self).head_ne)
    | cons u us =>
      rw [List.flatten_cons, List.append_assoc] at h
      obtain rfl := (hts t List.mem_cons_self).eq_of_append (hus u List.mem_cons_self) h
      obtain ⟨rfl, hrest⟩ := ih (fun v hv => hts v (List.mem_cons_of_mem _ hv))
        (fun v hv => hus v (List.mem_cons_of_mem _ hv)) (List.append_cancel_left h)
      exact ⟨rfl, hrest⟩

/-! ### The body of a tag -/

/-- Put a text in front of what `body?` has found. -/
def extendBody (front : List Char) (found : List Char × List Char) : List Char × List Char :=
  (front ++ found.1, found.2)

theorem body?_end (cs : List Char) : body? none ('>' :: cs) = some (['>'], cs) := rfl

theorem body?_enclosed {close : Char} {inner : List Char} (hinner : close ∉ inner)
    (cs : List Char) :
    body? (some close) (inner ++ close :: cs) =
      (body? none cs).map (extendBody (inner ++ [close])) := by
  induction inner with
  | nil =>
    rw [List.nil_append, List.nil_append, body?, if_pos (by simp)]
    cases body? none cs <;> rfl
  | cons c inner ih =>
    have hc : (c == close) = false := by
      simpa using fun h : c = close => hinner (h ▸ List.mem_cons_self)
    rw [List.cons_append, body?, hc, if_neg (by simp),
      ih fun h => hinner (List.mem_cons_of_mem _ h)]
    cases body? none cs <;> rfl

/-- Without its closing character an enclosed part never ends. -/
theorem body?_unclosed {close : Char} {cs : List Char} (hcs : close ∉ cs) :
    body? (some close) cs = none := by
  induction cs with
  | nil => rfl
  | cons c cs ih =>
    have hc : (c == close) = false := by
      simpa using fun h : c = close => hcs (h ▸ List.mem_cons_self)
    rw [body?, hc, if_neg (by simp), ih fun h => hcs (List.mem_cons_of_mem _ h)]
    rfl

/-- `body?` reads one token after the other. -/
theorem body?_token {t : List Char} (ht : BodyToken t) (cs : List Char) :
    body? none (t ++ cs) = (body? none cs).map (extendBody t) := by
  cases ht with
  | @single c hend hopen =>
    rw [List.singleton_append, body?, if_neg (by simpa using hend), closer?_eq_none hopen]
    rfl
  | @enclosed opener close inner hpair hinner =>
    rw [List.cons_append, body?, if_neg (by simpa using hpair.ne_end),
      closer?_eq_some_iff.mpr hpair, List.append_assoc, List.singleton_append,
      body?_enclosed hinner]
    cases body? none cs <;> rfl

theorem body?_tokens {ts : List (List Char)} (hts : ∀ t ∈ ts, BodyToken t) (cs : List Char) :
    body? none (ts.flatten ++ cs) = (body? none cs).map (extendBody ts.flatten) := by
  induction ts with
  | nil =>
    rw [List.flatten_nil, List.nil_append]
    cases body? none cs <;> rfl
  | cons t ts ih =>
    rw [List.flatten_cons, List.append_assoc, body?_token (hts t List.mem_cons_self),
      ih fun u hu => hts u (List.mem_cons_of_mem _ hu)]
    cases body? none cs <;> simp [extendBody]

/-- Characters that are tokens by themselves are read one after the other. -/
theorem body?_singles {front : List Char} (hfront : ∀ c ∈ front, BodyToken [c]) (cs : List Char) :
    body? none (front ++ cs) = (body? none cs).map (extendBody front) := by
  have hts : ∀ t ∈ front.map ([·]), BodyToken t := by
    intro t ht
    obtain ⟨c, hc, rfl⟩ := List.mem_map.mp ht
    exact hfront c hc
  have hflat : (front.map ([·])).flatten = front := by
    rw [← List.flatMap_def, List.flatMap_singleton']
  have h := body?_tokens hts cs
  rwa [hflat] at h

/-- What `body?` finds is cut into tokens. The induction is on the length of the
text, since an enclosed token takes away more than one character. -/
theorem exists_tokens_of_body? {cs body rest : List Char} (h : body? none cs = some (body, rest)) :
    ∃ ts : List (List Char), (∀ t ∈ ts, BodyToken t) ∧ body = ts.flatten ++ ['>'] := by
  induction hn : cs.length using Nat.strong_induction_on generalizing cs body rest with
  | _ n ih =>
    -- a token at the front leaves a shorter text with a body of its own
    have step : ∀ t ds : List Char, BodyToken t → cs = t ++ ds →
        ∃ ts : List (List Char), (∀ t ∈ ts, BodyToken t) ∧ body = ts.flatten ++ ['>'] := by
      intro t ds ht hcs
      rw [hcs, body?_token ht, Option.map_eq_some_iff] at h
      obtain ⟨⟨body', rest'⟩, hbody, heq⟩ := h
      have hlen : ds.length < n := by
        have := List.length_pos_iff.mpr ht.ne_nil
        rw [← hn, hcs, List.length_append]
        omega
      obtain ⟨ts, hts, rfl⟩ := ih _ hlen hbody rfl
      refine ⟨t :: ts, List.forall_mem_cons.mpr ⟨ht, hts⟩, ?_⟩
      rw [List.flatten_cons, List.append_assoc]
      exact (Prod.mk.inj heq).1.symm
    cases cs with
    | nil => cases h
    | cons c cs =>
      by_cases hend : c = '>'
      · subst hend
        rw [body?_end] at h
        exact ⟨[], by simp, by simpa using (Prod.mk.inj (Option.some.inj h)).1.symm⟩
      · cases hclose : closer? c with
        | none =>
          refine step [c] cs (.single hend fun close hpair => ?_) rfl
          rw [closer?_eq_some_iff.mpr hpair] at hclose
          cases hclose
        | some close =>
          have hpair := closer?_eq_some_iff.mp hclose
          by_cases hmem : close ∈ cs
          · obtain ⟨inner, ds, rfl, hinner⟩ := List.eq_append_cons_of_mem hmem
            exact step (c :: (inner ++ [close])) ds (.enclosed hpair hinner) (by simp)
          · rw [body?, if_neg (by simpa using hend), hclose, body?_unclosed hmem] at h
            cases h

/-- **`body?` finds exactly the texts of the grammar.** -/
theorem body?_eq_some_iff {cs body rest : List Char} :
    body? none cs = some (body, rest) ↔
      ∃ ts : List (List Char), (∀ t ∈ ts, BodyToken t) ∧ body = ts.flatten ++ ['>'] ∧
        cs = ts.flatten ++ '>' :: rest := by
  constructor
  · intro h
    obtain ⟨ts, hts, hbody⟩ := exists_tokens_of_body? h
    refine ⟨ts, hts, hbody, ?_⟩
    rw [← body?_append h, hbody, List.append_assoc, List.singleton_append]
  · rintro ⟨ts, hts, rfl, rfl⟩
    rw [body?_tokens hts, body?_end]
    rfl

/-! ### The name of a tag -/

theorem BodyToken.of_isNameChar {c : Char} (hc : isNameChar c = true) : BodyToken [c] := by
  refine .single (ne_of_isNameChar hc (by decide)) fun close hpair => ?_
  cases hpair <;> exact absurd hc (by decide)

/-- Name characters in front of a body are tokens of it. -/
theorem body?_takeWhile (cs : List Char) :
    body? none cs =
      (body? none (cs.dropWhile isNameChar)).map (extendBody (cs.takeWhile isNameChar)) := by
  have hname : ∀ c ∈ cs.takeWhile isNameChar, BodyToken [c] := fun c hc =>
    .of_isNameChar (List.mem_takeWhile_imp hc)
  have h := body?_singles hname (cs.dropWhile isNameChar)
  rwa [List.takeWhile_append_dropWhile] at h

theorem CustomName.isNameChar {name : List Char} (h : CustomName name) :
    ∀ c ∈ name, Text.isNameChar c = true := by
  obtain ⟨first, word, tail, rfl, hfirst, hword, htail⟩ := h
  intro c hc
  simp only [List.mem_cons, List.mem_append] at hc
  rcases hc with rfl | hc | rfl | hc
  · exact isNameChar_of_isWord (isWord_of_isAlpha hfirst)
  · exact isNameChar_of_isWord (hword c hc)
  · decide
  · exact htail c hc

theorem CustomName.nameText {name : List Char} (h : CustomName name) : NameText name := by
  refine ⟨?_, h.isNameChar⟩
  obtain ⟨first, word, tail, rfl, -⟩ := h
  exact List.cons_ne_nil _ _

theorem CustomName.notMem {name : List Char} (h : CustomName name) {c : Char}
    (hc : Text.isNameChar c = false) : c ∉ name :=
  notMem_of_nameChars h.isNameChar hc

/-- A run of name characters that starts with a custom name is one. -/
theorem CustomName.isCustomName_append {name : List Char} (h : CustomName name)
    (more : List Char) : isCustomName (name ++ more) = true := by
  obtain ⟨first, word, tail, rfl, hfirst, -, -⟩ := h
  simp [isCustomName, hfirst]

theorem customName_of_isCustomName {name : List Char} (hchars : ∀ c ∈ name, isNameChar c = true)
    (h : isCustomName name = true) : CustomName name := by
  cases name with
  | nil => simp [isCustomName] at h
  | cons first name =>
    simp only [isCustomName, List.head?_cons, Option.any_some, Bool.and_eq_true] at h
    have hfirst : '-' ≠ first := by
      rintro rfl
      exact absurd h.1 (by decide)
    have hmem : '-' ∈ name := by
      have := List.contains_iff_mem.mp h.2
      exact (List.mem_cons.mp this).resolve_left hfirst
    obtain ⟨word, tail, rfl, hword⟩ := List.eq_append_cons_of_mem hmem
    refine ⟨first, word, tail, rfl, h.1, fun c hc => ?_, fun c hc => hchars c (by simp [hc])⟩
    -- before the first hyphen a name character is a word character
    have hname := hchars c (by simp [hc])
    have hne : (c == '-') = false := by simpa using fun heq : c = '-' => hword (heq ▸ hc)
    rwa [Text.isNameChar, hne, Bool.or_false] at hname

/-- What `tag?` finds has the shape of a tag, and its name is the longest one. -/
theorem tagShape_of_tag? {cs name body rest : List Char} (h : tag? cs = some (name, body, rest)) :
    ∃ ts, TagShape ('<' :: cs) name ts rest ∧ body = ts.flatten ++ ['>'] ∧
      name = cs.takeWhile isNameChar := by
  have hcs := tag?_append h
  simp only [tag?] at h
  split at h
  · next hname =>
    obtain ⟨⟨body', rest'⟩, hbody, heq⟩ := Option.map_eq_some_iff.mp h
    obtain ⟨rfl, rfl, rfl⟩ : cs.takeWhile isNameChar = name ∧ body' = body ∧ rest' = rest := by
      simpa using heq
    obtain ⟨ts, hts, rfl, -⟩ := body?_eq_some_iff.mp hbody
    refine ⟨ts, ⟨?_, hts, ?_⟩, rfl, rfl⟩
    · exact customName_of_isCustomName (fun c hc => List.mem_takeWhile_imp hc) hname
    · rw [List.append_assoc ts.flatten, List.singleton_append] at hcs
      rw [hcs]
  · cases h

/-- A name and a body behind it are a tag, if the name ends where the body starts. -/
theorem tag?_of_body? {name cs body rest : List Char} (hname : CustomName name)
    (hstop : cs.head?.any isNameChar = false) (hbody : body? none cs = some (body, rest)) :
    tag? (name ++ cs) = some (name, body, rest) := by
  have hcustom := hname.isCustomName_append []
  rw [List.append_nil] at hcustom
  rw [tag?, takeWhile_append_stop _ hstop, dropWhile_append_stop _ hstop,
    List.takeWhile_eq_self_iff.mpr hname.isNameChar,
    List.dropWhile_eq_nil_iff.mpr hname.isNameChar, List.nil_append, hbody]
  exact if_pos hcustom

/-- A shape is found wherever its name was taken to end. -/
theorem TagShape.exists_tag? {cs name rest : List Char} {ts : List (List Char)}
    (h : TagShape ('<' :: cs) name ts rest) :
    ∃ name' body, tag? cs = some (name', body, rest) ∧
      name' ++ body = name ++ (ts.flatten ++ ['>']) := by
  obtain ⟨hname, hts, htext⟩ := h
  obtain rfl : cs = name ++ (ts.flatten ++ '>' :: rest) := (List.cons.inj htext).2
  set tail := ts.flatten ++ '>' :: rest with htail
  have htake : (name ++ tail).takeWhile isNameChar = name ++ tail.takeWhile isNameChar :=
    List.takeWhile_append_of_pos hname.isNameChar
  have hdrop : (name ++ tail).dropWhile isNameChar = tail.dropWhile isNameChar :=
    List.dropWhile_append_of_pos hname.isNameChar
  have hbody : body? none tail = some (ts.flatten ++ ['>'], rest) :=
    body?_eq_some_iff.mpr ⟨ts, hts, rfl, htail⟩
  -- the rest of the longest name is the start of the body
  rw [body?_takeWhile, Option.map_eq_some_iff] at hbody
  obtain ⟨⟨body, rest'⟩, hbody, heq⟩ := hbody
  obtain ⟨hfront, rfl⟩ := Prod.mk.inj heq
  refine ⟨name ++ tail.takeWhile isNameChar, body, ?_, ?_⟩
  · rw [tag?, htake, hdrop, if_pos (hname.isCustomName_append _), hbody]
    rfl
  · rw [List.append_assoc]
    exact congrArg (name ++ ·) hfront

/-! ### The scan -/

theorem tagMatches_of_ne {c : Char} (hc : c ≠ '<') (offset : Nat) (cs : List Char) :
    tagMatches offset (c :: cs) = tagMatches (offset + 1) cs := by
  rw [tagMatches, if_neg (by simpa using hc)]

theorem tagMatches_of_tag? {cs name body rest : List Char} (h : tag? cs = some (name, body, rest))
    (offset : Nat) :
    tagMatches offset ('<' :: cs) =
      ⟨offset, name, body⟩ :: tagMatches (offset + 1 + name.length + body.length) rest := by
  rw [tagMatches, if_pos (by simp)]
  split
  · next name' body' rest' h' =>
    rw [h'] at h
    obtain ⟨rfl, rfl, rfl⟩ : name' = name ∧ body' = body ∧ rest' = rest := by simpa using h
    rfl
  · next h' => rw [h'] at h; cases h

theorem tagMatches_of_none {cs : List Char} (h : tag? cs = none) (offset : Nat) :
    tagMatches offset ('<' :: cs) = tagMatches (offset + 1) cs := by
  rw [tagMatches, if_pos (by simp)]
  split
  · next h' => rw [h'] at h; cases h
  · rfl

/-- **Induction along the scan.** A text is empty, starts with a tag, or starts
with a character that is passed over. -/
theorem scan_induction {motive : Nat → List Char → Prop} (nil : ∀ offset, motive offset [])
    (tag : ∀ offset cs name body rest, tag? cs = some (name, body, rest) →
      motive (offset + 1 + name.length + body.length) rest → motive offset ('<' :: cs))
    (skip : ∀ offset c cs, (c = '<' → tag? cs = none) → motive (offset + 1) cs →
      motive offset (c :: cs)) (offset : Nat) (cs : List Char) : motive offset cs := by
  fun_induction tagMatches offset cs with
  | case1 offset => exact nil offset
  | case2 offset c cs hc name body rest h ih =>
    rw [beq_iff_eq.mp hc]
    exact tag offset cs name body rest h ih
  | case3 offset c cs hc h ih => exact skip offset c cs (fun _ => h) ih
  | case4 offset c cs hc ih => exact skip offset c cs (fun h => absurd h (by simpa using hc)) ih

theorem tagMatches_skip {c : Char} {cs : List Char} (h : c = '<' → tag? cs = none) (offset : Nat) :
    tagMatches offset (c :: cs) = tagMatches (offset + 1) cs := by
  by_cases hc : c = '<'
  · subst hc
    exact tagMatches_of_none (h rfl) offset
  · exact tagMatches_of_ne hc offset cs

/-- Text without a `<` is passed over. -/
theorem tagMatches_of_notMem {front : List Char} (hfront : '<' ∉ front) (offset : Nat)
    (cs : List Char) : tagMatches offset (front ++ cs) = tagMatches (offset + front.length) cs := by
  induction front generalizing offset with
  | nil => rfl
  | cons c front ih =>
    have hc : c ≠ '<' := fun h => hfront (h ▸ List.mem_cons_self)
    rw [List.cons_append, tagMatches_of_ne hc, ih fun h => hfront (List.mem_cons_of_mem _ h),
      List.length_cons, Nat.add_assoc, Nat.add_comm 1]

theorem TagMatch.length_text (m : TagMatch) :
    m.text.length = 1 + m.name.length + m.body.length := by
  simp only [TagMatch.text, List.length_cons, List.length_append]
  omega

/-- **What a match says about the text.** -/
theorem mem_tagMatches {offset : Nat} {cs : List Char} {m : TagMatch}
    (hm : m ∈ tagMatches offset cs) :
    ∃ before rest, cs = before ++ (m.text ++ rest) ∧ m.offset = offset + before.length ∧
      tag? (m.name ++ (m.body ++ rest)) = some (m.name, m.body, rest) := by
  induction offset, cs using scan_induction with
  | nil offset => simp [tagMatches] at hm
  | tag offset cs name body rest h ih =>
    have hcs := tag?_append h
    rw [tagMatches_of_tag? h] at hm
    rcases List.mem_cons.mp hm with rfl | hm
    · refine ⟨[], rest, ?_, by simp, ?_⟩
      · simp [TagMatch.text, hcs]
      · rw [hcs]; exact h
    · obtain ⟨before, rest', rfl, hoff, htag⟩ := ih hm
      refine ⟨'<' :: (name ++ (body ++ before)), rest', ?_, ?_, htag⟩
      · rw [← hcs]
        simp
      · rw [hoff]
        simp only [List.length_cons, List.length_append]
        omega
  | skip offset c cs h ih =>
    rw [tagMatches_skip h] at hm
    obtain ⟨before, rest, rfl, hoff, htag⟩ := ih hm
    refine ⟨c :: before, rest, by simp, ?_, htag⟩
    rw [hoff, List.length_cons]
    omega

theorem offset_le_of_mem_tagMatches {offset : Nat} {cs : List Char} {m : TagMatch}
    (hm : m ∈ tagMatches offset cs) : offset ≤ m.offset := by
  obtain ⟨before, -, -, hoff, -⟩ := mem_tagMatches hm
  omega

/-- **Matches stand in order and do not overlap.** -/
theorem pairwise_tagMatches (offset : Nat) (cs : List Char) :
    (tagMatches offset cs).Pairwise fun m n => m.offset + m.text.length ≤ n.offset := by
  induction offset, cs using scan_induction with
  | nil offset => simp [tagMatches]
  | tag offset cs name body rest h ih =>
    rw [tagMatches_of_tag? h, List.pairwise_cons]
    refine ⟨fun n hn => ?_, ih⟩
    have := offset_le_of_mem_tagMatches hn
    rw [TagMatch.length_text]
    change offset + (1 + name.length + body.length) ≤ n.offset
    omega
  | skip offset c cs h ih =>
    rw [tagMatches_skip h]
    exact ih

/-- Of two matches the one that starts first ends before the other starts. -/
theorem end_le_of_offset_lt {offset : Nat} {cs : List Char} {m n : TagMatch}
    (hm : m ∈ tagMatches offset cs) (hn : n ∈ tagMatches offset cs) (hlt : m.offset < n.offset) :
    m.offset + m.text.length ≤ n.offset := by
  let R : TagMatch → TagMatch → Prop := fun m n =>
    m.offset < n.offset → m.offset + m.text.length ≤ n.offset
  have hforth : (tagMatches offset cs).Pairwise R := by
    apply (pairwise_tagMatches offset cs).imp
    exact fun h _ => h
  have hback : (tagMatches offset cs).Pairwise (flip R) := by
    apply (pairwise_tagMatches offset cs).imp
    intro a b h (hgt : b.offset < a.offset)
    omega
  exact hforth.forall_of_forall_of_flip (fun _ _ h => absurd h (Nat.lt_irrefl _)) hback hm hn hlt

/-- **No tag is missed.** A tag that starts inside no earlier match is one of the
matches. -/
theorem exists_mem_tagMatches {offset i : Nat} {cs ds : List Char} (hdrop : cs.drop i = '<' :: ds)
    (hsome : (tag? ds).isSome)
    (hfree : ∀ m ∈ tagMatches offset cs, m.offset < offset + i →
      m.offset + m.text.length ≤ offset + i) :
    ∃ m ∈ tagMatches offset cs, m.offset = offset + i := by
  induction offset, cs using scan_induction generalizing i with
  | nil offset => simp at hdrop
  | tag offset cs name body rest h ih =>
    have hcs := tag?_append h
    rw [tagMatches_of_tag? h] at hfree ⊢
    cases i with
    | zero => exact ⟨_, List.mem_cons_self, rfl⟩
    | succ i =>
      -- the position is behind the first match, in the text that is left
      have hfirst := hfree _ List.mem_cons_self (by change offset < offset + (i + 1); omega)
      rw [TagMatch.length_text] at hfirst
      change offset + (1 + name.length + body.length) ≤ offset + (i + 1) at hfirst
      obtain ⟨j, hj⟩ : ∃ j, i = name.length + body.length + j :=
        ⟨i - (name.length + body.length), by omega⟩
      have hrest : rest.drop j = '<' :: ds := by
        rw [← hdrop, List.drop_succ_cons, ← hcs, hj, ← List.append_assoc, ← List.length_append,
          List.drop_append]
        simp
      have hoff : offset + 1 + name.length + body.length + j = offset + (i + 1) := by omega
      obtain ⟨m, hm, hmoff⟩ := ih hrest fun n hn hlt => by
        rw [hoff] at hlt ⊢
        exact hfree n (List.mem_cons_of_mem _ hn) hlt
      exact ⟨m, List.mem_cons_of_mem _ hm, hmoff.trans hoff⟩
  | skip offset c cs h ih =>
    rw [tagMatches_skip h] at hfree ⊢
    cases i with
    | zero =>
      obtain ⟨rfl, rfl⟩ := List.cons.inj hdrop
      rw [h rfl] at hsome
      cases hsome
    | succ i =>
      have hoff : offset + 1 + i = offset + (i + 1) := by omega
      obtain ⟨m, hm, hmoff⟩ := ih hdrop fun n hn hlt => by
        rw [hoff] at hlt ⊢
        exact hfree n hn hlt
      exact ⟨m, hm, hmoff.trans hoff⟩

/-! ### The end of a tag -/

/-- Place `k` of the text of the tokens `ts` lies in a quoted string or in a
brace group, the enclosing characters included. -/
def InEnclosed (ts : List (List Char)) (k : Nat) : Prop :=
  ∃ before opener inner close after,
    ts = before ++ (opener :: (inner ++ [close])) :: after ∧ Encloses opener close ∧
      before.flatten.length ≤ k ∧ k < before.flatten.length + inner.length + 2

theorem InEnclosed.lt_length {ts : List (List Char)} {k : Nat} (h : InEnclosed ts k) :
    k < ts.flatten.length := by
  obtain ⟨before, opener, inner, close, after, rfl, -, -, hk⟩ := h
  simp only [List.flatten_append, List.flatten_cons, List.length_append, List.length_cons,
    List.length_nil]
  omega

theorem InEnclosed.cons {ts : List (List Char)} {k : Nat} (h : InEnclosed ts k) (t : List Char) :
    InEnclosed (t :: ts) (t.length + k) := by
  obtain ⟨before, opener, inner, close, after, rfl, hpair, hlow, hhigh⟩ := h
  refine ⟨t :: before, opener, inner, close, after, rfl, hpair, ?_, ?_⟩ <;>
    rw [List.flatten_cons, List.length_append] <;> omega

/-- A `>` among the tokens of a body is enclosed. -/
theorem inEnclosed_of_getElem? {ts : List (List Char)} (hts : ∀ t ∈ ts, BodyToken t) {k : Nat}
    (hk : ts.flatten[k]? = some '>') : InEnclosed ts k := by
  induction ts generalizing k with
  | nil => simp at hk
  | cons t ts ih =>
    rw [List.flatten_cons, List.getElem?_append] at hk
    split at hk
    · next hlt =>
      cases hts t List.mem_cons_self with
      | single hend hopen =>
        obtain rfl : k = 0 := by simpa using hlt
        exact absurd (by simpa using hk) hend
      | @enclosed opener close inner hpair hinner =>
        refine ⟨[], opener, inner, close, ts, rfl, hpair, Nat.zero_le _, ?_⟩
        rw [List.length_cons, List.length_append, List.length_singleton] at hlt
        rw [List.flatten_nil, List.length_nil]
        omega
    · next hle =>
      have h := (ih (fun u hu => hts u (List.mem_cons_of_mem _ hu)) hk).cons t
      rwa [Nat.add_sub_cancel' (Nat.le_of_not_lt hle)] at h

/-- The `>` at the end of a body is its only one outside strings and groups. -/
theorem not_inEnclosed_iff {ts : List (List Char)} (hts : ∀ t ∈ ts, BodyToken t) {k : Nat}
    (hk : (ts.flatten ++ ['>'])[k]? = some '>') :
    ¬ InEnclosed ts k ↔ k = ts.flatten.length := by
  constructor
  · intro hout
    have hle : ¬ k < ts.flatten.length := by
      intro hlt
      rw [List.getElem?_append_left hlt] at hk
      exact hout (inEnclosed_of_getElem? hts hk)
    have hlt := (List.getElem?_eq_some_iff.mp hk).1
    rw [List.length_append, List.length_singleton] at hlt
    omega
  · rintro rfl hin
    exact absurd hin.lt_length (Nat.lt_irrefl _)

/-! ### Matches and their readings -/

/-- A match of the text `cs` as the grammar reads it: its body consists of the
tokens `ts`, and `rest` stands behind it. -/
structure TagMatch.Reads (m : TagMatch) (cs : List Char) (ts : List (List Char))
    (rest : List Char) : Prop where
  /-- The match has the shape of a tag. -/
  shape : TagShape (cs.drop m.offset) m.name ts rest
  /-- The body of the match are its tokens and the `>` that ends it. -/
  body_eq : m.body = ts.flatten ++ ['>']
  /-- The name is the longest run of name characters. -/
  longest : m.name = (cs.drop (m.offset + 1)).takeWhile isNameChar
  /-- Every other reading ends at the same place, and the tokens behind a name
  are unique. -/
  unique : ∀ name ts' rest', TagShape (cs.drop m.offset) name ts' rest' →
    rest' = rest ∧ (name = m.name → ts' = ts)
  /-- The match ends at its first `>` outside strings and groups. -/
  ends_first : ∀ k, m.body[k]? = some '>' → (¬ InEnclosed ts k ↔ k + 1 = m.body.length)

theorem exists_reads {cs : List Char} {m : TagMatch} (hm : m ∈ tagMatches 0 cs) :
    ∃ ts rest, m.Reads cs ts rest := by
  obtain ⟨before, rest, rfl, hoff, htag⟩ := mem_tagMatches hm
  obtain ⟨ts, hshape, hbody, hname⟩ := tagShape_of_tag? htag
  have hdrop : (before ++ (m.text ++ rest)).drop m.offset =
      '<' :: (m.name ++ (m.body ++ rest)) := by
    rw [hoff, Nat.zero_add, List.drop_left]
    simp [TagMatch.text]
  refine ⟨ts, rest, ?_, hbody, ?_, ?_, ?_⟩
  · rw [hdrop]
    exact hshape
  · rw [← List.drop_drop, hdrop]
    exact hname
  · rintro name ts' rest' hshape'
    rw [hdrop] at hshape'
    obtain ⟨name', body', htag', -⟩ := hshape'.exists_tag?
    rw [htag] at htag'
    refine ⟨by simpa using (congrArg (·.map (·.2.2)) htag').symm, ?_⟩
    rintro rfl
    have htext := hshape.text_eq.symm.trans hshape'.text_eq
    exact (tokens_unique hshape'.tokens_ok hshape.tokens_ok
      (List.append_cancel_left (List.cons.inj htext).2).symm).1
  · intro k hk
    rw [hbody] at hk ⊢
    rw [not_inEnclosed_iff hshape.tokens_ok hk, List.length_append, List.length_singleton,
      Nat.add_right_cancel_iff]

end MarkupAssist.Markup

namespace MarkupAssist

open Text Markup

/-- **The scan accepts exactly the grammar of custom tags.** A tag is found at
every place where the grammar allows one, unless an earlier match covers the
place, and nowhere else; each match has one reading by the grammar; and the
occurrences of a document are its matches with known names, in order. -/
theorem occurrences_follow_grammar (doc : Document) (catalogue : Catalogue) :
    (∀ i, (∃ m ∈ tagMatches 0 doc.chars, m.offset = i) ↔
      (∀ m ∈ tagMatches 0 doc.chars, m.offset < i → m.offset + m.text.length ≤ i) ∧
        ∃ name ts rest, TagShape (doc.chars.drop i) name ts rest) ∧
    (∀ m ∈ tagMatches 0 doc.chars, ∃ ts rest, m.Reads doc.chars ts rest) ∧
    ((tagMatches 0 doc.chars).Pairwise fun m n => m.offset + m.text.length ≤ n.offset) ∧
    (doc.occurrences catalogue).map (fun o => (o.name, o.rawText, o.range)) =
      ((tagMatches 0 doc.chars).filter fun m => catalogue.isKnown (String.ofList m.name)).map
        fun m => (String.ofList m.name, String.ofList m.text,
          doc.rangeBetween m.offset (m.offset + m.text.length)) := by
  refine ⟨fun i => ⟨?_, ?_⟩, fun m hm => exists_reads hm, pairwise_tagMatches 0 doc.chars, ?_⟩
  · rintro ⟨m, hm, rfl⟩
    refine ⟨fun n hn hlt => ?_, ?_⟩
    · exact end_le_of_offset_lt hn hm hlt
    · obtain ⟨ts, rest, hreads⟩ := exists_reads hm
      exact ⟨m.name, ts, rest, hreads.shape⟩
  · rintro ⟨hfree, name, ts, rest, hshape⟩
    have hdrop := hshape.text_eq
    rw [hdrop] at hshape
    obtain ⟨name', body, htag, -⟩ := hshape.exists_tag?
    have hfree' : ∀ m ∈ tagMatches 0 doc.chars, m.offset < 0 + i →
        m.offset + m.text.length ≤ 0 + i := by simpa using hfree
    simpa using exists_mem_tagMatches hdrop (by rw [htag]; rfl) hfree'
  · rw [Document.occurrences, List.map_map]
    rfl

end MarkupAssist
