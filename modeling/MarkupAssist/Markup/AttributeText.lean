import MarkupAssist.Text.Split

/-!
# Attributes in the body of a tag

An attribute is a run of name characters (anything but blanks and the punctuation of markup),
perhaps followed by an equals sign and a value. A value stands in quotes or braces, or runs up to
the next blank, quote or `>`. Blanks may stand around the equals sign. `attributeMatches` finds the
attributes of a body from left to right and passes over what is no attribute.
-/

namespace MarkupAssist.Markup

open Text

/-- An attribute in the body of a tag. -/
structure AttributeMatch where
  /-- The number of characters of the body before the attribute. -/
  offset : Nat
  /-- The name as it is written. -/
  name : List Char
  /-- The whole text of the attribute. -/
  text : List Char
  /-- The value without its quotes or braces. -/
  value : Option (List Char)
  deriving DecidableEq, Repr

/-- Whether `c` may stand in the name of an attribute. -/
def isAttributeChar (c : Char) : Bool :=
  !(isBlank c || c == '=' || c == '<' || c == '>' || c == '"' || c == '\'' || c == '/' ||
    c == '\x7b' || c == '\x7d')

/-- Whether `c` may stand in a value without quotes. -/
def isBareValueChar (c : Char) : Bool :=
  !(isBlank c || c == '>' || c == '"' || c == '\'')

/-- The text up to the character `close`, and the text behind it. -/
def delimited? (close : Char) (cs : List Char) : Option (List Char × List Char) :=
  match splitFirst? (· == close) cs with
  | some (value, _ :: rest) => some (value, rest)
  | _ => none

/-- A value without quotes at the start of a text, and the text behind it. -/
def bareValue? (cs : List Char) : Option (List Char × List Char) :=
  let value := cs.takeWhile isBareValueChar
  if value.isEmpty then none else some (value, cs.dropWhile isBareValueChar)

/-- The value at the start of a text, and the text behind it. A brace that is not closed belongs to
a value without quotes. -/
def value? (cs : List Char) : Option (List Char × List Char) :=
  match cs with
  | '"' :: rest => delimited? '"' rest
  | '\'' :: rest => delimited? '\'' rest
  | '\x7b' :: rest => (delimited? '\x7d' rest).or (bareValue? cs)
  | _ => bareValue? cs

/-- The value behind an attribute name, and the text behind the value. -/
def assigned? (cs : List Char) : Option (List Char × List Char) :=
  match cs.dropWhile isBlank with
  | '=' :: rest => value? (rest.dropWhile isBlank)
  | _ => none

theorem delimited?_length {close : Char} {cs value rest : List Char}
    (h : delimited? close cs = some (value, rest)) : rest.length < cs.length := by
  unfold delimited? at h
  split at h
  · next b a r hs =>
    simp only [Option.some.injEq, Prod.mk.injEq] at h
    rw [← splitFirst?_append hs, ← h.2]
    simp only [List.length_append, List.length_cons]
    omega
  · simp at h

theorem dropWhile_length {α : Type} (p : α → Bool) (xs : List α) :
    (xs.dropWhile p).length ≤ xs.length :=
  (List.dropWhile_sublist p).length_le

theorem bareValue?_length {cs value rest : List Char}
    (h : bareValue? cs = some (value, rest)) : rest.length ≤ cs.length := by
  simp only [bareValue?] at h
  split at h
  · simp at h
  · simp only [Option.some.injEq, Prod.mk.injEq] at h
    rw [← h.2]
    exact dropWhile_length _ _

theorem value?_length {cs value rest : List Char} (h : value? cs = some (value, rest)) :
    rest.length ≤ cs.length := by
  unfold value? at h
  split at h
  · have := delimited?_length h
    simp only [List.length_cons]
    omega
  · have := delimited?_length h
    simp only [List.length_cons]
    omega
  · rcases Option.or_eq_some_iff.1 h with h | ⟨-, h⟩
    · have := delimited?_length h
      simp only [List.length_cons]
      omega
    · exact bareValue?_length h
  · exact bareValue?_length h

theorem assigned?_length {cs value rest : List Char} (h : assigned? cs = some (value, rest)) :
    rest.length ≤ cs.length := by
  unfold assigned? at h
  split at h
  · next r hr =>
    have h1 := value?_length h
    have h2 := dropWhile_length isBlank r
    have h3 := dropWhile_length isBlank cs
    rw [hr, List.length_cons] at h3
    omega
  · simp at h

/-- The attributes of a body, or of the part of it that stands behind `offset` characters. -/
def attributeMatches (offset : Nat) : List Char → List AttributeMatch
  | [] => []
  | c :: cs =>
    if isAttributeChar c then
      let name := c :: cs.takeWhile isAttributeChar
      match _h : assigned? (cs.dropWhile isAttributeChar) with
      | some (value, rest) =>
        let size := cs.length + 1 - rest.length
        ⟨offset, name, (c :: cs).take size, some value⟩ :: attributeMatches (offset + size) rest
      | none =>
        ⟨offset, name, name, none⟩ ::
          attributeMatches (offset + name.length) (cs.dropWhile isAttributeChar)
    else attributeMatches (offset + 1) cs
termination_by cs => cs.length
decreasing_by
  · have h1 := assigned?_length _h
    have h2 := dropWhile_length isAttributeChar cs
    simp only [List.length_cons]
    omega
  · have h2 := dropWhile_length isAttributeChar cs
    simp only [List.length_cons]
    omega
  · simp

end MarkupAssist.Markup
