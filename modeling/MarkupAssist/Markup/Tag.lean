import MarkupAssist.Text.Word

/-!
# Tags of custom elements

A custom tag is a `<`, a name that starts with a Latin letter and has a hyphen, a body and a `>`.
The body is a sequence of quoted strings, brace groups and other characters; the `>` that ends the
tag is the first one outside strings and groups. `tagMatches` finds the custom tags of a text from
left to right; a `<` that starts no custom tag is passed over, and what lies behind it is searched
as well, also the text of a string that has no end.
-/

namespace MarkupAssist.Markup

open Text

/-- A custom tag in a text. Its text is `<`, the name and the body, which ends with the `>`. -/
structure TagMatch where
  /-- The number of characters before the tag. -/
  offset : Nat
  name : List Char
  body : List Char
  deriving DecidableEq, Repr

/-- The text of a tag. -/
def TagMatch.text (m : TagMatch) : List Char :=
  '<' :: (m.name ++ m.body)

/-- Whether a run of name characters is the name of a custom element. -/
def isCustomName (name : List Char) : Bool :=
  name.head?.any Char.isAlpha && name.contains '-'

/-- The character that closes what `c` opens in the body of a tag. -/
def closer? (c : Char) : Option Char :=
  if c == '"' then some '"' else if c == '\'' then some '\'' else if c == '\x7b' then some '\x7d'
  else none

/-- The body at the start of a text and the text behind it. The first argument is the character that
ends the string or group the text starts in. -/
def body? : Option Char → List Char → Option (List Char × List Char)
  | _, [] => none
  | none, c :: cs =>
    if c == '>' then some ([c], cs)
    else (body? (closer? c) cs).map fun (body, rest) => (c :: body, rest)
  | some close, c :: cs =>
    (body? (if c == close then none else some close) cs).map fun (body, rest) => (c :: body, rest)

/-- The name and the body of the custom tag whose `<` stands in front of a text, and the text behind
the tag. -/
def tag? (cs : List Char) : Option (List Char × List Char × List Char) :=
  let name := cs.takeWhile isNameChar
  if isCustomName name then
    (body? none (cs.dropWhile isNameChar)).map fun (body, rest) => (name, body, rest)
  else none

theorem body?_append {opened : Option Char} {cs body rest : List Char}
    (h : body? opened cs = some (body, rest)) : body ++ rest = cs := by
  induction cs generalizing opened body with
  | nil => simp [body?] at h
  | cons c cs ih =>
    cases opened with
    | none =>
      rw [body?] at h
      split at h
      · simp only [Option.some.injEq, Prod.mk.injEq] at h
        obtain ⟨rfl, rfl⟩ := h
        rfl
      · simp only [Option.map_eq_some_iff, Prod.exists, Prod.mk.injEq] at h
        obtain ⟨b, r, hb, rfl, rfl⟩ := h
        simp [ih hb]
    | some close =>
      simp only [body?, Option.map_eq_some_iff, Prod.exists, Prod.mk.injEq] at h
      obtain ⟨b, r, hb, rfl, rfl⟩ := h
      simp [ih hb]

/-- A tag and the text behind it are the text it was found in. -/
theorem tag?_append {cs name body rest : List Char} (h : tag? cs = some (name, body, rest)) :
    name ++ (body ++ rest) = cs := by
  simp only [tag?] at h
  split at h
  · simp only [Option.map_eq_some_iff, Prod.exists, Prod.mk.injEq] at h
    obtain ⟨b, r, hb, rfl, rfl, rfl⟩ := h
    rw [body?_append hb, List.takeWhile_append_dropWhile]
  · simp at h

theorem tag?_length {cs name body rest : List Char} (h : tag? cs = some (name, body, rest)) :
    rest.length ≤ cs.length := by
  rw [← tag?_append h]
  simp only [List.length_append]
  omega

/-- The custom tags of a text that stands behind `offset` other characters. -/
def tagMatches (offset : Nat) : List Char → List TagMatch
  | [] => []
  | c :: cs =>
    if c == '<' then
      match _h : tag? cs with
      | some (name, body, rest) =>
        ⟨offset, name, body⟩ :: tagMatches (offset + 1 + name.length + body.length) rest
      | none => tagMatches (offset + 1) cs
    else tagMatches (offset + 1) cs
termination_by cs => cs.length
decreasing_by
  · have := tag?_length _h
    simp only [List.length_cons]
    omega
  · simp
  · simp

end MarkupAssist.Markup
