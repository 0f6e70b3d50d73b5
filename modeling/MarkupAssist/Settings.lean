import MarkupAssist.Json.Decode

/-!
# Snippet settings

How generated snippets look: the number of blanks a nesting level is indented by, and the quotation
mark around attribute values. Settings are read from JSON under several spellings of the indent.
-/

namespace MarkupAssist

/-- The quotation mark around attribute values. -/
inductive QuoteStyle where
  | single
  | double
  deriving DecidableEq, Repr, Inhabited

namespace QuoteStyle

/-- The quotation mark itself. -/
def char : QuoteStyle → Char
  | single => '\''
  | double => '"'

/-- The name under which a style is written. -/
def name : QuoteStyle → String
  | single => "single"
  | double => "double"

/-- The style with a given name. -/
def ofName? (name : String) : Option QuoteStyle :=
  if name = "single" then some single else if name = "double" then some double else none

end QuoteStyle

/-- How snippets are written. -/
structure Settings where
  indentSize : UInt64 := 2
  quotes : QuoteStyle := .double
  deriving DecidableEq, Repr, Inhabited

namespace Settings

/-- The key under which the indent is written. -/
def indentKey : String := "indent-size"

/-- The key under which the quotes are written. -/
def quotesKey : String := "quotes"

/-- Other spellings of `indentKey`. -/
def indentAliases : List String := ["indentSize", "indent_size"]

/-- Settings from JSON; a missing field has its default. -/
def decode? (value : Json) : Option Settings := do
  let [indent, quotes] ← value.fields? [indentKey :: indentAliases, [quotesKey]] | none
  return {
    indentSize := ← Json.withDefault? 2 Json.word? indent
    quotes := ← Json.withDefault? .double (Json.constant? QuoteStyle.ofName?) quotes }

/-- Settings as JSON. -/
def encode (settings : Settings) : Json :=
  Json.record
    [(indentKey, .ofNat settings.indentSize.toNat), (quotesKey, .text settings.quotes.name)]

end Settings

end MarkupAssist
