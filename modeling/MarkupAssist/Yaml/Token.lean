/-!
# Tokens of YAML

The words that a YAML text consists of. Besides what is written they include the starts and ends of
the collections that are only shown by indentation.
-/

namespace MarkupAssist.Yaml

/-- How a scalar is written. -/
inductive Style where
  | plain
  | quoted
  | literal
  | folded
  deriving DecidableEq, Repr

/-- The two parts of a tag as it is written. -/
structure TagName where
  handle : List Char
  suffix : List Char
  deriving DecidableEq, Repr

/-- A word of a YAML text. -/
inductive Token where
  | version (major minor : Nat)
  | tagHandle (handle expansion : List Char)
  | documentStart
  | documentEnd
  | sequenceStart
  | mappingStart
  | blockEnd
  | openBracket
  | closeBracket
  | openBrace
  | closeBrace
  | entry
  | comma
  | key
  | value
  | alias (name : List Char)
  | anchor (name : List Char)
  | tag (name : TagName)
  | scalar (style : Style) (text : List Char)
  deriving DecidableEq, Repr

end MarkupAssist.Yaml
