import MarkupAssist.Domain.Label

/-!
# Domain names

`ascii?` brings a domain name into the form in which names are compared and sent: folded, composed,
and every label in ASCII. It fails on a name that has a character no name has, or a label that is
not well formed. Empty labels are kept.
-/

namespace MarkupAssist.Domain

open Text

/-- The labels of a name. -/
def labels (name : List Char) : List (List Char) :=
  pieces (· == '.') name

/-- A domain name in ASCII. -/
def ascii? (name : List Char) : Option (List Char) := do
  let folded ← name.mapM fold?
  let composed := compose folded.flatten
  let labels ← if composed.any isRefused then none else (labels composed).mapM label?
  if labels.all isWellFormed && (!labels.any hasFromRight || labels.all isOneWay) then
    some (List.intercalate ['.'] (labels.map written))
  else none

end MarkupAssist.Domain
