import MarkupAssist.Position

/-!
# Completion items

What is offered at a position. An item inserts its label unless it says otherwise, and sorts by a
key that puts it in front of items from elsewhere.
-/

namespace MarkupAssist

/-- What an item completes. -/
inductive CompletionKind where
  | element
  | attribute
  | method
  | value
  deriving DecidableEq, Repr, Inhabited

/-- The name of a kind. -/
def CompletionKind.name : CompletionKind → String
  | .element => "element"
  | .attribute => "attribute"
  | .method => "method"
  | .value => "value"

/-- The kind with a given name. -/
def CompletionKind.ofName? (name : String) : Option CompletionKind :=
  [CompletionKind.element, .attribute, .method, .value].find? fun k => k.name == name

/-- An offer to complete the text at a position. -/
structure CompletionItem where
  label : String
  kind : CompletionKind
  insertText : String
  /-- Whether the inserted text has tab stops. -/
  isSnippet : Bool := false
  detail : Option String := none
  documentation : Option String := none
  /-- The key by which items are sorted. -/
  sortText : String
  /-- The text that the item replaces; without it, the word at the position. -/
  replaceRange : Option Range := none
  deriving DecidableEq, Repr

/-- What the sort keys start with. -/
def CompletionItem.sortPrefix : String := "-000000000000"

/-- An item that inserts its label. -/
def CompletionItem.ofLabel (label : String) (kind : CompletionKind) : CompletionItem :=
  { label := label
    kind := kind
    insertText := label
    sortText := sortPrefix ++ label }

end MarkupAssist
