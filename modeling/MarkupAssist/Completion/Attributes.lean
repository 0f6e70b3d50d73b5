import MarkupAssist.Completion.Item
import MarkupAssist.Document
import MarkupAssist.Schema.Catalogue
import MarkupAssist.Settings
import MarkupAssist.Text.LowerCase
import MarkupAssist.Text.Split

/-!
# Completing attribute names

The attributes of an element are offered by the token before the cursor. A mark in front of it
chooses between methods (`@`) and other attributes (`:`), and its first letter must be the first
letter of the attribute's name, in upper or lower case.
-/

namespace MarkupAssist

open Text

/-- What the mark in front of a token asks for. -/
inductive Binding where
  | event
  | value
  | none
  deriving DecidableEq, Repr

namespace Binding

/-- The binding that a token asks for. -/
def ofToken (token : List Char) : Binding :=
  match token.head? with
  | some '@' => event
  | some ':' => value
  | _ => none

/-- Whether an attribute can be bound so. -/
def accepts (binding : Binding) (attr : Attribute) : Bool :=
  match binding with
  | event => attr.isMethod
  | value => !attr.isMethod
  | none => true

end Binding

namespace Completion

/-- A text without the quoted string at its end. -/
def dropQuotedTail (cs : List Char) : List Char :=
  if cs.getLast?.any isQuote then
    match splitLast? isQuote cs.dropLast with
    | some (before, _) => before
    | none => cs
  else cs

/-- The token at the end of a text: what stands behind its last blank or parenthesis. -/
def lastToken (cs : List Char) : List Char :=
  takeEndWhile (fun c => !(isBlank c || c == '(')) cs

/-- Whether `c` is a mark of a binding. -/
def isBindingMark (c : Char) : Bool := c == ':' || c == '@'

/-- The typed part of an attribute name: the token without its first mark. -/
def typedName (token : List Char) : List Char :=
  token.eraseP isBindingMark

/-- Whether a typed name may start with `c`. -/
def startsTypedName (c : Char) : Bool :=
  isBindingMark c || ('A' ≤ c && c ≤ 'z')

/-- Whether a name is offered for what has been typed of it. -/
def matchesTyped (typed : List Char) (name : String) : Bool :=
  match typed.head?, name.toList.head? with
  | none, _ => true
  | some c, some d => startsTypedName c && lowerCase d == lowerCase c
  | some _, none => false

/-- The detail shown with every attribute. -/
def attributeDetail : String := "Flow Design Vue"

/-- The documentation shown with an attribute. -/
def attributeDocumentation (attr : Attribute) : String :=
  attr.description.getD "" ++ "\ntype: " ++ attr.type.name ++
    (attr.default.map fun default => "\ndefault: " ++ default).getD ""

/-- The item of an attribute: a flag is inserted alone, any other attribute with a value to fill
in. -/
def attributeItem (settings : Settings) (entry : String × Attribute) : CompletionItem :=
  let (name, attr) := entry
  let quote := settings.quotes.char.toString
  { CompletionItem.ofLabel name (if attr.isMethod then .method else .attribute) with
    detail := some attributeDetail
    documentation := some (attributeDocumentation attr)
    insertText :=
      if attr.type == .flag then name ++ " " else name ++ "=" ++ quote ++ "$1" ++ quote ++ "$0"
    isSnippet := attr.type != .flag }

end Completion

open Completion

/-- The attributes of a tag that are offered at a position. -/
def Catalogue.completeAttributes (catalogue : Catalogue) (doc : Document) (position : Position)
    (tag : String) (settings : Settings) : List CompletionItem :=
  match catalogue.element? tag with
  | none => []
  | some element =>
    let token := lastToken (dropQuotedTail (doc.textBefore position))
    let binding := Binding.ofToken token
    ((element.attributes.filter fun e => matchesTyped (typedName token) e.1).filter fun e =>
      binding.accepts e.2).map (attributeItem settings)

end MarkupAssist
