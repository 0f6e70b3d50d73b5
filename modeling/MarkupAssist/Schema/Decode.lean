import MarkupAssist.Json.Decode
import MarkupAssist.Json.NumberText
import MarkupAssist.Json.Reader
import MarkupAssist.Schema.Basic

/-!
# Element definitions from JSON

A schema source is an object from tag names to element definitions. The values of an attribute are
written as a dictionary of attributes in both of its readings; `multiValues` decides whether they
are the words of a composed value or options, of which only the description is kept.

Definitions nest through the values of attributes. A source may be `Json.nestingLimit` containers
deep where it is decoded, and as deep as it likes where it is not looked at.
-/

namespace MarkupAssist

/-- How many containers may be open at once in the decoded part of a source. -/
def Json.nestingLimit : Nat := 127

namespace Attribute

/-- The text of a default value: a string, a number or a truth value. -/
def decodeDefault? : Json → Option String
  | .string text => text
  | .number literal => literal.text?
  | .bool true => some "true"
  | .bool false => some "false"
  | _ => none

/-- The reading of an attribute's values. -/
def valueSet (multiValues : Bool) (entries : Entries Attribute) : ValueSet Attribute :=
  if multiValues then .slots entries
  else .options (entries.map fun e => (e.1, e.2.description))

/-- An attribute, given how to decode the dictionary of its values. -/
def decodeWith? (decodeValues : Json → Option (Entries Attribute)) (value : Json) :
    Option Attribute := do
  let [description, isRequired, type, default, multiValues, values] ← value.fields?
    [["description"], ["isRequired"], ["type"], ["default"], ["multiValues"], ["values"]] | none
  let multiValues ← Json.withDefault? false Json.bool? multiValues
  let entries ← Json.optionalField? decodeValues values
  return {
    description := ← Json.optionalField? Json.text? description
    isRequired := ← Json.withDefault? false Json.bool? isRequired
    type := ← Json.withDefault? .string (fun t => t.text?.map AttributeType.ofName) type
    default := ← Json.optionalField? decodeDefault? default
    multiValues := multiValues
    values := entries.map (valueSet multiValues) }

/-- An attribute that may open at most `levels` containers, itself included. -/
def decode? : Nat → Json → Option Attribute
  | 0, _ => none
  | 1, value => decodeWith? (fun _ => none) value
  | levels + 2, value => decodeWith? (Json.entries? (decode? levels)) value

end Attribute

namespace Element

/-- An element whose attributes may open at most `levels` containers each. -/
def decode? (levels : Nat) (value : Json) : Option Element := do
  let [title, description, docLink, category, subtags, defaults, attributes] ← value.fields?
    [["title"], ["description"], ["docLink"], ["category"], ["subtags"], ["defaults"],
     ["attributes"]] | none
  return {
    title := ← Json.withDefault? "" Json.text? title
    description := ← Json.withDefault? "" Json.text? description
    docLink := ← Json.withDefault? "" Json.text? docLink
    category := ← Json.withDefault? "" Json.text? category
    subtags := ← Json.withDefault? [] (Json.list? Json.text?) subtags
    defaults := ← Json.withDefault? [] (Json.list? Json.text?) defaults
    attributes := ← Json.withDefault? [] (Json.entries? (Attribute.decode? levels)) attributes }

/-- The elements of a source. Three containers stand around an attribute. -/
def decodeSource? (text : String) : Option (Entries Element) := do
  (← Json.parse? text).entries? (decode? (Json.nestingLimit - 3))

end Element

end MarkupAssist
