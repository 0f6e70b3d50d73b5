import MarkupAssist.Entries

/-!
# Element definitions

What is known about a custom element: its documentation, the elements that belong inside it, and
its attributes in order of declaration. An attribute has a type and may list its values, either as
options to choose from or, for a value that is composed of words, as one definition per word
(`ValueSet.slots`).
-/

namespace MarkupAssist

/-- The type of an attribute. A type that is not known is kept by its name. -/
inductive AttributeType where
  | flag
  | method
  | boolean
  | string
  | number
  | other (name : String)
  deriving DecidableEq, Repr, Inhabited

namespace AttributeType

/-- The name of a type. -/
def name : AttributeType → String
  | flag => "flag"
  | method => "method"
  | boolean => "boolean"
  | string => "string"
  | number => "number"
  | other name => name

/-- The type with a given name. -/
def ofName (name : String) : AttributeType :=
  if name = "flag" then flag
  else if name = "method" then method
  else if name = "boolean" then boolean
  else if name = "string" then string
  else if name = "number" then number
  else other name

theorem name_ofName (s : String) : (ofName s).name = s := by
  simp only [ofName]
  repeat' split
  all_goals simp_all [name]

end AttributeType

/-- The values an attribute lists: options with their descriptions, or one definition for each word
of a composed value. -/
inductive ValueSet (α : Type) where
  | options (entries : List (String × Option String))
  | slots (entries : List (String × α))
  deriving Repr

/-- The definition of an attribute. -/
structure Attribute where
  description : Option String := none
  isRequired : Bool := false
  type : AttributeType := .string
  default : Option String := none
  multiValues : Bool := false
  values : Option (ValueSet Attribute) := none
  deriving Repr, Inhabited

namespace Attribute

/-- The options to choose from, if the attribute lists any. -/
def options? (attr : Attribute) : Option (Entries (Option String)) :=
  match attr.values with
  | some (.options entries) => some entries
  | _ => none

/-- The words of a composed value, if the attribute has one. -/
def slots? (attr : Attribute) : Option (Entries Attribute) :=
  match attr.values with
  | some (.slots entries) => some entries
  | _ => none

/-- Whether the attribute is an event handler. -/
def isMethod (attr : Attribute) : Bool :=
  attr.type == .method

end Attribute

/-- The definition of an element. -/
structure Element where
  title : String := ""
  description : String := ""
  docLink : String := ""
  category : String := ""
  subtags : List String := []
  defaults : List String := []
  attributes : Entries Attribute := []
  deriving Repr, Inhabited

namespace Element

/-- The required attributes in order of declaration. -/
def required (element : Element) : Entries Attribute :=
  element.attributes.filter fun e => e.2.isRequired

/-- The names of the required attributes in order of declaration. -/
def requiredNames (element : Element) : List String :=
  element.required.names

end Element

end MarkupAssist
