import MarkupAssist.Schema.Decode

/-!
# The catalogue of elements

The known elements in order. A catalogue is loaded from named sources, which may refer to each
other in any order: first all sources are added (`Catalogue.addSource`), then the references of all
elements are checked (`Catalogue.checkReferences`). The first fault found is the error:

* a source that does not decode, or a tag that an earlier source defines;
* only when every source could be added, a default attribute that its element does not declare, or
  a subtag that no source defines, element by element and defaults before subtags.
-/

namespace MarkupAssist

/-- Why sources are refused. -/
inductive LoadError where
  | parse (file : String)
  | duplicateElement (tag : String)
  | unknownDefault (element name : String)
  | unknownSubtag (element subtag : String)
  deriving DecidableEq, Repr

/-- The error in words. -/
def LoadError.message : LoadError → String
  | parse file => "Failed to parse " ++ file
  | duplicateElement tag => "Element " ++ tag ++ " is defined more than once"
  | unknownDefault element name =>
    "Element " ++ element ++ " lists default attribute " ++ name ++
      " which it does not declare"
  | unknownSubtag element subtag => "Element " ++ element ++ " lists unknown subtag " ++ subtag

/-- The known elements in order. -/
structure Catalogue where
  elements : Entries Element := []
  deriving Repr, Inhabited

namespace Catalogue

/-- The definition of a tag. -/
def element? (catalogue : Catalogue) (tag : String) : Option Element :=
  catalogue.elements.get? tag

/-- Whether a tag is defined. -/
def isKnown (catalogue : Catalogue) (tag : String) : Bool :=
  catalogue.elements.has tag

/-- The definition of an attribute of a tag. -/
def attribute? (catalogue : Catalogue) (tag name : String) : Option Attribute :=
  (catalogue.element? tag).bind fun element => element.attributes.get? name

/-- Add an element whose tag is new. -/
def addElement (catalogue : Catalogue) (entry : String × Element) :
    Except LoadError Catalogue :=
  if catalogue.isKnown entry.1 then .error (.duplicateElement entry.1)
  else .ok ⟨catalogue.elements ++ [entry]⟩

/-- Add the elements of a source, given by its file name and its text. -/
def addSource (decode : String → Option (Entries Element)) (catalogue : Catalogue)
    (source : String × String) : Except LoadError Catalogue :=
  match decode source.2 with
  | none => .error (.parse source.1)
  | some entries => entries.foldlM addElement catalogue

/-- The first reference of an element that leads nowhere. -/
def brokenReference? (catalogue : Catalogue) (entry : String × Element) : Option LoadError :=
  match entry.2.defaults.find? fun name => !entry.2.attributes.has name with
  | some name => some (.unknownDefault entry.1 name)
  | none =>
    (entry.2.subtags.find? fun tag => !catalogue.isKnown tag).map (.unknownSubtag entry.1)

/-- The catalogue, if all references of its elements lead somewhere. -/
def checkReferences (catalogue : Catalogue) : Except LoadError Catalogue :=
  match catalogue.elements.findSome? catalogue.brokenReference? with
  | some error => .error error
  | none => .ok catalogue

/-- The catalogue of a list of sources, given how one source is decoded. -/
def loadWith (decode : String → Option (Entries Element)) (sources : List (String × String)) :
    Except LoadError Catalogue := do
  (← sources.foldlM (addSource decode) {}).checkReferences

/-- The catalogue of a list of sources, each a file name and a JSON text. -/
def load (sources : List (String × String)) : Except LoadError Catalogue :=
  loadWith Element.decodeSource? sources

/-- The catalogue of a single source without a file. -/
def ofJson (text : String) : Except LoadError Catalogue :=
  load [("<inline>", text)]

end Catalogue

end MarkupAssist
