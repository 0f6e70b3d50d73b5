import MarkupAssist.Markup.Occurrence

/-!
# Findings in a document

`Catalogue.validate` reports the required attributes that the opening tags of known elements lack
or leave blank: tag by tag in the order of the document, and for each tag in the order in which its
element declares its attributes. An attribute of type `flag` may stand without a value.
-/

namespace MarkupAssist

/-- How grave a finding is. -/
inductive Severity where
  | error
  | warning
  | info
  | hint
  deriving DecidableEq, Repr, Inhabited

/-- The name of a severity. -/
def Severity.name : Severity → String
  | error => "error"
  | warning => "warning"
  | info => "info"
  | hint => "hint"

/-- The severity with a given name. -/
def Severity.ofName? (name : String) : Option Severity :=
  [error, warning, info, hint].find? fun s => s.name == name

/-- A place that explains a finding. -/
structure RelatedInformation where
  range : Range
  message : String
  deriving DecidableEq, Repr

/-- A finding. -/
structure Diagnostic where
  range : Range
  severity : Severity
  code : String
  source : String
  message : String
  related : List RelatedInformation := []
  deriving DecidableEq, Repr

namespace Diagnostic

/-- The source named in all findings. -/
def sourceName : String := "flow"

/-- The code of a required attribute that is not there. -/
def missingCode : String := "missing-attribute"

/-- The code of a required attribute without a value. -/
def blankCode : String := "blank-attribute"

/-- An error with one explanation at the same place. -/
def errorAt (range : Range) (code message explanation : String) : Diagnostic :=
  ⟨range, .error, code, sourceName, message, [⟨range, explanation⟩]⟩

/-- The finding for a required attribute that a tag at a range lacks. -/
def missing (range : Range) (name : String) : Diagnostic :=
  errorAt range missingCode (name ++ " is required") "Mandatory fields are required"

/-- The finding for a required attribute at a range that is left blank. -/
def blank (range : Range) (name : String) : Diagnostic :=
  errorAt range blankCode (name ++ " cannot be blank") "Blank value not allowed"

end Diagnostic

/-- What is wrong with a required attribute of a tag. -/
def Occurrence.fault? (o : Occurrence) (required : String × Attribute) : Option Diagnostic :=
  match o.attribute? required.1 with
  | none => some (.missing o.range required.1)
  | some a =>
    if required.2.type == .flag && a.value.isNone then none
    else if a.isBlank then some (.blank a.range required.1)
    else none

namespace Catalogue

/-- What is wrong with the required attributes of a tag. -/
def faults (catalogue : Catalogue) (o : Occurrence) : List Diagnostic :=
  match catalogue.element? o.name with
  | some element => element.required.filterMap o.fault?
  | none => []

/-- The findings in a document. -/
def validate (catalogue : Catalogue) (doc : Document) : List Diagnostic :=
  (doc.occurrences catalogue).flatMap catalogue.faults

end Catalogue

end MarkupAssist
