import MarkupAssist.Document
import MarkupAssist.Uri

/-!
# Open documents

The documents that an editor has open, by their addresses. A document is replaced as a whole by an
update, but only by one that is not older than what is there.
-/

namespace MarkupAssist

/-- An open document. -/
structure OpenDocument where
  content : String
  version : Int
  language : String
  deriving DecidableEq, Repr

/-- The text of an open document. -/
def OpenDocument.snapshot (d : OpenDocument) : Document :=
  .ofString d.content d.language

/-- The open documents by their addresses. -/
structure OpenDocuments where
  entries : List (Uri × OpenDocument) := []
  deriving Repr

namespace OpenDocuments

/-- The document of an address. -/
def get? (docs : OpenDocuments) (uri : Uri) : Option OpenDocument :=
  docs.entries.lookup uri

/-- Close the document of an address. -/
def erase (docs : OpenDocuments) (uri : Uri) : OpenDocuments :=
  ⟨docs.entries.filter fun entry => entry.1 != uri⟩

/-- Open a document, in the place of one that is open under the same address. -/
def insert (docs : OpenDocuments) (uri : Uri) (document : OpenDocument) : OpenDocuments :=
  ⟨(uri, document) :: (docs.erase uri).entries⟩

/-- Replace the content of an open document; `none` if it is not open or newer than the update. -/
def update? (docs : OpenDocuments) (uri : Uri) (content : String) (version : Int) :
    Option OpenDocuments :=
  match docs.get? uri with
  | some document =>
    if document.version ≤ version then
      some (docs.insert uri { document with content, version })
    else none
  | none => none

end OpenDocuments

end MarkupAssist
