import MarkupAssist.CommandLine.Command
import MarkupAssist.Encoding.Result
import MarkupAssist.Json.Collapsed
import MarkupAssist.Json.Writer
import MarkupAssist.Schema.Catalogue
import MarkupAssist.Text.Quoted

/-!
# Reports

The results of the commands in words, or as indented JSON. Every line of a report ends with a line
feed.
-/

namespace MarkupAssist.CommandLine

/-- A line of a report. -/
def line (text : String) : String :=
  text ++ "\n"

/-- A text filled up with blanks to a width. -/
def padded (width : Nat) (text : String) : String :=
  text ++ String.ofList (List.replicate (width - text.length) ' ')

/-- A JSON value as a report. -/
def jsonReport (value : Json) : String :=
  line value.pretty

/-! ### Completions -/

/-- The name of a kind of completion item in a report. -/
def kindName : CompletionKind → String
  | .element => "Element"
  | .attribute => "Attribute"
  | .method => "Method"
  | .value => "Value"

/-- The line of a completion item. -/
def itemLine (item : CompletionItem) : String :=
  line ("  " ++ padded 20 item.label ++ " " ++ padded 10 (kindName item.kind) ++ " " ++
    item.detail.getD "")

/-- Completion items. -/
def reportItems (format : OutputFormat) (items : List CompletionItem) : String :=
  match format with
  | .json => jsonReport (CompletionItem.encodeList items)
  | .text =>
    if items.isEmpty then line "No completions found"
    else line ("Completions (" ++ toString items.length ++ "):") ++
      String.join (items.map itemLine)

/-! ### Documentation -/

/-- Documentation, if there is any. -/
def reportHover (format : OutputFormat) (info : Option HoverInfo) : String :=
  match format with
  | .json => jsonReport (.orNull HoverInfo.encode info)
  | .text => line ((info.map (·.content)).getD "No hover information")

/-! ### Contexts -/

/-- The lines of a record with its name, its fields indented by one level more. -/
def recordLines (name : String) (fields : List (String × List String)) : List String :=
  let fieldLines (field : String × List String) : List String :=
    match field.2 with
    | [] => []
    | first :: more =>
      let lines := ("    " ++ field.1 ++ ": " ++ first) :: more.map ("    " ++ ·)
      lines.dropLast ++ (lines.getLast?.toList.map (· ++ ","))
  (name ++ " \x7b") :: fields.flatMap fieldLines ++ ["\x7d"]

/-- The lines of a tag token. -/
def tokenLines (tag : TagToken) : List String :=
  recordLines "TagToken" [("text", [Text.quoted tag.text]), ("offset", [toString tag.offset])]

/-- The lines of a context. -/
def contextLines : CursorContext → List String
  | .attributeValue tag name =>
    recordLines "AttributeValue"
      [("tag", [Text.quoted tag]), ("attribute", [Text.quoted name])]
  | .attributeName tag => recordLines "AttributeName" [("tag", tokenLines tag)]
  | .tagStart typed => recordLines "TagStart" [("partial", [Text.quoted typed])]
  | .unknown => ["Unknown"]

/-- A context. -/
def reportContext (format : OutputFormat) (context : CursorContext) : String :=
  match format with
  | .json => jsonReport context.encode
  | .text => String.join ((contextLines context).map line)

/-! ### Findings -/

/-- The line of a finding in a file. -/
def findingLine (file : String) (d : Diagnostic) : String :=
  line (file ++ ":" ++ d.range.start.display ++ ": " ++ d.severity.name ++ ": " ++ d.message ++
    " [" ++ d.code ++ "]")

/-- The findings in files. As JSON, of a file that is given twice only the last findings are
shown. -/
def reportFindings (format : OutputFormat) (reports : List (String × List Diagnostic)) : String :=
  match format with
  | .json =>
    jsonReport (Json.collapsed (.record
      (reports.map fun (file, found) => (file, .listOf Diagnostic.encode found))))
  | .text =>
    let count := (reports.flatMap (·.2)).length
    String.join (reports.map fun (file, found) => String.join (found.map (findingLine file))) ++
      line (toString count ++ " error(s) in " ++ toString reports.length ++ " file(s)")

/-! ### Elements -/

/-- An element as JSON. -/
def encodeElement (entry : String × Element) : Json :=
  .record
    [("category", .text entry.2.category), ("description", .text entry.2.description),
     ("docLink", .text entry.2.docLink), ("tag", .text entry.1), ("title", .text entry.2.title)]

/-- The line of an element. -/
def elementLine (entry : String × Element) : String :=
  line (padded 16 entry.1 ++ " " ++ padded 12 entry.2.category ++ " " ++ entry.2.description)

/-- The elements of a catalogue. -/
def reportElements (format : OutputFormat) (catalogue : Catalogue) : String :=
  match format with
  | .json => jsonReport (.listOf encodeElement catalogue.elements)
  | .text => String.join (catalogue.elements.map elementLine)

end MarkupAssist.CommandLine
