import MarkupAssist.CommandLine.Report
import MarkupAssist.Completion.Complete

/-!
# Running a command

What a command line prints and the code that it ends with. What lies outside is an argument here:
the folder with the files, what is typed in, and the language that the environment sets. What is
typed in can be read once; when it is read again it is empty.

The code is 0 for success, 1 if a file cannot be read or if findings are reported, and 2 for a usage
error.
-/

namespace MarkupAssist.CommandLine

/-- What a command line finds around it. -/
structure Surroundings where
  folder : Folder := []
  standardInput : String := ""
  language : Option String := none

/-- What a command line leads to. -/
structure Result where
  code : Nat := 0
  output : String := ""
  /-- The report of an error that ends the program. -/
  error : Option String := none

/-- The name and version that the program introduces itself with. -/
def versionLine : String := line "flow-intellisense 0.1.0"

/-- The report that a file cannot be read. -/
def readFailure (path : FilePath) (cause : ReadError) : Result :=
  { code := 1
    error := some (line ("Error: Failed to read " ++ path.text) ++ line "" ++
      line "Caused by:" ++ line ("    " ++ cause.message)) }

/-- The text of a file, and what is typed in after it has been read. -/
def readFile (folder : Folder) (standardInput : String) (path : FilePath) :
    Except Result (String × String) :=
  if path.isStandardInput then .ok (standardInput, "")
  else
    match path.readIn folder with
    | .ok text => .ok (text, standardInput)
    | .error cause => .error (readFailure path cause)

/-- The documents of files, in their order. A language that is given goes before the extension. -/
def readDocuments (folder : Folder) (language : Option String) (standardInput : String) :
    List FilePath → Except Result (List (FilePath × Document))
  | [] => .ok []
  | path :: paths => do
    let (text, standardInput) ← readFile folder standardInput path
    let documents ← readDocuments folder language standardInput paths
    return (path, .ofString text (language.getD path.language)) :: documents

/-- The files that a command reads. -/
def Command.files : Command → List FilePath
  | complete file _ _ => [file]
  | hover file _ => [file]
  | context file _ => [file]
  | validate files => files
  | elements => []

/-- The result of a command on its documents. -/
def runOn (catalogue : Catalogue) (format : OutputFormat) (command : Command)
    (documents : List (FilePath × Document)) : Result :=
  match command, documents with
  | .complete _ position settings, (_, doc) :: _ =>
    { output := reportItems format (catalogue.complete doc position settings) }
  | .hover _ position, (_, doc) :: _ =>
    { output := reportHover format (catalogue.hover doc position) }
  | .context _ position, (_, doc) :: _ =>
    { output := reportContext format (doc.context position) }
  | .validate _, documents =>
    let reports := documents.map fun (path, doc) => (path.text, catalogue.validate doc)
    { code := if reports.all (·.2.isEmpty) then 0 else 1
      output := reportFindings format reports }
  | .elements, _ => { output := reportElements format catalogue }
  | _, [] => {}

/-- The result of an invocation. -/
def Invocation.run (catalogue : Catalogue) (around : Surroundings) (invocation : Invocation) :
    Result :=
  match readDocuments around.folder invocation.language around.standardInput
    invocation.command.files with
  | .ok documents => runOn catalogue invocation.format invocation.command documents
  | .error failure => failure

/-- The result of a command line. -/
def run (catalogue : Catalogue) (around : Surroundings) (words : List String) : Result :=
  match inquiry around.language words with
  | .run invocation => invocation.run catalogue around
  | .version => { output := versionLine }
  | .help => {}
  | .usageError => { code := 2 }

end MarkupAssist.CommandLine
