import MarkupAssist.Folder
import MarkupAssist.Text.Split

/-!
# Paths of files

A path as it is given by hand. For the name of the file, slashes at the end, doubled slashes and
dots for the present folder do not count (`FilePath.steps`). The language of a document is guessed
from the extension of its file.

To read the file, the path is followed step by step (`FilePath.walk`): everything but the last step
must lead to a folder, and so must the last one if a slash stands behind it.
-/

namespace MarkupAssist

open Text

/-- The path of a file, relative to the present folder. -/
structure FilePath where
  text : String
  deriving DecidableEq, Repr

namespace FilePath

/-- The steps of a path. -/
def steps (path : FilePath) : List String :=
  (path.text.splitOn "/").filter fun step => step ≠ "" ∧ step ≠ "."

/-- Whether the path starts at the root of all folders. -/
def isAbsolute (path : FilePath) : Bool :=
  path.text.toList.head? == some '/'

/-- Whether the path starts with a dot for the present folder, which then is a step of its own. -/
def startsHere (path : FilePath) : Bool :=
  (path.text.splitOn "/").head? == some "."

/-- Whether the path stands for what is typed in. -/
def isStandardInput (path : FilePath) : Bool :=
  !path.isAbsolute && !path.startsHere && path.steps == ["-"]

/-- The extension of the file: what follows the last dot of its name, if the name does not start
with that dot. -/
def extension? (path : FilePath) : Option String := do
  let name ← path.steps.getLast?
  let (stem, rest) ← splitLast? (· == '.') name.toList
  if stem.isEmpty || name = ".." then none else some (String.ofList (rest.drop 1))

/-- The language that the extension stands for. -/
def language (path : FilePath) : String :=
  match path.extension? with
  | some "vue" => "vue"
  | some "ts" => "typescript"
  | some "tsx" => "typescript"
  | some "mdx" => "mdx"
  | _ => "html"

/-! ### Reading -/

/-- The folder around a place; the top of all folders has none. -/
def up (place : List String) : List String :=
  match place.getLast? with
  | none => [".."]
  | some "" => place
  | some ".." => place ++ [".."]
  | some _ => place.dropLast

/-- Where one step leads from a place: a dot stays, two dots go up. -/
def follow (place : List String) (step : String) : List String :=
  if step = "" || step = "." then place
  else if step = ".." then up place
  else place ++ [step]

/-- Whether a step goes to an entry of the place, and not back or nowhere. -/
def isEntry (step : String) : Bool :=
  step ≠ "" && step ≠ "." && step ≠ ".."

/-- The name of a place. -/
def placeName (place : List String) : String := "/".intercalate place

/-- The longest name of a file or folder, in bytes. -/
def nameLimit : Nat := 255

/-- The content of the file that steps lead to from a place. -/
def walk (folder : Folder) (place : List String) : List String → Except ReadError ByteArray
  | [] => .error .isFolder
  | step :: more =>
    let next := follow place step
    if !isEntry step then walk folder next more
    else if step.utf8ByteSize > nameLimit then .error .nameTooLong
    else
      match folder.entry? (placeName next) with
      | none => .error .missing
      | some .folder => walk folder next more
      | some (.file content) => if more.isEmpty then .ok content else .error .notFolder

/-- Where a path starts: at the present folder, or at the top of all folders. -/
def start (path : FilePath) : List String :=
  if path.isAbsolute then [""] else []

/-- The text of the file in a folder. -/
def readIn (path : FilePath) (folder : Folder) : Except ReadError String := do
  let content ← walk folder path.start (path.text.splitOn "/")
  match String.fromUTF8? content with
  | some text => .ok text
  | none => .error .notText

/-- The names of all places that the path leads through. -/
def places (path : FilePath) : List String :=
  let visit (seen : List (List String)) (step : String) : List (List String) :=
    follow (seen.head?.getD path.start) step :: seen
  (((path.text.splitOn "/").foldl visit []).reverse.map placeName)

end FilePath

end MarkupAssist
