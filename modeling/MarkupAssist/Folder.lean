import MarkupAssist.Entries

/-!
# Folders

What is looked at of the files of a machine: the files with their bytes and the folders, each under
its name as it is reached from the present folder (`Folder`). Reading a file as text fails with one
of a few causes (`ReadError`).
-/

namespace MarkupAssist

/-- An entry of a folder. -/
inductive FolderEntry where
  | file (content : ByteArray)
  | folder

/-- The entries of a folder by their names. -/
abbrev Folder := Entries FolderEntry

/-- Why a file cannot be read as text. -/
inductive ReadError where
  | missing
  /-- A file stands where a folder is needed. -/
  | notFolder
  | isFolder
  | nameTooLong
  | notText
  deriving DecidableEq, Repr

/-- The cause as the system words it. -/
def ReadError.message : ReadError → String
  | missing => "No such file or directory (os error 2)"
  | notFolder => "Not a directory (os error 20)"
  | isFolder => "Is a directory (os error 21)"
  | nameTooLong => "File name too long (os error 36)"
  | notText => "stream did not contain valid UTF-8"

namespace Folder

/-- Whether there is a file of a name. -/
def hasFile (folder : Folder) (name : String) : Bool :=
  match folder.get? name with
  | some (.file _) => true
  | _ => false

/-- The entry of a name. A name with an entry below it is a folder, too. -/
def entry? (folder : Folder) (name : String) : Option FolderEntry :=
  (folder.get? name).or <|
    if folder.any fun e => (name.toList ++ ['/']).isPrefixOf e.1.toList then some .folder else none

end Folder

end MarkupAssist
