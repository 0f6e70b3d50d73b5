import MarkupAssist.Config.Basic
import MarkupAssist.FilePath
import MarkupAssist.Yaml.Decode

/-!
# Configuration files

A configuration file is a YAML text in which every part may be missing. A folder is configured by
the first of several file names that it has (`Config.fileNames`); a folder without such a file by
the defaults.
-/

namespace MarkupAssist

open Yaml

/-- Why a configuration file is refused. -/
inductive ConfigError where
  | read (file : String)
  | parse (file : String)
  deriving DecidableEq, Repr

/-- Options of the server from YAML. -/
def ServerOptions.decode? (v : View) : Option ServerOptions := do
  let standard : ServerOptions := {}
  let text (v : View) : Option String := v.text?.map String.ofList
  let [name, logLevel, workspaceDiscovery, languages] ←
    v.fields? [["name"], ["log_level"], ["workspace_discovery"], ["languages"]] | none
  return {
    name := ← View.withDefault? standard.name text name
    logLevel := ← View.withDefault? standard.logLevel text logLevel
    workspaceDiscovery :=
      ← View.withDefault? standard.workspaceDiscovery View.bool? workspaceDiscovery
    languages := ← View.withDefault? standard.languages (View.list? text) languages }

/-- Snippet settings from YAML. -/
def Settings.ofYaml? (v : View) : Option Settings := do
  let standard : Settings := {}
  let [indent, quotes] ← v.fields? [indentKey :: indentAliases, [quotesKey]] | none
  return {
    indentSize := ← View.withDefault? standard.indentSize View.word? indent
    quotes := ← View.withDefault? standard.quotes (View.constant? QuoteStyle.ofName?) quotes }

namespace Config

/-- A configuration from YAML. -/
def decode? (v : View) : Option Config := do
  let [server, settings] ← v.fields? [["engine"], ["flow-helper", "settings"]] | none
  return {
    server := ← View.withDefault? {} ServerOptions.decode? server
    settings := ← View.withDefault? {} Settings.ofYaml? settings }

/-- The configuration that a text holds. -/
def ofText? (text : String) : Option Config := do
  match ← Yaml.parse? text with
  | none => some {}
  | some document => decode? ⟨document, document.root⟩

/-- The names of configuration files, the preferred ones first. -/
def fileNames : List String :=
  [".flow-lsp.yaml", ".flow-lsp.yml", "flow-lsp.yaml", "flow-lsp.yml"]

/-- The configuration in a file of a folder. -/
def load (folder : Folder) (file : String) : Except ConfigError Config :=
  match FilePath.readIn ⟨file⟩ folder with
  | .error _ => .error (.read file)
  | .ok text =>
    match ofText? text with
    | some config => .ok config
    | none => .error (.parse file)

/-- The configuration file of a folder. -/
def find? (folder : Folder) : Option String :=
  fileNames.find? folder.hasFile

/-- The configuration of a folder. -/
def discover (folder : Folder) : Except ConfigError Config :=
  match find? folder with
  | some file => load folder file
  | none => .ok {}

end Config

end MarkupAssist
