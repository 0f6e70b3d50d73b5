import MarkupAssist.CommandLine.Arguments
import MarkupAssist.FilePath
import MarkupAssist.Position
import MarkupAssist.Settings

/-!
# Commands

What a command line asks for. Every option may be given once. Lines and columns are counted from
one on the command line and from zero everywhere else; zero counts as one.

A command line that is not understood is a usage error. The version is asked for as soon as its
switch is read, whatever follows it.
-/

namespace MarkupAssist.CommandLine

/-- The form of the output. -/
inductive OutputFormat where
  | text
  | json
  deriving DecidableEq, Repr, Inhabited

/-- What is to be done. -/
inductive Command where
  | complete (file : FilePath) (position : Position) (settings : Settings)
  | hover (file : FilePath) (position : Position)
  | context (file : FilePath) (position : Position)
  | validate (files : List FilePath)
  | elements
  deriving Repr

/-- A command with the options in front of it. -/
structure Invocation where
  format : OutputFormat
  language : Option String
  command : Command
  deriving Repr

/-- What a command line asks for. -/
inductive Inquiry where
  | run (invocation : Invocation)
  | version
  | help
  | usageError
  deriving Repr

/-! ### Values -/

/-- A form of output by its name. -/
def OutputFormat.ofName? (name : String) : Option OutputFormat :=
  if name = "text" then some .text else if name = "json" then some .json else none

/-- A number in decimal digits. -/
def digits? (cs : List Char) : Option Nat :=
  if cs.isEmpty || !cs.all Char.isDigit then none
  else some (cs.foldl (fun n c => 10 * n + (c.toNat - '0'.toNat)) 0)

/-- A line or column: a decimal number that may have a sign. -/
def coordinate? (text : String) : Option Nat := do
  let n : Int ← match text.toList with
    | '+' :: cs => (digits? cs).map fun n => (n : Int)
    | '-' :: cs => (digits? cs).map fun n => -(n : Int)
    | cs => (digits? cs).map fun n => (n : Int)
  if 0 ≤ n ∧ n < 0x100000000 then some n.toNat else none

/-- A size: a decimal number that may have a plus sign. -/
def size? (text : String) : Option UInt64 := do
  let n ← match text.toList with
    | '+' :: cs => digits? cs
    | cs => digits? cs
  if n < UInt64.size then some (UInt64.ofNat n) else none

/-- The path of a file, which is not empty. -/
def filePath? (text : String) : Option FilePath :=
  if text.isEmpty then none else some ⟨text⟩

/-- Fill in an option that has not been given yet. -/
def fill {α : Type} (present : Option α) (value : Option α) : Option (Option α) :=
  match present, value with
  | none, some a => some (some a)
  | _, _ => none

/-! ### Options in front of the command -/

/-- The options in front of the command, as far as they have been given. -/
structure GlobalOptions where
  format : Option OutputFormat := none
  language : Option String := none
  verbose : Bool := false

/-- The switches and options in front of the command. -/
def globalSwitches : List Switch :=
  [⟨"format", some 'f', true⟩, ⟨"language", none, true⟩, ⟨"verbose", some 'v', false⟩,
   ⟨"version", some 'V', false⟩, ⟨"help", some 'h', false⟩]

/-- The options after one more argument. -/
def GlobalOptions.add? (o : GlobalOptions) : Argument → Option GlobalOptions
  | .option "format" value => do
    return { o with format := ← fill o.format (OutputFormat.ofName? value) }
  | .option "language" value => do return { o with language := ← fill o.language (some value) }
  | .switch "verbose" => if o.verbose then none else some { o with verbose := true }
  | _ => none

/-- Read the options in front of a command; what comes of them otherwise. -/
def readGlobal (o : GlobalOptions) : List Argument → Except Inquiry GlobalOptions
  | [] => .ok o
  | .switch "version" :: _ => .error .version
  | .switch "help" :: _ => .error .help
  | a :: more =>
    match o.add? a with
    | some o => readGlobal o more
    | none => .error .usageError

/-! ### Options of commands -/

/-- The options of the commands that look at a place in a file, as far as they have been given. -/
structure PlaceOptions where
  file : Option FilePath := none
  line : Option Nat := none
  column : Option Nat := none
  trigger : Option String := none
  indentSize : Option UInt64 := none
  quotes : Option QuoteStyle := none

/-- The switches that every command has. -/
def helpSwitch : Switch := ⟨"help", some 'h', false⟩

/-- The options of the commands that look at a place. -/
def placeSwitches : List Switch :=
  [⟨"line", some 'l', true⟩, ⟨"column", some 'c', true⟩, helpSwitch]

/-- The options of completion. -/
def completeSwitches : List Switch :=
  placeSwitches ++ [⟨"trigger", none, true⟩, ⟨"indent-size", none, true⟩, ⟨"quotes", none, true⟩]

/-- The options after one more argument. -/
def PlaceOptions.add? (o : PlaceOptions) : Argument → Option PlaceOptions
  | .word text => do return { o with file := ← fill o.file (filePath? text) }
  | .option "line" value => do return { o with line := ← fill o.line (coordinate? value) }
  | .option "column" value => do return { o with column := ← fill o.column (coordinate? value) }
  | .option "trigger" value => do return { o with trigger := ← fill o.trigger (some value) }
  | .option "indent-size" value => do
    return { o with indentSize := ← fill o.indentSize (size? value) }
  | .option "quotes" value => do
    return { o with quotes := ← fill o.quotes (QuoteStyle.ofName? value) }
  | _ => none

/-- Read the options of a command one after the other; what comes of them otherwise. -/
def readOptions {α : Type} (add? : α → Argument → Option α) (o : α) :
    List Argument → Except Inquiry α
  | [] => .ok o
  | .switch "help" :: _ => .error .help
  | a :: more =>
    match add? o a with
    | some o => readOptions add? o more
    | none => .error .usageError

/-- A value that must have been given. -/
def given {α : Type} : Option α → Except Inquiry α
  | some a => .ok a
  | none => .error .usageError

/-- The file and the position that options give. -/
def PlaceOptions.place (o : PlaceOptions) : Except Inquiry (FilePath × Position) := do
  return (← given o.file, ⟨(← given o.line) - 1, (← given o.column) - 1⟩)

/-- The settings that options give. -/
def PlaceOptions.settings (o : PlaceOptions) : Settings :=
  let standard : Settings := {}
  { indentSize := o.indentSize.getD standard.indentSize, quotes := o.quotes.getD standard.quotes }

/-- The files after one more argument. -/
def addFile? (files : List FilePath) : Argument → Option (List FilePath)
  | .word text => do return files ++ [← filePath? text]
  | _ => none

/-- The names of commands. -/
def commandNames : List String :=
  ["complete", "hover", "validate", "context", "elements", "help"]

/-- Help on all commands or on one of them. -/
def helpOn : List String → Inquiry
  | [] => .help
  | [name] => if commandNames.contains name then .help else .usageError
  | _ => .usageError

/-- The command of a name with the words behind it. -/
def readCommand (name : String) (words : List String) : Except Inquiry Command := do
  let placeOf (known : List Switch) : Except Inquiry PlaceOptions :=
    readOptions PlaceOptions.add? {} (readAll known words)
  match name with
  | "complete" =>
    let o ← placeOf completeSwitches
    let (file, position) ← o.place
    return .complete file position o.settings
  | "hover" =>
    let (file, position) ← (← placeOf placeSwitches).place
    return .hover file position
  | "context" =>
    let (file, position) ← (← placeOf placeSwitches).place
    return .context file position
  | "validate" =>
    let files ← readOptions addFile? [] (readAll [helpSwitch] words)
    if files.isEmpty then throw .usageError else return .validate files
  | "elements" =>
    let _ ← readOptions (fun _ _ => none) () (readAll [helpSwitch] words)
    return .elements
  | "help" => throw (helpOn words)
  | _ => throw .usageError

/-- What a command line asks for, given the language that the environment sets. -/
def inquiry (environmentLanguage : Option String) (words : List String) : Inquiry :=
  let (arguments, rest) := readHead globalSwitches words
  let result : Except Inquiry Invocation := do
    -- Faults in front of the command count before the command is looked at.
    let o ← readGlobal {} arguments
    let (name, words) ← given rest
    let command ← readCommand name words
    return {
      format := o.format.getD .text
      language := o.language.or environmentLanguage
      command }
  match result with
  | .ok invocation => .run invocation
  | .error other => other

end MarkupAssist.CommandLine
