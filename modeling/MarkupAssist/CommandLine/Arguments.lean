import MarkupAssist.Text.Split

/-!
# Arguments of a command

The words on a command line, sorted into switches, options with a value, and other words. Which
switches and options there are is given by a list (`Switch`).

An option is written with its long name, `--name value` or `--name=value`, or with its letter,
`-n value`, `-nvalue` or `-n=value`; letters of switches may be written together. A value that is a
word of its own does not start with a hyphen, unless it is a hyphen alone. Behind `--` there are no
options. Reading stops at the first fault (`Argument.fault`), so that what comes before it still
counts.
-/

namespace MarkupAssist.CommandLine

open Text

/-- A switch or option that a command knows. -/
structure Switch where
  name : String
  letter : Option Char := none
  hasValue : Bool := true

/-- An argument. -/
inductive Argument where
  | switch (name : String)
  | option (name value : String)
  | word (text : String)
  /-- A switch or option that is not known or not complete. -/
  | fault
  deriving DecidableEq, Repr

/-- The arguments in one word, and the option that the next word is the value of. -/
structure WordReading where
  arguments : List Argument
  waiting : Option String := none

/-- An option with its long name. -/
def readLong (known : List Switch) (cs : List Char) : WordReading :=
  let (name, value) := match splitFirst? (· == '=') cs with
    | some (name, rest) => (name, some (String.ofList (rest.drop 1)))
    | none => (cs, none)
  match known.find? (fun s => s.name.toList == name), value with
  | none, _ => ⟨[.fault], none⟩
  | some s, none => if s.hasValue then ⟨[], some s.name⟩ else ⟨[.switch s.name], none⟩
  | some s, some value => ⟨[if s.hasValue then .option s.name value else .fault], none⟩

/-- Letters that are written together. -/
def readLetters (known : List Switch) : List Char → WordReading
  | [] => ⟨[], none⟩
  | c :: cs =>
    match known.find? fun s => s.letter == some c with
    | none => ⟨[.fault], none⟩
    | some s =>
      if !s.hasValue then
        let more := readLetters known cs
        { more with arguments := .switch s.name :: more.arguments }
      else
        match cs with
        | [] => ⟨[], some s.name⟩
        | '=' :: value => ⟨[.option s.name (String.ofList value)], none⟩
        | value => ⟨[.option s.name (String.ofList value)], none⟩

/-- The arguments in one word. -/
def readWord (known : List Switch) (word : String) : WordReading :=
  match word.toList with
  | '-' :: '-' :: cs => readLong known cs
  | '-' :: c :: cs => readLetters known (c :: cs)
  | _ => ⟨[.word word], none⟩

/-- Whether a word can be the value of an option. -/
def isValue (word : String) : Bool :=
  word.toList.head? != some '-' || word == "-"

/-- The arguments of a command, given the option that waits for its value. -/
def readAllFrom (known : List Switch) : Option String → List String → List Argument
  | none, [] => []
  | some _, [] => [.fault]
  | some name, word :: words =>
    if isValue word then .option name word :: readAllFrom known none words else [.fault]
  | none, word :: words =>
    if word == "--" then words.map .word
    else
      let reading := readWord known word
      reading.arguments ++ readAllFrom known reading.waiting words

/-- The arguments of a command. -/
def readAll (known : List Switch) (words : List String) : List Argument :=
  readAllFrom known none words

/-- The arguments up to the first word that is no option, that word, and the words behind it, given
the option that waits for its value. -/
def readHeadFrom (known : List Switch) :
    Option String → List String → List Argument × Option (String × List String)
  | none, [] => ([], none)
  | some _, [] => ([.fault], none)
  | some name, word :: words =>
    if isValue word then
      let (arguments, rest) := readHeadFrom known none words
      (.option name word :: arguments, rest)
    else ([.fault], none)
  | none, word :: words =>
    if word == "--" then ([.fault], none)
    else if isValue word then ([], some (word, words))
    else
      let reading := readWord known word
      let (arguments, rest) := readHeadFrom known reading.waiting words
      (reading.arguments ++ arguments, rest)

/-- The arguments up to the first word that is no option, that word, and the words behind it. -/
def readHead (known : List Switch) (words : List String) :
    List Argument × Option (String × List String) :=
  readHeadFrom known none words

end MarkupAssist.CommandLine
