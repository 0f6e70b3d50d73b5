import MarkupAssist.CommandLine.Run
import MarkupAssist.Editor.Frame
import MarkupAssist.Schema.Bundled

/-!
# The program

Under the name `flow-lsp` the program is a server that talks to an editor over its standard input
and output. Under any other name it runs one command.
-/

namespace MarkupAssist.Program

/-- A file or folder on the disk, if it is there. -/
def readEntry (path : String) : IO (Option FolderEntry) := do
  try
    return some (.file (← IO.FS.readBinFile path))
  catch error =>
    match error with
    | .noFileOrDirectory .. => return none
    | _ => return some .folder

/-- The given files of a folder. -/
def readFolder (base : String) (names : List String) : IO Folder := do
  let mut folder : Folder := []
  for name in names do
    if let some entry ← readEntry (base ++ name) then
      folder := folder.put name entry
  return folder

/-- Run a command line. -/
def runCommand (words : List String) : IO UInt32 := do
  let language ← IO.getEnv "FLOW_LANGUAGE"
  let files := match CommandLine.inquiry language words with
    | .run invocation => invocation.command.files
    | _ => []
  let folder ← readFolder "" (files.flatMap (·.places))
  let standardInput ←
    if files.any (·.isStandardInput) then (← IO.getStdin).readToEnd else pure ""
  let result := CommandLine.run Catalogue.bundled { folder, standardInput, language } words
  (← IO.getStdout).putStr result.output
  if let some report := result.error then
    (← IO.getStderr).putStr report
  return UInt32.ofNat result.code

/-- The configuration files of a folder of this machine. -/
def readWorkspace (uri : Uri) : IO Folder :=
  readFolder (String.ofList uri.path ++ "/") Config.fileNames

/-- The lines of a header, up to the empty line behind it. -/
partial def readLength (input : IO.FS.Stream) (length : Option Nat) : IO (Option Nat) := do
  let headerLine ← input.getLine
  if headerLine.isEmpty then return none
  else if headerLine.trimAscii.isEmpty then return length
  else readLength input (length.or (Frame.contentLength? headerLine))

/-- Read a number of bytes. -/
partial def readBytes (input : IO.FS.Stream) (length : Nat) (done : ByteArray) : IO ByteArray := do
  if done.size ≥ length then return done
  else
    let more ← input.read (USize.ofNat (length - done.size))
    if more.isEmpty then return done else readBytes input length (done ++ more)

/-- Serve an editor until the session or the input ends. -/
partial def serve (input output : IO.FS.Stream) (session : Session) : IO Unit := do
  let some length ← readLength input none | return
  let body ← readBytes input length ByteArray.empty
  match (String.fromUTF8? body).bind Frame.decode? with
  | none => serve input output session
  | some frame =>
    let folder ← match frame.message.decoded? Message.start? with
      | some (.start (some uri) _) => readWorkspace uri
      | _ => pure []
    let (session, outcome) := session.step (fun _ => folder) frame.message
    for value in frame.answers outcome do
      output.putStr (Frame.render value)
    output.flush
    if session.stage = .ended then return else serve input output session

/-- Serve an editor, configured by the present folder. -/
def runServer : IO UInt32 := do
  let config := match Config.discover (← readFolder "" Config.fileNames) with
    | .ok config => config
    | .error _ => {}
  serve (← IO.getStdin) (← IO.getStdout) { server := { catalogue := Catalogue.bundled, config } }
  return 0

end MarkupAssist.Program

/-- Run the program. -/
def main (words : List String) : IO UInt32 := do
  if (← IO.appPath).fileName = some "flow-lsp" then MarkupAssist.Program.runServer
  else MarkupAssist.Program.runCommand words
