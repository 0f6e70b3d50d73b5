import MarkupAssist.Editor.Session
import MarkupAssist.Json.Reader
import MarkupAssist.Json.Writer

/-!
# Messages on a stream

A message on a stream is a JSON text behind a header with its length in bytes. A request carries an
identifier, which its reply repeats.
-/

namespace MarkupAssist

/-- A message with the identifier of its reply. -/
structure Frame where
  message : Message
  identifier : Json

namespace Frame

/-- The message in a JSON text. -/
def decode? (text : String) : Option Frame := do
  let value ← Json.parse? text
  let method ← (value.get? "method").bind Json.text?
  let identifier := value.get? "id"
  return ⟨⟨method, value.get? "params", identifier.isSome⟩, identifier.getD .null⟩

/-- The length that a line of a header gives. -/
def contentLength? (headerLine : String) : Option Nat :=
  match headerLine.splitOn ":" with
  | [name, value] =>
    if name.toLower = "content-length" then
      (value.toList.filter fun c => !c.isWhitespace).foldlM
        (fun n c => if c.isDigit then some (10 * n + (c.toNat - '0'.toNat)) else none) 0
    else none
  | _ => none

/-- A JSON value behind its header. -/
def render (value : Json) : String :=
  let body := value.compress
  "Content-Length: " ++ toString body.utf8ByteSize ++ "\r\n\r\n" ++ body

/-- What the server sends by itself. -/
def ofAnnouncement (a : Announcement) : Json :=
  .record [("jsonrpc", .text "2.0"), ("method", .text a.method), ("params", a.params)]

/-- The reply to a request. -/
def ofReply (identifier : Json) : Reply → Json
  | .ok response =>
    .record [("jsonrpc", .text "2.0"), ("result", response.encode), ("id", identifier)]
  | .error refusal =>
    .record
      [("jsonrpc", .text "2.0"),
       ("error", .record [("code", .ofInt refusal.code), ("message", .text refusal.message)]),
       ("id", identifier)]

/-- All that is sent because of a message. -/
def answers (frame : Frame) (outcome : Outcome) : List Json :=
  outcome.sent.map ofAnnouncement ++ outcome.reply.toList.map (ofReply frame.identifier)

end Frame

end MarkupAssist
