import MarkupAssist.Text.Split
import MarkupAssist.Uri.Percent

/-!
# Paths of addresses

A path is read segment by segment. A segment of one dot stays where it is, a segment of two dots
goes back one segment, and any other segment is appended in percent encoding. Tabs and line breaks
do not count. In the address of a file a first segment that names a drive has a colon behind its
letter, and no host is needed then; slashes at the front of its path count as one.

The path read so far is kept as text (`PathText`), because where a segment begins matters: what
looks like a drive is never left by two dots.
-/

namespace MarkupAssist.Uri

open Text

/-- Whether a character does not count in an address. -/
def isSkipped (c : Char) : Bool :=
  c == '\t' || c == '\n' || c == '\r'

/-- How many dots a segment consists of, written as such or percent-encoded. -/
def dots? : List Char → Option Nat
  | [] => some 0
  | '.' :: cs => (dots? cs).map (· + 1)
  | '%' :: '2' :: c :: cs => if c == 'e' || c == 'E' then (dots? cs).map (· + 1) else none
  | _ => none

/-- Whether a segment names a drive. -/
def isDrive : List Char → Bool
  | [letter, mark] => letter.isAlpha && (mark == ':' || mark == '|')
  | _ => false

/-- Whether a segment names a drive in the usual way. -/
def isUsualDrive (segment : List Char) : Bool :=
  isDrive segment && segment.getLast? == some ':'

/-- Whether a path without its first slash starts with a drive. -/
def startsWithDrive (path : List Char) : Bool :=
  isDrive (path.take 2) && (path.drop 2).head?.all fun c => "/\\?#".toList.contains c

/-- A path while it is read. -/
structure PathText where
  text : List Char
  /-- Whether a drive has been found where it makes the host needless. -/
  hasDrive : Bool

namespace PathText

/-- Whether the path ends with a slash. -/
def endsWithSlash (text : List Char) : Bool :=
  text.getLast? == some '/'

/-- The path with a slash at its end. -/
def withSlash (text : List Char) : List Char :=
  if endsWithSlash text then text else text ++ ['/']

/-- Whether the slash at the end may be taken away to leave the segment before it: it is not the
first slash of the path and stands behind no drive. -/
def canLeave (text : List Char) : Bool :=
  match splitLast? (· == '/') text.dropLast with
  | some (before, _) => !startsWithDrive (text.drop (before.length + 1))
  | none => false

/-- The path up to the slash before its last segment. In the address of a file, a drive stays. -/
def dropSegment (isFile : Bool) (text : List Char) : List Char :=
  match splitLast? (· == '/') text with
  | some (before, segment) =>
    if isFile && isUsualDrive (segment.drop 1) then text else before ++ ['/']
  | none => text

/-- Go back one segment from a slash. -/
def goBack (isFile : Bool) (text : List Char) : List Char :=
  dropSegment isFile (if endsWithSlash text && canLeave text then text.dropLast else text)

/-- Append the characters of a segment, given in the runs between characters that do not count, to
the path and the place where the segment begins. In the address of a file the first run may be a
drive; then a slash divides it from the others. -/
def write (isFile : Bool) (text : List Char) (start : Nat) (runs : List (List Char)) :
    List Char × Nat :=
  runs.foldl (fun (text, start) run =>
    if isFile && !run.isEmpty && isUsualDrive (text.drop 1) then
      (text ++ '/' :: encode pathReserved run, start + 1)
    else (text ++ encode pathReserved run, start)) (text, start)

/-- Append a segment; `closed` tells whether a slash follows it. -/
def step (isFile : Bool) (path : PathText) (segment : List Char) (closed : Bool) : PathText :=
  let (text, start) := write isFile path.text path.text.length (pieces isSkipped segment)
  let slash := if closed then ['/'] else []
  let before := text.take start
  match dots? (text.drop start) with
  | some 1 => { path with text := withSlash before }
  | some 2 =>
    let text := goBack isFile before
    { path with text := if closed then withSlash text else text }
  | _ =>
    if isFile && start = 1 && isDrive (text.drop start) then
      ⟨text.dropLast ++ ':' :: slash, true⟩
    else { path with text := text ++ slash }

/-- Append all segments. -/
def steps (isFile : Bool) (path : PathText) : List (List Char) → PathText
  | [] => path
  | [last] => path.step isFile last false
  | segment :: rest => (path.step isFile segment true).steps isFile rest

end PathText

/-- Read a path behind the text `start`. In the address of a file, slashes at the front count as
one. -/
def readPath (isFile : Bool) (isSlash : Char → Bool) (start cs : List Char) : PathText :=
  let path := PathText.steps isFile ⟨start, false⟩ (pieces isSlash cs)
  if isFile then { path with text := '/' :: path.text.dropWhile (· == '/') } else path

end MarkupAssist.Uri
