import MarkupAssist.Uri.Host
import MarkupAssist.Uri.Path

/-!
# Absolute addresses

The addresses under which an editor names its documents and folders. `Uri.parse?` takes an absolute
address apart and brings it into its normal form: the scheme in small letters, the host as it is
compared, no dot segments in the path, and characters that an address cannot hold written as
percent-encoded bytes. A relative address has no scheme and is refused. `Uri.text` puts the parts
together again; two addresses are the same if their normal forms are.

Some schemes are hierarchical by themselves (`Uri.isHierarchical`): they have a host, a backslash
counts as a slash, and their path is never empty. With any other scheme a host is there only behind
two slashes, and what does not start with a slash is kept as one piece.
-/

namespace MarkupAssist

open Text

/-- The part of an address behind `//`, as it is written. -/
structure Authority where
  /-- The name and the password of the user. -/
  user : List Char
  host : List Char
  /-- The number of the service on the host, unless it is the usual one. -/
  service : Option Nat
  deriving DecidableEq, Repr

/-- The authority as text. -/
def Authority.text (a : Authority) : List Char :=
  (if a.user.isEmpty then [] else a.user ++ ['@']) ++ a.host ++
    a.service.elim [] fun n => ':' :: (toString n).toList

/-- An absolute address in its normal form. -/
structure Uri where
  scheme : List Char
  authority : Option Authority
  path : List Char
  query : Option (List Char)
  fragment : Option (List Char)
  deriving DecidableEq, Repr

namespace Uri

/-! ### Scheme -/

/-- The schemes that are hierarchical by themselves, each with the usual number of its service. -/
def hierarchicalSchemes : List (String × Option Nat) :=
  [("file", none), ("http", some 80), ("https", some 443), ("ws", some 80), ("wss", some 443),
   ("ftp", some 21)]

/-- Whether a scheme has a host and a path by itself. -/
def isHierarchical (scheme : List Char) : Bool :=
  hierarchicalSchemes.any fun s => s.1.toList == scheme

/-- The usual number of the service of a scheme. -/
def usualService? (scheme : List Char) : Option Nat :=
  (hierarchicalSchemes.find? fun s => s.1.toList == scheme).bind (·.2)

/-- The characters that count. -/
def counted (cs : List Char) : List Char :=
  cs.filter (!isSkipped ·)

/-- The scheme in small letters and what follows its colon. -/
def scheme? (cs : List Char) : Option (List Char × List Char) := do
  let (scheme, rest) ← splitFirst? (· == ':') cs
  let scheme := counted scheme
  let first ← scheme.head?
  if first.isAlpha && scheme.all fun c => c.isAlphanum || c == '+' || c == '-' || c == '.' then
    some (scheme.map Char.toLower, rest.drop 1)
  else none

/-! ### Authority -/

/-- The name of a user and, behind a colon, a password that is not empty. -/
def userText (cs : List Char) : List Char :=
  let (name, password) := (splitFirst? (· == ':') cs).getD (cs, [])
  encode userReserved name ++
    if password.drop 1 = [] then [] else ':' :: encode userReserved (password.drop 1)

/-- The host and what follows it: the first colon outside brackets ends it. -/
def splitHost (inBrackets : Bool) : List Char → List Char × List Char
  | [] => ([], [])
  | c :: cs =>
    if c == ':' && !inBrackets then ([], c :: cs)
    else
      let (host, rest) := splitHost (c == '[' || (inBrackets && c != ']')) cs
      (c :: host, rest)

/-- The number of a service and what follows it, which is nothing or starts with a backslash. -/
def service? (cs : List Char) : Option (Option Nat × List Char) :=
  let digits := cs.takeWhile Char.isDigit
  let rest := cs.dropWhile Char.isDigit
  let value := digits.foldl (fun n c => 10 * n + (c.toNat - '0'.toNat)) 0
  if value < 0x10000 && rest.head?.all (· == '\\') then
    some (if digits.isEmpty then none else some value, rest)
  else none

/-- The authority that a text gives, and what is left of the text for the path. `closed` tells
whether anything follows the text: a user without a host is refused then. Without a host there is
neither a user nor a service. -/
def authority? (scheme : List Char) (closed : Bool) (cs : List Char) :
    Option (Authority × List Char) := do
  let (user, place) ← match splitLast? (· == '@') cs with
    | some ([], ['@']) => if closed then none else some ([], [])
    | some (user, rest) => some (userText user, rest.drop 1)
    | none => some ([], cs)
  let (host, number) := splitHost false place
  let host ← if isHierarchical scheme then namedHost? host else plainHost? host
  if host.isEmpty && !(user.isEmpty && number.isEmpty) then none
  else
    let (service, rest) ← service? (number.drop 1)
    some (⟨user, host, if service = usualService? scheme then none else service⟩, rest)

/-! ### Addresses -/

/-- Whether a character divides the segments of a path. -/
def isSlash (hierarchical : Bool) (c : Char) : Bool :=
  c == '/' || (hierarchical && c == '\\')

/-- What follows a slash at the front. -/
def afterSlash? (hierarchical : Bool) (cs : List Char) : Option (List Char) :=
  match cs.dropWhile isSkipped with
  | c :: rest => if isSlash hierarchical c then some rest else none
  | [] => none

/-- The text before the first slash and the text from there on. -/
def splitAuthority (hierarchical : Bool) (cs : List Char) : List Char × List Char :=
  (splitFirst? (isSlash hierarchical) cs).getD (cs, [])

/-- The host of a file address, empty if it is this machine, and the text of its path. A drive in
the place of the host belongs to the path. -/
def fileHost? (cs : List Char) : Option (List Char × List Char) := do
  let (host, path) := splitAuthority true cs
  let host := counted host
  if isDrive host then some ([], cs)
  else if host.isEmpty then some ([], path)
  else
    let host ← namedHost? host
    some (if host = "localhost".toList then [] else host, path)

/-- The authority and the path of a file address. -/
def fileParts? (cs : List Char) : Option (Authority × List Char) := do
  let (host, path) ← match afterSlash? true cs with
    | none => some ([], readPath true (isSlash true) ['/'] cs)
    | some rest =>
      match afterSlash? true rest with
      | none => some ([], readPath true (isSlash true) [] cs)
      | some rest => do
        let (host, path) ← fileHost? rest
        -- Behind a host the first slash is the one that divides it from the path.
        let path := if host.isEmpty then path else path.drop 1
        some (host, readPath true (isSlash true) ['/'] path)
  some (⟨[], if path.hasDrive then [] else host, none⟩, path.text)

/-- The authority and the path of an address, by its scheme. `closed` tells whether a query or a
fragment follows. -/
def parts? (scheme : List Char) (closed : Bool) (cs : List Char) :
    Option (Option Authority × List Char) := do
  if scheme = "file".toList then
    let (authority, path) ← fileParts? cs
    some (some authority, path)
  else if isHierarchical scheme then
    let (place, path) := splitAuthority true (cs.dropWhile fun c => isSlash true c || isSkipped c)
    let (authority, rest) ← authority? scheme (closed || !path.isEmpty) (counted place)
    some (some authority, (readPath false (isSlash true) ['/'] (rest ++ path.drop 1)).text)
  else match afterSlash? false cs with
    | none => some (none, encode [] (counted cs))
    | some rest =>
      match afterSlash? false rest with
      | none => some (none, (readPath false (isSlash false) ['/'] rest).text)
      | some rest => do
        let (place, path) := splitAuthority false rest
        let (authority, rest) ← authority? scheme (closed || !path.isEmpty) (counted place)
        let start := if rest.isEmpty then [] else ['/']
        some (some authority, (readPath false (isSlash false) start (rest ++ path)).text)

/-- What stands before the first character `mark` and, if there is one, what stands behind it. -/
def cutAt (mark : Char) (cs : List Char) : List Char × Option (List Char) :=
  match splitFirst? (· == mark) cs with
  | some (before, rest) => (before, some (rest.drop 1))
  | none => (cs, none)

/-- An absolute address; controls and blanks around it and line breaks in it do not count. -/
def parse? (text : String) : Option Uri := do
  let isPadding := fun c : Char => c.toNat ≤ 0x20
  let (scheme, rest) ← scheme? (dropEndWhile isPadding (text.toList.dropWhile isPadding))
  let (rest, fragment) := cutAt '#' rest
  let (rest, query) := cutAt '?' rest
  let (authority, path) ← parts? scheme (query.isSome || fragment.isSome) rest
  return {
    scheme, authority, path
    query := query.map fun q => encode (queryReserved (isHierarchical scheme)) (counted q)
    fragment := fragment.map fun f => encode fragmentReserved (counted f) }

/-- The address as text. Without an authority, two slashes at the front of the path would be taken
for the start of one, so a dot segment is put before them. -/
def text (uri : Uri) : String :=
  let front := match uri.authority, uri.path with
    | some authority, _ => '/' :: '/' :: authority.text
    | none, '/' :: '/' :: _ => ['/', '.']
    | none, _ => []
  String.ofList <| uri.scheme ++ [':'] ++ front ++ uri.path ++
    (uri.query.elim [] ('?' :: ·)) ++ (uri.fragment.elim [] ('#' :: ·))

/-- Whether the path of the address can be looked up on this machine, whatever its scheme. -/
def hasLocalPath (uri : Uri) : Bool :=
  uri.path.head? == some '/' &&
    uri.authority.all fun a => a.host.isEmpty || a.host == "localhost".toList

end Uri

end MarkupAssist
