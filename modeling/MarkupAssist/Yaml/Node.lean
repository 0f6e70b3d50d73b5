import MarkupAssist.Yaml.Lexer

/-!
# From tokens to nodes

The content of a YAML document as a tree (`Node`). An alias refers to an anchored node by a number;
the anchored nodes of a document are kept beside its root (`Document.anchored`), so that a node may
also refer to a node it is part of.

A text is a stream of documents, of which at most one is of interest here: `parse?` fails on a text
with a fault or with several documents. A text without any document is no fault.
-/

namespace MarkupAssist.Yaml

/-- A node of a document. -/
inductive Node where
  | scalar (tag : Option (List Char)) (style : Style) (text : List Char)
  | sequence (tag : Option (List Char)) (items : List Node)
  | mapping (tag : Option (List Char)) (pairs : List (Node × Node))
  | alias (number : Nat)
  deriving Repr, Inhabited

/-- A scalar that is not written. -/
def Node.empty (tag : Option (List Char)) : Node :=
  .scalar tag .plain []

/-- A document: its root and its anchored nodes by their numbers, the last ones first. -/
structure Document where
  root : Node
  anchored : List (Nat × Node)
  deriving Repr

/-- What an alias stands for; other nodes stand for themselves. -/
def Document.resolve (document : Document) : Node → Node
  | .alias number => (document.anchored.lookup number).getD (.empty none)
  | node => node

/-- The reading of tokens: those that are left, the expansions of tag handles, and the anchors so
far. An anchor has as its number the number of names before it. -/
structure Reading where
  tokens : List Token
  handles : List (List Char × List Char)
  numbers : List (List Char × Nat) := []
  anchored : List (Nat × Node) := []

/-- A reader of tokens, which may fail. -/
abbrev Reader := StateT Reading Option

namespace Reader

/-- The next token, if there is one. -/
def peek : Reader (Option Token) := do
  return (← get).tokens.head?

/-- Move over a token. -/
def skip : Reader Unit :=
  modify fun r => { r with tokens := r.tokens.tail }

/-- Whether the next token is one of those given, or there is none. -/
def atEnd (stops : List Token) : Reader Bool := do
  return (← peek).all stops.contains

/-- Move over a token if it is the next one. -/
def accept (token : Token) : Reader Bool := do
  if (← peek) == some token then
    skip
    return true
  else return false

/-- Move over a token, which must be the next one. -/
def expect (token : Token) : Reader Unit := do
  if ← accept token then pure () else failure

/-- Take up an anchor and give its number. -/
def declare (name : List Char) : Reader Nat := do
  let r ← get
  let number := r.numbers.length
  set { r with numbers := (name, number) :: r.numbers.filter (·.1 != name) }
  return number

/-- The number of an anchor that has been taken up. -/
def numberOf (name : List Char) : Reader Nat := do
  match (← get).numbers.lookup name with
  | some number => return number
  | none => failure

/-- Keep the node of an anchor. -/
def keep (number : Option Nat) (node : Node) : Reader Node := do
  match number with
  | some n => modify fun r => { r with anchored := (n, node) :: r.anchored }
  | none => pure ()
  return node

/-- The full text of a tag. -/
def expandTag (name : TagName) : Reader (List Char) := do
  if name.handle.isEmpty then return name.suffix
  else
    match (← get).handles.lookup name.handle with
    | some expansion => return expansion ++ name.suffix
    | none => failure

/-- The anchor and the tag in front of a node, in either order. -/
def properties : Reader (Option Nat × Option (List Char)) := do
  match ← peek with
  | some (.anchor name) =>
    skip
    let number ← declare name
    match ← peek with
    | some (.tag tag) =>
      skip
      return (some number, some (← expandTag tag))
    | _ => return (some number, none)
  | some (.tag tag) =>
    skip
    match ← peek with
    | some (.anchor name) =>
      skip
      let full ← expandTag tag
      return (some (← declare name), some full)
    | _ => return (none, some (← expandTag tag))
  | _ => return (none, none)

/-- Where a node stands: in a block, in a block where a sequence needs no indentation, or inside
brackets. -/
inductive Place where
  | block
  | blockEntry
  | flow
  deriving DecidableEq

/-- A node of which only an anchor or a tag is written. -/
def bare (number : Option Nat) (tag : Option (List Char)) : Reader Node :=
  if number.isSome || tag.isSome then keep number (.empty tag) else failure

mutual

/-- A node. The first argument bounds the number of steps. -/
def node : Nat → Place → Reader Node
  | 0, _ => failure
  | fuel + 1, place => do
    match ← peek with
    | some (.alias name) =>
      skip
      return .alias (← numberOf name)
    | _ =>
      let (number, tag) ← properties
      match ← peek with
      | some (.scalar style text) =>
        skip
        keep number (.scalar tag style text)
      | some .openBracket =>
        skip
        keep number (.sequence tag (← flowItems fuel true))
      | some .openBrace =>
        skip
        keep number (.mapping tag (← flowPairs fuel true))
      | some .entry =>
        if place = .blockEntry then keep number (.sequence tag (← looseItems fuel))
        else bare number tag
      | some .sequenceStart =>
        if place = .flow then bare number tag
        else
          skip
          keep number (.sequence tag (← blockItems fuel))
      | some .mappingStart =>
        if place = .flow then bare number tag
        else
          skip
          keep number (.mapping tag (← blockPairs fuel))
      | _ => bare number tag

/-- A node, or an empty one in front of a token that cannot start a node there. -/
def nodeUnless : Nat → Place → List Token → Reader Node
  | 0, _, _ => failure
  | fuel + 1, place, stops => do
    if ← atEnd stops then return .empty none else node fuel place

/-- The entries of a sequence up to the end of its block. -/
def blockItems : Nat → Reader (List Node)
  | 0 => failure
  | fuel + 1 => do
    if ← accept .entry then
      let item ← nodeUnless fuel .block [.entry, .blockEnd]
      return item :: (← blockItems fuel)
    else
      expect .blockEnd
      return []

/-- The entries of a sequence that is not indented in its mapping. -/
def looseItems : Nat → Reader (List Node)
  | 0 => failure
  | fuel + 1 => do
    if ← accept .entry then
      let item ← nodeUnless fuel .block [.entry, .key, .value, .blockEnd]
      return item :: (← looseItems fuel)
    else return []

/-- The pairs of a mapping up to the end of its block. -/
def blockPairs : Nat → Reader (List (Node × Node))
  | 0 => failure
  | fuel + 1 => do
    if ← accept .blockEnd then return []
    else
      expect .key
      let name ← nodeUnless fuel .blockEntry [.key, .value, .blockEnd]
      let content ←
        if ← accept .value then nodeUnless fuel .blockEntry [.key, .value, .blockEnd]
        else pure (.empty none)
      return (name, content) :: (← blockPairs fuel)

/-- The value of a pair inside brackets. -/
def flowValue : Nat → Token → Reader Node
  | 0, _ => failure
  | fuel + 1, closing => do
    if ← accept .value then nodeUnless fuel .flow [.comma, closing] else return .empty none

/-- The entries of a sequence up to its closing bracket; an entry may be a single pair. -/
def flowItems : Nat → Bool → Reader (List Node)
  | 0, _ => failure
  | fuel + 1, isFirst => do
    if ← accept .closeBracket then return []
    else
      if !isFirst then expect .comma
      if ← accept .key then
        let empty ← atEnd [.value, .comma, .closeBracket]
        let name ←
          if empty then
            skip
            pure (.empty none)
          else node fuel .flow
        let content ← flowValue fuel .closeBracket
        return .mapping none [(name, content)] :: (← flowItems fuel false)
      else if ← accept .closeBracket then return []
      else
        let item ← node fuel .flow
        return item :: (← flowItems fuel false)

/-- The pairs of a mapping up to its closing brace; a value may be missing. -/
def flowPairs : Nat → Bool → Reader (List (Node × Node))
  | 0, _ => failure
  | fuel + 1, isFirst => do
    if ← accept .closeBrace then return []
    else
      if !isFirst then expect .comma
      if ← accept .key then
        let name ← nodeUnless fuel .flow [.value, .comma, .closeBrace]
        let content ← flowValue fuel .closeBrace
        return (name, content) :: (← flowPairs fuel false)
      else if ← accept .closeBrace then return []
      else
        let name ← node fuel .flow
        return (name, .empty none) :: (← flowPairs fuel false)

end

/-- The directives in front of a document, with the handles they declare. -/
def directives (versioned : Bool) (handles : List (List Char × List Char)) :
    List Token → Option (List (List Char × List Char) × List Token)
  | .version major minor :: rest =>
    if !versioned && major == 1 && (minor == 1 || minor == 2) then directives true handles rest
    else none
  | .tagHandle handle expansion :: rest =>
    if (handles.lookup handle).isSome then none
    else directives versioned ((handle, expansion) :: handles) rest
  | rest => some (handles, rest)

/-- The handles that are always known. -/
def standardHandles : List (List Char × List Char) :=
  [(['!'], ['!']), (['!', '!'], "tag:yaml.org,2002:".toList)]

/-- The root of a document, which may be left out behind a marker. -/
def root (fuel : Nat) (isMarked : Bool) : Reader Node := do
  let next ← peek
  if isMarked && (next.isNone || next == some .documentStart || next == some .documentEnd) then
    return .empty none
  else
    let node ← node fuel .block
    let _ ← accept .documentEnd
    return node

end Reader

/-- The document of a list of tokens, if there is one: at most one document can be there. -/
def Document.ofTokens? (tokens : List Token) : Option (Option Document) := do
  let (handles, rest) ← Reader.directives false [] tokens
  let isMarked := rest.head? == some .documentStart
  if tokens.isEmpty then return none
  else if rest.length < tokens.length && !isMarked then none
  else
    let start : Reading :=
      { tokens := if isMarked then rest.tail else rest
        handles := handles ++ Reader.standardHandles }
    let (root, last) ← Reader.root (3 * tokens.length + 3) isMarked start
    if last.tokens.all (· == .documentEnd) then
      return some { root, anchored := last.anchored }
    else none

/-- The document of a text, if there is one. -/
def parse? (text : String) : Option (Option Document) := do
  Document.ofTokens? (← tokens? text.toList)

end MarkupAssist.Yaml
