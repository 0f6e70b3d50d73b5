import MarkupAssist.Yaml.BlockText
import MarkupAssist.Yaml.FlowText
import MarkupAssist.Yaml.Token

/-!
# From YAML text to tokens

The text is read from left to right. Two things can only be known later than they are written and
make the reading depend on a state (`Lexer`):

* *Indentation.* A token that starts a collection in a new column opens a block, and a token further
  to the left ends all blocks to the right of it (`Lexer.roll`, `Lexer.unroll`). Inside brackets
  there are no blocks.
* *Simple keys.* A scalar or collection becomes a key only by the colon behind it. So the place of a
  token that may turn out to be a key is remembered, one for each level of brackets
  (`Lexer.saveKey?`), until the colon comes or its line ends (`Lexer.dropStale?`). A token that
  stands where a block needs a key must turn out to be one.

A reading that gets stuck has met a fault and gives `none`. Every token is read from at least one
character, which is why the reading ends (`Lexer.run?`).
-/

namespace MarkupAssist.Yaml

/-- A token that may turn out to be a key. -/
structure SimpleKey where
  /-- The number of tokens before it. -/
  index : Nat
  /-- Whether it must be a key. -/
  required : Bool
  offset : Nat
  line : Nat
  column : Nat

/-- The reading of a text: what is left of it, where that starts, and the tokens so far. -/
structure Lexer where
  rest : List Char
  offset : Nat := 0
  line : Nat := 0
  column : Nat := 0
  tokens : List Token := []
  /-- The column of the innermost block. -/
  indent : Option Nat := none
  /-- The columns of the blocks around it, innermost first. -/
  outerIndents : List (Option Nat) := []
  /-- Whether a key can start here. -/
  keyAllowed : Bool := true
  /-- The token that may turn out to be a key. -/
  simpleKey : Option SimpleKey := none
  /-- The same for each pair of brackets around, innermost first. -/
  outerKeys : List (Option SimpleKey) := []

namespace Lexer

/-! ### Moving on -/

/-- Whether the reading is inside brackets. -/
def inFlow (s : Lexer) : Bool :=
  !s.outerKeys.isEmpty

/-- Move over `n` characters. -/
def skip (s : Lexer) (n : Nat) : Lexer :=
  let passed := s.rest.take n
  { s with
    rest := s.rest.drop n
    offset := s.offset + passed.length
    line := s.line + passed.countP isBreak
    column := columnAfter s.column passed }

/-- Move to the start of `rest`, which is an end of the text that is left. -/
def moveTo (s : Lexer) (rest : List Char) : Lexer :=
  s.skip (s.rest.length - rest.length)

/-- Append a token. -/
def push (s : Lexer) (token : Token) : Lexer :=
  { s with tokens := s.tokens ++ [token] }

/-- Insert a token behind the first `index` tokens. -/
def insert (s : Lexer) (index : Nat) (token : Token) : Lexer :=
  { s with tokens := s.tokens.take index ++ token :: s.tokens.drop index }

/-! ### Blocks -/

/-- Whether a column is to the right of a block. -/
def isRightOf (column : Nat) (block : Option Nat) : Bool :=
  block.all (· < column)

/-- Open a block in a column to the right of the innermost one, with its first token behind the
first `index` tokens. -/
def roll (s : Lexer) (column index : Nat) (token : Token) : Lexer :=
  if !s.inFlow && isRightOf column s.indent then
    { s.insert index token with indent := some column, outerIndents := s.indent :: s.outerIndents }
  else s

/-- Whether a block is to the right of a column, or of the margin if none is given. -/
def isInside (block column : Option Nat) : Bool :=
  match block, column with
  | some b, some c => c < b
  | some _, none => true
  | none, _ => false

/-- Leave the blocks to the right of a column: the block that remains, those around it, and the
number of blocks that end. -/
def leave (column : Option Nat) (block : Option Nat) :
    List (Option Nat) → Option Nat × List (Option Nat) × Nat
  | [] => (block, [], 0)
  | outer :: more =>
    if isInside block column then
      let (block, blocks, n) := leave column outer more
      (block, blocks, n + 1)
    else (block, outer :: more, 0)

/-- End the blocks to the right of a column. -/
def unroll (s : Lexer) (column : Option Nat) : Lexer :=
  if s.inFlow then s
  else
    let (indent, outerIndents, n) := leave column s.indent s.outerIndents
    { s with indent, outerIndents, tokens := s.tokens ++ List.replicate n .blockEnd }

/-! ### Simple keys -/

/-- The most characters that a simple key can have. -/
def keyLimit : Nat := 1024

/-- Give up the token that may turn out to be a key. -/
def dropKey? (s : Lexer) : Option Lexer :=
  if s.simpleKey.any (·.required) then none else some { s with simpleKey := none }

/-- Remember that the next token may turn out to be a key. -/
def saveKey? (s : Lexer) : Option Lexer :=
  if s.keyAllowed then do
    let s ← s.dropKey?
    let required := !s.inFlow && s.indent == some s.column
    return { s with simpleKey := some ⟨s.tokens.length, required, s.offset, s.line, s.column⟩ }
  else some s

/-- Whether a token is too far away to be a key. -/
def isStale (s : Lexer) (key : SimpleKey) : Bool :=
  key.line < s.line || key.offset + keyLimit < s.offset

/-- Give up a token that is too far away to be a key. -/
def freshKey? (s : Lexer) : Option SimpleKey → Option (Option SimpleKey)
  | none => some none
  | some key =>
    if !s.isStale key then some (some key) else if key.required then none else some none

/-- Give up all tokens that are too far away to be keys. -/
def dropStale? (s : Lexer) : Option Lexer := do
  return { s with
    simpleKey := ← s.freshKey? s.simpleKey
    outerKeys := ← s.outerKeys.mapM s.freshKey? }

/-! ### Gaps -/

/-- Move over blanks, comments and line breaks. A line break outside brackets allows a key; where a
key is allowed, a tab is no blank. -/
def skipGapFrom (s : Lexer) (inComment : Bool) : List Char → Lexer
  | [] => s
  | c :: cs =>
    let next := s.skip 1
    if isBreak c then
      skipGapFrom { next with keyAllowed := s.keyAllowed || !s.inFlow } false cs
    else if inComment then skipGapFrom next true cs
    else if c == '#' then skipGapFrom next true cs
    else if c == ' ' || (c == '\t' && (s.inFlow || !s.keyAllowed)) ||
        (c == byteOrderMark && s.column == 0) then
      skipGapFrom next false cs
    else s

/-- Move to the next token. -/
def skipGap (s : Lexer) : Lexer :=
  s.skipGapFrom false s.rest

/-! ### Marks -/

/-- An opening bracket or brace. -/
def openFlow? (s : Lexer) (token : Token) : Option Lexer := do
  let s ← s.saveKey?
  return { (s.skip 1).push token with
    simpleKey := none, outerKeys := s.simpleKey :: s.outerKeys, keyAllowed := true }

/-- A closing bracket or brace. -/
def closeFlow? (s : Lexer) (token : Token) : Option Lexer := do
  let s ← s.dropKey?
  let s := match s.outerKeys with
    | key :: outer => { s with simpleKey := key, outerKeys := outer }
    | [] => s
  return { (s.skip 1).push token with keyAllowed := false }

/-- A comma inside brackets. -/
def comma? (s : Lexer) : Option Lexer := do
  let s ← s.dropKey?
  return { (s.skip 1).push .comma with keyAllowed := true }

/-- The mark of a sequence entry. -/
def entry? (s : Lexer) : Option Lexer := do
  if !s.inFlow && !s.keyAllowed then none
  else
    let s ← (s.roll s.column s.tokens.length .sequenceStart).dropKey?
    return { (s.skip 1).push .entry with keyAllowed := true }

/-- The mark of a key. -/
def key? (s : Lexer) : Option Lexer := do
  if !s.inFlow && !s.keyAllowed then none
  else
    let s ← (s.roll s.column s.tokens.length .mappingStart).dropKey?
    return { (s.skip 1).push .key with keyAllowed := !s.inFlow }

/-- The colon in front of a value. -/
def value? (s : Lexer) : Option Lexer :=
  match s.simpleKey with
  | some key =>
    -- The block that the key opens starts in front of the key, not at the colon.
    let s := (s.insert key.index .key).roll key.column key.index .mappingStart
    some { (s.skip 1).push .value with simpleKey := none, keyAllowed := false }
  | none =>
    if !s.inFlow && !s.keyAllowed then none
    else
      let s := s.roll s.column s.tokens.length .mappingStart
      some { (s.skip 1).push .value with keyAllowed := !s.inFlow }

/-- The marker of a new document or of the end of one. -/
def marker? (s : Lexer) (token : Token) : Option Lexer := do
  let s ← (s.unroll none).dropKey?
  return { (s.skip 3).push token with keyAllowed := false }

/-! ### Anchors and tags -/

/-- Whether a text can go on behind the name of an anchor. -/
def endsName : List Char → Bool
  | [] => true
  | c :: _ => isGap c || ['?', ':', ',', ']', '\x7d', '%', '@', '\x60'].contains c

/-- An anchor or an alias. -/
def anchor? (s : Lexer) (token : List Char → Token) : Option Lexer := do
  let s ← s.saveKey?
  let name := (s.rest.drop 1).takeWhile isNameCharacter
  let s := s.skip (name.length + 1)
  if name.isEmpty || !endsName s.rest then none
  else some { s.push (token name) with keyAllowed := false }

/-- Whether a character may stand in a tag. In an address that is written out, or in the expansion
of a handle, brackets and commas may too. -/
def isTagCharacter (whole : Bool) (c : Char) : Bool :=
  isNameCharacter c || ";/?:@&=+$.%!~*'()".toList.contains c ||
    (whole && (c == ',' || c == '[' || c == ']'))

/-- The text of a tag: an encoded ASCII character is decoded, and a percent sign must be followed
by two digits. -/
def decodeTag? : List Char → Option (List Char)
  | [] => some []
  | '%' :: a :: b :: cs => do
    let n := 16 * (← hexValue? a) + (← hexValue? b)
    let more ← decodeTag? cs
    return if n < 0x80 then Char.ofNat n :: more else '%' :: a :: b :: more
  | '%' :: _ => none
  | c :: cs => (decodeTag? cs).map (c :: ·)

/-- The handle at the start of a tag: exclamation marks with a name between them, or the first mark
with the name behind it. -/
def tagHandle (cs : List Char) : List Char :=
  let name := (cs.drop 1).takeWhile isNameCharacter
  let rest := cs.drop (name.length + 1)
  '!' :: name ++ if rest.head? == some '!' then ['!'] else []

/-- The tag at the start of a text and the number of its characters. -/
def readTag? (cs : List Char) : Option (TagName × Nat) :=
  if cs[1]? == some '<' then do
    let text := (cs.drop 2).takeWhile (isTagCharacter true)
    let suffix ← decodeTag? text
    if suffix.isEmpty || cs[text.length + 2]? != some '>' then none
    else some (⟨[], suffix⟩, text.length + 3)
  else do
    let handle := tagHandle cs
    let text := (cs.drop handle.length).takeWhile (isTagCharacter false)
    let suffix ← decodeTag? text
    let size := handle.length + text.length
    if 1 < handle.length && handle.getLast? == some '!' then
      if suffix.isEmpty then none else some (⟨handle, suffix⟩, size)
    else
      let suffix := handle.drop 1 ++ suffix
      some (if suffix.isEmpty then ⟨[], ['!']⟩ else ⟨['!'], suffix⟩, size)

/-- A tag. -/
def tag? (s : Lexer) : Option Lexer := do
  let s ← s.saveKey?
  let (name, size) ← readTag? s.rest
  let s := s.skip size
  if atGap s.rest || (s.inFlow && s.rest.head? == some ',') then
    some { s.push (.tag name) with keyAllowed := false }
  else none

/-! ### Directives -/

/-- A number in a directive. -/
def readNumber? (cs : List Char) : Option (Nat × List Char) :=
  let digits := cs.takeWhile Char.isDigit
  if digits.isEmpty || 9 < digits.length then none
  else some (digits.foldl (fun n c => 10 * n + (c.toNat - '0'.toNat)) 0, cs.drop digits.length)

/-- The version of a directive. -/
def readVersion? (cs : List Char) : Option (Token × List Char) := do
  let (major, rest) ← readNumber? (cs.dropWhile isSpace)
  let '.' :: rest := rest | none
  let (minor, rest) ← readNumber? rest
  return (.version major minor, rest)

/-- The handle of a directive and its expansion. -/
def readHandle? (cs : List Char) : Option (Token × List Char) := do
  let cs := cs.dropWhile isSpace
  let handle := tagHandle cs
  let rest := cs.drop handle.length
  let text := (rest.dropWhile isSpace).takeWhile (isTagCharacter true)
  let expansion ← decodeTag? text
  let after := (rest.dropWhile isSpace).drop text.length
  if cs.head? == some '!' && handle.getLast? == some '!' && rest.head?.any isSpace &&
      !expansion.isEmpty && atGap after then
    some (.tagHandle handle expansion, after)
  else none

/-- A directive with its line. -/
def directive? (s : Lexer) : Option Lexer := do
  let s ← (s.unroll none).dropKey?
  let name := (s.rest.drop 1).takeWhile isNameCharacter
  let rest := s.rest.drop (name.length + 1)
  let (token, rest) ←
    if !atGap rest then none
    else if name == "YAML".toList then readVersion? rest
    else if name == "TAG".toList then readHandle? rest
    else none
  let rest := rest.dropWhile isSpace
  let rest := if rest.head? == some '#' then rest.dropWhile (!isBreak ·) else rest
  if rest.head?.all isBreak then
    some { (s.moveTo (rest.drop 1)).push token with keyAllowed := false }
  else none

/-! ### Scalars -/

/-- A plain scalar. -/
def plain? (s : Lexer) : Option Lexer := do
  let s ← s.saveKey?
  let result ← readPlain ⟨s.inFlow, s.indent.elim 0 (· + 1)⟩ s.column s.rest
  return { (s.moveTo result.rest).push (.scalar .plain result.text) with
    keyAllowed := result.broke }

/-- A quoted scalar. -/
def quoted? (s : Lexer) (single : Bool) : Option Lexer := do
  let s ← s.saveKey?
  let (text, rest) ← readQuoted single (s.column + 1) (s.rest.drop 1)
  return { (s.moveTo rest).push (.scalar .quoted text) with keyAllowed := false }

/-- A literal or folded scalar. -/
def block? (s : Lexer) (folded : Bool) : Option Lexer := do
  let s ← s.dropKey?
  let result ← readBlock folded s.indent (s.rest.drop 1)
  let style := if folded then .folded else .literal
  return { (s.moveTo result.rest).push (.scalar style result.text) with keyAllowed := true }

/-! ### Tokens -/

/-- Whether a plain scalar can start with these characters. -/
def startsPlain (inFlow : Bool) (c : Char) (cs : List Char) : Bool :=
  !"-?:,[]\x7b\x7d#&*!|>'\"%@\x60".toList.contains c ||
    (c == '-' && !cs.head?.any isSpace) || (!inFlow && (c == '?' || c == ':') && !atGap cs)

/-- Read the next token. -/
def next? (s : Lexer) : Option Lexer :=
  match s.rest with
  | [] => none
  | c :: cs =>
    if s.column == 0 && c == '%' then s.directive?
    else if s.column == 0 && startsMarker s.rest then
      s.marker? (if c == '-' then .documentStart else .documentEnd)
    else if c == '[' then s.openFlow? .openBracket
    else if c == '\x7b' then s.openFlow? .openBrace
    else if c == ']' then s.closeFlow? .closeBracket
    else if c == '\x7d' then s.closeFlow? .closeBrace
    else if c == ',' then s.comma?
    else if c == '-' && atGap cs then s.entry?
    else if c == '?' && (s.inFlow || atGap cs) then s.key?
    else if c == ':' && (s.inFlow || atGap cs) then s.value?
    else if c == '*' then s.anchor? .alias
    else if c == '&' then s.anchor? .anchor
    else if c == '!' then s.tag?
    else if c == '|' && !s.inFlow then s.block? false
    else if c == '>' && !s.inFlow then s.block? true
    else if c == '\'' then s.quoted? true
    else if c == '"' then s.quoted? false
    else if startsPlain s.inFlow c cs && !isGap c then s.plain?
    else none

/-- Read all tokens. -/
def run? (s : Lexer) : Option (List Token) :=
  match (s.skipGap).dropStale? with
  | none => none
  | some t =>
    if t.rest.isEmpty then ((t.unroll none).dropKey?).map (·.tokens)
    else
      match (t.unroll (some t.column)).next? with
      | none => none
      -- A token takes at least one character, so the test never fails.
      | some u => if u.rest.length < s.rest.length then run? u else none
termination_by s.rest.length

end Lexer

/-- The tokens of a text; `none` if it has a fault. -/
def tokens? (text : List Char) : Option (List Token) :=
  if text.all isPermitted then ({ rest := unifyBreaks text } : Lexer).run? else none

end MarkupAssist.Yaml
