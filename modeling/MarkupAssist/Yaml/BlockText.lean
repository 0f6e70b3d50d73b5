import MarkupAssist.Yaml.Character

/-!
# Block scalars

A literal or folded scalar stands on lines of its own that are indented more than their
surroundings. Its header may fix the indentation and says what happens to the line breaks at the end
(`Chomping`). Without a fixed indentation that of the first line counts, empty lines before it
included.

A folded scalar joins two lines by a blank, unless one of them starts with a blank or there is an
empty line between them.
-/

namespace MarkupAssist.Yaml

/-- What happens to the line breaks at the end of a block scalar. -/
inductive Chomping where
  /-- All of them are removed. -/
  | strip
  /-- The first one is kept. -/
  | clip
  /-- All of them are kept. -/
  | keep
  deriving DecidableEq, Repr

/-- The header of a block scalar. -/
structure BlockHeader where
  chomping : Chomping := .clip
  /-- By how much the text is indented, if that is fixed. -/
  increment : Option Nat := none

/-- The chomping that a mark in the header stands for. -/
def chomping? (c : Char) : Option Chomping :=
  if c == '+' then some .keep else if c == '-' then some .strip else none

/-- The indentation that a digit in the header stands for; zero is refused later. -/
def increment? (c : Char) : Option Nat :=
  if c.isDigit then some (c.toNat - '0'.toNat) else none

/-- The marks of a header, in either order. -/
def headerMarks (cs : List Char) : BlockHeader × List Char :=
  match cs with
  | [] => ({}, [])
  | c :: rest =>
    match chomping? c, increment? c, rest with
    | some chomping, _, d :: more =>
      match increment? d with
      | some n => (⟨chomping, some n⟩, more)
      | none => (⟨chomping, none⟩, rest)
    | some chomping, _, [] => (⟨chomping, none⟩, [])
    | none, some n, d :: more =>
      match chomping? d with
      | some chomping => (⟨chomping, some n⟩, more)
      | none => (⟨.clip, some n⟩, rest)
    | none, some n, [] => (⟨.clip, some n⟩, [])
    | none, none, _ => ({}, cs)

/-- The header of a block scalar with the text behind its line. -/
def readHeader (cs : List Char) : Option (BlockHeader × List Char) :=
  let (header, rest) := headerMarks cs
  let rest := rest.dropWhile isSpace
  let rest := if rest.head? == some '#' then rest.dropWhile (!isBreak ·) else rest
  if header.increment == some 0 then none
  else
    match rest with
    | [] => some (header, [])
    | c :: rest => if isBreak c then some (header, rest) else none

/-- The indentation of the text, if it is not fixed: the largest of the first line and the empty
lines before it. -/
def firstIndent (column widest : Nat) : List Char → Nat
  | [] => max widest column
  | c :: cs =>
    if c == ' ' then firstIndent (column + 1) widest cs
    else if isBreak c then firstIndent 0 (max widest column) cs
    else max widest column

/-- Whether the indentation in front of the first line, or of an empty line before it, has a tab in
it. -/
def tabBeforeText : List Char → Bool
  | [] => false
  | c :: cs => c == '\t' || ((c == ' ' || isBreak c) && tabBeforeText cs)

/-- A block scalar while it is read. Texts are in reverse. -/
structure BlockState where
  text : List Char := []
  /-- The break behind the last line that is not empty. -/
  lineBreak : List Char := []
  /-- The breaks of the empty lines behind it. -/
  emptyLines : List Char := []
  /-- Whether the last line starts with a blank. -/
  startsBlank : Bool := false

/-- A block scalar that has been read, with the column in front of the rest. -/
structure BlockText where
  text : List Char
  column : Nat
  rest : List Char

/-- The scalar at its end. -/
def BlockState.finish (chomping : Chomping) (s : BlockState) : List Char :=
  match chomping with
  | .strip => s.text.reverse
  | .clip => (s.lineBreak ++ s.text).reverse
  | .keep => (s.emptyLines ++ s.lineBreak ++ s.text).reverse

/-- Start a line with the character `c`: the breaks before it become part of the text. -/
def BlockState.startLine (folded : Bool) (s : BlockState) (c : Char) : BlockState :=
  let joined := folded && s.lineBreak == ['\n'] && !s.startsBlank && !isSpace c
  let before :=
    if joined then (if s.emptyLines.isEmpty then [' '] else s.emptyLines)
    else s.emptyLines ++ s.lineBreak
  { text := c :: (before ++ s.text), startsBlank := isSpace c }

/-- Read on in a block scalar of a given indentation. `column` is the column while the indentation
of a line is read, and `none` within the text of a line. -/
def readBlockFrom (folded : Bool) (chomping : Chomping) (indent : Nat) (s : BlockState) :
    Option Nat → List Char → Option BlockText
  | column, [] => some ⟨s.finish chomping, column.getD 1, []⟩
  | none, c :: cs =>
    if isBreak c then
      readBlockFrom folded chomping indent { s with lineBreak := [c], emptyLines := [] } (some 0) cs
    else readBlockFrom folded chomping indent { s with text := c :: s.text } none cs
  | some column, c :: cs =>
    if column < indent && c == ' ' then
      readBlockFrom folded chomping indent s (some (column + 1)) cs
    else if column < indent && c == '\t' then none
    -- A line that ends within its indentation is empty.
    else if isBreak c then
      readBlockFrom folded chomping indent { s with emptyLines := c :: s.emptyLines } (some 0) cs
    else if column == indent then
      readBlockFrom folded chomping indent (s.startLine folded c) none cs
    else some ⟨s.finish chomping, column, c :: cs⟩

/-- Read a block scalar behind its mark, in a block whose indentation is `parent`. -/
def readBlock (folded : Bool) (parent : Option Nat) (cs : List Char) : Option BlockText := do
  let (header, cs) ← readHeader cs
  match header.increment with
  | some n => readBlockFrom folded header.chomping (parent.getD 0 + n) {} (some 0) cs
  | none =>
    if tabBeforeText cs then none
    else
      let least := max 1 (parent.elim 0 (· + 1))
      readBlockFrom folded header.chomping (max (firstIndent 0 0 cs) least) {} (some 0) cs

end MarkupAssist.Yaml
