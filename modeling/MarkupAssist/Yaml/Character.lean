/-!
# Characters of YAML

The classes of characters that the layout of a YAML text depends on. A text is read after its line
breaks have been made uniform (`unifyBreaks`): a line feed, a carriage return, both together and the
next-line control all become a line feed. The two Unicode separators also break a line, but keep
their own character.
-/

namespace MarkupAssist.Yaml

/-- The separator between lines, U+2028. -/
def lineSeparator : Char := '\u2028'

/-- The separator between paragraphs, U+2029. -/
def paragraphSeparator : Char := '\u2029'

/-- The mark that may stand at the start of a line without meaning, U+FEFF. -/
def byteOrderMark : Char := '\ufeff'

/-- Whether a character breaks a line, in a text with uniform breaks. -/
def isBreak (c : Char) : Bool :=
  c == '\n' || c == lineSeparator || c == paragraphSeparator

/-- Whether a character is a blank within a line. -/
def isSpace (c : Char) : Bool :=
  c == ' ' || c == '\t'

/-- Whether a character separates words. -/
def isGap (c : Char) : Bool :=
  isSpace c || isBreak c

/-- Whether a text ends here or goes on with a separation. -/
def atGap : List Char → Bool
  | [] => true
  | c :: _ => isGap c

/-- Whether a character may stand in names of anchors, directives and tag handles. -/
def isNameCharacter (c : Char) : Bool :=
  c.isAlphanum || c == '_' || c == '-'

/-- Whether a character may occur in a text at all. -/
def isPermitted (c : Char) : Bool :=
  let n := c.toNat
  n == 0x09 || n == 0x0A || n == 0x0D || (0x20 ≤ n && n ≤ 0x7E) || n == 0x85 ||
    (0xA0 ≤ n && n ≤ 0xFFFD) || 0x10000 ≤ n

/-- Make the line breaks of a text uniform. -/
def unifyBreaks : List Char → List Char
  | [] => []
  | '\r' :: '\n' :: cs => '\n' :: unifyBreaks cs
  | c :: cs => (if c == '\r' || c == '\u0085' then '\n' else c) :: unifyBreaks cs

/-- Whether a line starts with the marker of a new document or of the end of one. -/
def startsMarker (cs : List Char) : Bool :=
  ("---".toList.isPrefixOf cs || "...".toList.isPrefixOf cs) && atGap (cs.drop 3)

end MarkupAssist.Yaml
