import MarkupAssist.Text.Alphabetic
import MarkupAssist.Text.Mark
import MarkupAssist.Text.Numeric

/-!
# Character classes of markup

The classes in which tag and attribute names, blanks and words are described:

* `isBlank` is the Unicode property `White_Space`;
* `isWord` holds of the characters a word of markup is made of: alphabetic characters, marks,
  decimal digits, connecting punctuation such as the underscore, and the two join controls;
* `isNameChar` adds the hyphen, so that runs of it are tag and attribute names;
* `isAlphanumeric` holds of alphabetic characters and numbers of any kind;
* `isQuote` holds of the two quotation marks that delimit attribute values.

No blank is a name character, so a maximal run of name characters never swallows the blank that
ends it.
-/

namespace MarkupAssist.Text

/-- Whether `c` is white space. -/
def isBlank (c : Char) : Bool :=
  let n := c.toNat
  (9 ≤ n && n ≤ 13) || n == 0x20 || n == 0x85 || n == 0xA0 || n == 0x1680 ||
    (0x2000 ≤ n && n ≤ 0x200A) || n == 0x2028 || n == 0x2029 || n == 0x202F || n == 0x205F ||
    n == 0x3000

/-- The connecting punctuation from U+0080 on. -/
def connectorTable : CodeTable :=
  [(0x203F, 0x2040), (0x2054, 0x2054), (0xFE33, 0xFE34), (0xFE4D, 0xFE4F), (0xFF3F, 0xFF3F)]

/-- Whether `c` may stand in a word of markup. -/
def isWord (c : Char) : Bool :=
  if c.toNat < 0x80 then c.isAlphanum || c == '_'
  else
    isAlphabetic c || isMark c || isDecimal c || connectorTable.contains c ||
      c.toNat == 0x200C || c.toNat == 0x200D

/-- Whether `c` may stand in a tag or attribute name. -/
def isNameChar (c : Char) : Bool :=
  isWord c || c == '-'

/-- Whether `c` is a letter or a number. -/
def isAlphanumeric (c : Char) : Bool :=
  isAlphabetic c || isNumeric c

/-- Whether `c` delimits an attribute value. -/
def isQuote (c : Char) : Bool :=
  c == '"' || c == '\''

end MarkupAssist.Text
