import MarkupAssist.Yaml.Character

/-!
# Plain and quoted scalars

A scalar that goes on over several lines is folded: a gap between two words that contains a line
break stands for a blank, and each further line break of the gap for itself (`foldGap`). A gap
within a line stands for itself.

* `readPlain` reads a scalar without quotes up to where it ends by itself.
* `readQuoted` reads a scalar behind its opening quote. Single quotes are written twice inside;
  double quotes have escapes.
-/

namespace MarkupAssist.Yaml

/-- What a gap between two words stands for. -/
def foldGap (gap : List Char) : List Char :=
  match gap.filter isBreak with
  | [] => gap
  | ['\n'] => [' ']
  | '\n' :: more => more
  | breaks => breaks

/-- The column behind a gap that starts in a given column. -/
def columnAfter (column : Nat) (gap : List Char) : Nat :=
  gap.foldl (fun n c => if isBreak c then 0 else n + 1) column

/-! ### Plain scalars -/

/-- Whether a character has a meaning of its own inside brackets. -/
def isFlowIndicator (c : Char) : Bool :=
  c == ',' || c == '[' || c == ']' || c == '\x7b' || c == '\x7d'

/-- Where a plain scalar stands: inside brackets or not, and the least column of its further
lines. -/
structure PlainPlace where
  inFlow : Bool
  indent : Nat

/-- A plain scalar that has been read. -/
structure PlainText where
  text : List Char
  /-- Whether the scalar is followed by a line break. -/
  broke : Bool
  rest : List Char

/-- Whether a plain scalar stops in front of the character `c`, given the gap before it. -/
def plainStops (place : PlainPlace) (column : Nat) (gap : List Char) (c : Char)
    (cs : List Char) : Bool :=
  (!gap.isEmpty &&
    (c == '#' || (column == 0 && startsMarker (c :: cs)) ||
      (gap.any isBreak && !place.inFlow && column < place.indent))) ||
  (c == ':' && atGap cs) || (place.inFlow && isFlowIndicator c)

/-- Read on in a plain scalar, given its text so far in reverse, the gap behind it in reverse and
the column. A tab in the indentation of a further line is a fault, and so is a colon in front of a
bracket or comma inside brackets. -/
def readPlainFrom (place : PlainPlace) (text gap : List Char) (column : Nat) :
    List Char → Option PlainText
  | [] => some ⟨text.reverse, gap.any isBreak, []⟩
  | c :: cs =>
    if isGap c then
      if c == '\t' && gap.any isBreak && column < place.indent then none
      else readPlainFrom place text (c :: gap) (columnAfter column [c]) cs
    else if c == ':' && place.inFlow && cs.head?.any (fun d => isFlowIndicator d || d == '?') then
      none
    else if plainStops place column gap c cs then
      some ⟨text.reverse, gap.any isBreak, c :: cs⟩
    else
      readPlainFrom place (c :: ((foldGap gap.reverse).reverse ++ text)) [] (column + 1) cs

/-- Read a plain scalar that starts in a given column. -/
def readPlain (place : PlainPlace) (column : Nat) (cs : List Char) : Option PlainText :=
  readPlainFrom place [] [] column cs

/-! ### Quoted scalars -/

/-- The character that an escape with one letter stands for. -/
def shortEscape? (c : Char) : Option Char :=
  [('0', '\x00'), ('a', '\x07'), ('b', '\x08'), ('t', '\t'), ('\t', '\t'), ('n', '\n'),
   ('v', '\x0b'), ('f', '\x0c'), ('r', '\r'), ('e', '\x1b'), (' ', ' '), ('"', '"'), ('/', '/'),
   ('\\', '\\'), ('N', '\u0085'), ('_', '\u00a0'), ('L', lineSeparator),
   ('P', paragraphSeparator)].lookup c

/-- The number of hexadecimal digits behind the letter of a numeric escape. -/
def escapeDigits? (c : Char) : Option Nat :=
  [('x', 2), ('u', 4), ('U', 8)].lookup c

/-- The value of a hexadecimal digit. -/
def hexValue? (c : Char) : Option Nat :=
  if c.isDigit then some (c.toNat - '0'.toNat)
  else if 'a' ≤ c && c ≤ 'f' then some (c.toNat - 'a'.toNat + 10)
  else if 'A' ≤ c && c ≤ 'F' then some (c.toNat - 'A'.toNat + 10)
  else none

/-- The character with a given code, if it is one. -/
def character? (code : Nat) : Option Char :=
  if h : code.isValidChar then some (Char.ofNatAux code h) else none

/-- What the next characters of a quoted scalar are part of. -/
inductive QuotedMode where
  /-- Text, behind a gap. After an escaped line break the gap keeps only its breaks. -/
  | text (gap : List Char) (escapedBreak : Bool)
  /-- An escape, behind its backslash. -/
  | escape
  /-- The digits of a numeric escape: how many are to come, and their value so far. -/
  | digits (left code : Nat)
  /-- A quote, which may be the first of two. -/
  | quote

/-- What a gap of a quoted scalar stands for. -/
def quotedGap (gap : List Char) (escapedBreak : Bool) : List Char :=
  if escapedBreak then gap.filter isBreak else foldGap gap

/-- Read on in a scalar in single quotes, given its text so far in reverse. -/
def readSingle (text : List Char) (column : Nat) : QuotedMode → List Char →
    Option (List Char × List Char)
  | .quote, [] => some (text.reverse, [])
  | _, [] => none
  | .quote, c :: cs =>
    if c == '\'' then readSingle ('\'' :: text) (column + 1) (.text [] false) cs
    else some (text.reverse, c :: cs)
  | .text gap _, c :: cs =>
    if isGap c then readSingle text (columnAfter column [c]) (.text (c :: gap) false) cs
    else if !gap.isEmpty && column == 0 && startsMarker (c :: cs) then none
    else
      let text := (foldGap gap.reverse).reverse ++ text
      if c == '\'' then readSingle text (column + 1) .quote cs
      else readSingle (c :: text) (column + 1) (.text [] false) cs
  | _, _ => none

/-- Read on in a scalar in double quotes, given its text so far in reverse. -/
def readDouble (text : List Char) (column : Nat) : QuotedMode → List Char →
    Option (List Char × List Char)
  | _, [] => none
  | .text gap escapedBreak, c :: cs =>
    if isGap c then
      readDouble text (columnAfter column [c]) (.text (c :: gap) escapedBreak) cs
    else if !gap.isEmpty && column == 0 && startsMarker (c :: cs) then none
    else
      let text := (quotedGap gap.reverse escapedBreak).reverse ++ text
      if c == '"' then some (text.reverse, cs)
      else if c == '\\' then readDouble text (column + 1) .escape cs
      else readDouble (c :: text) (column + 1) (.text [] false) cs
  | .escape, c :: cs =>
    if isBreak c then readDouble text 0 (.text [] true) cs
    else
      match shortEscape? c, escapeDigits? c with
      | some d, _ => readDouble (d :: text) (column + 1) (.text [] false) cs
      | none, some n => readDouble text (column + 1) (.digits n 0) cs
      | none, none => none
  | .digits left code, c :: cs =>
    match hexValue? c with
    | none => none
    | some n =>
      let code := 16 * code + n
      if 1 < left then readDouble text (column + 1) (.digits (left - 1) code) cs
      else
        match character? code with
        | some d => readDouble (d :: text) (column + 1) (.text [] false) cs
        | none => none
  | .quote, _ => none

/-- Read a quoted scalar behind its opening quote, which may be single or double. -/
def readQuoted (single : Bool) (column : Nat) (cs : List Char) :
    Option (List Char × List Char) :=
  if single then readSingle [] column (.text [] false) cs
  else readDouble [] column (.text [] false) cs

end MarkupAssist.Yaml
