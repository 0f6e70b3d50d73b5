import MarkupAssist.Json.Basic

/-!
# Writing JSON

Two layouts of a JSON value: `Json.compress` on one line without blanks, and `Json.pretty` with one
member or item a line, indented by two spaces a level. Strings escape the quotation mark, the
backslash and the control characters; everything else is written as it is.
-/

namespace MarkupAssist.Json

/-- The hexadecimal digit of a number below sixteen. -/
def hexDigit (n : Nat) : Char :=
  if n < 10 then Char.ofNat ('0'.toNat + n) else Char.ofNat ('a'.toNat + (n - 10))

/-- A character as it stands in a string literal. -/
def escapeChar (c : Char) : String :=
  match c with
  | '"' => "\\\""
  | '\\' => "\\\\"
  | '\x08' => "\\b"
  | '\x0c' => "\\f"
  | '\n' => "\\n"
  | '\r' => "\\r"
  | '\t' => "\\t"
  | _ =>
    if c.toNat < 0x20 then
      "\\u00" ++ String.ofList [hexDigit (c.toNat / 16), hexDigit (c.toNat % 16)]
    else c.toString

/-- A text as a string literal. -/
def quote (s : String) : String :=
  s.foldl (fun acc c => acc ++ escapeChar c) "\"" ++ "\""

/-- A key or string; a string that denotes no text is written empty. -/
def quote? (s : Option String) : String :=
  quote (s.getD "")

mutual

/-- A value on one line. -/
def compress : Json → String
  | null => "null"
  | bool true => "true"
  | bool false => "false"
  | number n => n.render
  | string s => quote? s
  | array items => "[" ++ compressItems items ++ "]"
  | object members => "\x7b" ++ compressMembers members ++ "\x7d"

/-- Items on one line, with a comma between two of them. -/
def compressItems : List Json → String
  | [] => ""
  | [v] => compress v
  | v :: w :: rest => compress v ++ "," ++ compressItems (w :: rest)

/-- Members on one line, with a comma between two of them. -/
def compressMembers : List (Option String × Json) → String
  | [] => ""
  | [(key, v)] => quote? key ++ ":" ++ compress v
  | (key, v) :: m :: rest => quote? key ++ ":" ++ compress v ++ "," ++ compressMembers (m :: rest)

end

/-- A line break and the blanks in front of a line at a nesting level. -/
def newLine (level : Nat) : String :=
  "\n" ++ String.ofList (List.replicate (2 * level) ' ')

mutual

/-- A value with one item or member a line, its containers standing at a nesting level. -/
def prettyAt (level : Nat) : Json → String
  | array [] => "[]"
  | array items => "[" ++ prettyItems (level + 1) items ++ newLine level ++ "]"
  | object [] => "\x7b\x7d"
  | object members => "\x7b" ++ prettyMembers (level + 1) members ++ newLine level ++ "\x7d"
  | null => "null"
  | bool true => "true"
  | bool false => "false"
  | number n => n.render
  | string s => quote? s

/-- Items, each on its line. -/
def prettyItems (level : Nat) : List Json → String
  | [] => ""
  | [v] => newLine level ++ prettyAt level v
  | v :: w :: rest => newLine level ++ prettyAt level v ++ "," ++ prettyItems level (w :: rest)

/-- Members, each on its line. -/
def prettyMembers (level : Nat) : List (Option String × Json) → String
  | [] => ""
  | [(key, v)] => newLine level ++ quote? key ++ ": " ++ prettyAt level v
  | (key, v) :: m :: rest =>
    newLine level ++ quote? key ++ ": " ++ prettyAt level v ++ "," ++
      prettyMembers level (m :: rest)

end

/-- A value with one item or member a line. -/
def pretty (value : Json) : String :=
  prettyAt 0 value

end MarkupAssist.Json
