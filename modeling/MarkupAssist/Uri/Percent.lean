import MarkupAssist.Text.Units

/-!
# Percent encoding

A character that an address cannot hold is written as its bytes in UTF-8, each as a percent sign and
two hexadecimal digits. Which characters these are depends on the part of the address; controls and
all characters outside ASCII always are. `encode` writes a text so, `decode` gives back the bytes.
-/

namespace MarkupAssist.Uri

/-- The bytes of a character in UTF-8. -/
def utf8Bytes (c : Char) : List Nat :=
  let n := c.toNat
  if n < 0x80 then [n]
  else if n < 0x800 then [0xC0 + n / 0x40, 0x80 + n % 0x40]
  else if n < 0x10000 then [0xE0 + n / 0x1000, 0x80 + n / 0x40 % 0x40, 0x80 + n % 0x40]
  else [0xF0 + n / 0x40000, 0x80 + n / 0x1000 % 0x40, 0x80 + n / 0x40 % 0x40, 0x80 + n % 0x40]

/-- A hexadecimal digit in capitals. -/
def hexDigit (n : Nat) : Char :=
  (Nat.digitChar n).toUpper

/-- The value of a hexadecimal digit. -/
def hexValue? (c : Char) : Option Nat :=
  if c.isDigit then some (c.toNat - '0'.toNat)
  else if 'a' ≤ c.toLower && c.toLower ≤ 'f' then some (c.toLower.toNat - 'a'.toNat + 10)
  else none

/-- A byte in percent encoding. -/
def encodeByte (n : Nat) : List Char :=
  ['%', hexDigit (n / 16), hexDigit (n % 16)]

/-- Encode the characters outside printable ASCII and those of `reserved`. -/
def encode (reserved : List Char) (cs : List Char) : List Char :=
  cs.flatMap fun c =>
    if c.toNat < 0x20 || 0x7E < c.toNat || reserved.contains c then
      (utf8Bytes c).flatMap encodeByte
    else [c]

/-- The bytes of a text in percent encoding. A percent sign without two digits behind it stands for
itself. -/
def decode : List Char → List Nat
  | [] => []
  | '%' :: a :: b :: rest =>
    match hexValue? a, hexValue? b with
    | some high, some low => (16 * high + low) :: decode rest
    | _, _ => 0x25 :: decode (a :: b :: rest)
  | c :: rest => utf8Bytes c ++ decode rest

/-- The text of a sequence of bytes in UTF-8. -/
def ofUtf8? (bytes : List Nat) : Option (List Char) :=
  (String.fromUTF8? ⟨(bytes.map UInt8.ofNat).toArray⟩).map String.toList

/-! ### Reserved characters -/

/-- What is encoded in a fragment. -/
def fragmentReserved : List Char := [' ', '"', '<', '>', '\x60']

/-- What is encoded in a path. -/
def pathReserved : List Char := fragmentReserved ++ ['#', '?', '\x7b', '\x7d']

/-- What is encoded in the name and the password of a user. -/
def userReserved : List Char :=
  pathReserved ++ ['/', ':', ';', '=', '@', '[', '\\', ']', '^', '|']

/-- What is encoded in a query. -/
def queryReserved (hierarchical : Bool) : List Char :=
  [' ', '"', '#', '<', '>'] ++ if hierarchical then ['\''] else []

end MarkupAssist.Uri
