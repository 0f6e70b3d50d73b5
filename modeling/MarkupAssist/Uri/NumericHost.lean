import MarkupAssist.Text.Split
import MarkupAssist.Uri.Percent

/-!
# Hosts given by number

A host may be given by its number instead of its name: as up to four numbers with dots between them
(`ipv4?`), or in brackets as eight numbers with colons between them (`ipv6?`). Both can be written
in many ways; `ipv4Text` and `ipv6Text` are the usual ones.
-/

namespace MarkupAssist.Uri

open Text

/-- The value of a row of digits to a base; `none` if one of them is not a digit of that base. -/
def digits? (base : Nat) (cs : List Char) : Option Nat :=
  cs.foldlM (fun n c => do
    let value ← hexValue? c
    if value < base then some (base * n + value) else none) 0

/-! ### Four numbers -/

/-- A number in decimal, in octal behind a zero, or in hexadecimal behind `0x`. -/
def number? : List Char → Option Nat
  | [] => none
  | '0' :: 'x' :: rest | '0' :: 'X' :: rest => digits? 16 rest
  | '0' :: c :: rest => digits? 8 (c :: rest)
  | cs => digits? 10 cs

/-- The parts of a host between its dots; one dot at the end does not count. -/
def hostParts (host : List Char) : List (List Char) :=
  let parts := pieces (· == '.') host
  if parts.length ≠ 1 && parts.getLast? == some [] then parts.dropLast else parts

/-- Whether the last part of a host is a number, so that all of it has to be one. -/
def endsInNumber (host : List Char) : Bool :=
  (hostParts host).getLast?.any fun part =>
    (!part.isEmpty && part.all Char.isDigit) || (number? part).isSome

/-- The number of a host. The last part fills all the bytes that are not given by the others. -/
def ipv4? (host : List Char) : Option Nat := do
  let numbers ← (hostParts host).mapM number?
  let last ← numbers.getLast?
  let first := numbers.dropLast
  if first.length ≤ 3 && first.all (· < 0x100) && last < Nat.pow 0x100 (4 - first.length) then
    some (first.foldl (fun n part => 0x100 * n + part) 0 * Nat.pow 0x100 (4 - first.length) + last)
  else none

/-- A number as four bytes in decimal. -/
def ipv4Text (n : Nat) : List Char :=
  List.intercalate ['.'] <|
    [n / 0x1000000, n / 0x10000 % 0x100, n / 0x100 % 0x100, n % 0x100].map fun byte =>
      (toString byte).toList

/-! ### Eight numbers -/

/-- A byte in decimal, without zeros in front. -/
def byte? (cs : List Char) : Option Nat := do
  let value ← if cs.isEmpty || (cs.length ≠ 1 && cs.head? == some '0') then none else digits? 10 cs
  if value < 0x100 then some value else none

/-- Two groups given as four bytes. -/
def bytePairs? (cs : List Char) : Option (List Nat) := do
  match ← (pieces (· == '.') cs).mapM byte? with
  | [a, b, c, d] => some [0x100 * a + b, 0x100 * c + d]
  | _ => none

/-- A group of one to four hexadecimal digits. -/
def group? (cs : List Char) : Option Nat :=
  if cs.isEmpty || 4 < cs.length then none else digits? 16 cs

/-- The groups of an address while it is read, and the place of the gap that a double colon leaves:
groups of zeros are filled in there, at least one. -/
structure Groups where
  done : List Nat
  gap : Option Nat

namespace Groups

/-- The groups up to a gap. -/
def leaveGap? (s : Groups) : Option Groups :=
  if s.gap.isSome || s.done.length = 8 then none
  else some ⟨s.done ++ [0], some (s.done.length + 1)⟩

/-- Append groups; an address has at most eight. -/
def append? (s : Groups) (groups : List Nat) : Option Groups :=
  if 8 < s.done.length + groups.length then none else some { s with done := s.done ++ groups }

/-- Read the pieces between colons. `afterGap` tells whether a double colon stands before them: then
nothing has to follow. -/
def read? (s : Groups) (afterGap : Bool) : List (List Char) → Option Groups
  | [] => none
  | [last] =>
    if last.isEmpty then if afterGap then some s else none
    else if last.contains '.' then bytePairs? last >>= s.append?
    else group? last >>= fun group => s.append? [group]
  | piece :: rest =>
    if piece.isEmpty then s.leaveGap? >>= fun s => s.read? true rest
    else group? piece >>= fun group => s.append? [group] >>= fun s => s.read? false rest

/-- All eight groups. -/
def fill? (s : Groups) : Option (List Nat) :=
  match s.gap with
  | some gap => some (s.done.take gap ++ List.replicate (8 - s.done.length) 0 ++ s.done.drop gap)
  | none => if s.done.length = 8 then some s.done else none

end Groups

/-- The eight groups of an address. -/
def ipv6? (text : List Char) : Option (List Nat) := do
  let groups ← match pieces (· == ':') text with
    | [] :: [] :: rest => Groups.read? ⟨[0], some 1⟩ true rest
    | [] :: _ => none
    | parts => Groups.read? ⟨[], none⟩ false parts
  groups.fill?

/-- The number of zeros at the front. -/
def zerosInFront (groups : List Nat) : Nat :=
  (groups.takeWhile (· == 0)).length

/-- Where the first of the longest runs of zeros starts, and its length. -/
def longestZeros (groups : List Nat) : Nat × Nat :=
  (List.range groups.length).foldl (fun (start, length) i =>
    let zeros := zerosInFront (groups.drop i)
    if length < zeros then (i, zeros) else (start, length)) (0, 0)

/-- The address with its longest run of at least two zeros written as a double colon. -/
def ipv6Text (groups : List Nat) : List Char :=
  let join := fun groups : List Nat => List.intercalate [':'] (groups.map (Nat.toDigits 16))
  let (start, length) := longestZeros groups
  if length < 2 then join groups
  else join (groups.take start) ++ [':', ':'] ++ join (groups.drop (start + length))

end MarkupAssist.Uri
