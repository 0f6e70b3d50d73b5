import MarkupAssist.Domain.Excluded
import MarkupAssist.Domain.LongForm
import MarkupAssist.Domain.ShortForm
import MarkupAssist.Text.LowerCase

/-!
# Letters of a domain name

How a domain name is written in the letters in which names are compared. `fold?` gives for every
character what it stands for: nothing if it has no look of its own, its small letter if it is a
capital, and itself for most others. It fails on a character that no name has. A character that
stands for itself is *settled* (`isSettled`).
-/

namespace MarkupAssist.Domain

open Text

/-- The capitals of the Cherokee script. There the capitals are the usual letters, so they stay. -/
def cherokeeTable : CodeTable := [(0x13A0, 0x13F5)]

/-- What a character stands for in a domain name; `none` if no name has it. -/
def fold? (c : Char) : Option (List Char) :=
  if skippedTable.contains c then some []
  else if excludedTable.contains c then none
  else if cherokeeTable.contains c then some [c]
  else match longForm? c, shortForm? c with
    | some long, _ => some long
    | none, some short => some [short]
    | none, none => some (lowerCase c)

/-- Whether a character stands for itself. -/
def isSettled (c : Char) : Bool :=
  fold? c == some [c]

/-- Whether a character of ASCII cannot be in a domain name: controls, blanks, and the signs that
divide the parts of an address. -/
def isRefused (c : Char) : Bool :=
  c.toNat ≤ 0x20 || c.toNat == 0x7F || "#%/:<>?@[\\]^|".toList.contains c

end MarkupAssist.Domain
