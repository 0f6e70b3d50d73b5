import MarkupAssist.Domain.Letter
import MarkupAssist.Domain.Punycode
import MarkupAssist.Text.Composition
import MarkupAssist.Text.Direction
import MarkupAssist.Text.Joining
import MarkupAssist.Text.Mark

/-!
# Labels of a domain name

A label is what stands between two dots of a domain name. Letters outside ASCII may be given as such
or in ASCII behind the mark `xn--`; `label?` reads both, and `written` is the form in ASCII.

Three rules keep labels legible:

* a label does not start with a mark (`isWellFormed`);
* an invisible joiner stands only where it changes how letters look (`joinersFit`);
* in a name with letters that are read from the right, every label is read in one direction
  (`isOneWay`).
-/

namespace MarkupAssist.Domain

open Text

/-- What a label in ASCII starts with if it stands for other letters. -/
def asciiMark : List Char := "xn--".toList

/-- The longest label that is read from ASCII, without the mark. -/
def asciiLimit : Nat := 2000

/-- The longest label that is written in ASCII. -/
def letterLimit : Nat := 1000

/-- Whether a label is ASCII. -/
def isAscii (label : List Char) : Bool :=
  label.all (·.toNat < 0x80)

/-- The letters of a label whose characters have been folded. What is given in ASCII has to be given
so that nothing in it would be folded or composed, and has to need it. -/
def label? (label : List Char) : Option (List Char) :=
  if asciiMark.isPrefixOf label then do
    let text := label.drop asciiMark.length
    let letters ← if text.length ≤ asciiLimit then Punycode.decode? text else none
    if letters.all (fun c => isSettled c && !isRefused c && c != '.') && !isAscii letters &&
        compose letters == letters then
      some letters
    else none
  else some label

/-- The form of a label in ASCII. -/
def written (label : List Char) : List Char :=
  if isAscii label then label else asciiMark ++ Punycode.encode label

/-! ### Joiners -/

/-- The invisible character that joins letters. -/
def joiner : Char := Char.ofNat 0x200D

/-- The invisible character that keeps letters from being joined. -/
def nonJoiner : Char := Char.ofNat 0x200C

/-- Whether the next letter, behind all that is looked through, joins in one of the given ways. -/
def nextJoins (ways : List Joining) (cs : List Char) : Bool :=
  (cs.find? fun c => joining c != .transparent).any fun c => ways.contains (joining c)

/-- Whether a joiner has its place between what is before it, given backwards, and what is after it:
behind a silenced consonant, or between two letters that it keeps from being joined. -/
def joinerFits (before : List Char) (c : Char) (after : List Char) : Bool :=
  match before with
  | [] => false
  | previous :: _ =>
    combiningClass previous == viramaClass ||
      (c == nonJoiner && nextJoins [.toNext, .onBothSides] before &&
        nextJoins [.toPrevious, .onBothSides] after)

/-- Whether all joiners of a label have their place. -/
def joinersFit (before : List Char) : List Char → Bool
  | [] => true
  | c :: after =>
    (!(c == joiner || c == nonJoiner) || joinerFits before c after) &&
      joinersFit (c :: before) after

/-- Whether a label is well formed by itself. -/
def isWellFormed (label : List Char) : Bool :=
  !label.head?.any isMark && joinersFit [] label &&
    (isAscii label || label.length ≤ letterLimit)

/-! ### Direction -/

/-- Whether a label has a character that is read from the right. -/
def hasFromRight (label : List Char) : Bool :=
  label.any fun c => direction c == .fromRight || direction c == .arabicNumber

/-- Whether a label is read in one direction: that of its first letter. At its end stands a letter
of that direction or a number, and in a label read from the right all numbers are of one kind. -/
def isOneWay (label : List Char) : Bool :=
  let ways := dropEndWhile (· == .nonspacing) (label.map direction)
  let last := ways.getLast?
  match label.head?.map direction with
  | none => true
  | some .fromLeft =>
    (last == some .fromLeft || last == some .europeanNumber) &&
      !ways.contains .fromRight && !ways.contains .arabicNumber
  | some .fromRight =>
    (last == some .fromRight || last == some .europeanNumber || last == some .arabicNumber) &&
      !ways.contains .fromLeft && !(ways.contains .europeanNumber && ways.contains .arabicNumber)
  | some _ => false

end MarkupAssist.Domain
