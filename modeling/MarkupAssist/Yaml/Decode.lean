import MarkupAssist.Yaml.Node

/-!
# Decoding YAML

How typed data is taken out of a YAML document. A decoder gives `none` where a node does not have
the form it asks for; every decoder looks through aliases.

* A text is any scalar, whatever it looks like.
* Truth values and numbers are plain scalars, or literal ones that are tagged as such.
* A record is a mapping whose keys are scalars. Every field may occur once, under any of its
  spellings, and other fields are not looked at. A missing scalar stands for a record without fields
  and for a list without items.
-/

namespace MarkupAssist.Yaml

variable {α : Type}

/-- A document seen from one of its nodes. -/
structure View where
  document : Document
  node : Node

namespace View

/-- The view of another node of the same document. -/
def child (v : View) (node : Node) : View :=
  ⟨v.document, node⟩

/-- The node, seen through an alias. -/
def content (v : View) : Node :=
  v.document.resolve v.node

/-- Whether nothing is written. -/
def isMissing (v : View) : Bool :=
  match v.content with
  | .scalar _ .plain [] => true
  | _ => false

/-- A text. -/
def text? (v : View) : Option (List Char) :=
  match v.content with
  | .scalar _ _ text => some text
  | _ => none

/-- The text of a scalar whose content counts: a plain one, or a literal one with the tag of the
type that is asked for. -/
def typedText? (type : String) (v : View) : Option (List Char) :=
  match v.content with
  | .scalar _ .plain text => some text
  | .scalar tag .literal text =>
    if tag == some (("tag:yaml.org,2002:" ++ type).toList) then some text else none
  | _ => none

/-- A truth value. -/
def bool? (v : View) : Option Bool := do
  let text := String.ofList (← v.typedText? "bool")
  if text = "true" ∨ text = "True" ∨ text = "TRUE" then some true
  else if text = "false" ∨ text = "False" ∨ text = "FALSE" then some false
  else none

/-- The value of digits in a base, at least one of them. -/
def digits? (base : Nat) (cs : List Char) : Option Nat :=
  if cs.isEmpty then none
  else cs.foldlM (fun n c => do
    let d ← hexValue? c
    if d < base then some (base * n + d) else none) 0

/-- A natural number as it is written: in base ten without leading zeros, or in base 16, 8 or 2
behind a mark. A plus sign may stand before it. -/
def natural? (cs : List Char) : Option Nat :=
  let unsigned := if cs.head? == some '+' then cs.drop 1 else cs
  match unsigned with
  | '0' :: 'x' :: ds => digits? 16 ds
  | '0' :: 'o' :: ds => digits? 8 ds
  | '0' :: 'b' :: ds => digits? 2 ds
  | '0' :: _ :: _ => none
  | ds => digits? 10 ds

/-- A natural number below a bound. -/
def natBelow? (bound : Nat) (v : View) : Option Nat := do
  let n ← natural? (← v.typedText? "int")
  if n < bound then some n else none

/-- A natural number of 64 bits. -/
def word? (v : View) : Option UInt64 :=
  (v.natBelow? UInt64.size).map UInt64.ofNat

/-- A list; nothing stands for the empty one. -/
def list? (decode : View → Option α) (v : View) : Option (List α) :=
  match v.content with
  | .sequence _ items => items.mapM fun item => decode (v.child item)
  | _ => if v.isMissing then some [] else none

/-- The name that a tag of the document's own gives. -/
def tagName? : Option (List Char) → Option (List Char)
  | some ('!' :: name) => some (if name.isEmpty then ['!'] else name)
  | _ => none

/-- Whether a scalar says that there is nothing. -/
def isNothing (style : Style) (text : List Char) : Bool :=
  style == .plain &&
    (text.isEmpty || ["null", "Null", "NULL", "~"].contains (String.ofList text))

/-- A constant of an enumeration: a scalar with its name, or nothing with its name as the tag. -/
def constant? (ofName : String → Option α) (v : View) : Option α :=
  match v.content with
  | .scalar tag style text =>
    match tagName? tag with
    | none => ofName (String.ofList text)
    | some name => if isNothing style text then ofName (String.ofList name) else none
  | _ => none

/-- The pairs of a record, their keys as texts. -/
def members? (v : View) : Option (List (String × View)) :=
  match v.content with
  | .mapping _ pairs => pairs.mapM fun (key, value) => do
    return (String.ofList (← (v.child key).text?), v.child value)
  | _ => if v.isMissing then some [] else none

/-- The field with one of the spellings, if it occurs; it must not occur twice. -/
def field? (members : List (String × View)) (spellings : List String) : Option (Option View) :=
  match members.filter fun m => spellings.contains m.1 with
  | [] => some none
  | [m] => some (some m.2)
  | _ => none

/-- The fields of a record, each under its spellings. -/
def fields? (spellings : List (List String)) (v : View) : Option (List (Option View)) := do
  let members ← v.members?
  spellings.mapM (field? members)

/-- A field with a value that stands for it when it is missing. -/
def withDefault? (default : α) (decode : View → Option α) : Option View → Option α
  | none => some default
  | some v => decode v

end View

end MarkupAssist.Yaml
