import MarkupAssist.Json.Basic

/-!
# Objects as dictionaries

A JSON value is kept as it was written (`Json`). Data that is passed on as a whole, before it is
known what it is decoded to, has lost that form: every object in it is a dictionary, in which a key
has one value, the last one that was given to it, and which is gone through in the order of its
keys. `Json.collapsed` is a value in this form, and `Json.insertMember` gives a key of a dictionary
a value.
-/

namespace MarkupAssist.Json

/-- Whether a key comes before another one. Keys are in the order of their texts, and one that is no
text comes first. -/
def keyBefore : Option String → Option String → Bool
  | some a, some b => a < b
  | none, some _ => true
  | _, none => false

/-- Give a key a value: in the place of the value it has, or in its place among the other keys. -/
def insertMember (key : Option String) (value : Json) :
    List (Option String × Json) → List (Option String × Json)
  | [] => [(key, value)]
  | m :: members =>
    if m.1 = key then (key, value) :: members
    else if keyBefore key m.1 then (key, value) :: m :: members
    else m :: insertMember key value members

/-- Give keys their values one after the other, on top of the members of `base`. -/
def insertAll (base members : List (Option String × Json)) : List (Option String × Json) :=
  members.foldl (fun done m => insertMember m.1 m.2 done) base

mutual

/-- The value with all its objects as dictionaries. -/
def collapsed : Json → Json
  | array items => array (collapsedItems items)
  | object members => object (insertAll [] (collapsedMembers members))
  | value => value

/-- Values with dictionaries. -/
def collapsedItems : List Json → List Json
  | [] => []
  | value :: values => collapsed value :: collapsedItems values

/-- Members whose values have dictionaries. -/
def collapsedMembers : List (Option String × Json) → List (Option String × Json)
  | [] => []
  | (key, value) :: members => (key, collapsed value) :: collapsedMembers members

end

end MarkupAssist.Json
