import MarkupAssist.Entries
import MarkupAssist.Json.Basic

/-!
# Decoding JSON

How typed data is taken out of a JSON value. A decoder gives `none` where the value does not have
the form it asks for.

* A record is an object or an array. In an object every field may occur once, under any of its
  spellings, and other members are not looked at; an array gives the fields in their order and may
  stop early (`Json.fields?`), or may not if a field without a default follows (`Json.allFields?`).
* A dictionary is an object; of a repeated key the first place and the last value count
  (`Json.entries?`).
* Null is accepted only where a value is optional (`Json.optional?`).
-/

namespace MarkupAssist.Json

variable {α : Type}

/-- A string. -/
def text? : Json → Option String
  | string t => t
  | _ => none

/-- A truth value. -/
def bool? : Json → Option Bool
  | bool b => some b
  | _ => none

/-- A natural number below a bound. -/
def natBelow? (bound : Nat) : Json → Option Nat
  | number n => n.toNatBelow? bound
  | _ => none

/-- A natural number of 64 bits. -/
def word? (value : Json) : Option UInt64 :=
  (value.natBelow? UInt64.size).map UInt64.ofNat

/-- An integer of a number of bits with sign. -/
def signed? (bits : Nat) : Json → Option Int
  | number n => n.toSigned? bits
  | _ => none

/-- Null for nothing, or a value. -/
def optional? (decode : Json → Option α) : Json → Option (Option α)
  | null => some none
  | value => (decode value).map some

/-- A list. -/
def list? (decode : Json → Option α) : Json → Option (List α)
  | array items => items.mapM decode
  | _ => none

/-- A dictionary. -/
def entries? (decode : Json → Option α) : Json → Option (Entries α)
  | object members => do
    let list ← members.mapM fun (key, value) => do return (← key, ← decode value)
    return Entries.ofList list
  | _ => none

/-- The members of an object whose key is one of the spellings of a field, if there is at most
one. -/
def field? (members : List (Option String × Json)) (spellings : List String) :
    Option (Option Json) :=
  match members.filter fun m => m.1.any spellings.contains with
  | [] => some none
  | [m] => some (some m.2)
  | _ => none

/-- The fields of a record, each under its spellings. -/
def fields? (spellings : List (List String)) : Json → Option (List (Option Json))
  | object members => if members.all (·.1.isSome) then spellings.mapM (field? members) else none
  | array items =>
    if items.length ≤ spellings.length then
      some (items.map some ++ List.replicate (spellings.length - items.length) none)
    else none
  | _ => none

/-- The fields of a record whose array form leaves none of them out. -/
def allFields? (spellings : List (List String)) (value : Json) : Option (List (Option Json)) :=
  match value with
  | array items => if items.length = spellings.length then fields? spellings value else none
  | _ => fields? spellings value

/-- A field that must be there. -/
def required? (decode : Json → Option α) (field : Option Json) : Option α :=
  field.bind decode

/-- A field with a value that stands for it when it is missing. -/
def withDefault? (default : α) (decode : Json → Option α) : Option Json → Option α
  | none => some default
  | some value => decode value

/-- A field that may be missing or null. -/
def optionalField? (decode : Json → Option α) : Option Json → Option (Option α) :=
  withDefault? none (optional? decode)

/-- A constant of an enumeration: its name, or an object with that name and null. -/
def constant? (ofName : String → Option α) : Json → Option α
  | string (some name) => ofName name
  | object [(some name, null)] => ofName name
  | _ => none

end MarkupAssist.Json
