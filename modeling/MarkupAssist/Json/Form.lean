import MarkupAssist.Json.Decode

/-!
# Forms of JSON values

A form tells which values are accepted in a place. Where a protocol prescribes more than is looked
at, the form checks the whole value and a decoder takes out the part that counts.

* Forms of plain values are `Form.text`, `Form.flag` and so on.
* Forms of composed values are built from the forms of their parts: `Form.list`, `Form.record`,
  `Form.either`.
* A field of a record has a name and a form, and may be missing if it is optional
  (`Field.allows`).
-/

namespace MarkupAssist.Json

/-- Which values are accepted in a place. -/
abbrev Form := Json → Bool

/-- A field of a record. -/
structure Field where
  name : String
  form : Form
  canMiss : Bool

namespace Form

/-! ### Plain values -/

/-- Every value. -/
def any : Form := fun _ => true

/-- A string. -/
def text : Form := fun value => value.text?.isSome

/-- A string that satisfies a condition. -/
def textWith (accepts : String → Bool) : Form := fun value => value.text?.any accepts

/-- A truth value. -/
def flag : Form := fun value => value.bool?.isSome

/-- A natural number of 32 bits. -/
def natural : Form := fun value => (value.natBelow? 0x100000000).isSome

/-- An integer of 32 bits. -/
def integer : Form := fun value => (value.signed? 32).isSome

/-- A number of any kind. -/
def decimal : Form
  | number _ => true
  | _ => false

/-- A constant of an enumeration. -/
def constant (names : List String) : Form := fun value =>
  (value.constant? fun name => if names.contains name then some name else none).isSome

/-! ### Composed values -/

/-- Null or a value of a form. -/
def orNull (form : Form) : Form
  | null => true
  | value => form value

/-- A value of one of two forms. -/
def either (first second : Form) : Form := fun value => first value || second value

/-- A list. -/
def list (form : Form) : Form
  | array items => items.all form
  | _ => false

/-- A list of two values. -/
def pair (first second : Form) : Form
  | array [a, b] => first a && second b
  | _ => false

/-- A dictionary with keys that satisfy a condition. -/
def dictionary (accepts : String → Bool) (form : Form) : Form
  | .object members => members.all fun m => m.1.any accepts && form m.2
  | _ => false

/-- A value of a form that is written as an object. -/
def asObject (form : Form) : Form
  | .object members => form (.object members)
  | _ => false

end Form

namespace Field

/-- A field that must be there. -/
def needs (name : String) (form : Form) : Field := ⟨name, form, false⟩

/-- A field that may be missing or null. -/
def allows (name : String) (form : Form) : Field := ⟨name, form.orNull, true⟩

/-- A field that may be missing. -/
def defaults (name : String) (form : Form) : Field := ⟨name, form, true⟩

/-- Whether a field may have a value, or none. -/
def accepts (field : Field) : Option Json → Bool
  | none => field.canMiss
  | some value => field.form value

end Field

namespace Form

/-- A record: an object with the fields, or an array that leaves none of them out. -/
def record (fields : List Field) : Form := fun value =>
  match value.allFields? (fields.map fun f => [f.name]) with
  | some values => (fields.zip values).all fun (f, v) => f.accepts v
  | none => false

/-- An object with fields and with other members of a form. -/
def openRecord (fields : List Field) (others : Form) : Form
  | .object members =>
    record fields (.object members) &&
      members.all fun m => m.1.any (fields.map (·.name)).contains || others m.2
  | _ => false

end Form

end MarkupAssist.Json
