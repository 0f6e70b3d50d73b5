import MarkupAssist.Json.Basic

/-!
# Reading JSON

`Json.parse?` reads a text as one JSON value. The text is cut into tokens (`Token`), and a machine
with a stack of unfinished containers (`State`, `State.step`) consumes them one by one. Nesting is
therefore limited by nothing here; a limit on what is decoded belongs to the decoder.

The grammar is the strict one: no comments, no trailing commas, no control characters in strings,
no digits after a leading zero, and only blanks after the value.
-/

namespace MarkupAssist.Json

/-! ### Tokens -/

/-- A token of JSON text: punctuation, or a value without parts. -/
inductive Token where
  | openBrace
  | closeBrace
  | openBracket
  | closeBracket
  | comma
  | colon
  | scalar (value : Json)

/-- A part of a string literal: a character written as itself or by a short escape, or a 16-bit
unit written by its number. -/
inductive StringPiece where
  | char (c : Char)
  | unit (n : Nat)

/-- The value of a hexadecimal digit. -/
def hexDigit? (c : Char) : Option Nat :=
  if '0' ≤ c ∧ c ≤ '9' then some (c.toNat - '0'.toNat)
  else if 'a' ≤ c ∧ c ≤ 'f' then some (c.toNat - 'a'.toNat + 10)
  else if 'A' ≤ c ∧ c ≤ 'F' then some (c.toNat - 'A'.toNat + 10)
  else none

/-- The number that hexadecimal digits denote; `none` if one of them is no such digit. -/
def hexValue? (cs : List Char) : Option Nat :=
  cs.foldlM (fun n c => (hexDigit? c).map (16 * n + ·)) 0

/-- The character that a backslash and a letter stand for. -/
def escaped? (c : Char) : Option Char :=
  match c with
  | '"' => some '"'
  | '\\' => some '\\'
  | '/' => some '/'
  | 'b' => some '\x08'
  | 'f' => some '\x0c'
  | 'n' => some '\n'
  | 'r' => some '\r'
  | 't' => some '\t'
  | _ => none

/-- The parts of a string literal whose opening quote has been read, and the text after it. -/
def readPieces (acc : List StringPiece) : List Char → Option (List StringPiece × List Char)
  | [] => none
  | '"' :: rest => some (acc.reverse, rest)
  | '\\' :: 'u' :: a :: b :: c :: d :: rest =>
    match hexValue? [a, b, c, d] with
    | some n => readPieces (.unit n :: acc) rest
    | none => none
  | '\\' :: e :: rest =>
    match escaped? e with
    | some c => readPieces (.char c :: acc) rest
    | none => none
  | c :: rest => if c.toNat < 0x20 then none else readPieces (.char c :: acc) rest

/-- Whether a 16-bit unit is the first half of a surrogate pair. -/
def isHighSurrogate (n : Nat) : Bool := 0xD800 ≤ n && n < 0xDC00

/-- Whether a 16-bit unit is the second half of a surrogate pair. -/
def isLowSurrogate (n : Nat) : Bool := 0xDC00 ≤ n && n < 0xE000

/-- The text that string parts denote; `none` if half of a surrogate pair stands alone. -/
def assemble (acc : List Char) : List StringPiece → Option String
  | [] => some (String.ofList acc.reverse)
  | .char c :: pieces => assemble (c :: acc) pieces
  | .unit n :: .unit m :: pieces =>
    if isHighSurrogate n && isLowSurrogate m then
      assemble (Char.ofNat (0x10000 + (n - 0xD800) * 0x400 + (m - 0xDC00)) :: acc) pieces
    else if isHighSurrogate n || isLowSurrogate n then none
    else assemble (Char.ofNat n :: acc) (.unit m :: pieces)
  | .unit n :: pieces =>
    if isHighSurrogate n || isLowSurrogate n then none
    else assemble (Char.ofNat n :: acc) pieces

/-- The digits at the start of a text. -/
def readDigits (cs : List Char) : List Nat × List Char :=
  ((cs.takeWhile Char.isDigit).map fun c => c.toNat - '0'.toNat, cs.dropWhile Char.isDigit)

/-- The fraction at the start of a text, if there is one; a point needs a digit after it. -/
def readFraction : List Char → Option (List Nat × List Char)
  | '.' :: rest =>
    let (digits, rest) := readDigits rest
    if digits.isEmpty then none else some (digits, rest)
  | cs => some ([], cs)

/-- The sign in front of an exponent, whether it is a minus, and the text after it. -/
def readSign : List Char → Bool × List Char
  | '+' :: rest => (false, rest)
  | '-' :: rest => (true, rest)
  | cs => (false, cs)

/-- The exponent at the start of a text, if there is one; its mark needs a digit after it. -/
def readExponent : List Char → Option (Option (Bool × List Nat) × List Char)
  | 'e' :: rest | 'E' :: rest =>
    let (negative, rest) := readSign rest
    let (digits, rest) := readDigits rest
    if digits.isEmpty then none else some (some (negative, digits), rest)
  | cs => some (none, cs)

/-- The number literal, after its sign, at the start of a text. -/
def readNumber (negative : Bool) (cs : List Char) : Option (NumberLiteral × List Char) :=
  let (whole, rest) := readDigits cs
  match whole with
  | [] => none
  | 0 :: _ :: _ => none
  | _ =>
    match readFraction rest with
    | none => none
    | some (fraction, rest) =>
      match readExponent rest with
      | none => none
      | some (exponent, rest) => some (⟨negative, whole, fraction, exponent⟩, rest)

/-- Whether `c` may stand between tokens. -/
def isSpace (c : Char) : Bool := c == ' ' || c == '\n' || c == '\t' || c == '\r'

/-- The token at the start of a text that is not blank there. -/
def readToken : List Char → Option (Token × List Char)
  | '\x7b' :: rest => some (.openBrace, rest)
  | '\x7d' :: rest => some (.closeBrace, rest)
  | '[' :: rest => some (.openBracket, rest)
  | ']' :: rest => some (.closeBracket, rest)
  | ',' :: rest => some (.comma, rest)
  | ':' :: rest => some (.colon, rest)
  | '"' :: rest =>
    (readPieces [] rest).map fun (ps, rest) => (.scalar (.string (assemble [] ps)), rest)
  | 'n' :: 'u' :: 'l' :: 'l' :: rest => some (.scalar .null, rest)
  | 't' :: 'r' :: 'u' :: 'e' :: rest => some (.scalar (.bool true), rest)
  | 'f' :: 'a' :: 'l' :: 's' :: 'e' :: rest => some (.scalar (.bool false), rest)
  | '-' :: rest => (readNumber true rest).map fun (n, rest) => (.scalar (.number n), rest)
  | cs => (readNumber false cs).map fun (n, rest) => (.scalar (.number n), rest)

/-! ### What is left is shorter -/

theorem readPieces_length {acc : List StringPiece} {cs : List Char} {ps : List StringPiece}
    {rest : List Char} (h : readPieces acc cs = some (ps, rest)) : rest.length < cs.length := by
  fun_induction readPieces acc cs <;> simp_all <;> grind

theorem readDigits_length (cs : List Char) :
    (readDigits cs).1.length + (readDigits cs).2.length = cs.length := by
  rw [readDigits, List.length_map, ← List.length_append, List.takeWhile_append_dropWhile]

theorem readFraction_length {cs rest : List Char} {ds : List Nat}
    (h : readFraction cs = some (ds, rest)) : rest.length ≤ cs.length := by
  unfold readFraction at h
  split at h
  · next r =>
    have := readDigits_length r
    simp only at h
    split at h <;> simp_all
    omega
  · simp_all

theorem readSign_length (cs : List Char) : (readSign cs).2.length ≤ cs.length := by
  unfold readSign
  split <;> simp

theorem readExponent_length {cs rest : List Char} {e : Option (Bool × List Nat)}
    (h : readExponent cs = some (e, rest)) : rest.length ≤ cs.length := by
  unfold readExponent at h
  split at h
  all_goals
    first
    | simp_all; done
    | next r =>
        have h1 := readSign_length r
        have h2 := readDigits_length (readSign r).2
        simp only at h
        split at h <;> simp_all
        omega

theorem readNumber_length {negative : Bool} {cs rest : List Char} {n : NumberLiteral}
    (h : readNumber negative cs = some (n, rest)) : rest.length < cs.length := by
  have h1 := readDigits_length cs
  unfold readNumber at h
  simp only at h
  split at h
  · simp at h
  · simp at h
  · next hne hne' =>
    split at h
    · simp at h
    · next hf =>
      have h2 := readFraction_length hf
      split at h
      · simp at h
      · next he =>
        have h3 := readExponent_length he
        simp only [Option.some.injEq, Prod.mk.injEq] at h
        have : 0 < (readDigits cs).1.length := by
          cases hd : (readDigits cs).1 with
          | nil => exact absurd hd hne
          | cons d ds => simp
        obtain ⟨-, rfl⟩ := h
        omega

theorem readToken_length {cs rest : List Char} {t : Token}
    (h : readToken cs = some (t, rest)) : rest.length < cs.length := by
  unfold readToken at h
  split at h
  case h_7 =>
    simp only [Option.map_eq_some_iff, Prod.exists, Prod.mk.injEq] at h
    obtain ⟨ps, r, hr, -, rfl⟩ := h
    exact Nat.lt_succ_of_lt (readPieces_length hr)
  case h_11 =>
    simp only [Option.map_eq_some_iff, Prod.exists, Prod.mk.injEq] at h
    obtain ⟨n, r, hr, -, rfl⟩ := h
    exact Nat.lt_succ_of_lt (readNumber_length hr)
  case h_12 =>
    simp only [Option.map_eq_some_iff, Prod.exists, Prod.mk.injEq] at h
    obtain ⟨n, r, hr, -, rfl⟩ := h
    exact readNumber_length hr
  all_goals
    simp only [Option.some.injEq, Prod.mk.injEq] at h
    obtain ⟨-, rfl⟩ := h
    simp only [List.length_cons]
    omega

/-- The tokens of a text; `none` if it has a part that is no token. -/
def tokens (acc : List Token) : List Char → Option (List Token)
  | [] => some acc.reverse
  | c :: cs =>
    if isSpace c then tokens acc cs
    else
      match _h : readToken (c :: cs) with
      | some (t, rest) => tokens (t :: acc) rest
      | none => none
termination_by cs => cs.length
decreasing_by
  · simp
  · exact readToken_length _h

/-! ### The machine -/

/-- A container whose contents are being read: the items or members so far, the latest first, and
the key that waits for its value. -/
inductive Frame where
  | items (done : List Json)
  | member (done : List (Option String × Json)) (key : Option String)

/-- What has been read and what may follow. -/
inductive State where
  /-- A value must follow. -/
  | value (outer : List Frame)
  /-- An array has just been opened. -/
  | arrayStart (outer : List Frame)
  /-- A value in an array has ended. -/
  | afterItem (done : List Json) (outer : List Frame)
  /-- An object has just been opened. -/
  | objectStart (outer : List Frame)
  /-- A comma in an object asks for a key. -/
  | nextKey (done : List (Option String × Json)) (outer : List Frame)
  /-- A key asks for a colon. -/
  | colon (done : List (Option String × Json)) (key : Option String) (outer : List Frame)
  /-- A value in an object has ended. -/
  | afterMember (done : List (Option String × Json)) (outer : List Frame)
  /-- The value is complete. -/
  | complete (value : Json)

/-- The state after a value inside the containers `outer`. -/
def State.ofValue (value : Json) : List Frame → State
  | [] => .complete value
  | .items done :: outer => .afterItem (value :: done) outer
  | .member done key :: outer => .afterMember ((key, value) :: done) outer

/-- The state after the first token of a value inside the containers `outer`. -/
def State.startValue (outer : List Frame) : Token → Option State
  | .openBrace => some (.objectStart outer)
  | .openBracket => some (.arrayStart outer)
  | .scalar v => some (.ofValue v outer)
  | _ => none

/-- One token. -/
def State.step : State → Token → Option State
  | .value outer, t => startValue outer t
  | .arrayStart outer, .closeBracket => some (.ofValue (.array []) outer)
  | .arrayStart outer, t => startValue (.items [] :: outer) t
  | .afterItem done outer, .comma => some (.value (.items done :: outer))
  | .afterItem done outer, .closeBracket => some (.ofValue (.array done.reverse) outer)
  | .objectStart outer, .closeBrace => some (.ofValue (.object []) outer)
  | .objectStart outer, .scalar (.string key) => some (.colon [] key outer)
  | .nextKey done outer, .scalar (.string key) => some (.colon done key outer)
  | .colon done key outer, .colon => some (.value (.member done key :: outer))
  | .afterMember done outer, .comma => some (.nextKey done outer)
  | .afterMember done outer, .closeBrace => some (.ofValue (.object done.reverse) outer)
  | _, _ => none

/-- The value that a text denotes. -/
def parseChars? (cs : List Char) : Option Json := do
  let ts ← tokens [] cs
  match ← ts.foldlM State.step (.value []) with
  | .complete value => some value
  | _ => none

/-- The value that a text denotes. -/
def parse? (text : String) : Option Json :=
  parseChars? text.toList

end MarkupAssist.Json
