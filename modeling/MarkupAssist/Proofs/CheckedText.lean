import Mathlib.Data.String.Basic
import MarkupAssist.Proofs.Offsets

/-!
# Reading a document by its bytes

The library counts places in characters, and a `take` or a `drop` cannot fail. A text that is kept
as bytes of UTF-8 is read by slices between two bytes, and a reader has to know that the bounds of a
slice are in order, within the text and not inside a character, and that what it subtracts is not
larger than what it subtracts from. Here the document is read so, with every such condition checked:

* `Fault`, `Checked`: what can go wrong, and a result that is only there if nothing did.
* `Checked.slice`, `Checked.minus`, `Checked.get`, `Checked.boundary`: the four operations that can
  fail. A slice is valid on the positions of its text that are valid for `String`.
* `Checked.lineStarts`, `Checked.lineBounds`: the index of a document's lines, in bytes. It is read
  off a text that is given by its lines (`Checked.exists_lineStarts`).

Each function has the name of the one of the library that it computes, and a lemma `_eq` that it
does so without a fault. They rest on two facts: the bounds of a line are found where the line
stands (`Checked.exists_lineBounds`), and the slice between the sizes of two fronts of a text is
what the longer one adds to the shorter one (`Checked.slice_eq`).
-/

namespace MarkupAssist

open Text

/-- What can go wrong when a text is read by its bytes. -/
inductive Fault where
  /-- The bounds of a slice are out of order, out of the text or inside a character. -/
  | slice (start stop : Nat)
  /-- A place is out of the text or inside a character. -/
  | boundary (byte : Nat)
  /-- There is nothing at an index. -/
  | index (place : Nat)
  /-- More is subtracted than there is. -/
  | difference (minuend subtrahend : Nat)
  deriving DecidableEq, Repr

/-- A result, or the fault on the way to it. -/
abbrev Checked (α : Type) : Type :=
  Except Fault α

namespace Checked

theorem ok_bind {α β : Type} (a : α) (f : α → Checked β) : (Except.ok a >>= f) = f a := rfl

/-! ### Operations that can fail -/

/-- The text between two bytes. -/
def slice (cs : List Char) (start stop : Nat) : Checked (List Char) :=
  if start ≤ stop ∧ String.Pos.Raw.IsValid (String.ofList cs) ⟨start⟩ ∧
      String.Pos.Raw.IsValid (String.ofList cs) ⟨stop⟩ then
    .ok (String.Pos.Raw.extract (String.ofList cs) ⟨start⟩ ⟨stop⟩).toList
  else .error (.slice start stop)

/-- A byte at which a character starts or the text ends. -/
def boundary (cs : List Char) (byte : Nat) : Checked Nat :=
  if String.Pos.Raw.IsValid (String.ofList cs) ⟨byte⟩ then .ok byte else .error (.boundary byte)

/-- The element at an index. -/
def get {α : Type} (xs : List α) (place : Nat) : Checked α :=
  match xs[place]? with
  | some x => .ok x
  | none => .error (.index place)

/-- The difference of two numbers. -/
def minus (minuend subtrahend : Nat) : Checked Nat :=
  if subtrahend ≤ minuend then .ok (minuend - subtrahend)
  else .error (.difference minuend subtrahend)

theorem minus_eq {a b : Nat} (h : b ≤ a) : minus a b = .ok (a - b) :=
  if_pos h

theorem get_eq {α : Type} {xs : List α} {place : Nat} {x : α} (h : xs[place]? = some x) :
    get xs place = .ok x := by
  rw [get, h]

theorem size_eq_utf8Len (cs : List Char) : size utf8Width cs = String.utf8Len cs := by
  rw [size_eq_utf8ByteSize, String.utf8ByteSize_ofList]

/-- The size of a front of a text is a valid position in it. -/
theorem isValid_size (front back : List Char) :
    String.Pos.Raw.IsValid (String.ofList (front ++ back)) ⟨size utf8Width front⟩ :=
  String.Pos.Raw.isValid_ofList.mpr
    ⟨front.length, by rw [List.take_left, ← size_eq_utf8ByteSize]⟩

theorem boundary_eq {cs front back : List Char} (hcs : cs = front ++ back) :
    boundary cs (size utf8Width front) = .ok (size utf8Width front) := by
  subst hcs
  exact if_pos (isValid_size front back)

/-- **A slice between the sizes of two fronts is what the second adds to the first.** -/
theorem slice_eq {cs front part back : List Char} {start stop : Nat}
    (hcs : cs = front ++ (part ++ back)) (hstart : start = size utf8Width front)
    (hstop : stop = size utf8Width front + size utf8Width part) :
    slice cs start stop = .ok part := by
  subst hcs hstart hstop
  have hvalid := isValid_size (front ++ part) back
  rw [size_append, List.append_assoc] at hvalid
  rw [slice, if_pos ⟨Nat.le_add_right _ _, isValid_size front _, hvalid⟩]
  have hextract := String.extract_of_valid front part back
  rw [← size_eq_utf8Len, ← size_eq_utf8Len, List.append_assoc] at hextract
  rw [hextract, String.toList_ofList]

-- no slice ends inside a character, or in front of its start
example : slice ['é', 'a'] 0 1 = .error (.slice 0 1) ∧
    slice ['é', 'a'] 3 2 = .error (.slice 3 2) := by
  decide

theorem slice_front {cs part back : List Char} (hcs : cs = part ++ back) :
    slice cs 0 (size utf8Width part) = .ok part :=
  slice_eq (show cs = [] ++ (part ++ back) from hcs) rfl (Nat.zero_add _).symm

theorem slice_back {cs front part : List Char} (hcs : cs = front ++ part) :
    slice cs (size utf8Width front) (size utf8Width cs) = .ok part :=
  slice_eq (hcs.trans (by rw [List.append_nil])) rfl (by rw [hcs, size_append])

/-! ### The index of lines -/

/-- The bytes behind the line feeds of a text that stands behind `start` bytes. -/
def feedsFrom (start : Nat) : List Char → List Nat
  | [] => []
  | c :: cs =>
    if c = '\n' then (start + 1) :: feedsFrom (start + 1) cs else feedsFrom (start + utf8Width c) cs

/-- The bytes at which the lines of a text start. -/
def lineStarts (cs : List Char) : List Nat :=
  0 :: feedsFrom 0 cs

theorem feedsFrom_line {line : List Char} (hline : '\n' ∉ line) (start : Nat) (cs : List Char) :
    feedsFrom start (line ++ cs) = feedsFrom (start + size utf8Width line) cs := by
  induction line generalizing start with
  | nil => rfl
  | cons c line ih =>
    rw [List.mem_cons, not_or] at hline
    rw [List.cons_append, feedsFrom, if_neg (Ne.symm hline.1), ih hline.2, size_cons, Nat.add_assoc]

theorem lt_of_mem_feedsFrom {start place : Nat} {cs : List Char} (h : place ∈ feedsFrom start cs) :
    start < place := by
  induction cs generalizing start with
  | nil => cases h
  | cons c cs ih =>
    rw [feedsFrom] at h
    split at h
    · rcases List.mem_cons.mp h with rfl | h
      · exact Nat.lt_succ_self _
      · exact Nat.lt_of_succ_lt (ih h)
    · exact Nat.lt_of_le_of_lt (Nat.le_add_right _ _) (ih h)

/-- Along complete lines the index has one start for each of them, none behind the end of the last
one, where the next line starts. -/
theorem exists_feedsFrom {lines : List (List Char)} (hlines : ∀ l ∈ lines, '\n' ∉ l) (start : Nat)
    (cs : List Char) :
    ∃ starts, starts.length = lines.length ∧
      (∀ s ∈ starts, s ≤ start + size utf8Width (unlines lines)) ∧
      start :: feedsFrom start (unlines lines ++ cs) =
        starts ++ (start + size utf8Width (unlines lines)) ::
          feedsFrom (start + size utf8Width (unlines lines)) cs := by
  induction lines generalizing start with
  | nil => exact ⟨[], rfl, by simp, rfl⟩
  | cons line lines ih =>
    -- behind the first line and its feed the index is that of the other lines
    obtain ⟨starts, hlength, hle, hstarts⟩ :=
      ih (fun l hl => hlines l (List.mem_cons_of_mem _ hl)) (start + size utf8Width line + 1)
    have hsize : start + size utf8Width (unlines (line :: lines)) =
        start + size utf8Width line + 1 + size utf8Width (unlines lines) := by
      have hfeed : utf8Width '\n' = 1 := rfl
      rw [unlines_cons, size_append, size_cons, hfeed]
      omega
    refine ⟨start :: starts, by rw [List.length_cons, hlength, List.length_cons], ?_, ?_⟩
    · rw [hsize]
      rintro s (_ | ⟨_, hs⟩)
      · omega
      · exact hle s hs
    · rw [hsize, unlines_cons, List.append_assoc, feedsFrom_line (hlines line List.mem_cons_self),
        List.cons_append, feedsFrom, if_pos rfl, hstarts, List.cons_append]

/-- The index of a text that is given by lines: one start for each line above, none of them behind
the start of the line that is reached, and then the feeds behind the place on it. -/
theorem exists_lineStarts {above : List (List Char)} {before : List Char}
    (habove : ∀ l ∈ above, '\n' ∉ l) (hbefore : '\n' ∉ before) (after : List Char) :
    ∃ starts, starts.length = above.length ∧
      (∀ s ∈ starts, s ≤ size utf8Width (unlines above)) ∧
      lineStarts (unlines above ++ (before ++ after)) =
        starts ++ size utf8Width (unlines above) ::
          feedsFrom (size utf8Width (unlines above) + size utf8Width before) after := by
  obtain ⟨starts, hlength, hle, hstarts⟩ := exists_feedsFrom habove 0 (before ++ after)
  rw [Nat.zero_add] at hle hstarts
  exact ⟨starts, hlength, hle, by rw [lineStarts, hstarts, feedsFrom_line hbefore]⟩

/-! ### The bytes of a text -/

/-- The bytes of a text. -/
def bytes (cs : List Char) : List UInt8 :=
  cs.flatMap String.utf8EncodeChar

theorem length_bytes (cs : List Char) : (bytes cs).length = size utf8Width cs := by
  induction cs with
  | nil => rfl
  | cons c cs ih =>
    rw [bytes, List.flatMap_cons, List.length_append, ← bytes, ih, size_cons, utf8Width_eq,
      String.length_utf8EncodeChar]

/-- A character ends with the byte of the carriage return only if it is one. -/
theorem exists_last_byte (c : Char) :
    ∃ front last, String.utf8EncodeChar c = front ++ [last] ∧ (last = 13 ↔ c = '\r') := by
  have hreturn : c = '\r' ↔ c.val.toNat = 13 := by
    rw [← Char.toNat_inj]
    rfl
  have hbyte : ∀ n : Nat, UInt8.ofNat n = 13 ↔ n % 256 = 13 := by
    intro n
    rw [← UInt8.toNat_inj, UInt8.toNat_ofNat']
    rfl
  -- the last of several bytes is at least 128
  have hlast : ∀ n : Nat, 127 < c.val.toNat → (UInt8.ofNat (n % 64 + 128) = 13 ↔ c = '\r') := by
    intro n hcode
    rw [hbyte, hreturn]
    omega
  rw [String.utf8EncodeChar]
  split_ifs with hone htwo hthree
  · refine ⟨[], _, rfl, ?_⟩
    rw [hbyte, hreturn]
    omega
  · exact ⟨[_], _, rfl, hlast _ (Nat.not_le.mp hone)⟩
  · exact ⟨[_, _], _, rfl, hlast _ (Nat.not_le.mp hone)⟩
  · exact ⟨[_, _, _], _, rfl, hlast _ (Nat.not_le.mp hone)⟩

/-- The last byte of a front of a text that ends with `c`. -/
theorem exists_get_bytes (front : List Char) (c : Char) (back : List Char) :
    ∃ last, get (bytes (front ++ c :: back)) (size utf8Width (front ++ [c]) - 1) = .ok last ∧
      (last = 13 ↔ c = '\r') := by
  obtain ⟨start, last, hc, hlast⟩ := exists_last_byte c
  refine ⟨last, get_eq ?_, hlast⟩
  have hbytes : bytes (front ++ c :: back) = (bytes front ++ start) ++ last :: bytes back := by
    simp [bytes, hc]
  have hsize : size utf8Width (front ++ [c]) - 1 = (bytes front ++ start).length := by
    have hwidth : utf8Width c = start.length + 1 := by
      rw [utf8Width_eq, ← String.length_utf8EncodeChar, hc, List.length_append]
      rfl
    rw [size_append, size_cons, size_nil, List.length_append, length_bytes, hwidth]
    omega
  rw [hbytes, hsize, List.getElem?_append_right (Nat.le_refl _), Nat.sub_self]
  rfl

/-! ### The bounds of a line -/

/-- The end of the text between two bytes, in front of a carriage return. -/
def beforeReturn (cs : List Char) (start stop : Nat) : Checked Nat := do
  if start < stop then
    let last ← minus stop 1
    return if (← get (bytes cs) last) = 13 then last else stop
  else return stop

/-- The byte in front of the line feed that ends a line, or the end of the text. -/
def lineEnd (doc : Document) (line : Nat) : Checked Nat :=
  match (lineStarts doc.chars)[line + 1]? with
  | some next => minus next 1
  | none => return size utf8Width doc.chars

/-- The bytes at which the text of a line starts and ends; `none` past the last line. -/
def lineBounds (doc : Document) (line : Nat) : Checked (Option (Nat × Nat)) :=
  match (lineStarts doc.chars)[line]? with
  | some start => do
    let stop ← lineEnd doc line
    return some (start, ← beforeReturn doc.chars start stop)
  | none => return none

theorem beforeReturn_eq {cs front line back : List Char} (hcs : cs = front ++ (line ++ back)) :
    beforeReturn cs (size utf8Width front) (size utf8Width front + size utf8Width line) =
      .ok (size utf8Width front + size utf8Width (dropReturn line)) := by
  rcases List.eq_nil_or_concat line with rfl | ⟨init, c, rfl⟩
  · exact if_neg (Nat.lt_irrefl _)
  · rw [List.concat_eq_append] at *
    have hpos : 0 < size utf8Width (init ++ [c]) := by
      rw [size_append, size_cons]
      have hc := utf8Width_pos c
      omega
    obtain ⟨last, hget, hlast⟩ := exists_get_bytes (front ++ init) c back
    have hfront : front ++ init ++ c :: back = cs := by simp [hcs]
    rw [hfront, List.append_assoc, size_append] at hget
    rw [beforeReturn, if_pos (Nat.lt_add_of_pos_right hpos), minus_eq (by omega), ok_bind, hget,
      ok_bind]
    by_cases hc : c = '\r'
    · have hreturn : utf8Width '\r' = 1 := rfl
      subst hc
      rw [if_pos (hlast.mpr rfl), dropReturn, if_pos List.getLast?_concat, List.dropLast_concat,
        size_append, size_cons, size_nil, hreturn]
      exact congrArg Except.ok (by omega)
    · rw [if_neg (mt hlast.mp hc), dropReturn, if_neg]
      · rfl
      · rw [List.getLast?_concat]
        exact fun h => hc (Option.some.inj h)

theorem lineBounds_none {doc : Document} {n : Nat} (hline : doc.line? n = none) :
    lineBounds doc n = .ok none := by
  obtain ⟨lines, last, hchars, hlines, hlast⟩ := exists_unlines doc.chars
  obtain ⟨starts, hlength, -, hstarts⟩ := exists_lineStarts hlines hlast []
  rw [Document.line?, Option.map_eq_none_iff, List.getElem?_eq_none_iff,
    Document.rawLines_eq hchars hlines hlast, List.length_append, List.length_singleton] at hline
  have hnone : (lineStarts doc.chars)[n]? = none := by
    rw [List.append_nil, ← hchars] at hstarts
    rw [hstarts, List.getElem?_eq_none_iff, List.length_append, hlength]
    exact hline
  rw [lineBounds, hnone]
  rfl

section

variable {doc : Document} {above : List (List Char)} {raw tail : List Char}
  (hchars : doc.chars = unlines above ++ (raw ++ tail)) (habove : ∀ l ∈ above, '\n' ∉ l)
  (hraw : '\n' ∉ raw)

include hchars habove hraw

theorem getElem?_lineStarts :
    (lineStarts doc.chars)[above.length]? = some (size utf8Width (unlines above)) := by
  obtain ⟨starts, hlength, -, hstarts⟩ := exists_lineStarts habove hraw tail
  rw [hchars, hstarts, ← hlength, List.getElem?_append_right (Nat.le_refl _), Nat.sub_self]
  rfl

theorem lineEnd_eq (htail : (breakLines tail).1 = []) :
    lineEnd doc above.length = .ok (size utf8Width (unlines above) + size utf8Width raw) := by
  obtain ⟨starts, hlength, -, hstarts⟩ := exists_lineStarts habove hraw tail
  have hnext : (lineStarts doc.chars)[above.length + 1]? =
      (feedsFrom (size utf8Width (unlines above) + size utf8Width raw) tail).head? := by
    rw [hchars, hstarts, ← hlength, List.getElem?_append_right (Nat.le_add_right _ 1),
      Nat.add_sub_cancel_left, List.getElem?_cons_succ, List.head?_eq_getElem?]
  rw [lineEnd, hnext]
  rcases breakLines_fst_eq_nil.mp htail with rfl | hfeed
  · rw [List.append_nil] at hchars
    rw [hchars, size_append]
    rfl
  · obtain ⟨more, rfl⟩ := List.head?_eq_some_iff.mp hfeed
    rw [feedsFrom, if_pos rfl]
    exact minus_eq (Nat.le_add_left _ _)

end

/-- **The bounds of a line are found where the line stands.** -/
theorem exists_lineBounds {doc : Document} {n : Nat} {line : List Char}
    (hline : doc.line? n = some line) :
    ∃ front back, doc.chars = front ++ (line ++ back) ∧ front.length = doc.lineStart n ∧
      lineBounds doc n =
        .ok (some (size utf8Width front, size utf8Width front + size utf8Width line)) := by
  obtain ⟨raw, hraw, rfl⟩ := Option.map_eq_some_iff.mp hline
  obtain ⟨above, tail, rfl, hchars, habove, hnewline, htail⟩ := Document.exists_line hraw
  obtain ⟨rest, hrest⟩ := isPrefix_dropReturn raw
  refine ⟨unlines above, rest ++ tail, ?_, ?_, ?_⟩
  · rw [hchars, ← List.append_assoc (dropReturn raw), hrest]
  · rw [Document.lineStart_eq, Document.rawLines_unlines hchars habove, List.take_left]
  · rw [lineBounds, getElem?_lineStarts hchars habove hnewline]
    simp only [lineEnd_eq hchars habove hnewline htail, beforeReturn_eq hchars, ok_bind]
    rfl

/-! ### Places and slices -/

/-- The text of a line; empty past the last line. -/
def lineText (doc : Document) (line : Nat) : Checked (List Char) := do
  match ← lineBounds doc line with
  | some (start, stop) => slice doc.chars start stop
  | none => return []

/-- The number of bytes before a position. -/
def byteOffset (doc : Document) (p : Position) : Checked Nat := do
  match ← lineBounds doc p.line with
  | some (start, stop) =>
    let line ← slice doc.chars start stop
    return if p.character < line.length then start + size utf8Width (line.take p.character)
      else stop
  | none => return size utf8Width doc.chars

/-- The number of characters before a position. -/
def offsetAt (doc : Document) (p : Position) : Checked Nat := do
  return (← slice doc.chars 0 (← byteOffset doc p)).length

/-- The position of a byte. Its line is the last one that does not start behind it. -/
def positionAtByte (doc : Document) (byte : Nat) : Checked Position := do
  let byte := min (← boundary doc.chars byte) (size utf8Width doc.chars)
  let line ← minus ((lineStarts doc.chars).takeWhile (· ≤ byte)).length 1
  let before ← slice doc.chars (← get (lineStarts doc.chars) line) byte
  return ⟨line, before.length⟩

/-- Move a position onto existing text. -/
def clamp (doc : Document) (p : Position) : Checked Position := do
  positionAtByte doc (← byteOffset doc p)

/-- The text of the position's line before it. -/
def textBefore (doc : Document) (p : Position) : Checked (List Char) := do
  match ← lineBounds doc p.line with
  | some (start, _) => slice doc.chars start (← byteOffset doc p)
  | none => return []

/-- The text of the position's line after it. -/
def textAfter (doc : Document) (p : Position) : Checked (List Char) := do
  match ← lineBounds doc p.line with
  | some (_, stop) => slice doc.chars (← byteOffset doc p) stop
  | none => return []

/-- The text of the document before a position. -/
def textUntil (doc : Document) (p : Position) : Checked (List Char) := do
  slice doc.chars 0 (← byteOffset doc p)

/-- The text of the document from a position on. -/
def textFrom (doc : Document) (p : Position) : Checked (List Char) := do
  slice doc.chars (← byteOffset doc p) (size utf8Width doc.chars)

/-- The text of a range; empty if the range ends before it starts. -/
def textInRange (doc : Document) (range : Range) : Checked (List Char) := do
  let start ← byteOffset doc range.start
  let stop ← byteOffset doc range.stop
  slice doc.chars start (max stop start)

variable (doc : Document)

theorem lineText_eq (n : Nat) : lineText doc n = .ok (doc.lineText n) := by
  rw [Document.lineText]
  cases hline : doc.line? n with
  | none =>
    rw [lineText, lineBounds_none hline]
    rfl
  | some line =>
    obtain ⟨front, back, hchars, -, hbounds⟩ := exists_lineBounds hline
    rw [lineText, hbounds]
    exact slice_eq hchars rfl rfl

/-- The place of a position on a line of the document, in bytes. -/
theorem byteOffset_of_line {doc : Document} {p : Position} {front line back : List Char}
    (hline : doc.line? p.line = some line) (hchars : doc.chars = front ++ (line ++ back))
    (hfront : front.length = doc.lineStart p.line) :
    doc.byteOffset p = size utf8Width front + size utf8Width (line.take p.character) := by
  have hoffset : doc.offsetAt p = front.length + min p.character line.length := by
    rw [Document.offsetAt, hline, hfront]
  rw [Document.byteOffset, hoffset, hchars, List.take_length_add_append, size_append,
    List.take_append_of_le_length (Nat.min_le_right _ _), ← List.take_eq_take_min]

theorem byteOffset_eq (p : Position) : byteOffset doc p = .ok (doc.byteOffset p) := by
  cases hline : doc.line? p.line with
  | none =>
    rw [byteOffset, lineBounds_none hline, Document.byteOffset, Document.offsetAt, hline,
      List.take_length]
    rfl
  | some line =>
    obtain ⟨front, back, hchars, hfront, hbounds⟩ := exists_lineBounds hline
    rw [byteOffset_of_line hline hchars hfront, byteOffset, hbounds, ok_bind]
    simp only [slice_eq hchars rfl rfl, ok_bind]
    split
    · rfl
    · next hout =>
      rw [List.take_of_length_le (Nat.not_lt.mp hout)]
      rfl

theorem textUntil_eq (p : Position) : textUntil doc p = .ok (doc.textUntil p) := by
  rw [textUntil, byteOffset_eq, ok_bind]
  exact slice_front (List.take_append_drop _ _).symm

theorem textFrom_eq (p : Position) : textFrom doc p = .ok (doc.textFrom p) := by
  rw [textFrom, byteOffset_eq, ok_bind]
  exact slice_back (List.take_append_drop _ _).symm

theorem offsetAt_eq (p : Position) : offsetAt doc p = .ok (doc.offsetAt p) := by
  have huntil := textUntil_eq doc p
  rw [textUntil, byteOffset_eq, ok_bind] at huntil
  rw [offsetAt, byteOffset_eq, ok_bind, huntil, ok_bind, doc.length_textUntil]
  rfl

theorem textBefore_eq (p : Position) : textBefore doc p = .ok (doc.textBefore p) := by
  rw [Document.textBefore, Document.lineText]
  cases hline : doc.line? p.line with
  | none =>
    rw [textBefore, lineBounds_none hline, Option.getD_none, List.take_nil]
    rfl
  | some line =>
    obtain ⟨front, back, hchars, hfront, hbounds⟩ := exists_lineBounds hline
    have hcut : doc.chars =
        front ++ (line.take p.character ++ (line.drop p.character ++ back)) := by
      rw [hchars, ← List.append_assoc (line.take _), List.take_append_drop]
    rw [textBefore, hbounds, ok_bind]
    simp only [byteOffset_eq, ok_bind, byteOffset_of_line hline hchars hfront]
    exact slice_eq hcut rfl rfl

theorem textAfter_eq (p : Position) : textAfter doc p = .ok (doc.textAfter p) := by
  rw [Document.textAfter, Document.lineText]
  cases hline : doc.line? p.line with
  | none =>
    rw [textAfter, lineBounds_none hline, Option.getD_none, List.drop_nil]
    rfl
  | some line =>
    obtain ⟨front, back, hchars, hfront, hbounds⟩ := exists_lineBounds hline
    have hcut : doc.chars =
        (front ++ line.take p.character) ++ (line.drop p.character ++ back) := by
      rw [hchars, List.append_assoc, ← List.append_assoc (line.take _), List.take_append_drop]
    have hsize : size utf8Width front + size utf8Width line =
        size utf8Width (front ++ line.take p.character) +
          size utf8Width (line.drop p.character) := by
      rw [← size_append, ← size_append, List.append_assoc, List.take_append_drop]
    rw [textAfter, hbounds, ok_bind]
    simp only [byteOffset_eq, ok_bind, byteOffset_of_line hline hchars hfront]
    exact slice_eq hcut (size_append _ _ _).symm hsize

theorem textInRange_eq (range : Range) : textInRange doc range = .ok (doc.textInRange range) := by
  rw [textInRange, byteOffset_eq, ok_bind, byteOffset_eq, ok_bind, Document.textInRange,
    Document.byteOffset, Document.byteOffset]
  generalize doc.offsetAt range.start = start
  generalize doc.offsetAt range.stop = stop
  by_cases hle : start ≤ stop
  · have hfront : doc.chars.take stop =
        doc.chars.take start ++ (doc.chars.take stop).drop start := by
      conv_lhs => rw [← List.take_append_drop start (doc.chars.take stop), List.take_take,
        Nat.min_eq_left hle]
    have hcut : doc.chars =
        doc.chars.take start ++ ((doc.chars.take stop).drop start ++ doc.chars.drop stop) := by
      rw [← List.append_assoc, ← hfront, List.take_append_drop]
    have hsize : size utf8Width (doc.chars.take stop) =
        size utf8Width (doc.chars.take start) +
          size utf8Width ((doc.chars.take stop).drop start) := by
      rw [← size_append, ← hfront]
    rw [Nat.max_eq_left (hsize ▸ Nat.le_add_right _ _)]
    exact slice_eq hcut rfl hsize
  · -- the range ends before it starts
    have hmono : size utf8Width (doc.chars.take stop) ≤ size utf8Width (doc.chars.take start) :=
      size_mono (List.take_prefix_take_left (Nat.le_of_not_le hle))
    rw [Nat.max_eq_right hmono, List.drop_of_length_le]
    · exact slice_eq (List.take_append_drop start _).symm rfl rfl
    · rw [List.length_take]
      omega

/-- **A byte between two characters is given its position.** -/
theorem positionAtByte_eq {doc : Document} {front back : List Char}
    (hchars : doc.chars = front ++ back) :
    positionAtByte doc (size utf8Width front) =
      .ok (doc.positionAtByte (size utf8Width front)) := by
  obtain ⟨above, before, rfl, habove, hbefore⟩ := exists_unlines front
  have hlines : doc.chars = unlines above ++ (before ++ back) := by rw [hchars, List.append_assoc]
  obtain ⟨starts, hlength, hle, hstarts⟩ := exists_lineStarts habove hbefore back
  rw [← hlines, ← size_append] at hstarts
  -- the lines above and the line itself start in front of the byte, all others behind it
  have hreached : (lineStarts doc.chars).takeWhile
      (· ≤ size utf8Width (unlines above ++ before)) =
        starts ++ [size utf8Width (unlines above)] := by
    have hfeeds : (feedsFrom (size utf8Width (unlines above ++ before)) back).takeWhile
        (· ≤ size utf8Width (unlines above ++ before)) = [] := by
      cases hfeeds : feedsFrom (size utf8Width (unlines above ++ before)) back with
      | nil => rfl
      | cons feed feeds =>
        have hlt := lt_of_mem_feedsFrom (hfeeds ▸ List.mem_cons_self)
        rw [List.takeWhile_cons_of_neg (by simpa using hlt)]
    have hstart : size utf8Width (unlines above) ≤ size utf8Width (unlines above ++ before) :=
      size_mono (List.prefix_append _ _)
    rw [hstarts, List.takeWhile_append_of_pos, List.takeWhile_cons_of_pos, hfeeds]
    · exact decide_eq_true hstart
    · exact fun s hs => decide_eq_true (Nat.le_trans (hle s hs) hstart)
  have hmin : min (size utf8Width (unlines above ++ before)) (size utf8Width doc.chars) =
      size utf8Width (unlines above ++ before) :=
    Nat.min_eq_left (size_mono ⟨back, hchars.symm⟩)
  rw [Document.positionAtByte_size hchars, Position.advanceOver_origin habove hbefore,
    positionAtByte, boundary_eq hchars, ok_bind]
  simp only [hmin, hreached]
  rw [List.length_append, List.length_singleton, hlength, minus_eq (Nat.le_add_left _ _), ok_bind,
    Nat.add_sub_cancel, get_eq (getElem?_lineStarts hlines habove hbefore), ok_bind,
    slice_eq hlines rfl (size_append _ _ _), ok_bind]
  rfl

theorem clamp_eq (p : Position) : clamp doc p = .ok (doc.clamp p) := by
  rw [clamp, byteOffset_eq, ok_bind, ← doc.positionAtByte_byteOffset p]
  exact positionAtByte_eq (List.take_append_drop _ _).symm

end Checked

end MarkupAssist
