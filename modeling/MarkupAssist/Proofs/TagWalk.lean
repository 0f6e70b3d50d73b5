import Mathlib.Data.List.TakeWhile
import MarkupAssist.Proofs.CharacterClass
import MarkupAssist.Proofs.Clamping
import MarkupAssist.Proofs.Cut

/-!
# The walk up to the open tag

`Document.openTag?` judges the cursor line and then the lines above it, each by
its shape alone. The lemmas here give its answer for a document that is cut at
the cursor:

* a line without a `<` lets the walk pass (`openTagAbove?_append`);
* a line on which a tag is opened ends it, unless the line closes the tag in a way
  that the walk sees (`openTag?_onLine`, `openTag?_fromAbove`), wherever the `<`
  stands on the line. If no bracket follows, nothing closes it
  (`openTag?_sameLine`, `openTag?_above`);
* a tag whose name is still being typed is not open yet (`openTag?_typed`);
* a `>` in front of the cursor stops the walk (`openTag?_stopped`).

The walk looks at nine lines above the cursor line, so the line of the tag must be
one of them.
-/

namespace MarkupAssist

open Text

/-! ### The lines of a tag -/

/-- How the text of a tag falls into lines: its `<` stands on the cursor line,
or on a line above it. The last two arguments are the lines above the cursor and the text before it
on its line. -/
inductive TagLines : List Char → List Char → List Char → List (List Char) → List Char → Prop
  | sameLine {above : List (List Char)} {front tag cs : List Char} (hcs : '\n' ∉ cs) :
      TagLines (unlines above ++ front) tag cs above (front ++ '<' :: (tag ++ cs))
  | lineAbove {above : List (List Char)} {front tag first : List Char} {below : List (List Char)}
      {last : List Char} (hlines : ∀ l ∈ first :: below, '\n' ∉ l) :
      TagLines (unlines above ++ front) tag (unlines (first :: below) ++ last)
        (above ++ (front ++ '<' :: (tag ++ first)) :: below) last

theorem exists_tagLines (pre : List Char) {tag : List Char}
    (htag : ∀ c ∈ tag, isNameChar c = true) (cs : List Char) :
    ∃ above line, TagLines pre tag cs above line ∧
      pre ++ '<' :: (tag ++ cs) = unlines above ++ line ∧ (∀ l ∈ above, '\n' ∉ l) ∧
      '\n' ∉ line := by
  obtain ⟨above, front, rfl, habove, hfront⟩ := exists_unlines pre
  obtain ⟨lines, last, rfl, hlines, hlast⟩ := exists_unlines cs
  -- the line of the tag goes on with a part of `cs` that has no line feed
  have htagLine : ∀ ds : List Char, '\n' ∉ ds → '\n' ∉ front ++ '<' :: (tag ++ ds) := by
    intro ds hds
    simp [hfront, notMem_of_nameChars htag (show isNameChar '\n' = false by decide), hds]
  cases lines with
  | nil =>
    exact ⟨above, front ++ '<' :: (tag ++ last), .sameLine hlast, List.append_assoc .., habove,
      htagLine last hlast⟩
  | cons first below =>
    refine ⟨_, last, .lineAbove hlines, by simp [unlines_append, unlines_cons], ?_, hlast⟩
    intro l hl
    rcases List.mem_append.mp hl with hl | hl
    · exact habove l hl
    rcases List.mem_cons.mp hl with rfl | hl
    · exact htagLine first (hlines first List.mem_cons_self)
    · exact hlines l (List.mem_cons_of_mem _ hl)

namespace Cursor

/-- A text without angle brackets. -/
def Quiet (cs : List Char) : Prop :=
  '<' ∉ cs ∧ '>' ∉ cs

theorem Quiet.of_subset {cs ds : List Char} (h : Quiet ds) (hsub : cs ⊆ ds) : Quiet cs :=
  ⟨fun hmem => h.1 (hsub hmem), fun hmem => h.2 (hsub hmem)⟩

theorem Quiet.append {cs ds : List Char} (hcs : Quiet cs) (hds : Quiet ds) :
    Quiet (cs ++ ds) := by
  simp only [Quiet, List.mem_append, not_or]
  exact ⟨⟨hcs.1, hds.1⟩, hcs.2, hds.2⟩

theorem end_notMem_tag {tag cs : List Char} (htag : NameText tag) (hcs : Quiet cs) :
    '>' ∉ tag ++ cs := by
  rw [List.mem_append, not_or]
  exact ⟨htag.notMem (by decide), hcs.2⟩

/-! ### Tags opened in a line -/

/-- What follows a tag name on its line: a blank, or nothing where the end of the line will do. -/
def EndsName (atEnd : Bool) (cs : List Char) : Prop :=
  (cs.head?.map isBlank).getD atEnd = true

theorem openTagAt?_of_ne (atEnd : Bool) {c : Char} (hc : c ≠ '<') (cs : List Char) :
    openTagAt? atEnd (c :: cs) = none := by
  unfold openTagAt?
  split
  · next h => exact absurd (List.cons.inj h).1 hc
  · rfl

theorem openTags_append (atEnd : Bool) {front : List Char} (hfront : '<' ∉ front)
    (cs : List Char) :
    openTags atEnd (front ++ cs) =
      (openTags atEnd cs).map fun (i, name) => (i + front.length, name) := by
  induction front with
  | nil => simp
  | cons c front ih =>
    rw [List.mem_cons, not_or] at hfront
    rw [List.cons_append, openTags, openTagAt?_of_ne atEnd (Ne.symm hfront.1), ih hfront.2,
      List.map_map]
    rfl

theorem openTags_of_notMem (atEnd : Bool) {cs : List Char} (hcs : '<' ∉ cs) :
    openTags atEnd cs = [] := by
  have h := openTags_append atEnd hcs []
  rwa [List.append_nil] at h

theorem openTagAt?_tag {atEnd : Bool} {tag cs : List Char} (htag : NameText tag)
    (hcs : EndsName atEnd cs) :
    openTagAt? atEnd ('<' :: (tag ++ cs)) = some tag := by
  have hhead : cs.head?.any isNameChar = false := by
    cases cs with
    | nil => rfl
    | cons c cs => exact isNameChar_of_isBlank hcs
  have htake : (tag ++ cs).takeWhile isNameChar = tag := by
    rw [takeWhile_append_stop tag hhead, List.takeWhile_eq_self_iff.mpr htag.chars]
  have hdrop : (tag ++ cs).dropWhile isNameChar = cs := by
    rw [dropWhile_append_stop tag hhead, List.dropWhile_eq_nil_iff.mpr htag.chars, List.nil_append]
  simp only [openTagAt?, htake, hdrop]
  cases cs with
  | nil => simp [htag.ne_nil, show atEnd = true from hcs]
  | cons c cs => simp [htag.ne_nil, show isBlank c = true from hcs]

/-- **The last tag that a line opens is the one behind whose `<` no other follows**, wherever that
stands on the line. -/
theorem getLast?_openTags {atEnd : Bool} (front : List Char) {tag cs : List Char}
    (htag : NameText tag) (hcs : EndsName atEnd cs) (hcs' : '<' ∉ cs) :
    (openTags atEnd (front ++ '<' :: (tag ++ cs))).getLast? = some (front.length, tag) := by
  induction front with
  | nil =>
    have hlater : '<' ∉ tag ++ cs := by
      rw [List.mem_append, not_or]
      exact ⟨htag.notMem (by decide), hcs'⟩
    rw [List.nil_append, openTags, openTagAt?_tag htag hcs, openTags_of_notMem atEnd hlater]
    rfl
  | cons c front ih =>
    have hlater : ((openTags atEnd (front ++ '<' :: (tag ++ cs))).map fun (i, name) =>
        (i + 1, name)).getLast? = some (front.length + 1, tag) := by
      rw [List.getLast?_map, ih]
      rfl
    rw [List.cons_append, openTags]
    split
    · rw [List.getLast?_cons, hlater]
      rfl
    · exact hlater

theorem openTagAt?_open (atEnd : Bool) (rest : List Char) :
    openTagAt? atEnd ('<' :: rest) =
      if !(rest.takeWhile isNameChar).isEmpty &&
          ((rest.dropWhile isNameChar).head?.map isBlank).getD atEnd then
        some (rest.takeWhile isNameChar)
      else none := by
  simp only [openTagAt?]
  cases rest.dropWhile isNameChar <;> rfl

theorem openTagAt?_eq_some {atEnd : Bool} {cs name : List Char}
    (h : openTagAt? atEnd cs = some name) :
    ∃ rest, cs = '<' :: (name ++ rest) ∧ NameText name ∧ EndsName atEnd rest := by
  cases cs with
  | nil => cases h
  | cons c rest =>
    by_cases hc : c = '<'
    · subst hc
      rw [openTagAt?_open] at h
      split at h
      · next hname =>
        obtain rfl := Option.some.inj h
        rw [Bool.and_eq_true, Bool.not_eq_true', List.isEmpty_eq_false_iff] at hname
        refine ⟨rest.dropWhile isNameChar, by rw [List.takeWhile_append_dropWhile], ?_, hname.2⟩
        exact ⟨hname.1, fun c hc => List.mem_takeWhile_imp hc⟩
      · cases h
    · rw [openTagAt?_of_ne atEnd hc] at h
      cases h

/-- A tag that is found on a line stands there. -/
theorem exists_of_mem_openTags {atEnd : Bool} {cs name : List Char} {i : Nat}
    (h : (i, name) ∈ openTags atEnd cs) :
    ∃ front rest, cs = front ++ '<' :: (name ++ rest) ∧ front.length = i ∧ NameText name ∧
      EndsName atEnd rest := by
  induction cs generalizing i with
  | nil => cases h
  | cons c cs ih =>
    have hlater : (i, name) ∈ (openTags atEnd cs).map (fun (i, name) => (i + 1, name)) →
        ∃ front rest, c :: cs = front ++ '<' :: (name ++ rest) ∧ front.length = i ∧
          NameText name ∧ EndsName atEnd rest := by
      intro hmem
      obtain ⟨⟨j, name'⟩, hj, heq⟩ := List.mem_map.mp hmem
      obtain ⟨rfl, rfl⟩ := Prod.mk.inj heq
      obtain ⟨front, rest, rfl, rfl, hfound⟩ := ih hj
      exact ⟨c :: front, rest, rfl, rfl, hfound⟩
    rw [openTags] at h
    split at h
    · next name' hat =>
      rcases List.mem_cons.mp h with heq | hmem
      · obtain ⟨rfl, rfl⟩ := Prod.mk.inj heq
        obtain ⟨rest, hrest, hfound⟩ := openTagAt?_eq_some hat
        exact ⟨[], rest, hrest, rfl, hfound⟩
      · exact hlater hmem
    · exact hlater h

/-- On the cursor line a name without a blank behind it opens no tag yet. -/
theorem openTags_typed {front typed : List Char} (hfront : '<' ∉ front)
    (htyped : ∀ c ∈ typed, isNameChar c = true) :
    openTags false (front ++ '<' :: typed) = [] := by
  -- the name reaches the cursor, where a blank would have to end it
  have hat : openTagAt? false ('<' :: typed) = none := by
    simp [openTagAt?, List.dropWhile_eq_nil_iff.mpr htyped]
  have hlater : '<' ∉ typed := notMem_of_nameChars htyped (by decide)
  rw [openTags_append false hfront, openTags, hat, openTags_of_notMem false hlater]
  rfl

/-! ### Lines that stop the walk -/

theorem closesTag_of_notMem {cs : List Char} (hcs : '>' ∉ cs) : closesTag cs = false := by
  simp only [closesTag, Bool.and_eq_false_iff]
  right
  split
  · next rest hrest =>
    have hmem : '>' ∈ cs.dropWhile fun c => c != '<' && c != '>' := hrest ▸ List.mem_cons_self
    exact absurd ((List.dropWhile_suffix _).mem hmem) hcs
  · rfl

theorem endsAfterClose_of_notMem {cs : List Char} (hcs : '>' ∉ cs) :
    endsAfterClose cs = false := by
  have hcut : splitLast? (· == '>') cs = none := by
    refine splitLast?_eq_none fun c hc => ?_
    simpa using fun h : c = '>' => hcs (h ▸ hc)
  rw [endsAfterClose, hcut, Bool.and_false]

/-- Behind the `>` of a tag without further brackets the tail decides. -/
theorem closesTag_closed {tag cs : List Char} (htag : NameText tag) (hcs : Quiet cs)
    (rest : List Char) : closesTag (tag ++ (cs ++ '>' :: rest)) = isTagTail rest := by
  have hdrop : (tag ++ (cs ++ '>' :: rest)).dropWhile (fun c => c != '<' && c != '>') =
      '>' :: rest := by
    rw [← List.append_assoc]
    refine dropWhile_append_cons (fun c hc => ?_) (by decide)
    have hname : ∀ d : Char, isNameChar d = false → d ∉ cs → c ≠ d := by
      rintro d hd hdcs rfl
      rcases List.mem_append.mp hc with hc | hc
      · exact htag.notMem hd hc
      · exact hdcs hc
    simp [hname '<' (by decide) hcs.1, hname '>' (by decide) hcs.2]
  obtain ⟨c, tag, rfl⟩ := List.exists_cons_of_ne_nil htag.ne_nil
  have hc := htag.chars c List.mem_cons_self
  simp only [closesTag, hdrop]
  split
  · next h =>
    -- the name of an opening tag does not start with a slash
    exact absurd (List.cons.inj h).1 (ne_of_isNameChar hc (by decide))
  · exact (congrArg (· && isTagTail rest) hc).trans (Bool.true_and _)

/-- A `<` that another one follows before any `>` closes nothing. -/
theorem closesTag_append {front : List Char} (hfront : '>' ∉ front) (cs : List Char) :
    closesTag (front ++ '<' :: cs) = false := by
  simp only [closesTag, Bool.and_eq_false_iff]
  right
  split
  · next rest hrest =>
    -- what is left in front of the second `<` would start with the `>`
    rw [List.dropWhile_append] at hrest
    split at hrest
    · cases hrest
    · have hmem : '>' ∈ front.dropWhile fun c => c != '<' && c != '>' := by
        cases hdrop : front.dropWhile fun c => c != '<' && c != '>' with
        | nil => simp [hdrop] at *
        | cons c tail =>
          rw [hdrop] at hrest
          rw [(List.cons.inj hrest).1]
          exact List.mem_cons_self
      exact absurd ((List.dropWhile_suffix _).mem hmem) hfront
  · rfl

theorem endsAfterTag_of_noOpen {cs : List Char} (hcs : '<' ∉ cs) : endsAfterTag cs = false := by
  induction cs with
  | nil => rfl
  | cons c cs ih =>
    rw [List.mem_cons, not_or] at hcs
    rw [endsAfterTag, ih hcs.2, beq_eq_false_iff_ne.mpr (Ne.symm hcs.1), Bool.false_and,
      Bool.or_false]

theorem endsAfterTag_of_closesTag {cs : List Char} (hcs : closesTag cs = true)
    (front : List Char) : endsAfterTag (front ++ '<' :: cs) = true := by
  induction front with
  | nil =>
    rw [List.nil_append, endsAfterTag, hcs]
    rfl
  | cons c front ih => rw [List.cons_append, endsAfterTag, ih, Bool.or_true]

/-- What stands in front of the last tag of a line does not stop the walk, if it has no `>`. -/
theorem endsAfterTag_last {front tag cs : List Char} (hfront : '>' ∉ front) (htag : NameText tag)
    (hcs : '<' ∉ cs) : endsAfterTag (front ++ '<' :: (tag ++ cs)) = closesTag (tag ++ cs) := by
  have hlater : '<' ∉ tag ++ cs := by
    rw [List.mem_append, not_or]
    exact ⟨htag.notMem (by decide), hcs⟩
  induction front with
  | nil =>
    rw [List.nil_append, endsAfterTag, endsAfterTag_of_noOpen hlater, Bool.or_false]
    rfl
  | cons c front ih =>
    rw [List.mem_cons, not_or] at hfront
    rw [List.cons_append, endsAfterTag, closesTag_append hfront.2, Bool.and_false, Bool.false_or,
      ih hfront.2]

theorem endsAfterClose_of_mem {cs : List Char} (hcs : '<' ∈ cs) : endsAfterClose cs = false := by
  have hall : cs.all (· != '<') = false := List.all_eq_false.mpr ⟨'<', hcs, by decide⟩
  rw [endsAfterClose, hall, Bool.false_and]

/-- On a line that opens a tag, that tag decides whether the walk stops. -/
theorem stopsAtCursor_tag {front tag cs : List Char} (hfront : '>' ∉ front) (htag : NameText tag)
    (hne : cs ≠ []) (hcs : '<' ∉ cs) :
    stopsAtCursor (front ++ '<' :: (tag ++ cs)) = closesTag (tag ++ cs) := by
  have hlast : ((front ++ '<' :: (tag ++ cs)).getLast? == some '<') = false := by
    rw [← List.cons_append, ← List.append_assoc, List.getLast?_append_of_ne_nil _ hne,
      beq_eq_false_iff_ne]
    exact fun hmem => hcs (List.mem_of_getLast? hmem)
  rw [stopsAtCursor, endsAfterTag_last hfront htag hcs, endsAfterClose_of_mem (by simp), hlast,
    Bool.or_false, Bool.or_false]

/-- On a line that opens no tag, a tag that was opened further up decides. -/
theorem stopsAtCursor_line {cs : List Char} (hcs : '<' ∉ cs) :
    stopsAtCursor cs = endsAfterClose cs := by
  have hlast : (cs.getLast? == some '<') = false := by
    rw [beq_eq_false_iff_ne]
    exact fun hmem => hcs (List.mem_of_getLast? hmem)
  rw [stopsAtCursor, endsAfterTag_of_noOpen hcs, hlast, Bool.false_or, Bool.or_false]

/-- A line on which a tag is opened and closed stops the walk. -/
theorem endsAfterTag_closed {front tag cs : List Char} (htag : NameText tag) (hcs : Quiet cs) :
    endsAfterTag (front ++ '<' :: (tag ++ (cs ++ ['>']))) = true := by
  refine endsAfterTag_of_closesTag ?_ front
  rw [closesTag_closed htag hcs]
  rfl

/-- A line that only closes a tag stops the walk, unless it starts with the `>`. -/
theorem endsAfterClose_closed {cs : List Char} (hne : cs ≠ []) (hopen : '<' ∉ cs) :
    endsAfterClose (cs ++ ['>']) = true := by
  have hcut : splitLast? (· == '>') (cs ++ ['>']) = some (cs, ['>']) :=
    splitLast?_append_cons (by decide) (by simp)
  have hall : (cs ++ ['>']).all (· != '<') = true := by
    rw [List.all_eq_true]
    intro c hc
    have hne' : c ≠ '<' := by
      rintro rfl
      exact hopen (by simpa using hc)
    simpa using hne'
  simp [endsAfterClose, hcut, hall, hne]

end Cursor

namespace Document

open Cursor

variable {doc : Document}

/-! ### The walk -/

/-- The walk passes over lines without a `<`. -/
theorem openTagAbove?_append (doc : Document) {front : List (List Char)}
    (hfront : ∀ l ∈ front, '<' ∉ l) (n : Nat) (lines : List (List Char)) :
    doc.openTagAbove? n (front ++ lines) = doc.openTagAbove? (n - front.length) lines := by
  induction front generalizing n with
  | nil => rfl
  | cons line front ih =>
    have hline := hfront line List.mem_cons_self
    rw [List.cons_append, openTagAbove?, endsAfterTag_of_noOpen hline,
      openTags_of_notMem true hline]
    change doc.openTagAbove? (n - 1) (front ++ lines) = _
    rw [ih (fun l hl => hfront l (List.mem_cons_of_mem _ hl)), List.length_cons]
    congr 1
    omega

theorem tagToken?_tag {atEnd : Bool} (front : List Char) {tag cs : List Char}
    (htag : NameText tag) (hends : EndsName atEnd cs) (hcs : '<' ∉ cs) (n : Nat) :
    doc.tagToken? n (openTags atEnd (front ++ '<' :: (tag ++ cs))) =
      some ⟨String.ofList tag, doc.offsetAt ⟨n, front.length⟩⟩ := by
  rw [tagToken?, getLast?_openTags front htag hends hcs]
  rfl

theorem exists_of_tagToken? {n : Nat} {tags : List (Nat × List Char)} {token : TagToken}
    (h : doc.tagToken? n tags = some token) :
    ∃ i name, (i, name) ∈ tags ∧ token = ⟨String.ofList name, doc.offsetAt ⟨n, i⟩⟩ := by
  obtain ⟨⟨i, name⟩, hlast, rfl⟩ := Option.map_eq_some_iff.mp h
  exact ⟨i, name, List.mem_of_getLast? hlast, rfl⟩

theorem tagToken?_eq_none_iff {n : Nat} {tags : List (Nat × List Char)} :
    doc.tagToken? n tags = none ↔ tags = [] := by
  rw [tagToken?, Option.map_eq_none_iff, List.getLast?_eq_none_iff]

/-- A tag that the walk finds is opened on one of the lines, that line does not stop it, and the
lines passed on the way open none. -/
theorem exists_of_openTagAbove? {n : Nat} {lines : List (List Char)} {token : TagToken}
    (h : doc.openTagAbove? n lines = some token) :
    ∃ front line back, lines = front ++ line :: back ∧ (∀ l ∈ front, openTags true l = []) ∧
      endsAfterTag line = false ∧
      doc.tagToken? (n - front.length) (openTags true line) = some token := by
  induction lines generalizing n with
  | nil => cases h
  | cons line lines ih =>
    rw [openTagAbove?] at h
    split at h
    · cases h
    · next hpass =>
      rw [Bool.not_eq_true] at hpass
      split at h
      · next found hfound =>
        obtain rfl := Option.some.inj h
        exact ⟨[], line, lines, rfl, by simp, hpass, hfound⟩
      · next hnone =>
        obtain ⟨front, found, back, rfl, hfront, hfound, htoken⟩ := ih h
        refine ⟨line :: front, found, back, rfl, ?_, hfound, ?_⟩
        · rintro l (_ | ⟨_, hl⟩)
          · exact tagToken?_eq_none_iff.mp hnone
          · exact hfront l hl
        · rw [← htoken, List.length_cons, Nat.sub_sub, Nat.add_comm 1]

/-- The walk reads the line of the tag without its carriage return. -/
theorem dropReturn_tag {front tag cs : List Char} (htag : NameText tag) :
    dropReturn (front ++ '<' :: (tag ++ cs)) = front ++ '<' :: (tag ++ dropReturn cs) := by
  -- if nothing follows the name, the line ends with a name character
  have hend : cs = [] → (front ++ '<' :: tag).getLast? ≠ some '\r' := by
    intro _ hreturn
    rw [List.append_cons, List.getLast?_append_of_ne_nil _ htag.ne_nil] at hreturn
    exact htag.notMem (by decide) (List.mem_of_getLast? hreturn)
  have happend := dropReturn_append hend
  rwa [List.append_assoc, List.append_assoc] at happend

/-- A tag on a line without its carriage return stands on the line itself, and what follows it there
loses the return. -/
theorem exists_of_dropReturn_tag {raw front name visible : List Char} (hname : NameText name)
    (h : dropReturn raw = front ++ '<' :: (name ++ visible)) :
    ∃ cs, raw = front ++ '<' :: (name ++ cs) ∧ visible = dropReturn cs := by
  obtain ⟨tail, htail⟩ := isPrefix_dropReturn raw
  have hraw : raw = front ++ '<' :: (name ++ (visible ++ tail)) := by
    rw [← htail, h]
    simp
  refine ⟨visible ++ tail, hraw, ?_⟩
  rw [hraw, dropReturn_tag hname] at h
  exact (List.append_cancel_left (List.cons.inj (List.append_cancel_left h)).2).symm

/-- The walk reaches a line with fewer than nine lines between it and the cursor line. -/
theorem exists_reverse_drop (above : List (List Char)) (line : List Char) {below : List (List Char)}
    (hcount : below.length + 1 < backwardLines) :
    ∃ more, (((above ++ line :: below).drop
        ((above ++ line :: below).length - (backwardLines - 1))).map dropReturn).reverse =
      (below.map dropReturn).reverse ++ dropReturn line :: more := by
  refine ⟨((above.drop ((above ++ line :: below).length - (backwardLines - 1))).map
    dropReturn).reverse, ?_⟩
  rw [List.drop_append_of_le_length, List.map_append, List.map_cons, List.reverse_append,
    List.reverse_cons, List.append_assoc, List.singleton_append]
  simp only [List.length_append, List.length_cons]
  omega

/-- A line that the walk reaches is one of the lines above, without its carriage return, and the
lines passed on the way are those below it. -/
theorem exists_of_reverse_drop {above front back : List (List Char)} {line : List Char} {n : Nat}
    (h : ((above.drop n).map dropReturn).reverse = front ++ line :: back) :
    ∃ upper raw lower, above = upper ++ raw :: lower ∧ line = dropReturn raw ∧
      front = (lower.map dropReturn).reverse ∧ n ≤ upper.length := by
  have hlines : (above.drop n).map dropReturn = back.reverse ++ line :: front.reverse := by
    rw [← List.reverse_inj, h]
    simp
  obtain ⟨first, last, hdrop, -, hlast⟩ := List.map_eq_append_iff.mp hlines
  obtain ⟨raw, lower, rfl, hraw, hlower⟩ := List.map_eq_cons_iff.mp hlast
  refine ⟨above.take n ++ first, raw, lower, ?_, hraw.symm, ?_, ?_⟩
  · rw [List.append_assoc, ← hdrop, List.take_append_drop]
  · rw [hlower, List.reverse_reverse]
  · -- the walk reaches a line, so it does not start behind all of them
    have hlength := congrArg List.length hdrop
    rw [List.length_drop, List.length_append, List.length_cons] at hlength
    rw [List.length_append, List.length_take]
    omega

/-- The place in front of a `<` is a cut. -/
theorem splits_front {above : List (List Char)} {front after : List Char}
    (hchars : doc.chars = unlines above ++ (front ++ '<' :: after))
    (habove : ∀ l ∈ above, '\n' ∉ l) (hfront : '\n' ∉ front) :
    doc.Splits above front ('<' :: after) := by
  refine splits_of_chars hchars habove hfront fun hnil => ?_
  have hfirst := breakLines_append (show '\n' ∉ ['<'] by decide) after
  rw [List.singleton_append] at hfirst
  rw [hfirst] at hnil
  cases hnil

namespace Splits

variable {above : List (List Char)} {before after : List Char}

theorem openTag?_eq (h : doc.Splits above before after) :
    doc.openTag? ⟨above.length, before.length⟩ =
      if stopsAtCursor before then none
      else (doc.tagToken? above.length (openTags false before)).or
        (doc.openTagAbove? (above.length - 1)
          ((above.drop (above.length - (backwardLines - 1))).map dropReturn).reverse) := by
  simp only [openTag?, h.clamp, h.textBefore, h.linesAbove]
  split
  · rfl
  · cases doc.tagToken? above.length (openTags false before) <;> rfl

/-- A tag on the cursor line is open if nothing closes it. -/
theorem openTag?_onLine {front tag cs : List Char}
    (h : doc.Splits above (front ++ '<' :: (tag ++ cs)) after) (hfront : '>' ∉ front)
    (htag : NameText tag) (hends : EndsName false cs) (hcs : '<' ∉ cs)
    (hopen : closesTag (tag ++ cs) = false) :
    doc.openTag? ⟨above.length, (front ++ '<' :: (tag ++ cs)).length⟩ =
      some ⟨String.ofList tag, (unlines above ++ front).length⟩ := by
  have hne : cs ≠ [] := by
    rintro rfl
    cases hends
  have hchars : doc.chars = unlines above ++ (front ++ '<' :: (tag ++ cs ++ after)) := by
    rw [h.chars, List.append_assoc front, List.cons_append]
  have hoffset : doc.offsetAt ⟨above.length, front.length⟩ = (unlines above ++ front).length :=
    (splits_front hchars h.above_lines
      fun hmem => h.before_line (List.mem_append_left _ hmem)).offsetAt
  rw [h.openTag?_eq, stopsAtCursor_tag hfront htag hne hcs, hopen,
    tagToken?_tag front htag hends hcs, hoffset]
  rfl

/-- A tag at most nine lines above the cursor line is open if neither its own line nor the cursor
line closes it. -/
theorem openTag?_fromAbove {below : List (List Char)} {front tag cs : List Char}
    (h : doc.Splits (above ++ (front ++ '<' :: (tag ++ cs)) :: below) before after)
    (hfront : '>' ∉ front) (htag : NameText tag) (hends : EndsName true (dropReturn cs))
    (hcs : '<' ∉ cs) (hopen : closesTag (tag ++ dropReturn cs) = false)
    (hbelow : ∀ l ∈ below, '<' ∉ l) (hcount : below.length + 1 < backwardLines)
    (hbefore : '<' ∉ before) (hclose : endsAfterClose before = false) :
    doc.openTag? ⟨(above ++ (front ++ '<' :: (tag ++ cs)) :: below).length, before.length⟩ =
      some ⟨String.ofList tag, (unlines above ++ front).length⟩ := by
  obtain ⟨more, hwalk⟩ := exists_reverse_drop above (front ++ '<' :: (tag ++ cs)) hcount
  have hpass : ∀ l ∈ (below.map dropReturn).reverse, '<' ∉ l := by
    intro l hl
    obtain ⟨line, hline, rfl⟩ := List.mem_map.mp (List.mem_reverse.mp hl)
    exact fun hmem => hbelow line hline ((isPrefix_dropReturn line).subset hmem)
  have hcs' : '<' ∉ dropReturn cs := fun hmem => hcs ((isPrefix_dropReturn cs).subset hmem)
  -- the walk counts the lines down to that of the tag
  have hnumber : (above ++ (front ++ '<' :: (tag ++ cs)) :: below).length - 1 -
      (below.map dropReturn).reverse.length = above.length := by
    simp only [List.length_append, List.length_cons, List.length_reverse, List.length_map]
    omega
  have hchars : doc.chars = unlines above ++
      (front ++ '<' :: (tag ++ cs ++ '\n' :: (unlines below ++ (before ++ after)))) := by
    rw [h.chars, unlines_append, unlines_cons]
    simp
  have hoffset : doc.offsetAt ⟨above.length, front.length⟩ = (unlines above ++ front).length := by
    refine (splits_front hchars (fun l hl => ?_) ?_).offsetAt
    · exact h.above_lines l (List.mem_append_left _ hl)
    · have hline := h.above_lines _ (List.mem_append_right above List.mem_cons_self)
      exact fun hmem => hline (List.mem_append_left _ hmem)
  rw [h.openTag?_eq, stopsAtCursor_line hbefore, hclose, openTags_of_notMem false hbefore, hwalk,
    openTagAbove?_append doc hpass, hnumber, dropReturn_tag htag, openTagAbove?,
    endsAfterTag_last hfront htag hcs', hopen, tagToken?_tag front htag hends hcs', hoffset]
  rfl

/-- The place of a tag that is opened on the cursor line. -/
theorem openTag?_sameLine {front tag cs : List Char}
    (h : doc.Splits above (front ++ '<' :: (tag ++ cs)) after) (hfront : Quiet front)
    (htag : NameText tag) (hends : EndsName false cs)
    (hcs : Quiet cs) :
    doc.openTag? ⟨above.length, (front ++ '<' :: (tag ++ cs)).length⟩ =
      some ⟨String.ofList tag, (unlines above ++ front).length⟩ :=
  h.openTag?_onLine hfront.2 htag hends hcs.1 (closesTag_of_notMem (end_notMem_tag htag hcs))

/-- The place of a tag that is opened at most nine lines above the cursor line. -/
theorem openTag?_above {below : List (List Char)} {front tag cs : List Char}
    (h : doc.Splits (above ++ (front ++ '<' :: (tag ++ cs)) :: below) before after)
    (hfront : Quiet front) (htag : NameText tag)
    (hends : EndsName true (dropReturn cs)) (hcs : Quiet cs) (hbelow : ∀ l ∈ below, Quiet l)
    (hcount : below.length + 1 < backwardLines) (hbefore : Quiet before) :
    doc.openTag? ⟨(above ++ (front ++ '<' :: (tag ++ cs)) :: below).length, before.length⟩ =
      some ⟨String.ofList tag, (unlines above ++ front).length⟩ := by
  have hreturn : Quiet (dropReturn cs) := hcs.of_subset (isPrefix_dropReturn cs).subset
  exact h.openTag?_fromAbove hfront.2 htag hends hcs.1
    (closesTag_of_notMem (end_notMem_tag htag hreturn)) (fun l hl => (hbelow l hl).1) hcount
    hbefore.1 (endsAfterClose_of_notMem hbefore.2)

/-- A tag whose name is being typed is not open, and there is none above it. -/
theorem openTag?_typed {front typed : List Char}
    (h : doc.Splits above (front ++ '<' :: typed) after) (habove : ∀ l ∈ above, Quiet l)
    (hfront : Quiet front) (htyped : ∀ c ∈ typed, isNameChar c = true) :
    doc.openTag? ⟨above.length, (front ++ '<' :: typed).length⟩ = none := by
  have hquiet : ∀ l ∈ ((above.drop (above.length - (backwardLines - 1))).map dropReturn).reverse,
      Quiet l := by
    intro l hl
    obtain ⟨line, hline, rfl⟩ := List.mem_map.mp (List.mem_reverse.mp hl)
    exact (habove line (List.mem_of_mem_drop hline)).of_subset (isPrefix_dropReturn line).subset
  have hwalk := openTagAbove?_append doc (fun l hl => (hquiet l hl).1) (above.length - 1) []
  rw [List.append_nil] at hwalk
  rw [h.openTag?_eq, openTags_typed hfront.1 htyped, hwalk]
  split <;> rfl

/-- A line that stops the walk. -/
theorem openTag?_stopped (h : doc.Splits above before after)
    (hstops : stopsAtCursor before = true) :
    doc.openTag? ⟨above.length, before.length⟩ = none := by
  rw [h.openTag?_eq, if_pos hstops]

end Splits

/-- The walk starts at the cut that the clamped cursor stands at. -/
theorem StandsAt.openTag?_eq {p : Position} {above : List (List Char)} {before after : List Char}
    (h : doc.StandsAt (doc.clamp p) above before after) :
    doc.openTag? p = doc.openTag? ⟨above.length, before.length⟩ := by
  simp only [openTag?, h.textBefore, h.line_eq, h.splits.clamp, h.splits.textBefore]

end Document

end MarkupAssist
